import Mathlib.Logic.Function.Basic
import StreamingService.Lib.Steps
import StreamingService.Auth.Rotation
import StreamingService.Frontend.Status

/-!
# Frontend — ApiClient

`apiClient` in one browser beside the running backend: any number of
requests in flight at once, over one access token and one refresh cookie.
Each request that meets a 401 refreshes on its own, with whatever cookie
the browser holds at that moment, and is then sent once more.

A request sends, waits, and goes on when its response is there; between any
two of these the server and the other requests may do as much as they like.
The throttle may refuse any request instead of the server handling it.

Left out: the network's own failures, and `skipAuth`, which turns the
refresh off: apart from signing in it is set on endpoints without a guard,
and these answer no 401.
-/

namespace StreamingService

open Lib

namespace ApiClient

/-- Where a request stands. -/
inductive Phase where
  /-- Not sent yet. -/
  | idle
  | sent (tid : Nat) (skipRefreshRetry : Bool)
  /-- In `tryRefresh`. -/
  | refreshing (tid : Nat)
  /-- The refresh's response has arrived, and its cookie is stored. -/
  | answered (accessToken : String)
  /-- After `setAccessToken`, before the retry. -/
  | renewed
  /-- Resolved, or rejected with an `ApiError` of this status. -/
  | ended (error : Option Nat)
  deriving DecidableEq

/-- The browser with `n` requests, and the backend. -/
structure Session (n : Nat) where
  server : AppState
  accessToken : Option String
  cookie : Option String
  requests : Fin n → Request
  phase : Fin n → Phase

variable {n : Nat}

/-- Nothing sent yet. -/
def Session.start (s : Store) (accessToken cookie : Option String) (requests : Fin n → Request) :
    Session n where
  server := Machine.start s
  accessToken := accessToken
  cookie := cookie
  requests := requests
  phase _ := .idle

def Session.setPhase (w : Session n) (i : Fin n) (phase : Phase) : Session n :=
  { w with phase := Function.update w.phase i phase }

/-- What Passport makes of an access token: an empty one is not sent. -/
def bearer (verify : String → Option JwtAccessPayload) (accessToken : Option String) :
    Option JwtAccessPayload :=
  (accessToken.filter fun token => token != "").bind verify

theorem bearer_some {verify : String → Option JwtAccessPayload} {accessToken : String}
    (h : accessToken ≠ "") : bearer verify (some accessToken) = verify accessToken := by
  have hsent : (some accessToken).filter (fun token => token != "") = some accessToken :=
    Option.filter_some_pos (by simpa using h)
  rw [bearer, hsent]
  rfl

/-- The thread that handles the next request. -/
def Session.nextThread (w : Session n) : Nat := w.server.threads.length

/-- `fetch`: the server begins to handle the request. -/
def Session.fetch (cfg : AppConfig) (w : Session n) (q : Request) : Session n :=
  { w with
    server :=
      { w.server with
        threads := w.server.threads ++ [⟨q, handle cfg q⟩]
        trace := .began w.server.threads.length q :: w.server.trace } }

/-- The response of a thread, once it has ended. -/
def response (sys : AppState) (tid : Nat) : Option (Except Exception Reply) :=
  match sys.threads[tid]? with
  | some ⟨_, .done r⟩ => some r
  | _ => none

/-- The status of the `ApiError` a response is turned into, if it is one. -/
def errorStatus (r : Except Exception Reply) : Option Nat :=
  match r with
  | .ok _ => none
  | .error e => some e.status

/-- `POST /auth/refresh` with the stored cookie. -/
def Session.refreshRequest (w : Session n) : Request := .refresh (w.cookie.map Json.str)

/-- What one request does next; `none` while it waits, and at its end. -/
def Session.advance (cfg : AppConfig) (verify : String → Option JwtAccessPayload) (w : Session n)
    (i : Fin n) : Option (Session n) :=
  match w.phase i with
  | .idle =>
      some ((w.fetch cfg ((w.requests i).withUser (bearer verify w.accessToken))).setPhase i
        (.sent w.nextThread false))
  | .sent tid skipRefreshRetry =>
      match response w.server tid with
      | none => none
      | some r =>
          if errorStatus r = some 401 ∧ skipRefreshRetry = false then
            some ((w.fetch cfg w.refreshRequest).setPhase i (.refreshing w.nextThread))
          else some (w.setPhase i (.ended (errorStatus r)))
  | .refreshing tid =>
      match response w.server tid with
      | none => none
      | some (.ok (.tokens tokens)) =>
          some ({ w with cookie := some tokens.refreshToken }.setPhase i
            (.answered tokens.accessToken))
      -- `clearAccessToken`, and the first response's 401 is thrown
      | some _ => some ({ w with accessToken := none }.setPhase i (.ended (some 401)))
  | .answered accessToken =>
      some ({ w with accessToken := some accessToken }.setPhase i .renewed)
  | .renewed =>
      some ((w.fetch cfg ((w.requests i).withUser (bearer verify w.accessToken))).setPhase i
        (.sent w.nextThread true))
  | .ended _ => none

/-- The throttle answers 429 to the request that comes next. -/
def Session.throttle (w : Session n) (i : Fin n) : Option (Session n) :=
  match w.phase i with
  | .idle | .renewed => some (w.setPhase i (.ended (some 429)))
  | .sent tid false =>
      if (response w.server tid).bind errorStatus = some 401 then
        some ({ w with accessToken := none }.setPhase i (.ended (some 401)))
      else none
  | _ => none

/-- A statement of the server, or a move of a request. -/
inductive Move (n : Nat) where
  | serve (tid : Nat) (o : Ambient)
  | advance (i : Fin n)
  | throttle (i : Fin n)

/-- The browser and the backend together. -/
def system (n : Nat) (cfg : AppConfig) (verify : String → Option JwtAccessPayload) :
    Steps (Session n) (Move n) where
  next w
    | .serve tid o => ((app cfg).next w.server (.step tid o)).map fun server => { w with server }
    | .advance i => w.advance cfg verify i
    | .throttle i => w.throttle i

/-! ## What a move can do -/

section

variable {cfg : AppConfig} {verify : String → Option JwtAccessPayload} {w w' : Session n}

theorem serve_cases {tid : Nat} {o : Ambient}
    (h : (system n cfg verify).next w (.serve tid o) = some w') :
    ∃ q c k, w.server.threads[tid]? = some ⟨q, .call c k⟩ ∧ w' = { w with
      server :=
        { store := (exec o c w.server.store).2
          threads := w.server.threads.set tid ⟨q, k (exec o c w.server.store).1⟩
          trace := .did tid ⟨c, (exec o c w.server.store).1⟩ :: w.server.trace } } := by
  obtain ⟨server, hnext, rfl⟩ := Option.map_eq_some_iff.mp h
  rcases (app cfg).next_cases hnext with ⟨q, heq, -⟩ | ⟨t, o', q, c, k, heq, hth, rfl⟩
  · cases heq
  · cases heq
    exact ⟨q, c, k, hth, rfl⟩

/-- **What a request does next**, by where it stands. -/
inductive Advance (cfg : AppConfig) (verify : String → Option JwtAccessPayload) (w : Session n)
    (i : Fin n) : Session n → Prop
  | sends {skipRefreshRetry : Bool}
      (hphase : w.phase i = if skipRefreshRetry then .renewed else .idle) :
      Advance cfg verify w i
        ((w.fetch cfg ((w.requests i).withUser (bearer verify w.accessToken))).setPhase i
          (.sent w.nextThread skipRefreshRetry))
  | refreshes {tid : Nat} {r : Except Exception Reply} (hphase : w.phase i = .sent tid false)
      (hresponse : response w.server tid = some r) (hstatus : errorStatus r = some 401) :
      Advance cfg verify w i
        ((w.fetch cfg w.refreshRequest).setPhase i (.refreshing w.nextThread))
  | ends {tid : Nat} {skipRefreshRetry : Bool} {r : Except Exception Reply}
      (hphase : w.phase i = .sent tid skipRefreshRetry)
      (hresponse : response w.server tid = some r)
      (hstatus : errorStatus r = some 401 → skipRefreshRetry = true) :
      Advance cfg verify w i (w.setPhase i (.ended (errorStatus r)))
  | stores {tid : Nat} {tokens : AuthService.AuthTokens} (hphase : w.phase i = .refreshing tid)
      (hresponse : response w.server tid = some (.ok (.tokens tokens))) :
      Advance cfg verify w i ({ w with cookie := some tokens.refreshToken }.setPhase i
        (.answered tokens.accessToken))
  | loses {tid : Nat} {r : Except Exception Reply} (hphase : w.phase i = .refreshing tid)
      (hresponse : response w.server tid = some r) (hr : ∀ tokens, r ≠ .ok (.tokens tokens)) :
      Advance cfg verify w i ({ w with accessToken := none }.setPhase i (.ended (some 401)))
  | renews {accessToken : String} (hphase : w.phase i = .answered accessToken) :
      Advance cfg verify w i ({ w with accessToken := some accessToken }.setPhase i .renewed)

theorem advance_cases {i : Fin n} (h : w.advance cfg verify i = some w') :
    Advance cfg verify w i w' := by
  unfold Session.advance at h
  split at h
  · rename_i hphase
    cases h
    exact .sends (by simpa using hphase)
  · rename_i tid skip hphase
    split at h
    · cases h
    · rename_i r hresponse
      split at h
      · rename_i hstatus
        obtain ⟨hstatus, rfl⟩ := hstatus
        cases h
        exact .refreshes hphase hresponse hstatus
      · rename_i hstatus
        cases h
        exact .ends hphase hresponse fun h401 => by simpa [h401] using hstatus
  · rename_i tid hphase
    split at h
    · cases h
    · rename_i tokens hresponse
      cases h
      exact .stores hphase hresponse
    · rename_i r hr hresponse
      cases h
      exact .loses hphase hresponse fun tokens heq => hr tokens heq
  · rename_i accessToken hphase
    cases h
    exact .renews hphase
  · rename_i hphase
    cases h
    exact .sends (by simpa using hphase)
  · cases h

theorem response_eq {sys : AppState} {tid : Nat} {r : Except Exception Reply}
    (h : response sys tid = some r) : ∃ q, sys.threads[tid]? = some ⟨q, .done r⟩ := by
  unfold response at h
  split at h
  · rename_i q r' hth
    cases h
    exact ⟨q, hth⟩
  · cases h

/-- A thread is of before, or the new one. -/
theorem fetch_thread {q : Request} {tid : Nat} {th : Thread Sig Request Reply}
    (h : (w.fetch cfg q).server.threads[tid]? = some th) :
    w.server.threads[tid]? = some th ∨ (tid = w.nextThread ∧ th = ⟨q, handle cfg q⟩) := by
  rw [Session.fetch] at h
  exact Machine.begun_cases h

end

end ApiClient

end StreamingService
