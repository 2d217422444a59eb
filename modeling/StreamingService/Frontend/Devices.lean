import Mathlib.Logic.Function.Basic
import StreamingService.Auth.Reuse
import StreamingService.Frontend.ApiClient
import StreamingService.Lib.Cookies
import StreamingService.Lib.Crash

/-!
# Frontend — Devices

Any number of browsers beside one backend that handles one request at a time.
Each browser sends the cookies it holds and stores the ones it is answered:
it logs in and out, and asks for pages through `apiClient`, which meets a 401
with a refresh and, once that is answered, sends the request again.

A login and a refresh set the refresh cookie with path `/api/auth`. A logout
clears it without naming a path, so with path `/`: that is another cookie, and
the browser keeps the one it has.

A page's request comes with whatever Passport makes of its bearer token. The
browsers share one clock. Left out are the cookie's domain, as there is one
backend, and the throttle, which only refuses requests.
-/

namespace StreamingService

open Lib

/-! ## The cookies of a response -/

namespace AuthController

/-- `REFRESH_COOKIE_NAME`. -/
def refreshCookieName : String := "refreshToken"

/-- The path `setRefreshCookie` gives the cookie. -/
def refreshCookiePath : List String := ["api", "auth"]

/-- A date in a response's header has whole seconds. -/
def headerDate (date : Millis) : Millis := date - date % 1000

/-- `setRefreshCookie`. -/
def setRefreshCookie (tokens : AuthService.AuthTokens) : Option Cookie :=
  tokens.refreshTokenExpiresAt.map fun expiresAt =>
    { name := refreshCookieName
      path := refreshCookiePath
      value := tokens.refreshToken
      expires := headerDate expiresAt }

/-- `res.clearCookie` without options: path `/`, expired since `new Date(1)`. -/
def clearCookie (name : String) : Cookie where
  name := name
  path := []
  value := ""
  expires := headerDate 1

/-- The cookie a response sets. -/
def responseCookie : Request → Except Exception Reply → Option Cookie
  | .register _ _, .ok (.session _ issued) => setRefreshCookie issued
  | .login _ _, .ok (.session _ issued) => setRefreshCookie issued
  | .refresh _, .ok (.tokens issued) => setRefreshCookie issued
  | .logout _, .ok _ => some (clearCookie refreshCookieName)
  | _, _ => none

end AuthController

namespace Devices

open AuthController

/-! ## Browsers and the backend -/

def refreshPath : List String := ["api", "auth", "refresh"]

def logoutPath : List String := ["api", "auth", "logout"]

/-- A refresh token a browser was given, and when it expires. -/
structure Grant where
  token : String
  expiresAt : Millis
  deriving DecidableEq, Repr

def granted (tokens : AuthService.AuthTokens) : Option Grant :=
  tokens.refreshTokenExpiresAt.map fun expiresAt => ⟨tokens.refreshToken, expiresAt⟩

/-- A request of one of the pages. -/
abbrev PageRequest : Type := { q : Request // q.ofPage = true }

/-- What the browsers are at, between two requests. -/
inductive Stage (n : Nat) where
  | idle
  /-- `apiClient` of browser `i` has met a 401 and is to refresh. -/
  | refused (i : Fin n) (q : PageRequest)
  /-- It has refreshed and is to send the request again. -/
  | renewed (i : Fin n) (q : PageRequest)

/-- The browser that is to refresh. -/
def Stage.refreshing {n : Nat} : Stage n → Option (Fin n)
  | .refused i _ => some i
  | _ => none

/-- The browsers and the backend. `session` is what a browser was last given
by a login or by a refresh since, until it logs out. -/
structure World (n : Nat) where
  store : Store
  now : Nat
  jar : Fin n → Jar
  session : Fin n → Option Grant
  stage : Stage n

variable {n : Nat}

/-- Browsers without any cookie. -/
def World.start (s : Store) (now : Nat) : World n where
  store := s
  now := now
  jar _ := []
  session _ := none
  stage := .idle

/-- The refresh token the backend reads from a request of browser `i`. -/
def World.cookie (w : World n) (i : Fin n) (path : List String) : Option String :=
  (w.jar i).sent w.now refreshCookieName path

inductive Operation (n : Nat) where
  | login (i : Fin n) (email password : String)
  | logout (i : Fin n)
  /-- `apiClient` sends a page's request. -/
  | request (i : Fin n) (q : PageRequest) (user : Option JwtAccessPayload)
  /-- `tryRefresh`, after a 401. -/
  | refresh
  /-- The request once more, with `skipRefreshRetry`. -/
  | retry (user : Option JwtAccessPayload)

/-- The browser that is served next, and its request. -/
def World.sends (w : World n) : Operation n → Option (Fin n × Request)
  | .login i email password =>
      match w.stage with
      | .idle => some (i, .login email password)
      | _ => none
  | .logout i =>
      match w.stage with
      | .idle => some (i, .logout ((w.cookie i logoutPath).map Json.str))
      | _ => none
  | .request i q user =>
      match w.stage with
      | .idle => some (i, q.val.withUser user)
      | _ => none
  | .refresh =>
      match w.stage with
      | .refused i _ => some (i, .refresh ((w.cookie i refreshPath).map Json.str))
      | _ => none
  | .retry user =>
      match w.stage with
      | .renewed i q => some (i, q.val.withUser user)
      | _ => none

/-- What the browsers are at after the response. -/
def World.stageAfter (w : World n) (op : Operation n) (r : Except Exception Reply) : Stage n :=
  match op, w.stage with
  | .request i q _, _ => if ApiClient.errorStatus r = some 401 then .refused i q else .idle
  | .refresh, .refused i q =>
      match r with
      | .ok (.tokens _) => .renewed i q
      | _ => .idle
  | _, _ => .idle

/-- The session of a browser after its response. -/
def sessionAfter (session : Option Grant) : Request → Except Exception Reply → Option Grant
  | .login _ _, .ok (.session _ issued) => granted issued
  | .refresh _, .ok (.tokens issued) => session.bind fun _ => granted issued
  | .logout _, .ok _ => none
  | _, _ => session

/-- What the environment supplies to one request, and when its response is
there. -/
structure Supply where
  env : Nat → Ambient
  done : Nat

/-- Browser `i` has its response, and stores the response's cookie. -/
def World.answered (w : World n) (op : Operation n) (i : Fin n) (q : Request) (done : Nat)
    (r : Except Exception Reply) (store : Store) : World n where
  store := store
  now := done
  jar := Function.update w.jar i
    (match responseCookie q r with
    | none => w.jar i
    | some c => (w.jar i).receive done c)
  session := Function.update w.session i (sessionAfter (w.session i) q r)
  stage := w.stageAfter op r

/-- The backend handles the request of browser `i` to its end. -/
def World.serve (cfg : AppConfig) (w : World n) (op : Operation n) (i : Fin n) (q : Request)
    (x : Supply) : World n :=
  w.answered op i q x.done ((handle cfg q).run exec x.env w.store).1
    ((handle cfg q).runStore exec x.env w.store)

inductive Label (n : Nat) where
  | wait (instant : Nat)
  | operate (op : Operation n) (x : Supply)

/-- The browsers and the backend together. -/
def system (n : Nat) (cfg : AppConfig) : Steps (World n) (Label n) where
  next w
    | .wait instant => if w.now ≤ instant then some { w with now := instant } else none
    | .operate op x =>
        if w.now ≤ x.done then
          (w.sends op).map fun sent => w.serve cfg op sent.1 sent.2 x
        else none

/-! ## Sessions -/

/-- The token's row is stored, unrevoked, and expires then. -/
def Active (g : Grant) (s : Store) : Prop :=
  ∃ r ∈ s.refreshTokens, r.tokenHash = AuthService.hashRefreshToken g.token ∧
    r.revokedAt = none ∧ r.expiresAt = g.expiresAt

/-- Browser `i` holds the live token it was given; it sends it for as long as
the cookie lasts, up to the second in which the token expires. -/
def World.Holds (w : World n) (i : Fin n) (g : Grant) : Prop :=
  Active g w.store ∧ (w.now < headerDate g.expiresAt → w.cookie i refreshPath = some g.token)

/-- **Whoever has logged in and not logged out since holds a live token**,
until it expires. -/
def World.SessionsHeld (w : World n) : Prop :=
  ∀ i g, w.session i = some g → w.now < g.expiresAt → w.Holds i g

/-- The tokens of a login and of a refresh are issued: what `issueTokens` asks
for is answered. Anything else may fail. -/
def asksTokens : Cmd → Bool
  | .service (.signJwt _) | .service .randomBytes | .account (.createToken _ _ _) => true
  | _ => false

def Issuing (_ : Ambient) (e : Prog.Entry Sig) : Prop := asksTokens e.1 = true → e.2.isOk = true

instance (o : Ambient) (e : Prog.Entry Sig) : Decidable (Issuing o e) :=
  inferInstanceAs (Decidable (asksTokens e.1 = true → e.2.isOk = true))

/-- The handler of the request issues the tokens it comes to issue. -/
def Supply.Suffices (cfg : AppConfig) (x : Supply) (s : Store) (q : Request) : Prop :=
  Prog.Along exec Issuing (handle cfg q) x.env s

instance (cfg : AppConfig) (x : Supply) (s : Store) (q : Request) : Decidable (x.Suffices cfg s q) :=
  Prog.Along.instDecidable (handle cfg q) x.env s

/-- The backend handles the operation without losing a token on the way. -/
def World.handled (cfg : AppConfig) (w : World n) : Label n → Prop
  | .wait _ => True
  | .operate op x => ∀ sent ∈ w.sends op, x.Suffices cfg w.store sent.2

/-- The cookie that browser `i` would refresh with is of a revoked token. -/
def World.reuses (w : World n) (i : Fin n) : Bool :=
  match w.cookie i refreshPath with
  | none => false
  | some token => w.store.refreshTokens.rows.any fun r =>
      r.tokenHash == AuthService.hashRefreshToken token && r.revokedAt.isSome

/-- The session of browser `i` has not expired. -/
def World.signedIn (w : World n) (i : Fin n) : Bool :=
  match w.session i with
  | none => false
  | some g => decide (w.now < g.expiresAt)

/-- No refresh presents a revoked token while another browser is signed in. -/
def World.spares (w : World n) : Label n → Prop
  | .operate .refresh _ =>
      ∀ i ∈ w.stage.refreshing, w.reuses i = true → ∀ j, j ≠ i → w.signedIn j = false
  | _ => True

/-! ## What each handler does to the tokens -/

/-- No row is lost, and the rows that are not `spent` are as they were. -/
structure Spares (spent : RefreshToken → Prop) (s s' : Store) : Prop where
  kept : TokensKept s s'
  unspent : ∀ r ∈ s.refreshTokens, ¬ spent r → r ∈ s'.refreshTokens

/-- Every row stays as it is. -/
abbrev SparesAll : Store → Store → Prop := Spares fun _ => False

/-- The token's row. -/
def OfToken (token : String) (r : RefreshToken) : Prop :=
  r.tokenHash = AuthService.hashRefreshToken token

theorem Spares.refl (spent : RefreshToken → Prop) (s : Store) : Spares spent s s :=
  ⟨.of_eq rfl, fun _ hr _ => hr⟩

theorem Spares.mono {spent spent' : RefreshToken → Prop} {s s' : Store} (h : Spares spent s s')
    (hspent : ∀ r, spent r → spent' r) : Spares spent' s s' :=
  ⟨h.kept, fun r hr hr' => h.unspent r hr fun hspend => hr' (hspent r hspend)⟩

section

variable {spent : RefreshToken → Prop} {s₀ s s' : Store} {o : Ambient}

theorem Spares.exec (h : Spares spent s₀ s) {c : Cmd}
    (hc : ∀ r ∈ s₀.refreshTokens, revokes r ⟨c, (exec o c s).1⟩ = true → spent r) :
    Spares spent s₀ (exec o c s).2 where
  kept r hr := (h.kept r hr).mono (exec_tokensKept o c s)
  unspent r hr hspent := by
    refine (exec_tokenStep o c s).unrevoked (h.unspent r hr hspent) ?_
    rw [← Bool.not_eq_true]
    exact fun hrevokes => hspent (hc r hr hrevokes)

theorem Spares.step (h : Spares spent s₀ s) {c : Cmd} {r : Except Exception c.Resp}
    (hex : StreamingService.exec o c s = (r, s'))
    (hc : ∀ row ∈ s₀.refreshTokens, revokes row ⟨c, r⟩ = true → spent row) :
    Spares spent s₀ s' := by
  have h' := h.exec (o := o) (c := c) (by rw [hex]; exact hc)
  rw [hex] at h'
  exact h'

end

theorem Spares.failed {spent : RefreshToken → Prop} {s₀ s s' : Store} {o : Ambient} {c : Cmd}
    {e : Exception} (h : Spares spent s₀ s) (hex : StreamingService.exec o c s = (.error e, s')) :
    Spares spent s₀ s' := by
  rw [exec_refused hex]
  exact h

/-- The statements that revoke tokens. -/
def revoking : Cmd → Bool
  | .account (.revokeToken _ _) | .account (.revokeByHash _ _) => true
  | .account (.revokeAllOfUser _ _) => true
  | _ => false

theorem revoking_of_revokes {r : RefreshToken} {e : Prog.Entry Sig} (h : revokes r e = true) :
    revoking e.1 = true := by
  unfold revokes at h
  split at h
  all_goals first | rfl | cases h

theorem Spares.quiet {spent : RefreshToken → Prop} {s₀ s s' : Store} {o : Ambient} {c : Cmd}
    {r : Except Exception c.Resp} (h : Spares spent s₀ s)
    (hex : StreamingService.exec o c s = (r, s')) (hc : revoking c = false) : Spares spent s₀ s' :=
  h.step hex fun _ _ hrevokes => by
    have hrevoking := revoking_of_revokes hrevokes
    rw [hc] at hrevoking
    cases hrevoking

/-- The tokens are given: `g` is new to `s`, and active in `s'`. -/
structure Gives (s s' : Store) (tokens : AuthService.AuthTokens) (g : Grant) : Prop where
  granted : granted tokens = some g
  fresh : ∀ r ∈ s.refreshTokens, ¬ OfToken g.token r
  active : Active g s'

section

variable {cfg : AppConfig} {spent : RefreshToken → Prop} {s₀ s : Store} {o : Ambient}

theorem Issuing.not_error {c : Cmd} {e : Exception} {α : Prop} (h : Issuing o ⟨c, .error e⟩)
    (hc : asksTokens c = true) : α := by
  have hok := h hc
  cases hok

theorem issueTokens_gives {userId email : String} {role : Role} (hs : Spares spent s₀ s) :
    Prog.Safe exec Issuing (fun _ => True)
      (fun r s' => Spares spent s₀ s' ∧ ∃ tokens g, r = .ok tokens ∧ Gives s₀ s' tokens g)
      (AuthService.issueTokens cfg userId email role) s := by
  refine .perform_bind trivial (fun o accessToken s₁ _ hex => ?_) fun o e _ hG _ => hG.not_error rfl
  have hs := hs.quiet hex rfl
  refine .perform_bind trivial (fun o refreshToken s₂ _ hex => ?_) fun o e _ hG _ => hG.not_error rfl
  have hs := hs.quiet hex rfl
  refine .perform_bind trivial (fun o (instant : Millis) s₃ _ hex => ?_)
    fun o e _ _ hex => (now_error hex).elim
  have hs := hs.quiet hex rfl
  refine .perform_bind trivial (fun o row s₄ _ hex => ?_) fun o e _ hG _ => hG.not_error rfl
  have hins := createToken_inserted (congrArg Prod.fst hex)
  rw [hex] at hins
  refine ⟨trivial, hs.quiet hex rfl, _, ⟨refreshToken, row.expiresAt⟩, rfl, ?_, ?_, ?_⟩
  · simp only [granted, hins.expiresAt, Option.map_some]
  · intro r hr hhash
    obtain ⟨r', hr', hlater⟩ := hs.kept r hr
    exact hins.fresh r' hr' (hlater.tokenHash.trans hhash)
  · exact ⟨row, (hins.mem row).mpr (.inr rfl), hins.tokenHash, hins.active, rfl⟩

/-- How a login ends. -/
inductive LoggedIn (s : Store) : Except Exception Reply → Store → Prop
  | refused {e : Exception} {s' : Store} (hs : SparesAll s s') : LoggedIn s (.error e) s'
  | given {user : AuthService.PublicUser} {tokens : AuthService.AuthTokens} {g : Grant} {s' : Store}
      (hs : SparesAll s s') (hgives : Gives s s' tokens g) : LoggedIn s (.ok (.session user tokens)) s'

theorem login_ends (email password : String) :
    Prog.Safe exec Issuing (fun _ => True) (LoggedIn s) (handle cfg (.login email password)) s := by
  refine .bind (Q := fun r s' => SparesAll s s' ∧ ∀ user tokens, r = .ok (user, tokens) →
    ∃ g, Gives s s' tokens g) ?_ ?_ ?_
  · refine .perform_bind trivial (fun o found s₁ _ hex => ?_) fun o e s₁ _ hex =>
      ⟨trivial, (Spares.refl _ s).quiet hex rfl, fun _ _ hr => nomatch hr⟩
    have hs := (Spares.refl (fun _ => False) s).quiet hex rfl
    match found with
    | none => exact ⟨trivial, hs, fun _ _ hr => nomatch hr⟩
    | some user =>
        refine .perform_bind trivial (fun o (accepted : Bool) s₂ _ hex => ?_) fun o e s₂ _ hex =>
          ⟨trivial, hs.quiet hex rfl, fun _ _ hr => nomatch hr⟩
        have hs := hs.quiet hex rfl
        refine .ite (fun _ => ⟨trivial, hs, fun _ _ hr => nomatch hr⟩) fun _ => ?_
        refine .bind (issueTokens_gives hs) ?_ ?_
        · rintro tokens s' ⟨hs', tokens', g, ⟨⟩, hgives⟩
          refine ⟨trivial, hs', ?_⟩
          rintro _ _ ⟨⟩
          exact ⟨g, hgives⟩
        · rintro e s' ⟨-, _, _, hr, -⟩
          cases hr
  · rintro ⟨user, tokens⟩ s' ⟨hs, hgives⟩
    obtain ⟨g, hg⟩ := hgives user tokens rfl
    exact ⟨trivial, .given hs hg⟩
  · rintro e s' ⟨hs, -⟩
    exact .refused hs

/-- How a refresh ends. -/
inductive Rotated (s : Store) (token : Option String) :
    Except Exception AuthService.AuthTokens → Store → Prop
  | refused {e : Exception} {s' : Store} (hs : SparesAll s s') : Rotated s token (.error e) s'
  /-- The reuse signal. -/
  | reused {e : Exception} {s' : Store} {text : String} {record : RefreshToken}
      (htoken : token = some text) (hrecord : record ∈ s.refreshTokens) (hhash : OfToken text record)
      (hrevoked : record.revokedAt.isSome = true) (hkept : TokensKept s s') :
      Rotated s token (.error e) s'
  | renewed {tokens : AuthService.AuthTokens} {g : Grant} {s' : Store} {text : String}
      (htoken : token = some text) (hs : Spares (OfToken text) s s') (hgives : Gives s s' tokens g) :
      Rotated s token (.ok tokens) s'

theorem refresh_rotates (text : String) :
    Prog.Safe exec Issuing (fun _ => True) (Rotated s (some text)) (AuthService.refresh cfg text) s := by
  refine .perform_bind trivial (fun o found s₁ _ hex => ?_) fun o e s₁ _ hex =>
    ⟨trivial, .refused ((Spares.refl _ s).quiet hex rfl)⟩
  have hs := (Spares.refl (fun _ => False) s).quiet hex rfl
  match found with
  | none => exact ⟨trivial, .refused hs⟩
  | some (record, user) =>
      obtain ⟨hrecord, hhash, -⟩ := findToken_ok (congrArg Prod.fst hex)
      refine .ite (fun hrevoked => ?_) fun _ => ?_
      · refine .perform_bind trivial (fun o revokedAt s₂ _ hex => ?_)
          fun o e _ _ hex => (now_error hex).elim
        have hs := hs.quiet hex rfl
        have hkept : ∀ (o : Ambient) (c : Cmd) r s', exec o c s₂ = (r, s') → TokensKept s s' := by
          rintro o c r s' hex row hrow
          have hrow' := (hs.kept row hrow).mono (exec_tokensKept o c s₂)
          rw [hex] at hrow'
          exact hrow'
        exact .perform_bind trivial
          (fun o _ s₃ _ hex => ⟨trivial, .reused rfl hrecord hhash hrevoked (hkept _ _ _ _ hex)⟩)
          fun o e s₃ _ hex => ⟨trivial, .reused rfl hrecord hhash hrevoked (hkept _ _ _ _ hex)⟩
      · refine .perform_bind trivial (fun o (instant : Millis) s₂ _ hex => ?_)
          fun o e _ _ hex => (now_error hex).elim
        have hs := hs.quiet hex rfl
        refine .ite (fun _ => ⟨trivial, .refused hs⟩) fun _ => ?_
        refine .perform_bind trivial (fun o revokedAt s₃ _ hex => ?_)
          fun o e _ _ hex => (now_error hex).elim
        have hs := hs.quiet hex rfl
        refine .perform_bind trivial (fun o _ s₄ _ hex => ?_) fun o e s₄ _ hex => ?_
        · have hs : Spares (OfToken text) s s₄ := by
            refine (hs.mono fun _ hspent => hspent.elim).step hex ?_
            intro row hrow hrevokes
            have hid : record.id = row.id := by simpa [revokes] using hrevokes
            rw [← refreshTokens_eq_of_id hrecord hrow hid]
            exact hhash
          refine (issueTokens_gives hs).mono (fun _ h => h) ?_
          rintro r s' ⟨hs', tokens, g, rfl, hgives⟩
          exact .renewed rfl hs' hgives
        · exact ⟨trivial, .refused (hs.failed hex)⟩

theorem refresh_ends (token : Option String) :
    Prog.Safe exec Issuing (fun _ => True)
      (fun r s' => ∃ r', Rotated s token r' s' ∧ r = r'.map .tokens)
      (handle cfg (.refresh (token.map Json.str))) s := by
  refine .bind (Q := Rotated s token) ?_ ?_ ?_
  · cases token with
    | none => exact ⟨trivial, .refused (.refl _ s)⟩
    | some text => exact .ite (fun _ => ⟨trivial, .refused (.refl _ s)⟩) fun _ => refresh_rotates text
  · exact fun tokens s' h => ⟨trivial, .ok tokens, h, rfl⟩
  · exact fun e s' h => ⟨.error e, h, rfl⟩

/-- How a logout ends. -/
inductive LoggedOut (s : Store) (token : Option String) : Except Exception Reply → Store → Prop
  | failed {e : Exception} {s' : Store} (hs : SparesAll s s') : LoggedOut s token (.error e) s'
  | done {s' : Store} (hs : Spares (fun r => ∃ text, token = some text ∧ OfToken text r) s s') :
      LoggedOut s token (.ok .ack) s'

theorem logout_ends (token : Option String) :
    Prog.Safe exec Issuing (fun _ => True) (LoggedOut s token)
      (handle cfg (.logout (token.map Json.str))) s := by
  refine .bind (Q := fun r s' => LoggedOut s token (r.map fun _ => .ack) s') ?_ ?_ ?_
  · cases token with
    | none => exact ⟨trivial, .done (.refl _ s)⟩
    | some text =>
        refine .ite (fun _ => ?_) fun _ => ⟨trivial, .done (.refl _ s)⟩
        refine .perform_bind trivial (fun o revokedAt s₁ _ hex => ?_)
          fun o e _ _ hex => (now_error hex).elim
        have hs := (Spares.refl (fun _ => False) s).quiet hex rfl
        refine Prog.Safe.perform (S := Sig) trivial fun o r s₂ _ hex => ⟨trivial, ?_⟩
        cases r with
        | ok u =>
            refine .done ((hs.mono fun _ hspent => hspent.elim).step hex ?_)
            intro row _ hrevokes
            have hhash : AuthService.hashRefreshToken text = row.tokenHash := by
              simpa [revokes] using hrevokes
            exact ⟨text, rfl, hhash.symm⟩
        | error e => exact .failed (hs.failed hex)
  · exact fun _ s' h => ⟨trivial, h⟩
  · exact fun e s' h => h

end

/-- A page's request revokes nothing. -/
theorem page_revokes_nothing (cfg : AppConfig) {q : Request} (hq : q.ofPage = true)
    (user : Option JwtAccessPayload) :
    (handle cfg (q.withUser user)).Calls fun c => revoking c = false := by
  cases q with
  | register email password => cases hq
  | login email password => cases hq
  | refresh presented => cases hq
  | logout presented => cases hq
  | me _ =>
      refine .bind (jwtAuthGuard_calls user) ?_
      intro payload
      refine .bind (.perform_bind rfl ?_) fun _ => trivial
      intro found
      match found with
      | none => trivial
      | some (user, none) => trivial
      | some (user, some latest) => exact .perform_bind rfl fun _ => trivial
  | _ =>
      refine (handle_calls cfg _).mono ?_
      intro c hc
      cases c with
      | account c => cases hc
      | _ => rfl

theorem page_ends (cfg : AppConfig) {q : Request} (hq : q.ofPage = true)
    (user : Option JwtAccessPayload) (s : Store) :
    Prog.Safe exec Issuing (SparesAll s) (fun _ => SparesAll s) (handle cfg (q.withUser user)) s :=
  .invariant (page_revokes_nothing cfg hq user)
    (fun _ _ _ hc _ hs => hs.quiet rfl hc) (.refl _ s)

/-! ## What an operation does to the browsers -/

/-- The cookie of a grant. -/
def refreshCookie (g : Grant) : Cookie where
  name := refreshCookieName
  path := refreshCookiePath
  value := g.token
  expires := headerDate g.expiresAt

theorem setRefreshCookie_of_granted {tokens : AuthService.AuthTokens} {g : Grant}
    (h : granted tokens = some g) : setRefreshCookie tokens = some (refreshCookie g) := by
  obtain ⟨expiresAt, hexpires, rfl⟩ := Option.map_eq_some_iff.mp h
  rw [setRefreshCookie, hexpires]
  rfl

/-- The row of a cookie that browser `i` holds. -/
def World.Own (w : World n) (i : Fin n) (r : RefreshToken) : Prop := ∃ c ∈ w.jar i, OfToken c.value r

theorem World.own_of_sent {w : World n} {i : Fin n} {path : List String} {text : String}
    {r : RefreshToken} (h : w.cookie i path = some text) (hr : OfToken text r) : w.Own i r := by
  obtain ⟨c, hc, rfl, -⟩ := Jar.sent_mem h
  exact ⟨c, hc, hr⟩

/-- **What an operation can do** to the tokens and to the browsers. -/
inductive Effect (w w' : World n) : Prop
  | quiet (hs : SparesAll w.store w'.store) (hjar : w'.jar = w.jar)
      (hsession : w'.session = w.session)
  | given (i : Fin n) (g : Grant) (hs : Spares (w.Own i) w.store w'.store)
      (hfresh : ∀ r ∈ w.store.refreshTokens, ¬ OfToken g.token r) (hactive : Active g w'.store)
      (hjar : w'.jar = Function.update w.jar i ((w.jar i).receive w'.now (refreshCookie g)))
      (hsession : w'.session = Function.update w.session i (some g) ∨
        w.session i = none ∧ w'.session = w.session)
  | loggedOut (i : Fin n) (hs : Spares (w.Own i) w.store w'.store)
      (hjar : w'.jar = Function.update w.jar i
        ((w.jar i).receive w'.now (clearCookie refreshCookieName)))
      (hsession : w'.session = Function.update w.session i none)
  | reused (i : Fin n) (hreuses : w.reuses i = true) (hothers : ∀ j, j ≠ i → w.signedIn j = false)
      (hkept : TokensKept w.store w'.store) (hjar : w'.jar = w.jar)
      (hsession : w'.session = w.session)

section

variable {w : World n} {i : Fin n} {op : Operation n} {done : Nat} {r : Except Exception Reply}
  {s' : Store}

/-- A response that sets no cookie and concerns no session. -/
theorem Effect.of_quiet {q : Request} (hs : SparesAll w.store s') (hcookie : responseCookie q r = none)
    (hsession : sessionAfter (w.session i) q r = w.session i) :
    Effect w (w.answered op i q done r s') := by
  refine .quiet hs ?_ ?_
  · simp only [World.answered, hcookie, Function.update_eq_self]
  · simp only [World.answered, hsession, Function.update_eq_self]

theorem login_effect {email password : String} (h : LoggedIn w.store r s') :
    Effect w (w.answered op i (.login email password) done r s') := by
  cases h with
  | refused hs => exact .of_quiet hs rfl rfl
  | given hs hgives =>
      refine .given i _ (hs.mono fun _ hspent => hspent.elim) hgives.fresh hgives.active ?_ ?_
      · simp only [World.answered, responseCookie, setRefreshCookie_of_granted hgives.granted]
      · left
        simp only [World.answered, sessionAfter, hgives.granted]

theorem logout_effect (h : LoggedOut w.store (w.cookie i logoutPath) r s') :
    Effect w (w.answered op i (.logout ((w.cookie i logoutPath).map Json.str)) done r s') := by
  cases h with
  | failed hs => exact .of_quiet hs rfl rfl
  | done hs =>
      refine .loggedOut i (hs.mono ?_) rfl rfl
      rintro row ⟨text, htext, hrow⟩
      exact World.own_of_sent htext hrow

theorem refresh_effect {r' : Except Exception AuthService.AuthTokens}
    (h : Rotated w.store (w.cookie i refreshPath) r' s') (hr : r = r'.map .tokens)
    (hothers : w.reuses i = true → ∀ j, j ≠ i → w.signedIn j = false) :
    Effect w (w.answered op i (.refresh ((w.cookie i refreshPath).map Json.str)) done r s') := by
  subst hr
  cases h with
  | refused hs => exact .of_quiet hs rfl rfl
  | @reused e _ text record htoken hrecord hhash hrevoked hkept =>
      have hreuses : w.reuses i = true := by
        simp only [World.reuses, htoken, List.any_eq_true, Bool.and_eq_true, beq_iff_eq]
        exact ⟨record, hrecord, hhash, hrevoked⟩
      refine .reused i hreuses (hothers hreuses) hkept ?_ ?_
      · exact Function.update_eq_self ..
      · exact Function.update_eq_self ..
  | @renewed tokens g _ text htoken hs hgives =>
      refine .given i g (hs.mono fun _ => World.own_of_sent htoken) hgives.fresh hgives.active ?_ ?_
      · simp only [World.answered, responseCookie, Except.map,
          setRefreshCookie_of_granted hgives.granted]
      · cases hsession : w.session i with
        | none =>
            right
            refine ⟨rfl, ?_⟩
            simp only [World.answered, sessionAfter, Except.map, hsession, Option.bind_none]
            rw [← hsession, Function.update_eq_self]
        | some g' =>
            left
            simp only [World.answered, sessionAfter, Except.map, hsession, Option.bind_some,
              hgives.granted]

theorem page_effect {q : Request} (hq : q.ofPage = true) (user : Option JwtAccessPayload)
    (hs : SparesAll w.store s') : Effect w (w.answered op i (q.withUser user) done r s') := by
  cases q <;> first | exact .of_quiet hs rfl rfl | cases hq

end

/-- **What a browser sends**, by the operation. -/
inductive Sent (w : World n) : Operation n → Fin n → Request → Prop
  | login {i : Fin n} {email password : String} :
      Sent w (.login i email password) i (.login email password)
  | logout {i : Fin n} : Sent w (.logout i) i (.logout ((w.cookie i logoutPath).map Json.str))
  | page {op : Operation n} {i : Fin n} (q : PageRequest) (user : Option JwtAccessPayload) :
      Sent w op i (q.val.withUser user)
  | refresh {i : Fin n} (hstage : w.stage.refreshing = some i) :
      Sent w .refresh i (.refresh ((w.cookie i refreshPath).map Json.str))

theorem sent_of_sends {w : World n} {op : Operation n} {i : Fin n} {q : Request}
    (h : w.sends op = some (i, q)) : Sent w op i q := by
  cases op with
  | login i email password =>
      simp only [World.sends] at h
      split at h <;> cases h
      exact .login
  | logout i =>
      simp only [World.sends] at h
      split at h <;> cases h
      exact .logout
  | request i q user =>
      simp only [World.sends] at h
      split at h <;> cases h
      exact .page q user
  | refresh =>
      simp only [World.sends] at h
      split at h
      · rename_i i q hstage
        cases h
        exact .refresh (by rw [hstage]; rfl)
      · cases h
  | retry user =>
      simp only [World.sends] at h
      split at h
      · rename_i i q hstage
        cases h
        exact .page q user
      · cases h

/-- **One step**: time passes, or a browser is served. -/
theorem next_effect {cfg : AppConfig} {w w' : World n} {l : Label n}
    (h : (system n cfg).next w l = some w') (hhandled : w.handled cfg l) (hspares : w.spares l) :
    w.now ≤ w'.now ∧ Effect w w' := by
  cases l with
  | wait instant =>
      obtain ⟨hle, hw'⟩ := Option.ite_none_right_eq_some.mp h
      cases hw'
      exact ⟨hle, .quiet (.refl _ _) rfl rfl⟩
  | operate op x =>
      obtain ⟨hle, h⟩ := Option.ite_none_right_eq_some.mp h
      obtain ⟨⟨i, q⟩, hsent, rfl⟩ := Option.map_eq_some_iff.mp h
      refine ⟨hle, ?_⟩
      have halong : x.Suffices cfg w.store q := hhandled _ hsent
      cases sent_of_sends hsent with
      | login => exact login_effect ((login_ends _ _).run halong)
      | logout => exact logout_effect ((logout_ends _).run halong)
      | page q user => exact page_effect q.property user ((page_ends cfg q.property user _).run halong)
      | refresh hstage =>
          obtain ⟨r', hrotated, hr⟩ := (refresh_ends _).run halong
          exact refresh_effect hrotated hr (hspares i hstage)

end Devices

end StreamingService
