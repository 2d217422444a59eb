import StreamingService.Frontend.Refresh

/-!
# Frontend — Session

What a run of the browser keeps as long as every move is fair and every
refresh meets its token unrevoked: the server's answers are fair answers,
every refresh ends with a new pair, and no retried request ends in a 401.
-/

namespace StreamingService

open Lib

theorem Request.ofPage_withUser {q : Request} (h : q.ofPage = true)
    (user : Option JwtAccessPayload) : (q.withUser user).ofPage = true := by
  cases q <;> first | rfl | cases h

/-- A page's request is no refresh. -/
theorem Request.withUser_ne_refresh {q : Request} (h : q.ofPage = true)
    {user : Option JwtAccessPayload} {token : String} : q.withUser user ≠ refreshWith token := by
  intro heq
  have hpage := Request.ofPage_withUser h user
  rw [heq] at hpage
  cases hpage

namespace ApiClient

variable {n : Nat}

/-! ## The conditions on a move -/

/-- The digest a refresh looks up. -/
def presents : Cmd → Option TokenHash
  | .account (.findToken tokenHash) => some tokenHash
  | _ => none

/-- The server's statement has a fair environment up to `t`. -/
def Session.fairly (cfg : AppConfig) (verify : String → Option JwtAccessPayload) (t : Millis)
    (w : Session n) : Move n → Prop
  | .serve tid o => ∀ c ∈ w.server.pending tid, Fair cfg verify t w.server.store o c
  | .advance _ | .throttle _ => True

instance (cfg : AppConfig) (verify : String → Option JwtAccessPayload) (t : Millis)
    (w : Session n) (move : Move n) : Decidable (w.fairly cfg verify t move) :=
  match move with
  | .serve tid o => inferInstanceAs (Decidable
      (∀ c ∈ w.server.pending tid, Fair cfg verify t w.server.store o c))
  | .advance _ | .throttle _ => isTrue trivial

/-- The phases before a refresh. -/
def Phase.awaits : Phase → Bool
  | .sent _ _ => true
  | _ => false

/-- A refresh meets its token unrevoked, and the throttle refuses none. -/
def Session.presentsLive (w : Session n) : Move n → Prop
  | .serve tid _ => ∀ c ∈ w.server.pending tid, ∀ r ∈ w.server.store.refreshTokens.rows,
      presents c = some r.tokenHash → r.revokedAt = none
  | .advance _ => True
  | .throttle i => (w.phase i).awaits = false

instance (w : Session n) (move : Move n) : Decidable (w.presentsLive move) :=
  match move with
  | .serve tid _ => inferInstanceAs (Decidable (∀ c ∈ w.server.pending tid,
      ∀ r ∈ w.server.store.refreshTokens.rows, presents c = some r.tokenHash → r.revokedAt = none))
  | .advance _ => isTrue trivial
  | .throttle i => inferInstanceAs (Decidable ((w.phase i).awaits = false))

/-- Both conditions. -/
def Session.inTurn (cfg : AppConfig) (verify : String → Option JwtAccessPayload) (t : Millis)
    (w : Session n) (move : Move n) : Prop := w.fairly cfg verify t move ∧ w.presentsLive move

instance (cfg : AppConfig) (verify : String → Option JwtAccessPayload) (t : Millis)
    (w : Session n) (move : Move n) : Decidable (w.inTurn cfg verify t move) :=
  inferInstanceAs (Decidable (w.fairly cfg verify t move ∧ w.presentsLive move))

/-! ## Requests of the browser -/

def Known (s : Store) (userId : String) : Prop := ∃ u ∈ s.users, u.id = userId

/-- A request of the browser: a refresh with a token that has not expired, or a
page's. -/
def Begun (t : Millis) (s : Store) (q : Request) : Prop :=
  (∃ token, q = refreshWith token ∧ token ≠ "" ∧ Unexpired t token s) ∨
    ∃ q₀ user, q = Request.withUser user q₀ ∧ q₀.ofPage = true ∧ ∀ u ∈ user, Known s u.sub

theorem Begun.exec {t : Millis} {s : Store} {q : Request} (h : Begun t s q) (o : Ambient) (c : Cmd) :
    Begun t (exec o c s).2 q := by
  rcases h with ⟨token, hq, hne, hlive⟩ | ⟨q₀, user, hq, hpage, hknown⟩
  · exact .inl ⟨token, hq, hne, hlive.exec o c⟩
  · exact .inr ⟨q₀, user, hq, hpage, fun u hu => exec_knows o c (hknown u hu)⟩

theorem Begun.ofSession {t : Millis} {s : Store} {q : Request} (h : Begun t s q) :
    ofSession q = true := by
  rcases h with ⟨token, rfl, -, -⟩ | ⟨q₀, user, rfl, hpage, -⟩
  · rfl
  · cases q₀ <;> first | rfl | cases hpage

/-- What is known of a request in a phase. -/
def Placed (verify : String → Option JwtAccessPayload) (w : Session n) (i : Fin n) : Phase → Prop
  | .idle => True
  | .sent tid skipRefreshRetry => ∃ user,
      Event.began tid ((w.requests i).withUser user) ∈ w.server.trace ∧
        (skipRefreshRetry = true → user.isSome = true)
  | .refreshing tid => ∃ token, Event.began tid (refreshWith token) ∈ w.server.trace
  | .answered accessToken => ∃ u, bearer verify (some accessToken) = some u ∧
      Known w.server.store u.sub
  | .renewed => (bearer verify w.accessToken).isSome = true
  | .ended error => error ≠ some 401

theorem Placed.mono {verify : String → Option JwtAccessPayload} {w w' : Session n} {i : Fin n}
    {phase : Phase} (h : Placed verify w i phase) (hrequests : w'.requests = w.requests)
    (htrace : ∀ ev ∈ w.server.trace, ev ∈ w'.server.trace)
    (hknown : ∀ id, Known w.server.store id → Known w'.server.store id)
    (hbearer : (bearer verify w.accessToken).isSome = true →
      (bearer verify w'.accessToken).isSome = true) : Placed verify w' i phase := by
  cases phase with
  | idle => trivial
  | sent tid skipRefreshRetry =>
      obtain ⟨user, hbegan, hskip⟩ := h
      exact ⟨user, by rw [hrequests]; exact htrace _ hbegan, hskip⟩
  | refreshing tid =>
      obtain ⟨token, hbegan⟩ := h
      exact ⟨token, htrace _ hbegan⟩
  | answered accessToken =>
      obtain ⟨u, hu, hid⟩ := h
      exact ⟨u, hu, hknown _ hid⟩
  | renewed => exact hbearer h
  | ended error => exact h

/-! ## The invariant -/

/-- What every state of such a run satisfies. -/
structure Fit (cfg : AppConfig) (verify : String → Option JwtAccessPayload) (t : Millis)
    (s : Store) (w : Session n) : Prop where
  run : (app cfg).Run anyAction (Machine.start s) w.server
  answers : ∀ tid e, Event.did tid e ∈ w.server.trace → FairAnswer cfg verify t w.server.store e
  began : ∀ tid q, Event.began tid q ∈ w.server.trace → Begun t w.server.store q
  pages : ∀ i, (w.requests i).ofPage = true
  cookie : ∃ token, w.cookie = some token ∧ token ≠ "" ∧ Unexpired t token w.server.store
  user : ∀ u ∈ bearer verify w.accessToken, Known w.server.store u.sub
  place : ∀ i, Placed verify w i (w.phase i)

namespace Fit

variable {cfg : AppConfig} {verify : String → Option JwtAccessPayload} {t : Millis} {s : Store}
  {w : Session n}

theorem recorded {P : Request → List (Prog.Entry Sig) → Prog.Entry Sig → Prop}
    {R : Request → Except Exception Reply → List (Prog.Entry Sig) → Prop} (h : Fit cfg verify t s w)
    (hP : ∀ q, (handle cfg q).Emits (P q) (R q) []) : Machine.Recorded P R w.server :=
  Machine.Run.emits hP h.run

/-- The answers a thread has had. -/
theorem answers_own (h : Fit cfg verify t s w) (tid : Nat) :
    ∀ e ∈ own tid w.server.trace, FairAnswer cfg verify t w.server.store e :=
  fun e he => h.answers tid e (mem_own.mp he)

/-! ## The next statement of a thread -/

section

variable {tid : Nat} {q : Request} {c : Cmd} {k : Except Exception c.Resp → App Reply}

theorem path (h : Fit cfg verify t s w) (hth : w.server.threads[tid]? = some ⟨q, .call c k⟩)
    (r : Except Exception c.Resp) : PathStep cfg q (own tid w.server.trace) ⟨c, r⟩ := by
  have hrec := h.recorded (session_path cfg)
  exact (hrec.emits tid _ hth r).1 (h.began tid q (hrec.began tid _ hth)).ofSession

theorem names (h : Fit cfg verify t s w) (hth : w.server.threads[tid]? = some ⟨q, .call c k⟩)
    (hlive : ∀ r ∈ w.server.store.refreshTokens.rows, presents c = some r.tokenHash →
      r.revokedAt = none) : NamesStored t w.server.store c := by
  have hpath := h.path hth (.error .typeError)
  have hbegun := h.began tid q ((h.recorded (session_path cfg)).began tid _ hth)
  cases c with
  | account c =>
      cases c with
      | findToken tokenHash =>
          obtain ⟨token, rfl, rfl⟩ := hpath
          rcases hbegun with ⟨token', heq, -, r, hr, hhash, ht, huser⟩ | ⟨q₀, user, heq, hpage, -⟩
          · cases heq
            exact ⟨r, hr, hhash, hlive r hr (by rw [hhash]; rfl), ht, huser⟩
          · exact absurd heq.symm (Request.withUser_ne_refresh hpage)
      | revokeToken id revokedAt =>
          obtain ⟨token, record, user, -, hfind, rfl⟩ := hpath
          obtain ⟨⟨r, hr, hlater⟩, -⟩ := tokenAnswers_run h.run tid _ (mem_own.mp hfind)
          exact ⟨r, hr, hlater.id⟩
      | findUserWithActive id =>
          obtain ⟨payload, rfl, rfl⟩ := hpath
          rcases hbegun with ⟨token, heq, -⟩ | ⟨q₀, user, heq, -, hknown⟩
          · cases heq
          · cases q₀ <;> cases heq
            exact hknown payload rfl
      | _ => trivial
  | _ => trivial

/-- **A token is revoked by its own refresh only.** -/
theorem revokes_own (h : Fit cfg verify t s w)
    (hth : w.server.threads[tid]? = some ⟨q, .call c k⟩) {token : String}
    (hrevokes : Revokes token w.server.store c) : q = refreshWith token := by
  have hpath := h.path hth (.error .typeError)
  cases c with
  | account c =>
      cases c with
      | revokeAllOfUser userId revokedAt =>
          -- no lookup has shown a revoked row
          obtain ⟨tokenHash, record, user, hfind, hrevoked⟩ := hpath
          obtain ⟨record', user', heq, hactive, -⟩ := (h.answers_own tid _ hfind).shows
          cases heq
          rw [hactive] at hrevoked
          cases hrevoked
      | revokeByHash tokenHash revokedAt => exact hpath.elim
      | revokeToken id revokedAt =>
          obtain ⟨token', record, user, hq, hfind, rfl⟩ := hpath
          obtain ⟨r, hr, hid, hhash⟩ := hrevokes
          obtain ⟨⟨r', hr', hlater⟩, hrecord⟩ := tokenAnswers_run h.run tid _ (mem_own.mp hfind)
          have hrr : r = r' := refreshTokens_eq_of_id hr hr' (hid.trans hlater.id.symm)
          have heq : AuthService.hashRefreshToken token = AuthService.hashRefreshToken token' := by
            rw [← hhash, hrr, hlater.tokenHash, hrecord]
          cases heq
          exact hq
      | _ => exact hrevokes.elim
  | _ => exact hrevokes.elim

end

/-! ## The end of a thread -/

/-- A refresh ends with a new pair. -/
theorem renewed (h : Fit cfg verify t s w) {tid : Nat} {token : String}
    {r : Except Exception Reply}
    (hbegan : Event.began tid (refreshWith token) ∈ w.server.trace)
    (hresponse : response w.server tid = some r) :
    ∃ tokens, r = .ok (.tokens tokens) ∧
      Renewed verify (.ok tokens) (own tid w.server.trace) := by
  obtain ⟨q, hth⟩ := response_eq hresponse
  have hrec := h.recorded (renewed_path cfg verify t)
  have hq : q = refreshWith token := hrec.request (hrec.began tid _ hth) hbegan
  have hne : token ≠ "" := by
    rcases h.began tid _ hbegan with ⟨token', heq, hne, -⟩ | ⟨q₀, user, heq, hpage, -⟩
    · cases heq
      exact hne
    · exact absurd heq.symm (Request.withUser_ne_refresh hpage)
  exact hrec.emits tid _ hth token hq hne _ (h.answers_own tid)

/-- A page's request with a verified bearer does not end with a 401. -/
theorem page_status (h : Fit cfg verify t s w) {tid : Nat} {q : Request}
    {user : Option JwtAccessPayload} {r : Except Exception Reply} (hpage : q.ofPage = true)
    (huser : user.isSome = true) (hbegan : Event.began tid (q.withUser user) ∈ w.server.trace)
    (hresponse : response w.server tid = some r) : errorStatus r ≠ some 401 := by
  obtain ⟨q', hth⟩ := response_eq hresponse
  have hrec := h.recorded (page_path cfg)
  have hq : q' = q.withUser user := hrec.request (hrec.began tid _ hth) hbegan
  have hend := hrec.emits tid _ hth q user hq hpage huser
    fun e he => (h.answers_own tid e he).calm
  intro h401
  cases r with
  | ok reply => cases h401
  | error e => exact hend e rfl (Option.some.inj h401)

/-- A token issued is alive until `t`. -/
theorem issued_unexpired (h : Fit cfg verify t s w) {tid : Nat} {userId token : String}
    {expiresAt : Option Millis} {row : RefreshToken}
    (hissued : Event.did tid ⟨Cmd.account
      (.createToken userId (AuthService.hashRefreshToken token) expiresAt), .ok row⟩ ∈
        w.server.trace) : Unexpired t token w.server.store := by
  have hrec := h.recorded (session_path cfg)
  obtain ⟨hhash, hexpires, huser⟩ := (h.answers tid _ hissued).shows
  obtain ⟨post, pre, htr⟩ := List.append_of_mem hissued
  obtain ⟨q, hq⟩ := hrec.did_began hissued
  obtain ⟨presented, instant, -, hnow, hexpiresAt⟩ :=
    hrec.at_split hq htr (h.began tid q hq).ofSession
  have hnow' : Event.did tid ⟨Cmd.now, .ok instant⟩ ∈ w.server.trace := by
    rw [htr]
    exact List.mem_append_right _ (List.mem_cons_of_mem _ (mem_own.mp hnow))
  obtain ⟨-, hlifetime⟩ := (h.answers tid _ hnow').shows
  have hdate := (validDate_some (hexpiresAt.symm.trans hexpires)).1
  obtain ⟨r, hr, hlater⟩ := tokenAnswers_run h.run tid _ hissued
  refine ⟨r, hr, hlater.tokenHash.trans hhash, ?_, by rw [hlater.userId]; exact huser⟩
  rw [hlater.expiresAt, ← Option.some.inj hdate]
  exact hlifetime

/-! ## Moves -/

theorem start {accessToken cookie : Option String} {requests : Fin n → Request}
    (hpages : ∀ i, (requests i).ofPage = true) (hexpired : bearer verify accessToken = none)
    (hcookie : ∃ token, cookie = some token ∧ token ≠ "" ∧ Unexpired t token s) :
    Fit cfg verify t s (Session.start s accessToken cookie requests) where
  run := .refl
  answers := by intro tid e h; cases h
  began := by intro tid q h; cases h
  pages := hpages
  cookie := hcookie
  user := by
    intro u hu
    rw [show (Session.start s accessToken cookie requests).accessToken = accessToken from rfl,
      hexpired] at hu
    cases hu
  place i := trivial

theorem setPhase (h : Fit cfg verify t s w) {i : Fin n} {phase : Phase}
    (hphase : Placed verify w i phase) : Fit cfg verify t s (w.setPhase i phase) where
  run := h.run
  answers := h.answers
  began := h.began
  pages := h.pages
  cookie := h.cookie
  user := h.user
  place j := by
    have hplaced : Placed verify w j (Function.update w.phase i phase j) := by
      by_cases hj : j = i
      · subst hj
        rw [Function.update_self]
        exact hphase
      · rw [Function.update_of_ne hj]
        exact h.place j
    exact hplaced.mono rfl (fun _ hev => hev) (fun _ hid => hid) fun hb => hb

theorem fetch (h : Fit cfg verify t s w) {q : Request} (hq : Begun t w.server.store q) :
    Fit cfg verify t s (w.fetch cfg q) where
  run := h.run.step trivial (show (app cfg).next w.server (.begin q) = _ from rfl)
  answers := by
    intro tid e he
    rcases List.mem_cons.mp he with heq | he
    · cases heq
    · exact h.answers tid e he
  began := by
    intro tid q' hq'
    rcases List.mem_cons.mp hq' with heq | hq'
    · cases heq
      exact hq
    · exact h.began tid q' hq'
  pages := h.pages
  cookie := h.cookie
  user := h.user
  place i := (h.place i).mono rfl (fun _ hev => List.mem_cons_of_mem _ hev) (fun _ hid => hid)
    fun hb => hb

/-- One fair statement of the server. -/
theorem serve (h : Fit cfg verify t s w) {w' : Session n} {tid : Nat} {o : Ambient}
    (hturn : w.inTurn cfg verify t (.serve tid o))
    (hnext : (system n cfg verify).next w (.serve tid o) = some w') : Fit cfg verify t s w' := by
  obtain ⟨q, c, k, hth, rfl⟩ := serve_cases hnext
  have hpending : c ∈ w.server.pending tid := by simp [Sys.pending, hth]
  have hfair := hturn.1 c hpending
  have hserver : (app cfg).next w.server (.step tid o) = some
      ⟨(exec o c w.server.store).2, w.server.threads.set tid ⟨q, k (exec o c w.server.store).1⟩,
        .did tid ⟨c, (exec o c w.server.store).1⟩ :: w.server.trace⟩ := by
    simp [Machine.next, app, hth]
  refine ⟨h.run.step trivial hserver, ?_, ?_, h.pages, ?_, ?_, ?_⟩
  · intro tid' e he
    rcases List.mem_cons.mp he with heq | he
    · cases heq
      exact exec_fair hfair (h.names hth (hturn.2 c hpending))
    · exact (h.answers tid' e he).exec o c
  · intro tid' q' hq'
    rcases List.mem_cons.mp hq' with heq | hq'
    · cases heq
    · exact (h.began tid' q' hq').exec o c
  · obtain ⟨token, hcookie, hne, hlive⟩ := h.cookie
    exact ⟨token, hcookie, hne, hlive.exec o c⟩
  · exact fun u hu => exec_knows o c (h.user u hu)
  · exact fun i => (h.place i).mono rfl (fun _ hev => List.mem_cons_of_mem _ hev)
      (fun _ hid => exec_knows o c hid) fun hb => hb

/-- What `tryRefresh` stores. -/
theorem withCookie (h : Fit cfg verify t s w) {token : String} (hne : token ≠ "")
    (hlive : Unexpired t token w.server.store) :
    Fit cfg verify t s { w with cookie := some token } where
  run := h.run
  answers := h.answers
  began := h.began
  pages := h.pages
  cookie := ⟨token, rfl, hne, hlive⟩
  user := h.user
  place i := (h.place i).mono rfl (fun _ hev => hev) (fun _ hid => hid) fun hb => hb

theorem withAccessToken (h : Fit cfg verify t s w) {accessToken : String} {u : JwtAccessPayload}
    (hu : bearer verify (some accessToken) = some u) (hknown : Known w.server.store u.sub) :
    Fit cfg verify t s { w with accessToken := some accessToken } where
  run := h.run
  answers := h.answers
  began := h.began
  pages := h.pages
  cookie := h.cookie
  user := by
    intro u' hu'
    rw [hu] at hu'
    cases hu'
    exact hknown
  place i := (h.place i).mono rfl (fun _ hev => hev) (fun _ hid => hid) fun _ => by rw [hu]; rfl

/-- The page's request as it is sent now. -/
theorem begun_page (h : Fit cfg verify t s w) (i : Fin n) :
    Begun t w.server.store ((w.requests i).withUser (bearer verify w.accessToken)) :=
  .inr ⟨w.requests i, bearer verify w.accessToken, rfl, h.pages i, h.user⟩

/-- The refresh as it is sent now. -/
theorem refreshRequest_eq (h : Fit cfg verify t s w) :
    ∃ token, w.cookie = some token ∧ w.refreshRequest = refreshWith token ∧
      Begun t w.server.store w.refreshRequest := by
  obtain ⟨token, hcookie, hne, hlive⟩ := h.cookie
  have hrequest : w.refreshRequest = refreshWith token := by
    rw [Session.refreshRequest, hcookie]
    rfl
  exact ⟨token, hcookie, hrequest, .inl ⟨token, hrequest, hne, hlive⟩⟩

/-- One move of a request. -/
theorem advance (h : Fit cfg verify t s w) {w' : Session n} {i : Fin n}
    (hadvance : Advance cfg verify w i w') : Fit cfg verify t s w' := by
  cases hadvance with
  | @sends skipRefreshRetry hphase =>
      refine (h.fetch (h.begun_page i)).setPhase ⟨_, List.mem_cons_self, ?_⟩
      rintro rfl
      have hplace := h.place i
      rw [hphase] at hplace
      exact hplace
  | @refreshes tid r hphase hresponse hstatus =>
      obtain ⟨token, -, hrequest, hbegun⟩ := h.refreshRequest_eq
      refine (h.fetch hbegun).setPhase ⟨token, ?_⟩
      rw [hrequest]
      exact List.mem_cons_self
  | @ends tid skipRefreshRetry r hphase hresponse hstatus =>
      refine h.setPhase ?_
      intro h401
      have hplace := h.place i
      rw [hphase] at hplace
      obtain ⟨user, hbegan, hskip⟩ := hplace
      exact h.page_status (h.pages i) (hskip (hstatus h401)) hbegan hresponse h401
  | @stores tid tokens hphase hresponse =>
      have hplace := h.place i
      rw [hphase] at hplace
      obtain ⟨token, hbegan⟩ := hplace
      obtain ⟨tokens', heq, hrenewed⟩ := h.renewed hbegan hresponse
      cases heq
      obtain ⟨tokens'', record, user, row, tokenHash, expiresAt, heq, hne, hbearer, hfind, hissued⟩ :=
        hrenewed
      cases heq
      obtain ⟨record', user', hfound, -, -, hknown⟩ := (h.answers_own tid _ hfind).shows
      cases hfound
      refine (h.withCookie hne (h.issued_unexpired (mem_own.mp hissued))).setPhase ?_
      exact ⟨_, hbearer, hknown⟩
  | @loses tid r hphase hresponse hr =>
      have hplace := h.place i
      rw [hphase] at hplace
      obtain ⟨token, hbegan⟩ := hplace
      obtain ⟨tokens, heq, -⟩ := h.renewed hbegan hresponse
      exact absurd heq (hr tokens)
  | @renews accessToken hphase =>
      have hplace := h.place i
      rw [hphase] at hplace
      obtain ⟨u, hu, hknown⟩ := hplace
      refine (h.withAccessToken hu hknown).setPhase ?_
      rw [Placed, hu]
      rfl

/-- A refusal of the throttle, other than of a refresh. -/
theorem throttle (h : Fit cfg verify t s w) {w' : Session n} {i : Fin n}
    (hawaits : (w.phase i).awaits = false) (hnext : w.throttle i = some w') :
    w' = w.setPhase i (.ended (some 429)) ∧ Fit cfg verify t s w' := by
  have h429 : Fit cfg verify t s (w.setPhase i (.ended (some 429))) := h.setPhase (by simp [Placed])
  unfold Session.throttle at hnext
  split at hnext
  · cases hnext
    exact ⟨rfl, h429⟩
  · cases hnext
    exact ⟨rfl, h429⟩
  · rename_i tid hphase
    rw [hphase] at hawaits
    cases hawaits
  · cases hnext

/-- **What one move keeps.** -/
theorem next (h : Fit cfg verify t s w) {w' : Session n} {move : Move n}
    (hturn : w.inTurn cfg verify t move) (hnext : (system n cfg verify).next w move = some w') :
    Fit cfg verify t s w' := by
  cases move with
  | serve tid o => exact h.serve hturn hnext
  | advance i => exact h.advance (advance_cases hnext)
  | throttle i => exact (h.throttle hturn.2 hnext).2

end Fit

end ApiClient

end StreamingService
