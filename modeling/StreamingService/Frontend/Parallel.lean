import StreamingService.Frontend.Session

/-!
# Frontend — Parallel

Is a browser logged out by its own parallelism? Every request that meets a
401 refreshes on its own, and the server takes the second presentation of
one token for theft: two refreshes of one cookie end the session. A run in
which every refresh meets its token unrevoked keeps it: of a refresh in
progress, somebody still waits for the response, and the token issued for it
is presented by nobody before it is the browser's cookie.
-/

namespace StreamingService

open Lib

namespace ApiClient

variable {n : Nat}

/-! ## Staying logged in -/

/-- The cookie the browser holds is of a stored row, unrevoked, that does not
expire before `t`, and of a stored user. -/
def Session.Alive (t : Millis) (w : Session n) : Prop :=
  ∃ token, w.cookie = some token ∧ token ≠ "" ∧ ∃ r ∈ w.server.store.refreshTokens,
    r.tokenHash = AuthService.hashRefreshToken token ∧ r.revokedAt = none ∧ t ≤ r.expiresAt ∧
      Known w.server.store r.userId

def Phase.completed : Phase → Bool
  | .ended _ => true
  | _ => false

def Session.Completed (w : Session n) : Prop := ∀ i, (w.phase i).completed = true

instance (w : Session n) : Decidable w.Completed :=
  inferInstanceAs (Decidable (∀ i, (w.phase i).completed = true))

/-- Once all have completed, the cookie is live and no request has ended in a 401. -/
def Session.StaysLoggedIn (t : Millis) (w : Session n) : Prop :=
  w.Completed → w.Alive t ∧ ∀ i, w.phase i ≠ .ended (some 401)

/-! ## Issued tokens -/

/-- The thread has issued the token. -/
def Issues (tid : Nat) (token : String) (tr : Trace) : Prop :=
  ∃ row ∈ issuedBy tid tr, row.tokenHash = AuthService.hashRefreshToken token

theorem Issues.did_cases {tid tid' : Nat} {token : String} {e : Prog.Entry Sig} {tr : Trace}
    (h : Issues tid' token (.did tid e :: tr)) : Issues tid' token tr ∨
      (tid' = tid ∧ ∃ row, created e = some row ∧
        row.tokenHash = AuthService.hashRefreshToken token) := by
  obtain ⟨row, hrow, hhash⟩ := h
  obtain ⟨e', he', hcreated⟩ := mem_issuedBy.mp hrow
  rcases List.mem_cons.mp he' with heq | he'
  · cases heq
    exact .inr ⟨rfl, row, hcreated, hhash⟩
  · exact .inl ⟨row, mem_issuedBy.mpr ⟨e', he', hcreated⟩, hhash⟩

section

variable {cfg : AppConfig} {verify : String → Option JwtAccessPayload} {t : Millis} {s : Store}
  {w : Session n}

/-- A token once issued has its row. -/
theorem Fit.issued_row (h : Fit cfg verify t s w) {tid : Nat} {token : String}
    (hissues : Issues tid token w.server.trace) :
    ∃ r ∈ w.server.store.refreshTokens, r.tokenHash = AuthService.hashRefreshToken token := by
  obtain ⟨row, hrow, hhash⟩ := hissues
  obtain ⟨e, he, hcreated⟩ := mem_issuedBy.mp hrow
  obtain ⟨r, hr, hlater⟩ := (tokenAnswers_run h.run tid e he).of_created hcreated
  exact ⟨r, hr, hlater.tokenHash.trans hhash⟩

/-- A refresh has issued the token it answers. -/
theorem Fit.renewed_issues (h : Fit cfg verify t s w) {tid : Nat} {token : String}
    {tokens : AuthService.AuthTokens}
    (hbegan : Event.began tid (refreshWith token) ∈ w.server.trace)
    (hresponse : response w.server tid = some (.ok (.tokens tokens))) :
    Issues tid tokens.refreshToken w.server.trace := by
  obtain ⟨tokens', heq, hrenewed⟩ := h.renewed hbegan hresponse
  cases heq
  obtain ⟨tokens'', record, user, row, tokenHash, expiresAt, heq, -, -, -, hissued⟩ := hrenewed
  cases heq
  obtain ⟨hhash, -, -⟩ := (h.answers_own tid _ hissued).shows
  exact ⟨row, mem_issuedBy.mpr ⟨_, mem_own.mp hissued, rfl⟩, hhash⟩

end

/-! ## Tokens in flight -/

/-- The token has been issued, and has not reached the browser yet. -/
structure Undelivered (w : Session n) (token : String) : Prop where
  active : Unrevoked token w.server.store
  unused : ∀ tid, ¬ Event.began tid (refreshWith token) ∈ w.server.trace
  held : w.cookie ≠ some token

section

variable {cfg : AppConfig} {verify : String → Option JwtAccessPayload} {t : Millis} {s : Store}
  {w w' : Session n} {tid tid' : Nat} {o : Ambient} {token : String}

/-- A token that is not of the thread's own refresh stays unrevoked. -/
theorem Unrevoked.serve (h : Unrevoked token w.server.store) (hfit : Fit cfg verify t s w)
    (hnext : (system n cfg verify).next w (.serve tid o) = some w')
    (hbegan : ¬ Event.began tid (refreshWith token) ∈ w.server.trace) :
    Unrevoked token w'.server.store := by
  obtain ⟨q, c, k, hth, rfl⟩ := serve_cases hnext
  refine h.exec o c fun hrevokes => hbegan ?_
  rw [← hfit.revokes_own hth hrevokes]
  exact (hfit.recorded (session_path cfg)).began tid _ hth

theorem Undelivered.serve (h : Undelivered w token) (hfit : Fit cfg verify t s w)
    (hnext : (system n cfg verify).next w (.serve tid o) = some w') : Undelivered w' token := by
  have hactive := h.active.serve hfit hnext (h.unused tid)
  obtain ⟨q, c, k, hth, rfl⟩ := serve_cases hnext
  refine ⟨hactive, ?_, h.held⟩
  intro tid' hmem
  rcases List.mem_cons.mp hmem with heq | hmem
  · cases heq
  · exact h.unused tid' hmem

/-- A new row is unrevoked, and its digest was not there. -/
theorem unrevoked_of_created {c : Cmd} {st : Store} {row : RefreshToken}
    (hcreated : created ⟨c, (exec o c st).1⟩ = some row)
    (hhash : row.tokenHash = AuthService.hashRefreshToken token) :
    Unrevoked token (exec o c st).2 ∧
      ∀ r ∈ st.refreshTokens, r.tokenHash ≠ AuthService.hashRefreshToken token := by
  obtain ⟨userId, hash, expiresAt, heq⟩ := created_cases hcreated
  obtain ⟨rfl, hok⟩ := Sigma.mk.inj_iff.mp heq
  have hins := createToken_inserted (eq_of_heq hok)
  refine ⟨⟨row, (hins.mem row).mpr (.inr rfl), hhash, hins.active⟩, ?_⟩
  rw [← hhash, hins.tokenHash]
  exact hins.fresh

/-- A token this statement has issued: by its thread, and new. -/
theorem Issues.served (h : Issues tid' token w'.server.trace)
    (hnew : ¬ Issues tid' token w.server.trace)
    (hnext : (system n cfg verify).next w (.serve tid o) = some w') :
    tid' = tid ∧ Unrevoked token w'.server.store ∧
      ∀ r ∈ w.server.store.refreshTokens, r.tokenHash ≠ AuthService.hashRefreshToken token := by
  obtain ⟨q, c, k, hth, rfl⟩ := serve_cases hnext
  rcases h.did_cases with hold | ⟨htid, row, hcreated, hhash⟩
  · exact absurd hold hnew
  · exact ⟨htid, unrevoked_of_created hcreated hhash⟩

/-- Nobody can know a new token. -/
theorem Undelivered.of_served (hfit : Fit cfg verify t s w)
    (hnext : (system n cfg verify).next w (.serve tid o) = some w')
    (h : Issues tid' token w'.server.trace) (hnew : ¬ Issues tid' token w.server.trace) :
    Undelivered w' token := by
  obtain ⟨-, hactive, hfresh⟩ := h.served hnew hnext
  obtain ⟨q, c, k, hth, rfl⟩ := serve_cases hnext
  refine ⟨hactive, ?_, ?_⟩
  · intro tid'' hmem
    rcases List.mem_cons.mp hmem with heq | hmem
    · cases heq
    · rcases hfit.began tid'' _ hmem with ⟨token', heq, -, r, hr, hr', -⟩ | ⟨q₀, user, heq, hpage, -⟩
      · cases heq
        exact hfresh r hr hr'
      · exact Request.withUser_ne_refresh hpage heq.symm
  · intro hcookie
    obtain ⟨token', hcookie', -, r, hr, hr', -⟩ := hfit.cookie
    cases hcookie.symm.trans hcookie'
    exact hfresh r hr hr'

end

/-- The browser's tokens: no two requests wait for one refresh, a refresh in
progress is waited for, and the cookie is unrevoked unless its own refresh is
waited for. -/
structure Unspent (w : Session n) : Prop where
  apart : ∀ i j tid, w.phase i = .refreshing tid → w.phase j = .refreshing tid → i = j
  caller : ∀ tid token c k, w.server.threads[tid]? = some ⟨refreshWith token, .call c k⟩ →
    ∃ i, w.phase i = .refreshing tid
  once : ∀ tid tid' token, Issues tid token w.server.trace → Issues tid' token w.server.trace →
    tid = tid'
  issued : ∀ i tid token, w.phase i = .refreshing tid → Issues tid token w.server.trace →
    Undelivered w token
  cookie : ∀ token, w.cookie = some token → Unrevoked token w.server.store ∨
    ∃ i tid, w.phase i = .refreshing tid ∧ Event.began tid (refreshWith token) ∈ w.server.trace

namespace Unspent

variable {cfg : AppConfig} {verify : String → Option JwtAccessPayload} {t : Millis} {s : Store}
  {w : Session n}

theorem start {accessToken cookie : Option String} {requests : Fin n → Request}
    (hcookie : ∀ token, cookie = some token → Unrevoked token s) :
    Unspent (Session.start s accessToken cookie requests) where
  apart := by intro i j tid h; cases h
  caller := by intro tid token c k h; simp [Session.start, Machine.start] at h
  once := by
    rintro tid tid' token ⟨row, hrow, -⟩
    cases hrow
  issued := by intro i tid token h; cases h
  cookie token htoken := .inl (hcookie token htoken)

/-! ### The server's statements -/

theorem serve_caller (h : Unspent w) {w' : Session n} {tid : Nat} {o : Ambient}
    (hnext : (system n cfg verify).next w (.serve tid o) = some w') :
    ∀ tid' token c k, w'.server.threads[tid']? = some ⟨refreshWith token, .call c k⟩ →
      ∃ i, w'.phase i = .refreshing tid' := by
  obtain ⟨q, c, k, hth, rfl⟩ := serve_cases hnext
  intro tid' token c' k' hth'
  by_cases htid : tid = tid'
  · subst htid
    rw [List.getElem?_set_self (List.getElem?_eq_some_iff.mp hth).1] at hth'
    have hq : q = refreshWith token := congrArg Thread.request (Option.some.inj hth')
    subst hq
    exact h.caller tid token c k hth
  · rw [List.getElem?_set_ne htid] at hth'
    exact h.caller tid' token c' k' hth'

/-- A new digest is of no token issued before. -/
theorem serve_once (h : Unspent w) (hfit : Fit cfg verify t s w) {w' : Session n} {tid : Nat}
    {o : Ambient} (hnext : (system n cfg verify).next w (.serve tid o) = some w') :
    ∀ tid₁ tid₂ token, Issues tid₁ token w'.server.trace → Issues tid₂ token w'.server.trace →
      tid₁ = tid₂ := by
  intro tid₁ tid₂ token h₁ h₂
  have new : ∀ {tid' tid''}, Issues tid' token w'.server.trace →
      ¬ Issues tid' token w.server.trace → ¬ Issues tid'' token w.server.trace := by
    intro tid' tid'' hissues hnew hold
    obtain ⟨r, hr, hhash⟩ := hfit.issued_row hold
    exact (hissues.served hnew hnext).2.2 r hr hhash
  by_cases hold₁ : Issues tid₁ token w.server.trace
  · by_cases hold₂ : Issues tid₂ token w.server.trace
    · exact h.once tid₁ tid₂ token hold₁ hold₂
    · exact absurd hold₁ (new h₂ hold₂)
  · have hold₂ : ¬ Issues tid₂ token w.server.trace := new h₁ hold₁
    exact (h₁.served hold₁ hnext).1.trans (h₂.served hold₂ hnext).1.symm

theorem serve (h : Unspent w) (hfit : Fit cfg verify t s w) {w' : Session n} {tid : Nat}
    {o : Ambient} (hnext : (system n cfg verify).next w (.serve tid o) = some w') :
    Unspent w' := by
  obtain ⟨hphase, hcookie, htrace⟩ : w'.phase = w.phase ∧ w'.cookie = w.cookie ∧
      ∀ ev ∈ w.server.trace, ev ∈ w'.server.trace := by
    obtain ⟨q, c, k, hth, rfl⟩ := serve_cases hnext
    exact ⟨rfl, rfl, fun _ hev => List.mem_cons_of_mem _ hev⟩
  refine ⟨?_, h.serve_caller hnext, h.serve_once hfit hnext, ?_, ?_⟩
  · rw [hphase]
    exact h.apart
  · intro i tid' token hi hissues
    rw [hphase] at hi
    by_cases hold : Issues tid' token w.server.trace
    · exact (h.issued i tid' token hi hold).serve hfit hnext
    · exact .of_served hfit hnext hissues hold
  · intro token htoken
    rw [hcookie] at htoken
    rw [hphase]
    rcases h.cookie token htoken with hactive | ⟨i, tid', hi, hbegan⟩
    · by_cases hbegan : Event.began tid (refreshWith token) ∈ w.server.trace
      · -- the statement is of the cookie's own refresh
        obtain ⟨q, c, k, hth, -⟩ := serve_cases hnext
        have hrec := hfit.recorded (session_path cfg)
        have hq : q = refreshWith token := hrec.request (hrec.began tid _ hth) hbegan
        subst hq
        obtain ⟨i, hi⟩ := h.caller tid token c k hth
        exact .inr ⟨i, tid, hi, htrace _ hbegan⟩
      · exact .inl (hactive.serve hfit hnext hbegan)
    · exact .inr ⟨i, tid', hi, htrace _ hbegan⟩

/-! ### The moves of a request -/

theorem setPhase_self (w : Session n) (i : Fin n) (phase : Phase) :
    (w.setPhase i phase).phase i = phase := Function.update_self ..

theorem setPhase_other {w : Session n} {i j : Fin n} (h : j ≠ i) (phase : Phase) :
    (w.setPhase i phase).phase j = w.phase j := Function.update_of_ne h ..

/-- Another request still waits for its refresh. -/
theorem waits_other {w : Session n} {i j : Fin n} {phase : Phase} {tid : Nat}
    (hnew : ∀ tid, phase ≠ .refreshing tid)
    (h : (w.setPhase i phase).phase j = .refreshing tid) :
    j ≠ i ∧ w.phase j = .refreshing tid := by
  by_cases hj : j = i
  · subst hj
    rw [setPhase_self] at h
    exact absurd h (hnew tid)
  · rw [setPhase_other hj] at h
    exact ⟨hj, h⟩

/-- Who waits goes on waiting. -/
theorem waits_kept {w : Session n} {i j : Fin n} {tid : Nat} (phase : Phase)
    (hold : ∀ tid, w.phase i ≠ .refreshing tid) (hj : w.phase j = .refreshing tid) :
    (w.setPhase i phase).phase j = .refreshing tid := by
  have hne : j ≠ i := by
    rintro rfl
    exact hold tid hj
  rw [setPhase_other hne, hj]

/-- A request moves on that waits for no refresh. -/
theorem setPhase (h : Unspent w) {i : Fin n} {phase : Phase}
    (hold : ∀ tid, w.phase i ≠ .refreshing tid) (hnew : ∀ tid, phase ≠ .refreshing tid) :
    Unspent (w.setPhase i phase) := by
  refine ⟨?_, ?_, h.once, ?_, ?_⟩
  · intro j j' tid hj hj'
    exact h.apart j j' tid (waits_other hnew hj).2 (waits_other hnew hj').2
  · intro tid token c k hth
    obtain ⟨j, hj⟩ := h.caller tid token c k hth
    exact ⟨j, waits_kept phase hold hj⟩
  · intro j tid token hj hissues
    have hold := h.issued j tid token (waits_other hnew hj).2 hissues
    exact ⟨hold.active, hold.unused, hold.held⟩
  · intro token htoken
    rcases h.cookie token htoken with hactive | ⟨j, tid, hj, hbegan⟩
    · exact .inl hactive
    · exact .inr ⟨j, tid, waits_kept phase hold hj, hbegan⟩

theorem withAccessToken (h : Unspent w) (accessToken : Option String) :
    Unspent { w with accessToken := accessToken } where
  apart := h.apart
  caller := h.caller
  once := h.once
  issued i tid token hphase hissues :=
    have hold := h.issued i tid token hphase hissues
    ⟨hold.active, hold.unused, hold.held⟩
  cookie := h.cookie

/-- A page's request is sent. -/
theorem fetch (h : Unspent w) {q : Request} (hq : ∀ token, q ≠ refreshWith token) :
    Unspent (w.fetch cfg q) := by
  refine ⟨h.apart, ?_, h.once, ?_, ?_⟩
  · intro tid token c k hth
    rcases fetch_thread hth with hth | ⟨-, heq⟩
    · exact h.caller tid token c k hth
    · exact absurd (congrArg Thread.request heq).symm (hq token)
  · intro i tid token hphase hissues
    have hold := h.issued i tid token hphase hissues
    refine ⟨hold.active, ?_, hold.held⟩
    intro tid' hmem
    rcases List.mem_cons.mp hmem with heq | hmem
    · cases heq
      exact hq token rfl
    · exact hold.unused tid' hmem
  · intro token htoken
    rcases h.cookie token htoken with hactive | ⟨i, tid, hphase, hbegan⟩
    · exact .inl hactive
    · exact .inr ⟨i, tid, hphase, List.mem_cons_of_mem _ hbegan⟩

/-- Nobody waits for a thread that has not begun. -/
theorem waits_fetched (hfit : Fit cfg verify t s w) {i j : Fin n} {tid : Nat} {q : Request}
    (h : ((w.fetch cfg q).setPhase i (.refreshing w.nextThread)).phase j = .refreshing tid) :
    (j = i ∧ tid = w.nextThread) ∨ (tid ≠ w.nextThread ∧ w.phase j = .refreshing tid) := by
  by_cases hji : j = i
  · subst hji
    rw [setPhase_self] at h
    cases h
    exact .inl ⟨rfl, rfl⟩
  · rw [setPhase_other hji] at h
    refine .inr ⟨?_, h⟩
    rintro rfl
    have hplace := hfit.place j
    rw [show w.phase j = .refreshing w.nextThread from h] at hplace
    obtain ⟨token, hbegan⟩ := hplace
    exact ((hfit.recorded (session_path cfg)).fresh w.nextThread (Nat.le_refl _)).2 _ hbegan

/-- `tryRefresh` begins with the browser's cookie. -/
theorem refreshes (h : Unspent w) (hfit : Fit cfg verify t s w) {i : Fin n}
    (hold : ∀ tid, w.phase i ≠ .refreshing tid) :
    Unspent ((w.fetch cfg w.refreshRequest).setPhase i (.refreshing w.nextThread)) := by
  have kept : ∀ {j tid}, w.phase j = .refreshing tid →
      ((w.fetch cfg w.refreshRequest).setPhase i (.refreshing w.nextThread)).phase j =
        .refreshing tid := waits_kept (.refreshing w.nextThread) hold
  refine ⟨?_, ?_, h.once, ?_, ?_⟩
  · intro j j' tid hj hj'
    rcases waits_fetched hfit hj with ⟨rfl, rfl⟩ | ⟨htid, hj⟩
    · rcases waits_fetched hfit hj' with ⟨rfl, -⟩ | ⟨htid', -⟩
      · rfl
      · exact absurd rfl htid'
    · rcases waits_fetched hfit hj' with ⟨-, rfl⟩ | ⟨-, hj'⟩
      · exact absurd rfl htid
      · exact h.apart j j' tid hj hj'
  · intro tid token c k hth
    rcases fetch_thread hth with hth | ⟨rfl, -⟩
    · obtain ⟨j, hj⟩ := h.caller tid token c k hth
      exact ⟨j, kept hj⟩
    · exact ⟨i, setPhase_self ..⟩
  · intro j tid token hj hissues
    rcases waits_fetched hfit hj with ⟨-, rfl⟩ | ⟨-, hj⟩
    · -- a thread that has just begun has issued nothing
      have hown := ((hfit.recorded (session_path cfg)).fresh w.nextThread (Nat.le_refl _)).1
      obtain ⟨row, hrow, -⟩ := hissues
      obtain ⟨e, he, -⟩ := mem_issuedBy.mp hrow
      have hmem := mem_own.mpr (List.mem_of_ne_of_mem (by simp) he)
      rw [hown] at hmem
      cases hmem
    · have hundelivered := h.issued j tid token hj hissues
      refine ⟨hundelivered.active, ?_, hundelivered.held⟩
      intro tid' hmem
      rcases List.mem_cons.mp hmem with heq | hmem
      · obtain ⟨token₀, hcookie, hrequest, -⟩ := hfit.refreshRequest_eq
        rw [hrequest] at heq
        cases heq
        exact hundelivered.held hcookie
      · exact hundelivered.unused tid' hmem
  · intro token htoken
    rcases h.cookie token htoken with hactive | ⟨j, tid, hj, hbegan⟩
    · exact .inl hactive
    · exact .inr ⟨j, tid, kept hj, List.mem_cons_of_mem _ hbegan⟩

/-- `tryRefresh` stores the new cookie. -/
theorem stores (h : Unspent w) (hfit : Fit cfg verify t s w) {i : Fin n} {tid : Nat}
    {tokens : AuthService.AuthTokens} (hphase : w.phase i = .refreshing tid)
    (hresponse : response w.server tid = some (.ok (.tokens tokens))) :
    Unspent ({ w with cookie := some tokens.refreshToken }.setPhase i
      (.answered tokens.accessToken)) := by
  have hplace := hfit.place i
  rw [hphase] at hplace
  obtain ⟨presented, hbegan⟩ := hplace
  have hissues := hfit.renewed_issues hbegan hresponse
  have hnew : ∀ tid, Phase.answered tokens.accessToken ≠ .refreshing tid := by simp
  refine ⟨?_, ?_, h.once, ?_, ?_⟩
  · intro j j' tid' hj hj'
    exact h.apart j j' tid' (waits_other hnew hj).2 (waits_other hnew hj').2
  · intro tid' token c k hth
    obtain ⟨j, hj⟩ := h.caller tid' token c k hth
    refine ⟨j, ?_⟩
    rw [setPhase_other ?_]
    · exact hj
    · -- the thread that answered is done
      rintro rfl
      obtain ⟨q, hdone⟩ := response_eq hresponse
      cases hphase.symm.trans hj
      cases hdone.symm.trans hth
  · intro j tid' token hj hissues'
    obtain ⟨hji, hj⟩ := waits_other hnew hj
    have hundelivered := h.issued j tid' token hj hissues'
    refine ⟨hundelivered.active, hundelivered.unused, ?_⟩
    intro heq
    cases heq
    cases h.once tid tid' _ hissues hissues'
    exact hji (h.apart j i tid hj hphase)
  · intro token htoken
    cases htoken
    exact .inl (h.issued i tid _ hphase hissues).active

theorem advance (h : Unspent w) (hfit : Fit cfg verify t s w) {w' : Session n} {i : Fin n}
    (hadvance : Advance cfg verify w i w') : Unspent w' := by
  cases hadvance with
  | @sends skipRefreshRetry hphase =>
      refine (h.fetch fun token => Request.withUser_ne_refresh (hfit.pages i)).setPhase ?_ (by simp)
      intro tid htid
      cases skipRefreshRetry <;> cases hphase.symm.trans htid
  | @refreshes tid r hphase hresponse hstatus =>
      refine h.refreshes hfit ?_
      rw [hphase]
      simp
  | @ends tid skipRefreshRetry r hphase hresponse hstatus =>
      refine h.setPhase ?_ (by simp)
      rw [hphase]
      simp
  | @stores tid tokens hphase hresponse => exact h.stores hfit hphase hresponse
  | @loses tid r hphase hresponse hr =>
      -- no refresh fails here
      have hplace := hfit.place i
      rw [hphase] at hplace
      obtain ⟨token, hbegan⟩ := hplace
      obtain ⟨tokens, heq, -⟩ := hfit.renewed hbegan hresponse
      exact absurd heq (hr tokens)
  | @renews accessToken hphase =>
      refine (h.withAccessToken (some accessToken)).setPhase ?_ (by simp)
      intro tid htid
      cases hphase.symm.trans htid

/-- **What one move keeps.** -/
theorem next (h : Unspent w) (hfit : Fit cfg verify t s w) {w' : Session n} {move : Move n}
    (hturn : w.inTurn cfg verify t move) (hnext : (system n cfg verify).next w move = some w') :
    Unspent w' := by
  cases move with
  | serve tid o => exact h.serve hfit hnext
  | advance i => exact h.advance hfit (advance_cases hnext)
  | throttle i =>
      have hthrottle : w.throttle i = some w' := hnext
      obtain ⟨rfl, -⟩ := hfit.throttle hturn.2 hthrottle
      refine h.setPhase ?_ (by simp)
      intro tid htid
      simp [Session.throttle, htid] at hthrottle

end Unspent

/-! ## Every run -/

section

variable {cfg : AppConfig} {verify : String → Option JwtAccessPayload} {t : Millis} {s : Store}
  {accessToken cookie : Option String} {requests : Fin n → Request} {w : Session n}

/-- **What every state of a run satisfies** in which every move is fair and
every refresh meets its token unrevoked. -/
theorem run_unspent (hpages : ∀ i, (requests i).ofPage = true)
    (hexpired : bearer verify accessToken = none)
    (halive : (Session.start s accessToken cookie requests).Alive t)
    (hr : (system n cfg verify).Run (Session.inTurn cfg verify t)
      (Session.start s accessToken cookie requests) w) :
    Fit cfg verify t s w ∧ Unspent w := by
  obtain ⟨token, rfl, hne, r, hmem, hhash, hactive, ht, hknown⟩ := halive
  refine Steps.Run.keeps (I := fun w => Fit cfg verify t s w ∧ Unspent w) ⟨?_, ?_⟩ ?_ hr
  · exact .start hpages hexpired ⟨token, rfl, hne, r, hmem, hhash, ht, hknown⟩
  · refine .start ?_
    intro token' htoken
    cases htoken
    exact ⟨r, hmem, hhash, hactive⟩
  · rintro w move w' ⟨hfit, hunspent⟩ hturn hnext
    exact ⟨hfit.next hturn hnext, hunspent.next hfit hturn hnext⟩

/-- **Parallel requests keep the session** in every run in which no refresh
meets its token revoked: once all have completed, the cookie is live and none
has ended in a 401. -/
theorem parallel_requests_keep_session (hpages : ∀ i, (requests i).ofPage = true)
    (hexpired : bearer verify accessToken = none)
    (halive : (Session.start s accessToken cookie requests).Alive t)
    (hr : (system n cfg verify).Run (Session.inTurn cfg verify t)
      (Session.start s accessToken cookie requests) w) : w.StaysLoggedIn t := by
  obtain ⟨hfit, hunspent⟩ := run_unspent hpages hexpired halive hr
  intro hcompleted
  refine ⟨?_, ?_⟩
  · obtain ⟨token, hcookie, hne, r, hr, hhash, ht, hknown⟩ := hfit.cookie
    rcases hunspent.cookie token hcookie with ⟨r', hr', hhash', hactive⟩ | ⟨i, tid, hphase, -⟩
    · have hrr : r = r' := refreshTokens_eq_of_hash hr hr' (hhash.trans hhash'.symm)
      exact ⟨token, hcookie, hne, r, hr, hhash, by rw [hrr]; exact hactive, ht, hknown⟩
    · -- somebody would still wait
      have hi := hcompleted i
      rw [hphase] at hi
      cases hi
  · intro i h401
    have hplace := hfit.place i
    rw [h401] at hplace
    exact hplace rfl

end

/-! ## The billing page -/

/-- `sampleUser` with one refresh token. -/
def sampleSignedIn : Store :=
  { Store.empty with
    users := ⟨[{ id := "user-1", email := "amina@example.com", passwordHash := "bcrypt-1",
                 role := .USER }], by decide⟩
    refreshTokens := ⟨[{ id := "rt-1", userId := "user-1", tokenHash := .sha256 "token-1",
                         expiresAt := 1000000, revokedAt := none }], by decide⟩ }

def sampleVerify : String → Option JwtAccessPayload := fun token =>
  [("access-1", sampleUser), ("access-2", sampleUser)].lookup token

/-- `BillingPage` asks for the subscription and the history at once, with an
access token that has expired. -/
def sampleBilling : Session 2 :=
  .start sampleSignedIn (some "access-0") (some "token-1") fun i =>
    if i = 0 then .subscriptionStatus none else .history none

/-- The statements of a refresh that is accepted. -/
def sampleRenewal (tid : Nat) (access token row : String) : List (Move 2) :=
  [.serve tid (.quiet 1000), .serve tid (.quiet 1001), .serve tid (.quiet 1002),
    .serve tid (.quiet 1003), .serve tid ((Ambient.quiet 1004).generating access),
    .serve tid ((Ambient.quiet 1005).generating token), .serve tid (.quiet 1006),
    .serve tid ((Ambient.quiet 1007).generating row)]

theorem sampleBilling_alive : sampleBilling.Alive 900000 :=
  ⟨"token-1", rfl, by decide, _, List.mem_cons_self, rfl, rfl, by decide, _, List.mem_cons_self,
    rfl⟩

theorem sampleBilling_pages : ∀ i, (sampleBilling.requests i).ofPage = true := by decide

/-- The second refresh begins when the first one's cookie is stored. -/
theorem parallel_requests_keep_session_sample :
    ∃ w : Session 2, w.Completed ∧ w.Alive 900000 ∧ ∀ i, w.phase i ≠ .ended (some 401) := by
  obtain ⟨w, hr, hw⟩ := Steps.exists_run_of_replay
    (m := system 2 sampleConfig sampleVerify) (a := sampleBilling)
    (Session.inTurn sampleConfig sampleVerify 900000)
    ([.advance 0, .advance 1, .advance 0] ++ sampleRenewal 2 "access-1" "token-2" "rt-2" ++
      [.advance 0, .advance 1, .advance 0] ++ sampleRenewal 3 "access-2" "token-3" "rt-3" ++
      [.advance 1, .advance 1, .advance 0, .advance 1, .serve 4 (.quiet 1010),
        .serve 5 (.quiet 1011), .advance 0, .advance 1])
    (fun w => decide w.Completed) (by decide +kernel)
  have hcompleted : w.Completed := of_decide_eq_true hw
  have hstays := parallel_requests_keep_session sampleBilling_pages (by decide) sampleBilling_alive hr
  exact ⟨w, hcompleted, hstays hcompleted⟩

/-- Both refreshes are sent before the first one's response is there: the
second is taken for theft, ends in a 401 and leaves the new cookie revoked. -/
theorem parallel_refreshes_end_session :
    ∃ w : Session 2, (system 2 sampleConfig sampleVerify).Run
        (Session.fairly sampleConfig sampleVerify 900000) sampleBilling w ∧
      sampleBilling.Alive 900000 ∧ bearer sampleVerify sampleBilling.accessToken = none ∧
      w.Completed ∧ w.phase 1 = .ended (some 401) ∧ ¬ w.Alive 900000 ∧
      ¬ w.StaysLoggedIn 900000 := by
  obtain ⟨w, hr, hw⟩ := Steps.exists_run_of_replay
    (m := system 2 sampleConfig sampleVerify) (a := sampleBilling)
    (Session.fairly sampleConfig sampleVerify 900000)
    ([.advance 0, .advance 1, .advance 0, .advance 1] ++
      sampleRenewal 2 "access-1" "token-2" "rt-2" ++
      [.advance 0, .advance 0, .advance 0, .serve 4 (.quiet 1008), .advance 0,
        .serve 3 (.quiet 1009), .serve 3 (.quiet 1010), .serve 3 (.quiet 1011), .advance 1])
    (fun w => decide w.Completed && decide (w.phase 1 = .ended (some 401)) &&
      w.server.store.refreshTokens.rows.all fun r => r.revokedAt.isSome) (by decide +kernel)
  simp only [Bool.and_eq_true, decide_eq_true_eq, List.all_eq_true] at hw
  obtain ⟨⟨hcompleted, hended⟩, hrevoked⟩ := hw
  have hdead : ¬ w.Alive 900000 := by
    rintro ⟨token, -, -, r, hr, -, hactive, -⟩
    have hr' := hrevoked r hr
    rw [hactive] at hr'
    cases hr'
  exact ⟨w, hr, sampleBilling_alive, by decide, hcompleted, hended, hdead,
    fun hstays => hdead (hstays hcompleted).1⟩

end ApiClient

end StreamingService
