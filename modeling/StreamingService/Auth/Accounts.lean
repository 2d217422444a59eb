import StreamingService.Auth.Atomicity
import StreamingService.Media.Source
import StreamingService.Reach
import StreamingService.Retention

/-!
# Auth — Accounts

Who an access token speaks for. Nothing but the session operations signs a
token, each after it has been answered the user's row, and no statement
rewrites or deletes a user. So what a token says of its user stays true, and
a request that brings one is never told that the user is unknown.
-/

namespace StreamingService

open Lib

/-! ## Tokens and their users -/

/-- What an access token says of its user. -/
def User.payload (u : User) : JwtAccessPayload := { sub := u.id, email := u.email, role := u.role }

/-- The access token an entry has signed. -/
def signedPayload : Prog.Entry Sig → Option JwtAccessPayload
  | ⟨.service (.signJwt payload), .ok _⟩ => some payload
  | _ => none

/-- The row an entry of a session operation was answered. -/
def userAnswer : Prog.Entry Sig → Option User
  | ⟨.account (.createUser _ _), .ok user⟩ => some user
  | ⟨.account (.findUserByEmail _), .ok (some user)⟩ => some user
  | ⟨.account (.findToken _), .ok (some (_, user))⟩ => some user
  | _ => none

/-- The access token a request comes with. -/
def Request.bearer : Request → Option JwtAccessPayload
  | .me user | .initiateMpesa user _ | .initiateBankGateway user | .paymentStatus user _ => user
  | .history user | .subscriptionStatus user | .playbackUrl user _ => user
  | q => q.admin.join

/-- The access token was signed by the backend. -/
def genuine (tr : Trace) (user : JwtAccessPayload) : Bool :=
  tr.any fun ev =>
    match ev with
    | .began _ _ => false
    | .did _ e => signedPayload e == some user

theorem genuine_iff {tr : Trace} {user : JwtAccessPayload} :
    genuine tr user = true ↔ ∃ tid e, Event.did tid e ∈ tr ∧ signedPayload e = some user := by
  unfold genuine
  rw [List.any_eq_true]
  constructor
  · rintro ⟨ev, hev, h⟩
    cases ev with
    | began tid q => cases h
    | did tid e => exact ⟨tid, e, hev, beq_iff_eq.mp h⟩
  · rintro ⟨tid, e, hev, h⟩
    exact ⟨.did tid e, hev, beq_iff_eq.mpr h⟩

/-- Nobody but the backend signs: an access token that a request comes with
was issued, and a job is one the queue was given. -/
def authentic (sys : AppState) : Action Ambient Request → Prop
  | .begin q => (∀ user ∈ q.bearer, genuine sys.trace user = true) ∧
      ∀ job ∈ q.job, job ∈ sys.store.transcodeQueue
  | .step _ _ => True

/-- The same, and what fails outside throws none of Nest's exceptions. -/
def honest (sys : AppState) (act : Action Ambient Request) : Prop :=
  authentic sys act ∧
    match act with
    | .begin _ => True
    | .step _ o => o.Foreign

instance (sys : AppState) (act : Action Ambient Request) : Decidable (authentic sys act) := by
  cases act with
  | begin q =>
      exact inferInstanceAs (Decidable ((∀ user ∈ q.bearer, genuine sys.trace user = true) ∧
        ∀ job ∈ q.job, job ∈ sys.store.transcodeQueue))
  | step tid o => exact inferInstanceAs (Decidable True)

instance (sys : AppState) (act : Action Ambient Request) : Decidable (honest sys act) := by
  cases act with
  | begin q => exact inferInstanceAs (Decidable (authentic sys (.begin q) ∧ True))
  | step tid o => exact inferInstanceAs (Decidable (authentic sys (.step tid o) ∧ o.Foreign))

/-! ## Signing -/

section

variable {h : List (Prog.Entry Sig)}

/-- What is signed speaks for a user whose row the thread was answered. -/
def SignStep (h : List (Prog.Entry Sig)) (e : Prog.Entry Sig) : Prop :=
  ∀ user ∈ signedPayload e, ∃ e' ∈ h, ∃ u ∈ userAnswer e', u.payload = user

theorem SignStep.of_quiet {e : Prog.Entry Sig} (he : signedPayload e = none) : SignStep h e := by
  intro user huser
  rw [he] at huser
  cases huser

/-- The requests that open no session sign nothing. -/
theorem Reaches.signs_nothing {q : Request} {e : Prog.Entry Sig} (h : Reaches q e.1)
    (hq : q.opensSession = false) : signedPayload e = none := by
  obtain ⟨c, r⟩ := e
  cases hsigned : signedPayload ⟨c, r⟩ with
  | none => rfl
  | some payload =>
      unfold signedPayload at hsigned
      split at hsigned
      · rename_i heq
        obtain ⟨rfl, -⟩ := Sigma.mk.inj_iff.mp heq
        cases q <;> first
          | exact Bool.noConfusion hq
          | simp [Reaches, Request.reach, Cmd.initiates, Cmd.ofDelivery, Cmd.ofSweep,
              Cmd.asksStatus, Cmd.signsAsset, Cmd.ofWorkDir, Request.administers] at h
      · cases hsigned

open AuthService in
theorem issueTokens_signs (cfg : AppConfig) {u : User} {x : Prog.Entry Sig} (hx : x ∈ h)
    (hu : userAnswer x = some u) :
    (issueTokens cfg u.id u.email u.role).Emits SignStep (fun _ _ => True) h := by
  have signed : ∀ r, SignStep h ⟨.service (.signJwt u.payload), r⟩ := by
    intro r user huser
    cases r with
    | ok token =>
        cases huser
        exact ⟨x, hx, u, hu, rfl⟩
    | error e => cases huser
  refine .perform_bind (fun accessToken => ⟨signed _, ?_⟩) fun e => ⟨signed _, trivial⟩
  refine .perform_bind (fun refreshToken => ⟨.of_quiet rfl, ?_⟩) fun e => ⟨.of_quiet rfl, trivial⟩
  refine .perform_bind (fun instant => ⟨.of_quiet rfl, ?_⟩) fun e => ⟨.of_quiet rfl, trivial⟩
  exact .perform_bind (fun row => ⟨.of_quiet rfl, trivial⟩) fun e => ⟨.of_quiet rfl, trivial⟩

open AuthService in
theorem register_signs (cfg : AppConfig) (email password : String) :
    (register cfg email password).Emits SignStep (fun _ _ => True) [] := by
  refine .perform_bind (fun existing => ⟨.of_quiet rfl, ?_⟩) fun e => ⟨.of_quiet rfl, trivial⟩
  refine .ite (fun _ => trivial) fun _ => ?_
  refine .perform_bind (fun passwordHash => ⟨.of_quiet rfl, ?_⟩) fun e => ⟨.of_quiet rfl, trivial⟩
  refine .perform_bind (fun user => ⟨.of_quiet rfl, ?_⟩) fun e => ⟨.of_quiet rfl, trivial⟩
  exact .bind (issueTokens_signs cfg List.mem_cons_self rfl) (fun _ _ _ => trivial)
    fun _ _ _ => trivial

open AuthService in
theorem login_signs (cfg : AppConfig) (email password : String) :
    (login cfg email password).Emits SignStep (fun _ _ => True) [] := by
  refine .perform_bind (fun user => ⟨.of_quiet rfl, ?_⟩) fun e => ⟨.of_quiet rfl, trivial⟩
  cases user with
  | none => trivial
  | some user =>
      refine .perform_bind (fun passwordMatches => ⟨.of_quiet rfl, ?_⟩)
        fun e => ⟨.of_quiet rfl, trivial⟩
      refine .ite (fun _ => trivial) fun _ => ?_
      refine .bind (issueTokens_signs cfg (x := ⟨.account (.findUserByEmail email), .ok (some user)⟩)
        ?_ rfl) (fun _ _ _ => trivial) fun _ _ _ => trivial
      exact List.mem_cons_of_mem _ List.mem_cons_self

open AuthService in
theorem refresh_signs (cfg : AppConfig) (token : String) :
    (refresh cfg token).Emits SignStep (fun _ _ => True) [] := by
  refine .perform_bind (fun found => ⟨.of_quiet rfl, ?_⟩) fun e => ⟨.of_quiet rfl, trivial⟩
  match found with
  | none => trivial
  | some (record, user) =>
      refine .ite (fun _ => ?_) fun _ => ?_
      · refine .perform_bind (fun revokedAt => ⟨.of_quiet rfl, ?_⟩) fun e => ⟨.of_quiet rfl, trivial⟩
        exact .perform_bind (fun _ => ⟨.of_quiet rfl, trivial⟩) fun e => ⟨.of_quiet rfl, trivial⟩
      · refine .perform_bind (fun (instant : Millis) => ⟨.of_quiet rfl, ?_⟩)
          fun e => ⟨.of_quiet rfl, trivial⟩
        refine .ite (fun _ => trivial) fun _ => ?_
        refine .perform_bind (fun revokedAt => ⟨.of_quiet rfl, ?_⟩) fun e => ⟨.of_quiet rfl, trivial⟩
        refine .perform_bind (fun _ => ⟨.of_quiet rfl, ?_⟩) fun e => ⟨.of_quiet rfl, trivial⟩
        -- the row came with the presented token, three statements before
        refine issueTokens_signs cfg (x := ⟨.account (.findToken (hashRefreshToken token)),
          .ok (some (record, user))⟩) ?_ rfl
        simp

/-- **Every request signs for the user it was answered only.** -/
theorem handle_signs (cfg : AppConfig) (q : Request) :
    (handle cfg q).Emits SignStep (fun _ _ => True) [] := by
  cases hq : q.opensSession with
  | false =>
      exact .of_calls (handle_reaches cfg q) (fun _ _ hc => .of_quiet (hc.signs_nothing hq))
        fun _ _ => trivial
  | true =>
      cases q with
      | register email password =>
          exact .bind (register_signs cfg email password) (fun _ _ _ => trivial) fun _ _ _ => trivial
      | login email password =>
          exact .bind (login_signs cfg email password) (fun _ _ _ => trivial) fun _ _ _ => trivial
      | refresh presented =>
          have rotated : (AuthController.refresh cfg presented).Emits SignStep
              (fun _ _ => True) [] := by
            unfold AuthController.refresh
            refine .ite (fun _ => trivial) fun _ => ?_
            exact .ofExcept_bind (fun token _ => refresh_signs cfg token) fun _ _ => trivial
          exact .bind rotated (fun _ _ _ => trivial) fun _ _ _ => trivial
      | _ => exact Bool.noConfusion hq

end

/-! ## Rows that stay -/

theorem exec_keeps_users (o : Ambient) (c : Cmd) {s : Store} {u : User} (hu : u ∈ s.users) :
    u ∈ (exec o c s).2.users := by
  obtain ⟨u', hu', rfl⟩ := (users_grow o c s).mem hu
  exact hu'

/-- An answered row is stored. -/
theorem exec_userAnswer (o : Ambient) (c : Cmd) (s : Store) :
    ∀ u ∈ userAnswer ⟨c, (exec o c s).1⟩, u ∈ (exec o c s).2.users := by
  intro u hu
  unfold userAnswer at hu
  split at hu
  · -- the row of an accepted insert
    rename_i email passwordHash user heq
    have hrows := Table.grows_eq_iff.mp (users_grow o c s)
    obtain ⟨rfl, hok⟩ := Sigma.mk.inj_iff.mp heq
    rw [eq_of_heq hok] at hrows
    cases hu
    rw [← Table.mem_rows, hrows]
    exact List.mem_append_right _ List.mem_cons_self
  · rename_i email user heq
    obtain ⟨rfl, hok⟩ := Sigma.mk.inj_iff.mp heq
    have hok := eq_of_heq hok
    cases hu
    have hanswer := exec_of_ok hok
    rw [hanswer] at hok ⊢
    exact (Table.mem_of_find? (Except.ok.inj hok)).1
  · rename_i tokenHash record user heq
    obtain ⟨rfl, hok⟩ := Sigma.mk.inj_iff.mp heq
    have hok := eq_of_heq hok
    cases hu
    have hanswer := exec_of_ok hok
    rw [hanswer, findToken_answer] at hok ⊢
    obtain ⟨r, -, hr⟩ := Option.bind_eq_some_iff.mp (Except.ok.inj hok)
    obtain ⟨u', hu', heq⟩ := Option.map_eq_some_iff.mp hr
    cases heq
    exact (Table.mem_of_find? hu').1
  · cases hu

section

variable {cfg : AppConfig} {ok : AppState → Action Ambient Request → Prop} {s : Store} {b : AppState}

theorem answered_stored (hr : (app cfg).Run ok (Machine.start s) b) {tid : Nat}
    {e : Prog.Entry Sig} (he : Event.did tid e ∈ b.trace) {u : User} (hu : userAnswer e = some u) :
    u ∈ b.store.users :=
  Machine.Run.answers (m := app cfg) (K := fun s e => ∀ u ∈ userAnswer e, u ∈ s.users)
    exec_userAnswer (fun o c _ _ h u hu => exec_keeps_users o c (h u hu)) hr tid e he u hu

/-- **What a token says stays true**: its user is stored, with the token's email
and role. -/
theorem signed_stored (hr : (app cfg).Run ok (Machine.start s) b) {user : JwtAccessPayload}
    (hsigned : genuine b.trace user = true) : ∃ u ∈ b.store.users, u.payload = user := by
  obtain ⟨tid, e, he, hsigned⟩ := genuine_iff.mp hsigned
  have hrec := Machine.Run.emits (P := fun _ => SignStep) (R := fun _ _ _ => True)
    (fun q => handle_signs cfg q) hr
  obtain ⟨q, hq⟩ := hrec.did_began he
  obtain ⟨post, pre, htr⟩ := List.append_of_mem he
  obtain ⟨e', he', u, hu, hpayload⟩ := hrec.at_split hq htr user hsigned
  have hdid : Event.did tid e' ∈ b.trace := by
    rw [htr]
    exact List.mem_append_right _ (List.mem_cons_of_mem _ (mem_own.mp he'))
  exact ⟨u, answered_stored hr hdid hu, hpayload⟩

theorem genuine_mono {tr tr' : Trace} (hsub : ∀ ev ∈ tr, ev ∈ tr') {user : JwtAccessPayload}
    (h : genuine tr user = true) : genuine tr' user = true := by
  obtain ⟨tid, e, he, hsigned⟩ := genuine_iff.mp h
  exact genuine_iff.mpr ⟨tid, e, hsub _ he, hsigned⟩

/-- The access token of every request was signed before. -/
theorem bearer_genuine (hok : ∀ sys act, ok sys act → authentic sys act)
    (hr : (app cfg).Run ok (Machine.start s) b) : ∀ tid q, Event.began tid q ∈ b.trace →
      ∀ user ∈ q.bearer, genuine b.trace user = true := by
  refine Machine.Run.keeps_along (m := app cfg) (P := fun _ _ _ => True) (R := fun _ _ _ => True)
    (I := fun _ tr => ∀ tid q, Event.began tid q ∈ tr → ∀ user ∈ q.bearer, genuine tr user = true)
    (fun q => .always _ _) ?_ ?_ (fun _ _ hmem => absurd hmem List.not_mem_nil) hr
  · intro sys q _ h hbegin tid q' hmem user huser
    refine genuine_mono (fun _ => List.mem_cons_of_mem _) ?_
    rcases List.mem_cons.mp hmem with heq | hmem
    · cases heq
      exact (hok _ _ hbegin).1 user huser
    · exact h tid q' hmem user huser
  · intro sys tid o q c k _ h _ _ _ t q' hmem user huser
    refine genuine_mono (fun _ => List.mem_cons_of_mem _) ?_
    rcases List.mem_cons.mp hmem with heq | hmem
    · cases heq
    · exact h t q' hmem user huser

/-- **The bearer of every request is a stored user.** -/
theorem bearer_stored (hok : ∀ sys act, ok sys act → authentic sys act)
    (hr : (app cfg).Run ok (Machine.start s) b) {tid : Nat} {q : Request}
    (hq : Event.began tid q ∈ b.trace) {user : JwtAccessPayload} (huser : q.bearer = some user) :
    ∃ u ∈ b.store.users, u.payload = user :=
  signed_stored hr (bearer_genuine hok hr tid q hq user huser)

end

/-! ## The profile -/

section

variable {cfg : AppConfig} {s : Store} {b : AppState}

/-- The profile is the row that was looked up, and an error is the statement's. -/
def MeEnd (userId : String) (r : Except Exception Reply) (h : List (Prog.Entry Sig)) : Prop :=
  (∃ found active t, (⟨.account (.findUserWithActive userId), .ok (some (found, active))⟩ :
      Prog.Entry Sig) ∈ h ∧ r = .ok (.profile (AuthService.toPublicUser found) t)) ∨
  (⟨.account (.findUserWithActive userId), .ok none⟩ : Prog.Entry Sig) ∈ h ∨
  ∃ (c : Cmd) (e : Exception), (⟨c, .error e⟩ : Prog.Entry Sig) ∈ h ∧ r = .error e

theorem getMe_ends (userId : String) : (AuthService.getMe userId).Emits (fun _ _ => True)
    (fun r h => MeEnd userId (r.map fun me => Reply.profile me.1 me.2) h) [] := by
  refine .perform_bind (fun found => ⟨trivial, ?_⟩) fun e => ⟨trivial, ?_⟩
  · match found with
    | none => exact .inr (.inl List.mem_cons_self)
    | some (found, none) => exact .inl ⟨found, none, none, List.mem_cons_self, rfl⟩
    | some (found, some latest) =>
        refine .perform_bind (fun instant => ⟨trivial, ?_⟩) fun e => ⟨trivial, ?_⟩
        · exact .inl ⟨found, some latest, _, by simp, rfl⟩
        · exact .inr (.inr ⟨_, e, List.mem_cons_self, rfl⟩)
  · exact .inr (.inr ⟨_, e, List.mem_cons_self, rfl⟩)

/-- What the profile of a bearer ends with. -/
theorem me_ends (cfg : AppConfig) (q : Request) : (handle cfg q).Emits (fun _ _ => True)
    (fun r h => ∀ user, q = .me (some user) → MeEnd user.sub r h) [] := by
  by_cases hq : ∃ user, q = .me (some user)
  · obtain ⟨user, rfl⟩ := hq
    refine emits_guard (.bind (getMe_ends user.sub) ?_ ?_)
    · rintro me h hend _ ⟨⟩
      exact hend
    · rintro e h hend _ ⟨⟩
      exact hend
  · refine (Prog.Emits.always _ _).mono (fun _ _ _ => trivial) fun r h _ user huser => ?_
    exact absurd ⟨user, huser⟩ hq

/-- When nothing outside throws one of Nest's exceptions, no statement fails with one. -/
theorem foreign_errors {ok : AppState → Action Ambient Request → Prop}
    (hok : ∀ sys tid o, ok sys (.step tid o) → o.Foreign)
    (hr : (app cfg).Run ok (Machine.start s) b) :
    ∀ tid (c : Cmd) (e : Exception), Event.did tid ⟨c, .error e⟩ ∈ b.trace → e.isHttp = false := by
  refine Machine.Run.keeps (m := app cfg) (I := fun _ tr => ∀ (tid : Nat) (c : Cmd) (e : Exception),
    Event.did tid ⟨c, .error e⟩ ∈ tr → e.isHttp = false) ?_ ?_
    (fun _ _ _ hmem => absurd hmem List.not_mem_nil) hr
  · intro s tr tid q h t c e hmem
    rcases List.mem_cons.mp hmem with heq | hmem
    · cases heq
    · exact h t c e hmem
  · intro sys tid o c h hstep _ t c' e hmem
    rcases List.mem_cons.mp hmem with heq | hmem
    · injection heq with _ heq
      obtain ⟨rfl, herr⟩ := Sigma.mk.inj_iff.mp heq
      exact exec_foreign (hok sys tid o hstep) (eq_of_heq herr).symm
    · exact h t c' e hmem

/-- The bearer's row is found. -/
theorem bearer_found (hr : (app cfg).Run honest (Machine.start s) b) {tid : Nat} {q : Request}
    (hq : Event.began tid q ∈ b.trace) {user : JwtAccessPayload} (huser : q.bearer = some user)
    {found : Option (User × Option Subscription)}
    (he : Event.did tid (⟨.account (.findUserWithActive user.sub), .ok found⟩ : Prog.Entry Sig) ∈
      b.trace) :
    ∃ u active, found = some (u, active) ∧ u.payload = user := by
  obtain ⟨post, pre, htr⟩ := List.append_of_mem he
  have hrec := Machine.Run.emits (P := fun _ _ _ => True) (R := fun _ _ _ => True)
    (fun q => .always _ _) hr
  -- the request was begun before the statement, with the token it still has
  have hbegan : Event.began tid q ∈ pre := by
    have hpast := hrec.past
    rw [htr] at hpast
    obtain ⟨q', hq', -⟩ := hpast.split
    have hq'' : Event.began tid q' ∈ b.trace := by
      rw [htr]
      exact List.mem_append_right _ (List.mem_cons_of_mem _ hq')
    rwa [hrec.request hq hq'']
  obtain ⟨a, o, c, a', ha, hpre, -, -, heq, -, -, -⟩ := hr.cut htr
  rw [← hpre] at hbegan
  obtain ⟨u, hu, hpayload⟩ := bearer_stored (fun _ _ h => h.1) ha hbegan huser
  obtain ⟨rfl, hans⟩ := Sigma.mk.inj_iff.mp heq
  have hans := eq_of_heq hans
  have hfound : a.store.users.find? (fun x => x.id == user.sub) = some u :=
    users_find? hu (by rw [← hpayload]; rfl)
  have hok : (exec o (.account (.findUserWithActive user.sub)) a.store).1 = .ok found := hans.symm
  rw [exec_of_ok hok] at hok
  simp only [answer, AccountStmt.answer, hfound, Option.map_some] at hok
  exact ⟨u, _, (Except.ok.inj hok).symm, hpayload⟩

/-- **An access token's user is known for good**: the bearer of every request of
an honest run is a stored user with the token's email and role, and the profile
shows that user; it never answers 401. -/
theorem bearers_are_known (hr : (app cfg).Run honest (Machine.start s) b) :
    (∀ (tid : Nat) (q : Request) user, Event.began tid q ∈ b.trace → q.bearer = some user →
      ∃ u ∈ b.store.users, u.payload = user) ∧
    ∀ (tid : Nat) (user : JwtAccessPayload) (r : Except Exception Reply),
      b.threads[tid]? = some ⟨.me (some user), .done r⟩ →
      (∃ activeUntil, r = .ok (.profile ⟨user.sub, user.email, user.role⟩ activeUntil)) ∨
        ∃ e, r = .error e ∧ e.isHttp = false := by
  refine ⟨fun tid q user hq huser => bearer_stored (fun _ _ h => h.1) hr hq huser, ?_⟩
  intro tid user r hth
  have hrec := Machine.Run.emits (P := fun _ _ _ => True)
    (R := fun q r h => ∀ user, q = .me (some user) → MeEnd user.sub r h)
    (me_ends cfg) hr
  have hbegan := hrec.began tid _ hth
  rcases hrec.emits tid _ hth user rfl with ⟨found, active, t, he, rfl⟩ | he | ⟨c, e, he, rfl⟩
  · obtain ⟨u, active', heq, hpayload⟩ := bearer_found hr hbegan rfl (mem_own.mp he)
    cases heq
    refine .inl ⟨t, ?_⟩
    rw [← hpayload]
    rfl
  · obtain ⟨u, active', heq, -⟩ := bearer_found hr hbegan rfl (mem_own.mp he)
    cases heq
  · exact .inr ⟨e, rfl, foreign_errors (fun _ _ _ h => h.2) hr tid c e (mem_own.mp he)⟩

/-- The thread has answered `sampleUser` with a profile. -/
def showsSample : Thread Sig Request Reply → Bool
  | ⟨.me (some user), .done (.ok _)⟩ => user == sampleUser
  | _ => false

theorem showsSample_eq {th : Thread Sig Request Reply} (h : showsSample th = true) :
    ∃ reply, th = ⟨.me (some sampleUser), .done (.ok reply)⟩ := by
  unfold showsSample at h
  split at h
  · rename_i user reply
    rw [beq_iff_eq.mp h]
    exact ⟨reply, rfl⟩
  · cases h

/-- `sampleUser` registers, and asks for the profile with the access token. -/
theorem bearers_are_known_sample : ∃ b : AppState, ∃ activeUntil,
    (∃ u ∈ b.store.users, u.payload = sampleUser) ∧
    b.threads[1]? = some ⟨.me (some sampleUser),
      .done (.ok (.profile ⟨"user-1", "amina@example.com", .USER⟩ activeUntil))⟩ := by
  obtain ⟨b, hr, hb⟩ := Machine.exists_run_of_replay (m := app sampleConfig)
    (a := Machine.start .empty) honest
    (sampleSession ++ [.begin (.me (some sampleUser)), .step 1 (.quiet 1000)])
    (fun b => b.threads[1]?.any showsSample) (by decide +kernel)
  obtain ⟨th, hth, hshows⟩ := (Option.any_eq_true _ _).mp hb
  obtain ⟨reply, rfl⟩ := showsSample_eq hshows
  have hknown := bearers_are_known hr
  have hbegan := (Machine.Run.emits (P := fun _ _ _ => True) (R := fun _ _ _ => True)
    (fun q => .always _ _) hr).began 1 _ hth
  refine ⟨b, ?_⟩
  rcases hknown.2 1 sampleUser _ hth with ⟨activeUntil, hreply⟩ | ⟨e, he, -⟩
  · rw [hreply] at hth
    exact ⟨activeUntil, hknown.1 1 _ sampleUser hbegan rfl, hth⟩
  · cases he

end

end StreamingService
