import StreamingService.Auth.Accounts
import StreamingService.Auth.SignIn

/-!
# Auth — Passwords

What a session proves. A password is kept only as what bcrypt made of it, and
every login asks bcrypt again. As long as bcrypt accepts a password against a
hash it has made only for the password it made it of (on the 72 bytes it
reads), whoever holds tokens of a user that was registered has presented the
password of the registration, however many refreshes ago.
-/

namespace StreamingService

open Lib

/-! ## bcrypt -/

/-- What bcrypt reads of a password. -/
def bcryptInput (password : String) : List UInt8 := password.toUTF8.data.toList.take 72

/-- A password and the hash that was made of it. -/
def hashing : Event Sig Request → Option (String × String)
  | .did _ ⟨.service (.bcryptHash password), .ok hash⟩ => some (password, hash)
  | _ => none

/-- A comparison is accepted for the password of the hash only, where bcrypt has
made the hash in this run. -/
def verifies (sys : AppState) : Action Ambient Request → Bool
  | .begin _ => true
  | .step tid o =>
      match sys.pending tid with
      | some (.service (.bcryptCompare password passwordHash)) =>
          !o.accepts || sys.trace.all fun ev =>
            (hashing ev).all fun made =>
              made.2 != passwordHash || bcryptInput made.1 == bcryptInput password
      | _ => true

def verified (sys : AppState) (act : Action Ambient Request) : Prop := verifies sys act = true

instance (sys : AppState) (act : Action Ambient Request) : Decidable (verified sys act) :=
  inferInstanceAs (Decidable (verifies sys act = true))

/-- An accepted password agrees with the one the hash was made of. -/
theorem verified_accepts {sys : AppState} {tid : Nat} {o : Ambient} {password hash : String}
    (h : verified sys (.step tid o))
    (hpend : sys.pending tid = some (.service (.bcryptCompare password hash)))
    (haccepts : o.accepts = true) {t : Nat} {password' : String}
    (hmade : Event.did t (⟨.service (.bcryptHash password'), .ok hash⟩ : Prog.Entry Sig) ∈
      sys.trace) : bcryptInput password' = bcryptInput password := by
  have hall : sys.trace.all (fun ev => (hashing ev).all fun made =>
      made.2 != hash || bcryptInput made.1 == bcryptInput password) = true := by
    simpa [verified, verifies, hpend, haccepts] using h
  have hthis := List.all_eq_true.mp hall _ hmade
  simpa [hashing] using hthis

/-! ## Registrations -/

/-- The email and the password a request signs in with. -/
def Request.credentials : Request → Option (String × String)
  | .register email password | .login email password => some (email, password)
  | _ => none

/-- The thread has registered the user with this password. -/
structure Registered (tr : Trace) (tid : Nat) (u : User) (password : String) : Prop where
  began : Event.began tid (.register u.email password) ∈ tr
  hashed : Event.did tid (⟨.service (.bcryptHash password), .ok u.passwordHash⟩ : Prog.Entry Sig) ∈ tr
  created : Event.did tid
    (⟨.account (.createUser u.email u.passwordHash), .ok u⟩ : Prog.Entry Sig) ∈ tr

/-- A statement that stores what was made of a password, or asks about one. -/
def Cmd.handlesPassword : Cmd → Bool
  | .account (.createUser _ _) | .service (.bcryptCompare _ _) => true
  | _ => false

/-- What such a statement owes to the ones before it. -/
def PasswordStep (q : Request) (h : List (Prog.Entry Sig)) (e : Prog.Entry Sig) : Prop :=
  match e.1 with
  | .account (.createUser email passwordHash) => ∃ password, q = .register email password ∧
      (⟨.service (.bcryptHash password), .ok passwordHash⟩ : Prog.Entry Sig) ∈ h
  | .service (.bcryptCompare password passwordHash) => ∃ (email : String) (user : User),
      q = .login email password ∧ user.passwordHash = passwordHash ∧
        (⟨.account (.findUserByEmail email), .ok (some user)⟩ : Prog.Entry Sig) ∈ h
  | _ => True

theorem PasswordStep.of_unhandled {q : Request} {h : List (Prog.Entry Sig)} {e : Prog.Entry Sig}
    (he : e.1.handlesPassword = false) : PasswordStep q h e := by
  obtain ⟨c, r⟩ := e
  cases c with
  | account c => cases c <;> trivial
  | service c => cases c <;> trivial
  | _ => trivial

open AuthService in
theorem issueTokens_unhandled (cfg : AppConfig) (q : Request) (userId email : String) (role : Role)
    (h : List (Prog.Entry Sig)) :
    (issueTokens cfg userId email role).Emits (PasswordStep q) (fun _ _ => True) h := by
  have calls : (issueTokens cfg userId email role).Calls fun c : Cmd => c.handlesPassword = false :=
    issueTokens_admitted (A := fun c => c.handlesPassword = false) (issues_admitted rfl (fun _ => rfl) rfl
      fun _ _ _ => rfl) cfg _ _ _
  exact .of_calls calls (fun _ _ hc => .of_unhandled hc) fun _ _ => trivial

/-- **Passwords are handled by the two sign-ins only**, a user's row with the hash
of the request's own password, a comparison with the hash of the request's
own email. -/
theorem password_steps (cfg : AppConfig) (q : Request) :
    (handle cfg q).Emits (PasswordStep q) (fun _ _ => True) [] := by
  have other (hq : ∀ c : Cmd, Reaches q c → c.handlesPassword = false) :
      (handle cfg q).Emits (PasswordStep q) (fun _ _ => True) [] :=
    .of_calls (handle_reaches cfg q) (fun _ _ hc => .of_unhandled (hq _ hc)) fun _ _ => trivial
  cases q with
  | register email password =>
      refine .bind (Q := fun _ _ => True) ?_ (fun _ _ _ => trivial) fun _ _ _ => trivial
      refine .perform_bind (fun existing => ⟨trivial, ?_⟩) fun e => ⟨trivial, trivial⟩
      refine .ite (fun _ => trivial) fun _ => ?_
      refine .perform_bind (fun passwordHash => ⟨trivial, ?_⟩) fun e => ⟨trivial, trivial⟩
      refine .perform_bind (fun user => ⟨⟨password, rfl, List.mem_cons_self⟩, ?_⟩)
        fun e => ⟨⟨password, rfl, List.mem_cons_self⟩, trivial⟩
      exact .bind (issueTokens_unhandled cfg _ _ _ _ _) (fun _ _ _ => trivial) fun _ _ _ => trivial
  | login email password =>
      refine .bind (Q := fun _ _ => True) ?_ (fun _ _ _ => trivial) fun _ _ _ => trivial
      refine .perform_bind (fun found => ⟨trivial, ?_⟩) fun e => ⟨trivial, trivial⟩
      cases found with
      | none => trivial
      | some user =>
          refine .perform_bind (fun accepted => ⟨⟨email, user, rfl, rfl, List.mem_cons_self⟩, ?_⟩)
            fun e => ⟨⟨email, user, rfl, rfl, List.mem_cons_self⟩, trivial⟩
          refine .ite (fun _ => trivial) fun _ => ?_
          exact .bind (issueTokens_unhandled cfg _ _ _ _ _) (fun _ _ _ => trivial)
            fun _ _ _ => trivial
  | _ =>
      refine other fun c hc => ?_
      unfold Cmd.handlesPassword
      split
      all_goals first
        | rfl
        | cases hc
        | cases (Bool.and_eq_true_iff.mp hc).2

section

variable {cfg : AppConfig} {ok : AppState → Action Ambient Request → Prop} {s : Store}
  {a b : AppState}

/-- The row that was created has the email and the hash of its statement. -/
theorem createdUser_row {o : Ambient} {s : Store} {email passwordHash : String} {u : User}
    (h : (exec o (.account (.createUser email passwordHash)) s).1 = .ok u) :
    u.email = email ∧ u.passwordHash = passwordHash := by
  rw [exec_of_ok h] at h
  simp only [answer, AccountStmt.answer] at h
  split at h
  · cases h
  · cases h
    exact ⟨rfl, rfl⟩

theorem insertedUser_cases {e : Prog.Entry Sig} {u : User} (h : insertedUser e = some u) :
    ∃ email passwordHash, e = ⟨.account (.createUser email passwordHash), .ok u⟩ := by
  unfold insertedUser at h
  split at h
  · cases h
    exact ⟨_, _, rfl⟩
  · cases h

/-- **Every user of a run was registered in it**, or was there before. -/
theorem user_registered (hr : (app cfg).Run ok (Machine.start s) b) {u : User}
    (hu : u ∈ b.store.users) : u ∈ s.users ∨ ∃ tid password, Registered b.trace tid u password := by
  obtain ⟨post, htr, hgrows⟩ := retainedUsers.run hr
  have hrows : b.store.users.rows = s.users.rows ++ rowsOf insertedUser b.trace := by
    rw [show b.trace = post from htr.trans (List.append_nil _)]
    exact Table.grows_eq_iff.mp hgrows
  rw [← Table.mem_rows, hrows] at hu
  rcases List.mem_append.mp hu with hu | hu
  · exact .inl hu
  · obtain ⟨tid, e, he, hins⟩ := mem_rowsOf.mp hu
    obtain ⟨email, hash, rfl⟩ := insertedUser_cases hins
    have hrec := Machine.Run.emits (fun q => password_steps cfg q) hr
    obtain ⟨q, hq⟩ := hrec.did_began he
    obtain ⟨post, pre, htr⟩ := List.append_of_mem he
    obtain ⟨password, rfl, hhash⟩ := hrec.at_split hq htr
    obtain ⟨a, o, c, a', -, -, -, -, heq, -⟩ := hr.cut htr
    obtain ⟨rfl, hok⟩ := Sigma.mk.inj_iff.mp heq
    obtain ⟨rfl, rfl⟩ := createdUser_row (eq_of_heq hok).symm
    refine .inr ⟨tid, password, hq, ?_, he⟩
    rw [htr]
    exact List.mem_append_right _ (List.mem_cons_of_mem _ (mem_own.mp hhash))

/-- A user is registered once. -/
theorem registered_once (hr : (app cfg).Run ok (Machine.start s) b) {t t' : Nat} {u u' : User}
    {password password' : String} (h : Registered b.trace t u password)
    (h' : Registered b.trace t' u' password') (hid : u'.id = u.id) :
    t' = t ∧ password' = password := by
  have hrec := Machine.Run.emits (P := fun _ _ _ => True) (R := fun _ _ _ => True)
    (fun q => .always _ _) hr
  obtain ⟨post, htr, hgrows⟩ := retainedUsers.run hr
  have hrows := Table.grows_eq_iff.mp hgrows
  rw [← show b.trace = post from htr.trans (List.append_nil _)] at hrows
  have hapart : (rowsOf insertedUser b.trace).Pairwise fun a b => Indexed.clash a b = false := by
    have hunique := Table.distinct_iff.mp b.store.users.unique
    rw [show b.store.users.rows = _ from hrows] at hunique
    exact (List.pairwise_append.mp hunique).2.1
  have hsame := (rowsOf_apart (fun a b hab => by rw [Indexed.clash_comm, hab]) hapart h'.created
    h.created rfl rfl).resolve_right fun hclash => by simp [Indexed.clash, hid] at hclash
  obtain ⟨rfl, -⟩ := Event.did.inj hsame
  obtain ⟨-, hpassword⟩ := Request.register.inj (hrec.request h.began h'.began)
  exact ⟨rfl, hpassword.symm⟩

theorem Registered.mono {tr tr' : Trace} (hsub : ∀ ev ∈ tr, ev ∈ tr') {t : Nat} {u : User}
    {password : String} (h : Registered tr t u password) : Registered tr' t u password :=
  ⟨hsub _ h.began, hsub _ h.hashed, hsub _ h.created⟩

/-- A login is accepted for the password of the registration. -/
theorem login_password (hr : (app cfg).Run verified (Machine.start s) b) {tid : Nat}
    {email password userId : String} (hbegan : Event.began tid (.login email password) ∈ b.trace)
    (hsign : SignsIn (own tid b.trace) userId (.login email password)) :
    (∃ u ∈ s.users, u.id = userId) ∨ ∃ t u password', Registered b.trace t u password' ∧
      u.id = userId ∧ u.email = email ∧ bcryptInput password' = bcryptInput password := by
  obtain ⟨user, hfind, hemail, haccepted, hid⟩ := hsign
  obtain ⟨post, pre, htr⟩ := List.append_of_mem (mem_own.mp haccepted)
  have hsub : ∀ ev ∈ pre, ev ∈ b.trace := fun ev hev => by
    rw [htr]
    exact List.mem_append_right _ (List.mem_cons_of_mem _ hev)
  obtain ⟨email', user', hq, hhash, hfind'⟩ :=
    (Machine.Run.emits (fun q => password_steps cfg q) hr).at_split hbegan htr
  obtain ⟨rfl, -⟩ := Request.login.inj hq
  obtain ⟨a, o, c, a', ha, rfl, hact, hpend, heq, -⟩ := hr.cut htr
  obtain ⟨rfl, hok⟩ := Sigma.mk.inj_iff.mp heq
  have haccepts : o.accepts = true := by
    have hok : (exec o (.service (.bcryptCompare password user.passwordHash)) a.store).1 =
      .ok true := (eq_of_heq hok).symm
    rw [exec_of_ok hok] at hok
    exact Except.ok.inj hok
  -- both lookups found the one user of the email
  have hsame : user' = user := by
    have hstored := answered_stored hr (mem_own.mp hfind) rfl
    have hstored' := answered_stored hr (hsub _ (mem_own.mp hfind')) rfl
    have hemail' : user'.email = email := emailAnswers_run hr tid _ (hsub _ (mem_own.mp hfind'))
    exact Table.eq_of_clash hstored' hstored (by simp [Indexed.clash, hemail, hemail'])
  subst hsame
  rcases user_registered ha (answered_stored ha (mem_own.mp hfind') rfl) with hu | ⟨t, p, hreg⟩
  · exact .inl ⟨user', hu, hid⟩
  · refine .inr ⟨t, user', p, hreg.mono hsub, hid, hemail, ?_⟩
    exact verified_accepts hact hpend haccepts hreg.hashed

/-- The password that the user was registered with has been presented, and has
signed the user in. -/
def PasswordPresented (tr : Trace) (userId : String) : Prop :=
  ∃ t u password, Registered tr t u password ∧ u.id = userId ∧ ∃ tid q password',
    Event.began tid q ∈ tr ∧ q.credentials = some (u.email, password') ∧
      SignsIn (own tid tr) userId q ∧ bcryptInput password = bcryptInput password'

/-- Tokens go back to a password, by induction over the refreshes. -/
theorem goesBack_presented (hr : (app cfg).Run verified (Machine.start s) b) {userId : String}
    {pair : Pair} (h : GoesBack b.trace userId pair) :
    (∃ u ∈ s.users, u.id = userId) ∨ PasswordPresented b.trace userId := by
  induction h with
  | @signIn tid q pair hbegan hsign _ =>
      cases q with
      | register email password =>
          obtain ⟨hash, user, hcreated, rfl⟩ := hsign
          have hstored := answered_stored hr (mem_own.mp hcreated) rfl
          rcases user_registered hr hstored with hu | ⟨t, p, hreg⟩
          · exact .inl ⟨user, hu, rfl⟩
          · exact .inr ⟨t, user, p, hreg, rfl, t, _, p, hreg.began, rfl,
              ⟨user.passwordHash, user, mem_own.mpr hreg.created, rfl⟩, rfl⟩
      | login email password =>
          rcases login_password hr hbegan hsign with hu | ⟨t, u, p, hreg, hid, hemail, hinput⟩
          · exact .inl hu
          · exact .inr ⟨t, u, p, hreg, hid, tid, _, password, hbegan, by rw [hemail]; rfl, hsign,
              hinput⟩
      | _ => exact hsign.elim
  | refreshed _ _ _ _ ih => exact ih

end

end StreamingService
