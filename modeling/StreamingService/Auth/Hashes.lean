import StreamingService.Lib.Coupling
import StreamingService.Frame
import StreamingService.Reach

/-!
# Auth — Hashes

Where password hashes go: into bcrypt's comparison, and nowhere else. Two
databases that differ in the stored hashes alone, under one schedule and the
same verdicts of bcrypt, answer every request the same and perform the same
statements, but for the hash that bcrypt is asked about.
-/

namespace StreamingService

open Lib

/-! ## The same but for hashes -/

def User.unhashed (u : User) : User := { u with passwordHash := "" }

/-- The same users, but for their hashes. -/
def UsersAlike (us us' : Table User) : Prop :=
  us'.rows.map User.unhashed = us.rows.map User.unhashed

/-- The same database, but for the password hashes. -/
def SameButHashes (s s' : Store) : Prop :=
  ∃ us, s' = { s with users := us } ∧ UsersAlike s.users us

/-- The same statement, but for the hash that bcrypt is asked about. -/
inductive CmdAlike : Cmd → Cmd → Prop
  | same (c : Cmd) : CmdAlike c c
  | compare (password hash hash' : String) :
      CmdAlike (.service (.bcryptCompare password hash)) (.service (.bcryptCompare password hash'))

/-- The same answer, but for the hash of a user's row. -/
inductive EntryAlike : Prog.Entry Sig → Prog.Entry Sig → Prop
  | same (e : Prog.Entry Sig) : EntryAlike e e
  | user {email : String} {u u' : User} (h : u'.unhashed = u.unhashed) :
      EntryAlike ⟨.account (.findUserByEmail email), .ok (some u)⟩
        ⟨.account (.findUserByEmail email), .ok (some u')⟩
  | profile {id : String} {u u' : User} {active : Option Subscription}
      (h : u'.unhashed = u.unhashed) :
      EntryAlike ⟨.account (.findUserWithActive id), .ok (some (u, active))⟩
        ⟨.account (.findUserWithActive id), .ok (some (u', active))⟩
  | token {hash : TokenHash} {record : RefreshToken} {u u' : User}
      (h : u'.unhashed = u.unhashed) :
      EntryAlike ⟨.account (.findToken hash), .ok (some (record, u))⟩
        ⟨.account (.findToken hash), .ok (some (record, u'))⟩
  | compare {password hash hash' : String} (r : Except Exception Bool) :
      EntryAlike ⟨.service (.bcryptCompare password hash), r⟩
        ⟨.service (.bcryptCompare password hash'), r⟩

def hashes : Coupling Sig where
  cmd := CmdAlike
  entry := EntryAlike
  fails := by
    intro c c' r r' h e
    cases h with
    | same => exact Iff.rfl
    | compare => exact Iff.rfl
    | _ => exact ⟨fun h => (by cases h), fun h => by cases h⟩

/-- A statement that is answered a user's row, or asks bcrypt. -/
def Cmd.readsHash : Cmd → Bool
  | .account (.findUserByEmail _) | .account (.findUserWithActive _) => true
  | .account (.findToken _) | .service (.bcryptCompare _ _) => true
  | _ => false

theorem plain_of_reads_none {c : Cmd} (hc : c.readsHash = false) : hashes.Plain c := by
  refine ⟨.same c, fun r r' h => ?_⟩
  cases h with
  | same => rfl
  | _ => cases hc

/-! ## One statement -/

section

variable {us us' : Table User}

theorem UsersAlike.refl (us : Table User) : UsersAlike us us := rfl

/-- A lookup that does not ask for the hash finds rows that are alike. -/
theorem UsersAlike.find? (h : UsersAlike us us') {p : User → Bool}
    (hp : ∀ u, p u.unhashed = p u) :
    Option.Rel (fun u u' => u'.unhashed = u.unhashed) (us.find? p) (us'.find? p) := by
  have hcomp : p ∘ User.unhashed = p := funext hp
  have hmap := congrArg (List.find? p) h
  rw [List.find?_map, List.find?_map, hcomp] at hmap
  show Option.Rel _ (us.rows.find? p) (us'.rows.find? p)
  generalize us.rows.find? p = found at hmap
  generalize us'.rows.find? p = found' at hmap
  cases found with
  | none =>
      cases found' with
      | none => exact .none
      | some u' => cases hmap
  | some u =>
      cases found' with
      | none => cases hmap
      | some u' => exact .some (Option.some.inj hmap)

/-- A new user clashes with the same rows. -/
theorem UsersAlike.insert? (h : UsersAlike us us') (r : User) :
    Option.Rel UsersAlike (us.insert? r) (us'.insert? r) := by
  have clash_unhashed : ∀ u : User, Indexed.clash u.unhashed r = Indexed.clash u r := fun _ => rfl
  have admits : ∀ {us us' : Table User} {t : Table User}, UsersAlike us us' →
      us.insert? r = some t → ∃ t', us'.insert? r = some t' := by
    intro us us' t h hins
    refine Table.insert?_of_fresh fun x hx => ?_
    have hmem : x.unhashed ∈ us.rows.map User.unhashed := h ▸ List.mem_map_of_mem hx
    obtain ⟨y, hy, heq⟩ := List.mem_map.mp hmem
    rw [← clash_unhashed, ← heq, clash_unhashed]
    exact Table.insert?_fresh hins hy
  cases hins : us.insert? r with
  | none =>
      cases hins' : us'.insert? r with
      | none => exact .none
      | some t' =>
          have hsymm : UsersAlike us' us := h.symm
          obtain ⟨t, ht⟩ := admits hsymm hins'
          rw [hins] at ht
          cases ht
  | some t =>
      obtain ⟨t', hins'⟩ := admits h hins
      rw [hins']
      refine .some ?_
      rw [UsersAlike, Table.insert?_eq_some hins, Table.insert?_eq_some hins', List.map_append,
        List.map_append, h]

end

/-- Beside the accounts, a statement asks at most whether a user is there. -/
theorem answer_users {c : Cmd} (hc : ∀ c', c ≠ .account c') (o : Ambient) (s : Store)
    {us : Table User} (h : UsersAlike s.users us) :
    answer o c { s with users := us } =
      ((answer o c s).1, { (answer o c s).2 with users := us }) := by
  cases c with
  | now => rfl
  | account c => exact absurd rfl (hc c)
  | transaction c =>
      cases c with
      | create userId method amount =>
          have hfind := h.find? (p := fun u => u.id == userId) fun _ => rfl
          simp only [answer, TransactionStmt.answer]
          generalize s.users.find? (fun u => u.id == userId) = found at hfind ⊢
          generalize us.find? (fun u => u.id == userId) = found' at hfind ⊢
          split
          · rfl
          · cases hfind with
            | none => rfl
            | some _ =>
                dsimp only
                split <;> rfl
      | _ =>
          simp only [answer, TransactionStmt.answer, updateTransaction]
          (repeat' split) <;> rfl
  | subscription c =>
      cases c with
      | commitActivation id userId resolvedAt startAt expiresAt =>
          have hfind := h.find? (p := fun u => u.id == userId) fun _ => rfl
          simp only [answer, SubscriptionStmt.answer]
          generalize s.users.find? (fun u => u.id == userId) = found at hfind ⊢
          generalize us.find? (fun u => u.id == userId) = found' at hfind ⊢
          split
          · rfl
          · split
            · rfl
            · cases hfind with
              | none => rfl
              | some _ =>
                  dsimp only
                  split <;> rfl
      | _ => rfl
  | catalog c =>
      cases c <;> first
        | rfl
        | (simp only [answer, CatalogStmt.answer]; (repeat' split) <;> rfl)
  | mediaAsset c =>
      cases c <;> first
        | rfl
        | (simp only [answer, MediaAssetStmt.answer, updateAsset]; (repeat' split) <;> rfl)
  | service c => cases c <;> rfl

/-- Statements of the accounts answer rows that are alike. -/
theorem account_alike (c : AccountStmt) (o : Ambient) (s : Store) {us : Table User}
    (h : UsersAlike s.users us) :
    EntryAlike ⟨.account c, (c.answer o s).1⟩ ⟨.account c, (c.answer o { s with users := us }).1⟩ ∧
      SameButHashes (c.answer o s).2 (c.answer o { s with users := us }).2 := by
  cases c with
  | findUserByEmail email =>
      have hfind := h.find? (p := fun u => u.email == email) fun _ => rfl
      simp only [AccountStmt.answer]
      generalize s.users.find? (fun u => u.email == email) = found at hfind ⊢
      generalize us.find? (fun u => u.email == email) = found' at hfind ⊢
      cases hfind with
      | none => exact ⟨.same _, us, rfl, h⟩
      | some hu => exact ⟨.user hu, us, rfl, h⟩
  | createUser email passwordHash =>
      have hins := h.insert? { id := o.fresh, email, passwordHash, role := .USER }
      simp only [AccountStmt.answer]
      generalize s.users.insert? _ = inserted at hins ⊢
      generalize us.insert? _ = inserted' at hins ⊢
      cases hins with
      | none => exact ⟨.same _, us, rfl, h⟩
      | some hu => exact ⟨.same _, _, rfl, hu⟩
  | findUserWithActive id =>
      have hfind := h.find? (p := fun u => u.id == id) fun _ => rfl
      simp only [AccountStmt.answer]
      generalize s.users.find? (fun u => u.id == id) = found at hfind ⊢
      generalize us.find? (fun u => u.id == id) = found' at hfind ⊢
      cases hfind with
      | none => exact ⟨.same _, us, rfl, h⟩
      | @some u u' hu =>
          have hid : u'.id = u.id := by
            have := congrArg User.id hu
            exact this
          simp only [Option.map_some, hid]
          exact ⟨.profile hu, us, rfl, h⟩
  | findToken hash =>
      simp only [AccountStmt.answer]
      split
      · exact ⟨.same _, us, rfl, h⟩
      · rename_i r _
        have hfind := h.find? (p := fun u => u.id == r.userId) fun _ => rfl
        generalize s.users.find? (fun u => u.id == r.userId) = found at hfind ⊢
        generalize us.find? (fun u => u.id == r.userId) = found' at hfind ⊢
        cases hfind with
        | none => exact ⟨.same _, us, rfl, h⟩
        | some hu => exact ⟨.token hu, us, rfl, h⟩
  | createToken userId hash expiresAt =>
      have hfind := h.find? (p := fun u => u.id == userId) fun _ => rfl
      simp only [AccountStmt.answer]
      generalize s.users.find? (fun u => u.id == userId) = found at hfind ⊢
      generalize us.find? (fun u => u.id == userId) = found' at hfind ⊢
      split
      · exact ⟨.same _, us, rfl, h⟩
      · cases hfind with
        | none => exact ⟨.same _, us, rfl, h⟩
        | some _ =>
            dsimp only
            split <;> exact ⟨.same _, us, rfl, h⟩
  | revokeToken id revokedAt =>
      simp only [AccountStmt.answer]
      split <;> exact ⟨.same _, us, rfl, h⟩
  | _ => exact ⟨.same _, us, rfl, h⟩

/-- **One statement** on two databases that differ in the hashes alone. -/
theorem exec_alike (cfg : AppConfig) : (app cfg).Respects hashes SameButHashes := by
  rintro o c c' s _ hc ⟨us, rfl, h⟩
  cases hc with
  | compare password hash hash' =>
      cases hf : o.fault with
      | some e =>
          rw [show (app cfg).exec = exec from rfl, exec_fault hf _ _ (by simp),
            exec_fault hf _ _ (by simp)]
          exact ⟨.compare _, us, rfl, h⟩
      | none =>
          rw [show (app cfg).exec = exec from rfl, exec_answer hf, exec_answer hf]
          exact ⟨.compare _, us, rfl, h⟩
  | same c =>
      show EntryAlike ⟨c, (exec o c s).1⟩ ⟨c, (exec o c { s with users := us }).1⟩ ∧
        SameButHashes (exec o c s).2 (exec o c { s with users := us }).2
      cases hf : o.fault with
      | some e =>
          by_cases hnow : c = .now
          · subst hnow
            exact ⟨.same _, us, rfl, h⟩
          · rw [exec_fault hf _ _ hnow, exec_fault hf _ _ hnow]
            exact ⟨.same _, us, rfl, h⟩
      | none =>
          rw [exec_answer hf, exec_answer hf]
          by_cases haccount : ∃ c', c = .account c'
          · obtain ⟨c', rfl⟩ := haccount
            exact account_alike c' o s h
          · have hc : ∀ c', c ≠ .account c' := fun c' heq => haccount ⟨c', heq⟩
            rw [answer_users hc o s h]
            refine ⟨.same _, us, rfl, ?_⟩
            have hframe := (exec_frame o s c).accounts
            rw [exec_answer hf] at hframe
            rw [(hframe (by cases c <;> first | exact absurd rfl (hc _) | simp)).1]
            exact h

/-! ## The handlers -/

/-- A program that asks for no hash is coupled with itself. -/
theorem coupled_of_calls {α : Type} {p : App α} (hp : p.Calls fun c : Cmd => c.readsHash = false) :
    p.Coupled hashes p :=
  .of_plain (Prog.Calls.mono (fun _ hc => plain_of_reads_none hc) hp)

theorem User.unhashed_inj {u u' : User} (h : u'.unhashed = u.unhashed) :
    u'.id = u.id ∧ u'.email = u.email ∧ u'.role = u.role := by
  obtain ⟨id, email, hash, role⟩ := u
  obtain ⟨id', email', hash', role'⟩ := u'
  obtain ⟨hid, hemail, -, hrole⟩ := User.mk.inj h
  exact ⟨hid, hemail, hrole⟩

open AuthService

theorem User.unhashed_public {u u' : User} (h : u'.unhashed = u.unhashed) :
    toPublicUser u' = toPublicUser u := by
  obtain ⟨hid, hemail, hrole⟩ := User.unhashed_inj h
  rw [toPublicUser, toPublicUser, hid, hemail, hrole]

theorem issueTokens_coupled (cfg : AppConfig) (userId email : String) (role : Role) :
    (issueTokens cfg userId email role).Coupled hashes (issueTokens cfg userId email role) :=
  coupled_of_calls (issueTokens_admitted (A := fun c => c.readsHash = false)
    (issues_admitted rfl (fun _ => rfl) rfl fun _ _ _ => rfl) cfg _ _ _)

theorem register_coupled (cfg : AppConfig) (email password : String) :
    (register cfg email password).Coupled hashes (register cfg email password) := by
  refine .perform_bind (.same _) fun existing existing' h => ?_
  have hsome : existing'.isSome = existing.isSome := by
    cases h <;> rfl
  rw [hsome]
  cases existing.isSome with
  | true => exact rfl
  | false =>
      refine coupled_of_calls
        (.perform_bind rfl fun passwordHash => .perform_bind rfl fun user => ?_)
      exact .bind (issueTokens_admitted (A := fun c => c.readsHash = false)
        (issues_admitted rfl (fun _ => rfl) rfl fun _ _ _ => rfl) cfg _ _ _) fun _ => trivial

theorem login_coupled (cfg : AppConfig) (email password : String) :
    (login cfg email password).Coupled hashes (login cfg email password) := by
  refine .perform_bind (.same _) fun found found' h => ?_
  have halike : Option.Rel (fun u u' => u'.unhashed = u.unhashed) found found' := by
    cases h with
    | same =>
        cases found with
        | none => exact .none
        | some u => exact .some rfl
    | user hu => exact .some hu
  cases halike with
  | none => exact rfl
  | @some u u' hu =>
      obtain ⟨hid, hemail, hrole⟩ := User.unhashed_inj hu
      refine .perform_bind (.compare _ _ _) fun accepted accepted' h => ?_
      have hsame : accepted' = accepted := by
        generalize u.passwordHash = hash at h
        generalize u'.passwordHash = hash' at h
        cases h <;> rfl
      rw [hsame, hid, hemail, hrole]
      cases accepted with
      | false => exact rfl
      | true =>
          refine .bind (issueTokens_coupled cfg _ _ _) fun tokens => ?_
          rw [User.unhashed_public hu]
          exact rfl

theorem refresh_coupled (cfg : AppConfig) (token : String) :
    (refresh cfg token).Coupled hashes (refresh cfg token) := by
  refine .perform_bind (.same _) fun found found' h => ?_
  have halike : Option.Rel (fun x x' => x'.1 = x.1 ∧ User.unhashed x'.2 = User.unhashed x.2)
      found found' := by
    cases h with
    | same =>
        cases found with
        | none => exact .none
        | some x => exact .some ⟨rfl, rfl⟩
    | token hu => exact .some ⟨rfl, hu⟩
  cases halike with
  | none => exact rfl
  | @some x x' hx =>
      obtain ⟨record, u⟩ := x
      obtain ⟨record', u'⟩ := x'
      obtain ⟨rfl, hu⟩ := hx
      obtain ⟨hid, hemail, hrole⟩ := User.unhashed_inj hu
      dsimp only
      rw [hid, hemail, hrole]
      refine coupled_of_calls (.ite (fun _ => ?_) fun _ => ?_)
      · exact .perform_bind rfl fun revokedAt => .perform_bind rfl fun _ => trivial
      · refine .perform_bind rfl fun (instant : Millis) => .ite (fun _ => trivial) fun _ => ?_
        refine .perform_bind rfl fun revokedAt => .perform_bind rfl fun _ => ?_
        exact issueTokens_admitted (A := fun c => c.readsHash = false)
          (issues_admitted rfl (fun _ => rfl) rfl fun _ _ _ => rfl) cfg _ _ _

theorem getMe_coupled (userId : String) : (getMe userId).Coupled hashes (getMe userId) := by
  refine .perform_bind (.same _) fun found found' h => ?_
  have halike : Option.Rel (fun x x' => User.unhashed x'.1 = User.unhashed x.1 ∧ x'.2 = x.2)
      found found' := by
    cases h with
    | same =>
        cases found with
        | none => exact .none
        | some x => exact .some ⟨rfl, rfl⟩
    | profile hu => exact .some ⟨hu, rfl⟩
  cases halike with
  | none => exact rfl
  | @some x x' hx =>
      obtain ⟨u, active⟩ := x
      obtain ⟨u', active'⟩ := x'
      obtain ⟨hu, rfl⟩ := hx
      have hpublic : toPublicUser u' = toPublicUser u := User.unhashed_public hu
      cases active' with
      | none => exact congrArg (fun profile => Except.ok (profile, none)) hpublic.symm
      | some latest =>
          dsimp only
          rw [hpublic]
          exact coupled_of_calls (.perform_bind rfl fun (instant : Millis) => trivial)

/-- **Every request is coupled with itself**: it does with a hash no more than to
ask bcrypt about it. -/
theorem handle_coupled (cfg : AppConfig) (q : Request) :
    (handle cfg q).Coupled hashes (handle cfg q) := by
  have other (hq : ∀ c : Cmd, Reaches q c → c.readsHash = false) :
      (handle cfg q).Coupled hashes (handle cfg q) :=
    coupled_of_calls (Prog.Calls.mono hq (handle_reaches cfg q))
  cases q with
  | register email password => exact .bind (register_coupled cfg email password) fun _ => rfl
  | login email password => exact .bind (login_coupled cfg email password) fun _ => rfl
  | refresh presented =>
      refine .bind ?_ fun _ => rfl
      unfold AuthController.refresh
      by_cases hfalsy : (!presented.truthy) = true
      · rw [if_pos hfalsy]
        exact rfl
      · rw [if_neg hfalsy]
        cases AuthController.tokenText presented with
        | ok token => exact refresh_coupled cfg token
        | error e => exact rfl
  | me user =>
      cases user with
      | none => exact rfl
      | some user =>
          show Prog.Coupled hashes (getMe user.sub >>= _) (getMe user.sub >>= _)
          exact .bind (getMe_coupled user.sub) fun _ => rfl
  | _ =>
      refine other fun c hc => ?_
      unfold Cmd.readsHash
      split
      all_goals first
        | rfl
        | cases hc
        | cases (Bool.and_eq_true_iff.mp hc).2

/-! ## Two runs -/

/-- **Password hashes stay inside**: on two databases that differ in them alone,
any schedule of any requests, with the same answers from outside and the same
verdicts of bcrypt, leads to databases that differ in them alone; every
request that has ended has ended alike, and the two runs have performed the
same statements and been answered the same, but for the hash bcrypt was asked
about and the hash in a user's row. -/
theorem hashes_stay_inside {cfg : AppConfig} {s s' : Store} (h : SameButHashes s s')
    {acts : List (Action Ambient Request)} {b : AppState}
    (hb : (app cfg).replay anyAction (Machine.start s) acts = some b) :
    ∃ b' : AppState, (app cfg).replay anyAction (Machine.start s') acts = some b' ∧
      SameButHashes b.store b'.store ∧
      (∀ (tid : Nat) (q : Request) (r : Except Exception Reply),
        b.threads[tid]? = some ⟨q, .done r⟩ → b'.threads[tid]? = some ⟨q, .done r⟩) ∧
      List.Forall₂ (Machine.EventAlike hashes) b.trace b'.trace := by
  have hany : ∀ (a a' : AppState) (act : Action Ambient Request),
      Machine.Alike hashes SameButHashes a a' → (anyAction a act ↔ anyAction a' act) :=
    fun _ _ _ _ => .rfl
  have hfollow := Machine.Alike.replay (exec_alike cfg) (handle_coupled cfg) hany
    (Machine.Alike.start h) acts
  rw [hb] at hfollow
  generalize hb' : (app cfg).replay anyAction (Machine.start s') acts = reached at hfollow
  cases hfollow with
  | @some _ b' halike =>
      exact ⟨b', rfl, halike.store, fun tid q r hth => halike.ended hth, halike.trace⟩

/-- A database of one user with this hash. -/
def sampleHashed (passwordHash : String) : Store :=
  { Store.empty with
    users := ⟨[⟨"user-1", "amina@example.com", passwordHash, .USER⟩], rfl⟩ }

/-- The thread has answered a session. -/
def signedIn (b : AppState) (tid : Nat) : Bool :=
  match b.threads[tid]? with
  | some ⟨_, .done (.ok (.session _ _))⟩ => true
  | _ => false

theorem signedIn_thread {b : AppState} {tid : Nat} (h : signedIn b tid = true) :
    ∃ q user tokens, b.threads[tid]? = some ⟨q, .done (.ok (.session user tokens))⟩ := by
  unfold signedIn at h
  split at h
  · rename_i q user tokens hth
    exact ⟨q, user, tokens, hth⟩
  · cases h

/-- The same login on two databases with different hashes. -/
theorem hashes_stay_inside_sample : ∃ (b b' : AppState) (q : Request)
    (user : PublicUser) (tokens : AuthTokens), SameButHashes b.store b'.store ∧
      b.threads[0]? = some ⟨q, .done (.ok (.session user tokens))⟩ ∧
      b'.threads[0]? = some ⟨q, .done (.ok (.session user tokens))⟩ := by
  have hreached : ((app sampleConfig).replay anyAction (Machine.start (sampleHashed "hash-1"))
      [.begin (.login "amina@example.com" "a-password"), .step 0 (.quiet 1), .step 0 (.quiet 2),
        .step 0 ((Ambient.quiet 3).generating "jwt-1"),
        .step 0 ((Ambient.quiet 4).generating "token-1"), .step 0 (.quiet 5),
        .step 0 ((Ambient.quiet 6).generating "rt-1")]).map (signedIn · 0) = some true := by
    decide +kernel
  obtain ⟨b, hb, hsigned⟩ := Option.map_eq_some_iff.mp hreached
  obtain ⟨q, user, tokens, hth⟩ := signedIn_thread hsigned
  have hsame : SameButHashes (sampleHashed "hash-1") (sampleHashed "hash-2") := ⟨_, rfl, rfl⟩
  obtain ⟨b', -, hstore, hended, -⟩ := hashes_stay_inside hsame hb
  exact ⟨b, b', q, user, tokens, hstore, hth, hended 0 q _ hth⟩

end StreamingService
