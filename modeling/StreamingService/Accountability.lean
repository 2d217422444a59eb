import StreamingService.Auth.Accounts
import StreamingService.Auth.Reuse
import StreamingService.Isolation
import StreamingService.Payments.History
import StreamingService.Payments.Provenance
import StreamingService.Payments.Sweep

/-!
# Accountability

Who changes an account. A user's row, refresh tokens, payments and
subscriptions are written by requests that act for the user: with the user's
access token or refresh token, signing in as the user, delivering the outcome of
one of the user's payments, or sweeping a push of the user's. No other request
changes any of them, however the requests interleave.
-/

namespace StreamingService

open Lib

/-! ## The rows of an account -/

/-- The two databases agree on everything the user has. -/
structure SameRows (userId : String) (s s' : Store) : Prop where
  account : SameAccount userId s s'
  refreshTokens : s.refreshTokens.filter (fun r => r.userId == userId) =
    s'.refreshTokens.filter fun r => r.userId == userId

theorem SameRows.refl (userId : String) (s : Store) : SameRows userId s s :=
  ⟨⟨rfl, rfl, rfl⟩, rfl⟩

theorem SameRows.trans {userId : String} {s s' s'' : Store} (h : SameRows userId s s')
    (h' : SameRows userId s' s'') : SameRows userId s s'' where
  account := ⟨h.account.user.trans h'.account.user,
    h.account.subscriptions.trans h'.account.subscriptions,
    h.account.transactions.trans h'.account.transactions⟩
  refreshTokens := h.refreshTokens.trans h'.refreshTokens

/-- The statement writes a row of the user's. -/
def Touches (s : Store) (userId : String) : Prog.Entry Sig → Prop
  | ⟨.account (.createUser _ _), .ok row⟩ => User.id row = userId
  | ⟨.account (.createToken id _ _), .ok _⟩ => id = userId
  | ⟨.account (.revokeAllOfUser id _), .ok _⟩ => id = userId
  | ⟨.account (.revokeToken id _), .ok _⟩ => ∃ r ∈ s.refreshTokens, r.id = id ∧ r.userId = userId
  | ⟨.account (.revokeByHash hash _), .ok _⟩ =>
      ∃ r ∈ s.refreshTokens, r.tokenHash = hash ∧ r.userId = userId
  | ⟨.transaction (.create id _ _), .ok _⟩ => id = userId
  | ⟨.transaction (.setProviderReference id _), .ok _⟩ =>
      ∃ t ∈ s.transactions, t.id = id ∧ t.userId = userId
  | ⟨.transaction (.markFailed id _ _), .ok _⟩ =>
      ∃ t ∈ s.transactions, t.id = id ∧ t.userId = userId
  | ⟨.transaction (.markTimedOut id _), .ok _⟩ =>
      ∃ t ∈ s.transactions, t.id = id ∧ t.userId = userId
  | ⟨.subscription (.commitActivation id owner _ _ _), .ok _⟩ =>
      owner = userId ∨ ∃ t ∈ s.transactions, t.id = id ∧ t.userId = userId
  | _ => False

section

variable (o : Ambient) (c : Cmd) (s : Store) {userId : String}

theorem exec_sameUser (h : ¬ Touches s userId ⟨c, (exec o c s).1⟩) :
    s.users.find? (fun u => u.id == userId) =
      (exec o c s).2.users.find? fun u => u.id == userId := by
  have hrows := Table.grows_eq_iff.mp (users_grow o c s)
  show s.users.rows.find? _ = (exec o c s).2.users.rows.find? _
  rw [hrows, List.find?_append]
  cases hins : insertedUser ⟨c, (exec o c s).1⟩ with
  | none => simp
  | some row =>
      have hne : row.id ≠ userId := by
        intro heq
        unfold insertedUser at hins
        split at hins
        · rename_i heq'
          cases hins
          rw [heq'] at h
          exact h heq
        · cases hins
      simp [hne]

theorem exec_sameTokens (h : ¬ Touches s userId ⟨c, (exec o c s).1⟩) :
    s.refreshTokens.filter (fun r => r.userId == userId) =
      (exec o c s).2.refreshTokens.filter fun r => r.userId == userId := by
  -- the rows a revocation selects are not the user's
  have foreign : ∀ {p : RefreshToken → Bool} {revokedAt : Millis},
      (∀ r ∈ s.refreshTokens, p r = true → r.userId ≠ userId) →
      s.refreshTokens.rows.filter (fun r => r.userId == userId) =
        (s.refreshTokens.rows.map fun r => if p r then r.revoke revokedAt else r).filter
          fun r => r.userId == userId := by
    intro p revokedAt hne
    refine (Table.filter_rewritten fun r hr hp => ?_).symm
    have huser := hne r hr hp
    simp [RefreshToken.revoke, huser]
  cases hr : (exec o c s).1 with
  | error e => rw [exec_refused (Prod.ext hr rfl : exec o c s = (.error e, (exec o c s).2))]
  | ok a =>
      rw [hr] at h
      cases c with
      | account c =>
          have hexec := exec_of_ok hr
          rw [hexec] at hr ⊢
          cases c with
          | createToken id hash expiresAt =>
              simp only [answer, AccountStmt.answer]
              repeat' split
              all_goals first
                | rfl
                | rename_i hins
                  refine (Table.filter_inserted hins ?_).symm
                  exact beq_eq_false_iff_ne.mpr h
          | revokeAllOfUser id revokedAt =>
              refine foreign fun r _ hp huser => h ?_
              simp only [Bool.and_eq_true, beq_iff_eq] at hp
              exact hp.1.symm.trans huser
          | revokeToken id revokedAt =>
              simp only [answer, AccountStmt.answer]
              split
              · rfl
              · exact foreign fun r hmem hp huser => h ⟨r, hmem, beq_iff_eq.mp hp, huser⟩
          | revokeByHash hash revokedAt =>
              refine foreign fun r hmem hp huser => h ?_
              simp only [Bool.and_eq_true, beq_iff_eq] at hp
              exact ⟨r, hmem, hp.1, huser⟩
          | createUser email passwordHash =>
              simp only [answer, AccountStmt.answer]
              split <;> rfl
          | findToken hash =>
              simp only [answer, AccountStmt.answer]
              split <;> rfl
          | _ => rfl
      | _ => rw [((exec_frame o s _).accounts (by simp)).2]

theorem exec_sameLedger (h : ¬ Touches s userId ⟨c, (exec o c s).1⟩) :
    s.subscriptions.filter (fun x => x.userId == userId) =
      (exec o c s).2.subscriptions.filter (fun x => x.userId == userId) ∧
    s.transactions.filter (fun t => t.userId == userId) =
      (exec o c s).2.transactions.filter fun t => t.userId == userId := by
  have hstep := exec_ledger o c s
  generalize hs' : (exec o c s).2 = s' at hstep ⊢
  generalize (⟨c, (exec o c s).1⟩ : Prog.Entry Sig) = e at h hstep
  have foreign : ∀ {id : String} {f : Transaction → Transaction}, RowUpdated s s' id f →
      (∀ t, (f t).userId = t.userId) →
      (¬ ∃ t ∈ s.transactions, t.id = id ∧ t.userId = userId) →
      s.transactions.filter (fun t => t.userId == userId) =
        s'.transactions.filter fun t => t.userId == userId := by
    intro id f hrows hf hne
    show s.transactions.rows.filter _ = s'.transactions.rows.filter _
    rw [hrows]
    refine (Table.filter_rewritten fun t ht hid => ?_).symm
    have huser : t.userId ≠ userId := fun huser => hne ⟨t, ht, beq_iff_eq.mp hid, huser⟩
    simp [hf, huser]
  cases hstep with
  | quiet _ ht hs => exact ⟨by rw [hs], by rw [ht]⟩
  | create _ _ ht hs =>
      refine ⟨by rw [hs], (Table.filter_inserted ht ?_).symm⟩
      exact beq_eq_false_iff_ne.mpr h
  | refer _ _ _ hrows hs => exact ⟨by rw [hs], foreign hrows (fun _ => rfl) h⟩
  | fail _ _ _ hrows hs => exact ⟨by rw [hs], foreign hrows (fun _ => rfl) h⟩
  | timeOut _ _ hrows hs => exact ⟨by rw [hs], foreign hrows (fun _ => rfl) h⟩
  | activate hrow _ _ hrows hs =>
      refine ⟨(Table.filter_inserted hs ?_).symm,
        foreign hrows (fun _ => rfl) fun ht => h (.inr ht)⟩
      rw [hrow]
      exact beq_eq_false_iff_ne.mpr fun heq => h (.inl heq)

/-- **A statement leaves the accounts it does not touch.** -/
theorem exec_sameRows (h : ¬ Touches s userId ⟨c, (exec o c s).1⟩) :
    SameRows userId s (exec o c s).2 where
  account := ⟨exec_sameUser o c s h, (exec_sameLedger o c s h).1, (exec_sameLedger o c s h).2⟩
  refreshTokens := exec_sameTokens o c s h

end

/-! ## Whose credentials were accepted -/

/-- What was made of the password. -/
def hashedTo (password passwordHash : String) : Prog.Entry Sig → Bool
  | ⟨.service (.bcryptHash text), .ok hash⟩ => text == password && passwordHash == hash
  | _ => false

/-- The password was accepted for the hash. -/
def acceptedFor (password passwordHash : String) : Prog.Entry Sig → Bool
  | ⟨.service (.bcryptCompare text hash), .ok answer⟩ =>
      text == password && hash == passwordHash && answer
  | _ => false

/-- The entry makes the request one of the user's own: a registration stored the
user under the hash of its password, a login found the user of its email and had
its password accepted, a refresh found the owner of the token it presents. -/
def Request.vouches (q : Request) (h : List (Prog.Entry Sig)) (userId : String)
    (e : Prog.Entry Sig) : Bool :=
  match q, e with
  | .register email password, ⟨.account (.createUser key passwordHash), .ok user⟩ =>
      key == email && h.any (hashedTo password passwordHash) && User.id user == userId
  | .login email password, ⟨.account (.findUserByEmail key), .ok (some user)⟩ =>
      key == email && h.any (acceptedFor password (User.passwordHash user)) && User.id user == userId
  | .refresh presented, ⟨.account (.findToken tokenHash), .ok (some (_, user))⟩ =>
      presented.text? == some tokenHash.preimage && User.id user == userId
  | _, _ => false

/-- The request came with the user's credentials. -/
def Request.vouchedFor (q : Request) (h : List (Prog.Entry Sig)) (userId : String) : Bool :=
  h.any (q.vouches h userId)

theorem any_mono {h h' : List (Prog.Entry Sig)} (hsub : ∀ e ∈ h, e ∈ h')
    {p p' : Prog.Entry Sig → Bool} (hp : ∀ e, p e = true → p' e = true) (hany : h.any p = true) :
    h'.any p' = true := by
  obtain ⟨e, he, hpe⟩ := List.any_eq_true.mp hany
  exact List.any_eq_true.mpr ⟨e, hsub e he, hp e hpe⟩

theorem Request.vouches_mono {q : Request} {h h' : List (Prog.Entry Sig)} (hsub : ∀ e ∈ h, e ∈ h')
    {userId : String} {e : Prog.Entry Sig} (he : q.vouches h userId e = true) :
    q.vouches h' userId e = true := by
  unfold Request.vouches at he ⊢
  split at he
  · simp only [Bool.and_eq_true] at he ⊢
    exact ⟨⟨he.1.1, any_mono hsub (fun _ hp => hp) he.1.2⟩, he.2⟩
  · simp only [Bool.and_eq_true] at he ⊢
    exact ⟨⟨he.1.1, any_mono hsub (fun _ hp => hp) he.1.2⟩, he.2⟩
  · exact he
  · cases he

/-- Credentials come with the row of their user. -/
theorem Request.vouches_answer {q : Request} {h : List (Prog.Entry Sig)} {userId : String}
    {e : Prog.Entry Sig} (he : q.vouches h userId e = true) :
    ∃ u ∈ userAnswer e, u.id = userId := by
  unfold Request.vouches at he
  split at he
  · exact ⟨_, rfl, beq_iff_eq.mp (Bool.and_eq_true_iff.mp he).2⟩
  · exact ⟨_, rfl, beq_iff_eq.mp (Bool.and_eq_true_iff.mp he).2⟩
  · exact ⟨_, rfl, beq_iff_eq.mp (Bool.and_eq_true_iff.mp he).2⟩
  · cases he

theorem Request.vouchedFor_mono {q : Request} {h h' : List (Prog.Entry Sig)}
    (hsub : ∀ e ∈ h, e ∈ h') {userId : String} (hq : q.vouchedFor h userId = true) :
    q.vouchedFor h' userId = true :=
  any_mono hsub (fun _ => Request.vouches_mono hsub) hq

/-! ## What a request owes -/

/-- An answer has shown the payment. -/
def Shows (h : List (Prog.Entry Sig)) (id : String) : Prop := ∃ e ∈ h, ∃ t ∈ shown e, t.id = id

theorem Shows.mono {h h' : List (Prog.Entry Sig)} {id : String} (hs : Shows h id)
    (hsub : ∀ e ∈ h, e ∈ h') : Shows h' id := by
  obtain ⟨e, he, t, ht, hid⟩ := hs
  exact ⟨e, hsub e he, t, ht, hid⟩

/-- The pushes a sweep selected. -/
def swept : Prog.Entry Sig → List Transaction
  | ⟨.transaction (.findStale _), .ok stale⟩ => stale
  | _ => []

theorem swept_error (c : Cmd) (e : Exception) : swept ⟨c, .error e⟩ = [] := by
  cases c with
  | transaction c => cases c <;> rfl
  | _ => rfl

/-- What a write to an account owes to its request and to the statements
before it. -/
def OwesAccount (q : Request) (h : List (Prog.Entry Sig)) (e : Prog.Entry Sig) : Prop :=
  match e.1 with
  | .account (.createUser email passwordHash) => ∃ password, q = .register email password ∧
      (⟨.service (.bcryptHash password), .ok passwordHash⟩ : Prog.Entry Sig) ∈ h
  | .account (.revokeAllOfUser id _) => ∃ token record user, q = refreshWith token ∧
      (⟨.account (.findToken (AuthService.hashRefreshToken token)), .ok (some (record, user))⟩ :
        Prog.Entry Sig) ∈ h ∧ record.userId = id
  | .account (.revokeToken id _) => ∃ token record user, q = refreshWith token ∧
      (⟨.account (.findToken (AuthService.hashRefreshToken token)), .ok (some (record, user))⟩ :
        Prog.Entry Sig) ∈ h ∧ record.id = id
  | .account (.createToken id _ _) => q.vouchedFor h id = true
  | .transaction (.setProviderReference id _) | .transaction (.markFailed id _ _) =>
      Shows h id
  | .transaction (.markTimedOut id _) => ∃ e' ∈ h, ∃ t ∈ swept e', t.id = id
  | .subscription (.commitActivation id owner _ _ _) => ∃ t x,
      (⟨.subscription (.readForActivation id), .ok (some (t, x))⟩ : Prog.Entry Sig) ∈ h ∧
        t.userId = owner
  | _ => Reaches q e.1

/-- The statements that take what they write from an earlier answer. -/
def Cmd.namesRow : Cmd → Bool
  | .account (.createUser _ _) | .account (.createToken _ _ _) => true
  | .account (.revokeAllOfUser _ _) | .account (.revokeToken _ _) => true
  | .transaction (.setProviderReference _ _) | .transaction (.markFailed _ _ _) => true
  | .transaction (.markTimedOut _ _) => true
  | .subscription (.commitActivation _ _ _ _ _) => true
  | _ => false

section

variable {q : Request} {h : List (Prog.Entry Sig)}

theorem OwesAccount.of_reaches {e : Prog.Entry Sig} (hreaches : Reaches q e.1)
    (he : e.1.namesRow = false) : OwesAccount q h e := by
  obtain ⟨c, r⟩ := e
  cases c with
  | account c => cases c <;> first | exact hreaches | exact Bool.noConfusion he
  | transaction c => cases c <;> first | exact hreaches | exact Bool.noConfusion he
  | subscription c => cases c <;> first | exact hreaches | exact Bool.noConfusion he
  | _ => exact hreaches

/-- A part of a handler that names no row. -/
theorem owes_of_calls {α : Type} {p : App α}
    (hp : p.Calls fun c : Cmd => Reaches q c ∧ c.namesRow = false) :
    p.Emits (OwesAccount q) (fun _ h' => ∀ e ∈ h, e ∈ h') h :=
  (Prog.Emits.grows (Q := fun _ _ => True)
    (.of_calls hp (fun _ _ hc => .of_reaches hc.1 hc.2) fun _ _ => trivial)).mono
      (fun _ _ hstep => hstep) fun _ _ hend => hend.2

open AuthService in
/-- The tokens are issued to the user whose credentials the request came with. -/
theorem issueTokens_owes (cfg : AppConfig) {userId email : String} {role : Role}
    (hvouched : q.vouchedFor h userId = true) (hq : Admitted Cmd.issuesTokens (Reaches q)) :
    (issueTokens cfg userId email role).Emits (OwesAccount q) (fun _ _ => True) h := by
  refine .perform_bind (fun accessToken => ⟨hq _ rfl, ?_⟩) fun e => ⟨hq _ rfl, trivial⟩
  refine .perform_bind (fun refreshToken => ⟨hq _ rfl, ?_⟩) fun e => ⟨hq _ rfl, trivial⟩
  refine .perform_bind (fun instant => ⟨hq _ rfl, ?_⟩) fun e => ⟨hq _ rfl, trivial⟩
  have later : ∀ since : List (Prog.Entry Sig), q.vouchedFor (since ++ h) userId = true :=
    fun since => Request.vouchedFor_mono (fun _ => List.mem_append_right since) hvouched
  exact .perform_bind (fun row => ⟨later [_, _, _], trivial⟩) fun e => ⟨later [_, _, _], trivial⟩

open AuthService in
theorem register_owes (cfg : AppConfig) (email password : String) :
    (register cfg email password).Emits (OwesAccount (.register email password))
      (fun _ _ => True) [] := by
  have tokens : Admitted Cmd.issuesTokens (Reaches (.register email password)) :=
    issues_admitted rfl (fun _ => rfl) rfl fun _ _ _ => rfl
  have self : ∀ text : String, (text == text) = true := fun text => beq_self_eq_true text
  refine .perform_bind (fun existing => ⟨self email, ?_⟩) fun e => ⟨self email, trivial⟩
  refine .ite (fun _ => trivial) fun _ => ?_
  refine .perform_bind (fun (passwordHash : String) => ⟨self password, ?_⟩)
    fun e => ⟨self password, trivial⟩
  refine .perform_bind (fun user => ⟨⟨password, rfl, List.mem_cons_self⟩, ?_⟩)
    fun e => ⟨⟨password, rfl, List.mem_cons_self⟩, trivial⟩
  refine .bind (issueTokens_owes cfg ?_ tokens) (fun _ _ _ => trivial) fun _ _ _ => trivial
  simp [Request.vouchedFor, Request.vouches, hashedTo]

open AuthService in
theorem login_owes (cfg : AppConfig) (email password : String) :
    (login cfg email password).Emits (OwesAccount (.login email password)) (fun _ _ => True) [] := by
  have tokens : Admitted Cmd.issuesTokens (Reaches (.login email password)) :=
    issues_admitted rfl (fun _ => rfl) rfl fun _ _ _ => rfl
  have self : ∀ text : String, (text == text) = true := fun text => beq_self_eq_true text
  refine .perform_bind (fun user => ⟨self email, ?_⟩) fun e => ⟨self email, trivial⟩
  cases user with
  | none => trivial
  | some user =>
      refine .perform_bind (fun (passwordMatches : Bool) => ⟨self password, ?_⟩)
        fun e => ⟨self password, trivial⟩
      refine .ite (fun _ => trivial) fun hmatches => ?_
      -- only an accepted password gets this far
      have hmatches : passwordMatches = true := by simpa using hmatches
      subst hmatches
      refine .bind (issueTokens_owes cfg ?_ tokens) (fun _ _ _ => trivial) fun _ _ _ => trivial
      simp [Request.vouchedFor, Request.vouches, acceptedFor]

open AuthService in
theorem refresh_owes (cfg : AppConfig) (token : String) :
    (refresh cfg token).Emits (OwesAccount (refreshWith token)) (fun _ _ => True) [] := by
  have tokens : Admitted Cmd.issuesTokens (Reaches (refreshWith token)) :=
    issues_admitted rfl (fun _ => rfl) rfl fun _ _ _ => rfl
  have self : (some token == some token) = true := beq_self_eq_true (some token)
  refine .perform_bind (fun found => ⟨self, ?_⟩) fun e => ⟨self, trivial⟩
  match found with
  | none => trivial
  | some (record, user) =>
      refine .ite (fun _ => ?_) fun _ => ?_
      · refine .perform_bind (fun revokedAt => ⟨rfl, ?_⟩) fun e => ⟨rfl, trivial⟩
        exact .perform_bind (fun _ => ⟨⟨token, record, user, rfl, by simp, rfl⟩, trivial⟩)
          fun e => ⟨⟨token, record, user, rfl, by simp, rfl⟩, trivial⟩
      · refine .perform_bind (fun (instant : Millis) => ⟨rfl, ?_⟩) fun e => ⟨rfl, trivial⟩
        refine .ite (fun _ => trivial) fun _ => ?_
        refine .perform_bind (fun revokedAt => ⟨rfl, ?_⟩) fun e => ⟨rfl, trivial⟩
        refine .perform_bind (fun _ => ⟨⟨token, record, user, rfl, by simp, rfl⟩, ?_⟩)
          fun e => ⟨⟨token, record, user, rfl, by simp, rfl⟩, trivial⟩
        refine issueTokens_owes cfg ?_ tokens
        simp [Request.vouchedFor, Request.vouches, refreshWith, JsVal.text?, hashRefreshToken,
          TokenHash.preimage]

/-! ### Payments -/

theorem createPending_owes (cfg : AppConfig) {userId : String} {method : PaymentMethod}
    (hfind : Reaches q (.transaction (.findFirstPending userId)))
    (hcreate : ∀ amount, Reaches q (.transaction (.create userId method amount))) :
    (TransactionsService.createPending cfg userId method).Emits (OwesAccount q)
      (fun r h => ∀ t, r = .ok t → Shows h t.id) [] := by
  refine .perform_bind (fun existing => ⟨hfind, ?_⟩) fun e => ⟨hfind, by simp⟩
  refine .ite (fun _ t ht => ?_) fun _ r => ⟨hcreate _, ?_⟩
  · cases ht
  · intro t ht
    cases ht
    exact ⟨_, List.mem_cons_self, t, rfl, rfl⟩

/-- The row of a payment that was shown may be closed. -/
theorem markFailed_owes {id : String} {reason : JsVal} (hnow : Reaches q .now) (hs : Shows h id) :
    (TransactionsService.markFailed id reason).Emits (OwesAccount q) (fun _ _ => True) h := by
  refine .perform_bind (fun resolvedAt => ⟨hnow, fun r => ⟨?_, trivial⟩⟩) fun e => ⟨hnow, trivial⟩
  exact hs.mono fun _ => List.mem_cons_of_mem _

open PaymentsService in
/-- An initiation writes to the row it has created. -/
theorem initiateMpesa_owes (cfg : AppConfig) (user : JwtAccessPayload) (phoneNumber : String) :
    (initiateMpesa cfg user.sub user.email phoneNumber).Emits
      (OwesAccount (.initiateMpesa (some user) phoneNumber)) (fun _ _ => True) [] := by
  have method : ∀ amount, Reaches (.initiateMpesa (some user) phoneNumber)
      (.transaction (.create user.sub .MPESA amount)) := by
    intro amount
    simp [Reaches, Request.reach, Cmd.initiates, isBearer]
  refine .bind (createPending_owes cfg (isBearer_self user) method) ?_ fun _ _ _ => trivial
  intro t h hcreated
  have hshows := hcreated t rfl
  refine .bind (Q := fun _ h => Shows h t.id) (.catchErr (Q := fun _ h => Shows h t.id) ?_
    (fun _ _ hs => hs) fun e h hs => ?_) (fun _ _ _ => trivial) fun _ _ _ => trivial
  · refine .bind (Q := fun _ h => Shows h t.id) ?_ (fun result h hs => ?_) fun _ _ hs => hs
    · refine (owes_of_calls ?_).mono (fun _ _ hstep => hstep) fun _ _ hsub => hshows.mono hsub
      exact mpesaProvider_admitted cfg ⟨rfl, rfl⟩ fun push hpush => ⟨beq_iff_eq.mpr hpush, rfl⟩
    · refine .ite (fun _ => ?_) fun _ => hs
      exact .perform_bind (fun _ => ⟨hs, hs.mono fun _ => List.mem_cons_of_mem _⟩)
        fun e => ⟨hs, hs.mono fun _ => List.mem_cons_of_mem _⟩
  · refine .bind (Q := fun _ h => Shows h t.id) ?_ (fun _ _ hs => hs) fun _ _ hs => hs
    exact (Prog.Emits.grows (markFailed_owes (q := .initiateMpesa (some user) phoneNumber) rfl hs)).mono (fun _ _ hstep => hstep)
      fun _ _ hend => hs.mono hend.2

open PaymentsService in
theorem initiateBankGateway_owes (cfg : AppConfig) (user : JwtAccessPayload) :
    (initiateBankGateway cfg user.sub user.email).Emits
      (OwesAccount (.initiateBankGateway (some user))) (fun _ _ => True) [] := by
  have method : ∀ amount, Reaches (.initiateBankGateway (some user))
      (.transaction (.create user.sub .BANK_GATEWAY amount)) := by
    intro amount
    simp [Reaches, Request.reach, Cmd.initiates, isBearer]
  refine .bind (createPending_owes cfg (isBearer_self user) method) ?_ fun _ _ _ => trivial
  intro t h hcreated
  have hshows := hcreated t rfl
  refine .catchErr (Q := fun _ h => Shows h t.id) ?_ (fun _ _ _ => trivial) fun e h hs => ?_
  · refine .bind (Q := fun _ h => Shows h t.id) ?_ (fun result h hs => hs) fun _ _ hs => hs
    refine (owes_of_calls ?_).mono (fun _ _ hstep => hstep) fun _ _ hsub => hshows.mono hsub
    exact bankGatewayProvider_admitted cfg fun checkout hemail => ⟨beq_iff_eq.mpr hemail.symm, rfl⟩
  · exact .bind (markFailed_owes rfl hs) (fun _ _ _ => trivial) fun _ _ _ => trivial

/-- A delivery writes to the payment it was shown, for that payment's user. -/
theorem DeliveryStep.owes {cfg : AppConfig} {outcome : WebhookOutcome} {e : Prog.Entry Sig}
    (hstep : DeliveryStep cfg outcome h e) (hreaches : Reaches q e.1) : OwesAccount q h e := by
  have shows : ∀ {id : String}, ResolvesPending outcome h id → Shows h id := by
    rintro id ⟨t, ht, hid, -⟩
    obtain ⟨e, he, hshown⟩ := ht.shown
    exact ⟨e, he, t, hshown, hid⟩
  obtain ⟨c, r⟩ := e
  cases c with
  | account c => exact hstep.elim
  | transaction c =>
      cases c with
      | setProviderReference id ref => exact shows hstep.2
      | markFailed id resolvedAt reason => exact shows hstep.2
      | markTimedOut id resolvedAt => exact hstep.elim
      | _ => exact hreaches
  | subscription c =>
      cases c with
      | commitActivation id owner resolvedAt startAt expiresAt =>
          obtain ⟨t, ht, howner⟩ := hstep.owner
          exact ⟨t, none, ht, howner.symm⟩
      | _ => exact hreaches
  | _ => exact hreaches

/-- The loop times out rows that were selected. -/
theorem markStale_owes {stale rest : List Transaction} {e : Prog.Entry Sig} (he : e ∈ h)
    (hselected : swept e = stale) (hrest : rest ⊆ stale) :
    (PaymentsService.markStale rest).Emits (OwesAccount .sweepTick) (fun _ _ => True) h := by
  induction rest generalizing h with
  | nil => trivial
  | cons transaction rest ih =>
      obtain ⟨ht, hrest⟩ := List.cons_subset.mp hrest
      have hrow : ∃ t ∈ swept e, t.id = transaction.id := ⟨transaction, hselected ▸ ht, rfl⟩
      have kept : ∀ later : List (Prog.Entry Sig), e ∈ later ++ h := fun later =>
        List.mem_append_right later he
      refine .bind (Q := fun _ h => e ∈ h) ?_ (fun _ _ he => ih he hrest) fun _ _ _ => trivial
      refine .perform_bind (fun resolvedAt => ⟨rfl, ?_⟩) fun _ => ⟨rfl, List.mem_cons_of_mem _ he⟩
      exact fun r => ⟨⟨e, kept [_], hrow⟩, kept [_, _]⟩

theorem timeoutSweep_owes (cfg : AppConfig) :
    (PaymentsService.timeoutSweep cfg).Emits (OwesAccount .sweepTick) (fun _ _ => True) [] := by
  refine .perform_bind (fun instant => ⟨rfl, ?_⟩) fun e => ⟨rfl, trivial⟩
  refine .perform_bind (fun stale => ⟨rfl, ?_⟩) fun e => ⟨rfl, trivial⟩
  exact markStale_owes List.mem_cons_self rfl (List.Subset.refl stale)

/-- The requests that name every row they write. -/
def Request.namesRows : Request → Bool
  | .register _ _ | .login _ _ | .refresh _ | .initiateMpesa _ _ | .initiateBankGateway _
  | .sweepTick => true
  | q => q.isDelivery

theorem Reaches.namesRow {c : Cmd} (hreaches : Reaches q c) (hq : q.namesRows = false) :
    c.namesRow = false := by
  unfold Cmd.namesRow
  split
  all_goals first
    | rfl
    | cases q <;> first
      | exact Bool.noConfusion hq
      | cases hreaches
      | cases (Bool.and_eq_true_iff.mp hreaches).2

/-- **What every request owes.** -/
theorem handle_owes (cfg : AppConfig) (q : Request) :
    (handle cfg q).Emits (OwesAccount q) (fun _ _ => True) [] := by
  have other (hq : q.namesRows = false) : (handle cfg q).Emits (OwesAccount q) (fun _ _ => True) [] :=
    .of_calls (handle_reaches cfg q) (fun _ _ hc => .of_reaches hc (hc.namesRow hq)) fun _ _ => trivial
  have delivery (hq : q.isDelivery = true) :
      (handle cfg q).Emits (OwesAccount q) (fun _ _ => True) [] := by
    refine ((handle_emits cfg q).within (handle_reaches cfg q)).mono ?_ fun _ _ _ => trivial
    rintro h e ⟨hreaches, hstep⟩
    obtain ⟨outcome, -, hdelivery⟩ := hstep.delivery hq
    exact hdelivery.owes hreaches
  cases q with
  | register email password =>
      exact .bind (register_owes cfg email password) (fun _ _ _ => trivial) fun _ _ _ => trivial
  | login email password =>
      exact .bind (login_owes cfg email password) (fun _ _ _ => trivial) fun _ _ _ => trivial
  | refresh presented =>
      have owes : (AuthController.refresh cfg presented).Emits (OwesAccount (.refresh presented))
          (fun _ _ => True) [] := by
        unfold AuthController.refresh
        refine .ite (fun _ => trivial) fun _ => .ofExcept_bind (fun token htoken => ?_) fun _ _ => trivial
        cases tokenText_ok htoken
        exact refresh_owes cfg token
      exact .bind owes (fun _ _ _ => trivial) fun _ _ _ => trivial
  | initiateMpesa user phoneNumber =>
      cases user with
      | none => trivial
      | some user =>
          exact emits_guard (.bind (initiateMpesa_owes cfg user phoneNumber) (fun _ _ _ => trivial)
            fun _ _ _ => trivial)
  | initiateBankGateway user =>
      cases user with
      | none => trivial
      | some user =>
          exact emits_guard (.bind (initiateBankGateway_owes cfg user) (fun _ _ _ => trivial)
            fun _ _ _ => trivial)
  | mpesaCallback req token => exact delivery rfl
  | bankGatewayWebhook req => exact delivery rfl
  | sweepTick => exact .bind (timeoutSweep_owes cfg) (fun _ _ _ => trivial) fun _ _ _ => trivial
  | _ => exact other rfl

end

/-! ## Who a request acts for -/

/-- The request acts for the user: it registered the user or signed the user in, with
the password; it refreshed or logged out with a refresh token of the user's; it
came with the user's access token to a payment endpoint; it was shown one of the
user's payments to deliver an outcome to; or it selected a push of the user's that
nobody answered. -/
def Request.actsFor (q : Request) (s : Store) (h : List (Prog.Entry Sig)) (userId : String) : Bool :=
  match q with
  | .register _ _ | .login _ _ | .refresh _ => q.vouchedFor h userId
  | .logout presented => s.refreshTokens.rows.any fun r =>
      r.userId == userId && presented.text? == some r.tokenHash.preimage
  | .initiateMpesa user _ | .initiateBankGateway user => isBearer user userId
  | .mpesaCallback _ _ | .bankGatewayWebhook _ =>
      h.any fun e => (shown e).any fun t => t.userId == userId
  | .sweepTick => h.any fun e => (swept e).any fun t => t.userId == userId && t.method == .MPESA
  | _ => false

section

variable {cfg : AppConfig} {ok : AppState → Action Ambient Request → Prop} {s : Store}
  {a b : AppState} {userId : String}

/-- A payment that was shown is still stored, under the same user. -/
theorem shown_stored (hr : (app cfg).Run ok (Machine.start s) b) {tid : Nat} {e : Prog.Entry Sig}
    (he : Event.did tid e ∈ b.trace) {t : Transaction} (ht : shown e = some t) :
    ∃ t' ∈ b.store.transactions, t'.id = t.id ∧ t'.userId = t.userId := by
  obtain ⟨t', ht', hsame⟩ := Machine.Run.answers (m := app cfg)
    (K := fun s e => ∀ t ∈ shown e, ∃ t' ∈ s.transactions, t.Onward t') (fun o c s t ht =>
      ⟨t, (exec_answers o c s).shown_mem ht, .refl t⟩) (fun o c s e h t ht => by
        obtain ⟨t', ht', hsame⟩ := h t ht
        obtain ⟨t'', ht'', hsame'⟩ := (transactions_grow o c s).mem ht'
        exact ⟨t'', ht'', hsame.trans hsame'⟩) hr tid e he t ht
  exact ⟨t', ht', hsame.same.id, hsame.same.userId⟩

/-- The row an activation read is the one it asked for. -/
theorem shows_own_row (hr : (app cfg).Run ok (Machine.start s) b) {tid : Nat} {id : String}
    {t : Transaction} {x : Option Subscription} (he : Event.did tid (⟨.subscription
      (.readForActivation id), .ok (some (t, x))⟩ : Prog.Entry Sig) ∈ b.trace) : t.id = id :=
  Machine.Run.answers (m := app cfg) (K := fun _ e => ShowsOwnRow e)
    (fun o c s => (exec_answers o c s).showsOwnRow) (fun _ _ _ _ h => h) hr tid _ he

/-- The row with the id of a payment that was shown is of the same user. -/
theorem shown_user (hr : (app cfg).Run ok (Machine.start s) b) {tid : Nat} {e : Prog.Entry Sig}
    (he : Event.did tid e ∈ b.trace) {t row : Transaction} (ht : shown e = some t)
    (hrow : row ∈ b.store.transactions) (hid : row.id = t.id) : row.userId = t.userId := by
  obtain ⟨t', ht', hid', huser⟩ := shown_stored hr he ht
  rw [transactions_eq_of_id hrow ht' (hid.trans hid'.symm), huser]

/-- The sweep selects M-Pesa pushes that are stored. -/
theorem exec_swept (o : Ambient) (c : Cmd) (s : Store) : ∀ t ∈ swept ⟨c, (exec o c s).1⟩,
    t.method = .MPESA ∧ t ∈ (exec o c s).2.transactions := by
  intro t ht
  cases hout : exec o c s with
  | mk r s' =>
      rw [hout] at ht
      cases r with
      | error e => exact absurd ht (swept_error c e ▸ List.not_mem_nil)
      | ok answer =>
          cases c with
          | transaction c =>
              cases c with
              | findStale cutoff =>
                  obtain ⟨rfl, instant, -, hrows⟩ := findStale_ok hout
                  subst hrows
                  obtain ⟨hstored, hselected⟩ := List.mem_filter.mp ht
                  simp only [Bool.and_eq_true, beq_iff_eq] at hselected
                  exact ⟨hselected.1.1, hstored⟩
              | _ => cases ht
          | _ => cases ht

/-- A push that was selected is still stored, under the same user. -/
theorem swept_stored (hr : (app cfg).Run ok (Machine.start s) b) {tid : Nat} {e : Prog.Entry Sig}
    (he : Event.did tid e ∈ b.trace) : ∀ t ∈ swept e, t.method = .MPESA ∧
      ∃ t' ∈ b.store.transactions, t'.id = t.id ∧ t'.userId = t.userId := by
  refine Machine.Run.answers (m := app cfg) (K := fun s e => ∀ t ∈ swept e, t.method = .MPESA ∧
    ∃ t' ∈ s.transactions, t'.id = t.id ∧ t'.userId = t.userId) ?_ ?_ hr tid e he
  · intro o c s t ht
    obtain ⟨hmethod, hmem⟩ := exec_swept o c s t ht
    exact ⟨hmethod, t, hmem, rfl, rfl⟩
  · intro o c s e h t ht
    obtain ⟨hmethod, t', ht', hid, huser⟩ := h t ht
    obtain ⟨t'', ht'', hsame⟩ := (transactions_grow o c s).mem ht'
    exact ⟨hmethod, t'', ht'', hsame.same.id.trans hid, hsame.same.userId.trans huser⟩

/-- A refresh token that was looked up came with its user. -/
theorem lookup_user (hr : (app cfg).Run ok (Machine.start s) b) {tid : Nat} {hash : TokenHash}
    {record : RefreshToken} {user : User} (he : Event.did tid (⟨.account (.findToken hash),
      .ok (some (record, user))⟩ : Prog.Entry Sig) ∈ b.trace) : user.id = record.userId := by
  refine Machine.Run.answers (m := app cfg) (K := fun _ e => ∀ hash record user,
    e = (⟨.account (.findToken hash), .ok (some (record, user))⟩ : Prog.Entry Sig) →
      user.id = record.userId) ?_ (fun _ _ _ _ h => h) hr tid _ he hash record user rfl
  intro o c s hash record user heq
  obtain ⟨rfl, hok⟩ := Sigma.mk.inj_iff.mp heq
  exact (findToken_ok (eq_of_heq hok)).2.2

/-- The row with the id of a token that was looked up is of the same user. -/
theorem lookup_row (hr : (app cfg).Run ok (Machine.start s) b) {tid : Nat} {hash : TokenHash}
    {record : RefreshToken} {user : User} (he : Event.did tid (⟨.account (.findToken hash),
      .ok (some (record, user))⟩ : Prog.Entry Sig) ∈ b.trace) {r : RefreshToken}
    (hmem : r ∈ b.store.refreshTokens) (hid : r.id = record.id) : r.userId = user.id := by
  obtain ⟨⟨r', hr', hlater⟩, -⟩ := tokenAnswers_run hr tid _ he
  rw [lookup_user hr he, refreshTokens_eq_of_id hmem hr' (hid.trans hlater.id.symm), hlater.userId]

def Request.isInitiation : Request → Bool
  | .initiateMpesa _ _ | .initiateBankGateway _ => true
  | _ => false

/-- A payment is looked up. -/
def Cmd.looksUp : Cmd → Bool
  | .transaction (.findById _) | .transaction (.findByReference _) => true
  | .subscription (.readForActivation _) => true
  | _ => false

theorem initiation_looks_nothing_up {q : Request} {c : Cmd} (hq : q.isInitiation = true)
    (hc : c.looksUp = true) : ¬ Reaches q c := by
  intro hreaches
  unfold Cmd.looksUp at hc
  split at hc
  all_goals first
    | cases q <;> first
      | exact Bool.noConfusion hq
      | cases hreaches
    | cases hc

/-- What a session operation writes beside its own row. -/
def Cmd.ofSession : Cmd → Bool
  | .account (.createUser _ _) | .account (.createToken _ _ _) => true
  | .account (.revokeAllOfUser _ _) | .account (.revokeToken _ _) => true
  | _ => false

theorem Reaches.session {q : Request} {c : Cmd} (h : Reaches q c) (hc : c.ofSession = true) :
    q.opensSession = true := by
  unfold Cmd.ofSession at hc
  split at hc
  all_goals first
    | cases q <;> first
      | rfl
      | cases h
      | cases (Bool.and_eq_true_iff.mp h).2
    | cases hc

/-- A payment that is named is written. -/
def Cmd.writesPayment : Cmd → Bool
  | .transaction (.setProviderReference _ _) | .transaction (.markFailed _ _ _) => true
  | .subscription (.commitActivation _ _ _ _ _) => true
  | _ => false

theorem Reaches.payment {q : Request} {c : Cmd} (h : Reaches q c) (hc : c.writesPayment = true) :
    q.isDelivery = true ∨ q.isInitiation = true := by
  unfold Cmd.writesPayment at hc
  split at hc
  all_goals first
    | cases q <;> first
      | exact .inl rfl
      | exact .inr rfl
      | cases h
      | cases (Bool.and_eq_true_iff.mp h).2
    | cases hc

/-- The payment an initiation was shown is its bearer's. -/
theorem initiated_user (hr : (app cfg).Run ok (Machine.start s) b) {tid : Nat} {q : Request}
    {e : Prog.Entry Sig} (he : Event.did tid e ∈ b.trace) (hreaches : Reaches q e.1)
    (hq : q.isInitiation = true) {t : Transaction} (ht : shown e = some t) :
    isBearer q.bearer t.userId = true := by
  have created : ∀ {userId method amount}, e = inserted userId method amount t →
      t.userId = userId := by
    rintro userId method amount rfl
    exact inserted_userId hr he
  -- an initiation looks no payment up
  have unread : e.1.looksUp = false := by
    cases hlooks : e.1.looksUp with
    | false => rfl
    | true => exact absurd hreaches (initiation_looks_nothing_up hq hlooks)
  obtain ⟨c, r⟩ := e
  cases r with
  | error e =>
      rw [shown_error] at ht
      cases ht
  | ok a =>
      cases c with
      | transaction c =>
          cases c with
          | create userId method amount =>
              cases ht
              rw [created rfl]
              cases q <;> first
                | exact (Bool.and_eq_true_iff.mp hreaches).1
                | exact Bool.noConfusion hq
          | findById id => cases unread
          | findByReference ref => cases unread
          | _ => cases ht
      | subscription c =>
          cases c with
          | readForActivation id => cases unread
          | _ => cases ht
      | _ => cases ht

/-- The statements of the thread so far, and the pending one. -/
theorem owes_at (hr : (app cfg).Run ok (Machine.start s) a) {tid : Nat} {q : Request} {c : Cmd}
    {k : Except Exception c.Resp → App Reply} (hth : a.threads[tid]? = some ⟨q, .call c k⟩)
    (r : Except Exception c.Resp) : OwesAccount q (own tid a.trace) ⟨c, r⟩ ∧ Reaches q c ∧
      ∀ e ∈ own tid a.trace, Reaches q e.1 := by
  have howes := Machine.Run.owes (P := fun q h e => OwesAccount q h e ∧ Reaches q e.1 ∧
      ∀ e' ∈ h, Reaches q e'.1) (R := fun _ _ _ => True) (fun q => ?_) hr hth r
  · exact howes
  · exact ((handle_owes cfg q).and (.of_calls_past (handle_reaches cfg q) (by simp))).mono
      (fun _ _ h => h) fun _ _ _ => trivial

/-- **A request that touches an account acts for its user.** -/
theorem touches_actsFor (hr : (app cfg).Run ok (Machine.start s) a) {tid : Nat} {q : Request}
    {c : Cmd} {k : Except Exception c.Resp → App Reply}
    (hth : a.threads[tid]? = some ⟨q, .call c k⟩) (o : Ambient)
    (htouches : Touches a.store userId ⟨c, (exec o c a.store).1⟩) :
    q.actsFor (exec o c a.store).2 (⟨c, (exec o c a.store).1⟩ :: own tid a.trace) userId = true := by
  obtain ⟨howes, hreaches, hpast⟩ := owes_at hr hth (exec o c a.store).1
  have hkept := exec_tokensKept o c a.store
  generalize hs' : (exec o c a.store).2 = s' at hkept ⊢
  generalize hr' : (exec o c a.store).1 = r at htouches howes ⊢
  have did : ∀ {e : Prog.Entry Sig}, e ∈ own tid a.trace → Event.did tid e ∈ a.trace :=
    fun he => mem_own.mp he
  -- the three ways a session, an initiation and a delivery are tied to an account
  have session : q.vouchedFor (⟨c, r⟩ :: own tid a.trace) userId = true →
      q.opensSession = true → q.actsFor s' (⟨c, r⟩ :: own tid a.trace) userId = true := by
    intro hvouched hq
    cases q <;> first
      | exact hvouched
      | exact Bool.noConfusion hq
  have presented : ∀ {token : String} {record : RefreshToken} {user : User},
      (⟨.account (.findToken (AuthService.hashRefreshToken token)), .ok (some (record, user))⟩ :
        Prog.Entry Sig) ∈ own tid a.trace → user.id = userId →
      (refreshWith token).actsFor s' (⟨c, r⟩ :: own tid a.trace) userId = true := by
    intro token record user he hid
    refine List.any_eq_true.mpr ⟨_, List.mem_cons_of_mem _ he, ?_⟩
    exact Bool.and_eq_true_iff.mpr ⟨beq_self_eq_true (some token), beq_iff_eq.mpr hid⟩
  have payment : ∀ {e : Prog.Entry Sig} {t : Transaction}, e ∈ own tid a.trace →
      shown e = some t → t.userId = userId → q.isDelivery = true ∨ q.isInitiation = true →
      q.actsFor s' (⟨c, r⟩ :: own tid a.trace) userId = true := by
    intro e t he ht huser hq
    have hany : (⟨c, r⟩ :: own tid a.trace).any
        (fun e => (shown e).any fun t => t.userId == userId) = true :=
      List.any_eq_true.mpr ⟨e, List.mem_cons_of_mem _ he,
        (Option.any_eq_true _ _).mpr ⟨t, ht, beq_iff_eq.mpr huser⟩⟩
    rcases hq with hq | hq
    · cases q <;> first
        | exact hany
        | exact Bool.noConfusion hq
    · have hbearer := initiated_user hr (did he) (hpast e he) hq ht
      rw [huser] at hbearer
      cases q <;> first
        | exact hbearer
        | exact Bool.noConfusion hq
  have named : ∀ {id : String}, Shows (own tid a.trace) id → ∀ t ∈ a.store.transactions,
      t.id = id → t.userId = userId → q.isDelivery = true ∨ q.isInitiation = true →
      q.actsFor s' (⟨c, r⟩ :: own tid a.trace) userId = true := by
    rintro id ⟨e, he, t', ht', hid'⟩ t ht hid huser hq
    refine payment he ht' ?_ hq
    rw [← shown_user hr (did he) ht' ht (hid.trans hid'.symm), huser]
  cases r with
  | error e =>
      cases c with
      | account c => cases c <;> exact htouches.elim
      | transaction c => cases c <;> exact htouches.elim
      | subscription c => cases c <;> exact htouches.elim
      | _ => exact htouches.elim
  | ok answer =>
      cases c with
      | account c =>
          cases c with
          | createUser email passwordHash =>
              obtain ⟨password, rfl, hhashed⟩ := howes
              refine session (List.any_eq_true.mpr ⟨_, List.mem_cons_self, ?_⟩) rfl
              have hany : (⟨.account (.createUser email passwordHash), .ok answer⟩ ::
                  own tid a.trace).any (hashedTo password passwordHash) = true :=
                List.any_eq_true.mpr ⟨_, List.mem_cons_of_mem _ hhashed, by simp [hashedTo]⟩
              simp [Request.vouches, hany, show User.id answer = userId from htouches]
          | createToken id hash expiresAt =>
              obtain rfl : id = userId := htouches
              exact session (Request.vouchedFor_mono (fun _ => List.mem_cons_of_mem _) howes)
                (hreaches.session rfl)
          | revokeAllOfUser id revokedAt =>
              obtain ⟨token, record, user, rfl, he, hid⟩ := howes
              refine presented he ?_
              rw [lookup_user hr (did he), hid]
              exact htouches
          | revokeToken id revokedAt =>
              obtain ⟨token, record, user, rfl, he, hid⟩ := howes
              obtain ⟨row, hrow, hrowid, huser⟩ := htouches
              refine presented he ?_
              rw [← lookup_row hr (did he) hrow (hrowid.trans hid.symm), huser]
          | revokeByHash hash revokedAt =>
              obtain ⟨row, hrow, hhash, huser⟩ := htouches
              obtain ⟨row', hrow', hlater⟩ := hkept row hrow
              cases q with
              | logout presented =>
                  refine List.any_eq_true.mpr ⟨row', hrow', ?_⟩
                  rw [hlater.userId, hlater.tokenHash, hhash, huser]
                  exact Bool.and_eq_true_iff.mpr ⟨beq_self_eq_true _, hreaches⟩
              | _ => first
                | cases hreaches
                | cases (Bool.and_eq_true_iff.mp hreaches).2
          | _ => exact htouches.elim
      | transaction c =>
          cases c with
          | create id method amount =>
              cases q <;> first
                | exact htouches ▸ (Bool.and_eq_true_iff.mp hreaches).1
                | cases hreaches
                | cases (Bool.and_eq_true_iff.mp hreaches).2
          | setProviderReference id ref =>
              obtain ⟨t, ht, hid, huser⟩ := htouches
              exact named howes t ht hid huser (hreaches.payment rfl)
          | markFailed id resolvedAt reason =>
              obtain ⟨t, ht, hid, huser⟩ := htouches
              exact named howes t ht hid huser (hreaches.payment rfl)
          | markTimedOut id resolvedAt =>
              obtain ⟨e, he, t', ht', hid'⟩ := howes
              obtain ⟨t, ht, hid, huser⟩ := htouches
              obtain ⟨hmethod, row, hrow, hrowid, hrowuser⟩ := swept_stored hr (did he) t' ht'
              have howner : t'.userId = userId := by
                rw [← hrowuser, ← huser,
                  transactions_eq_of_id ht hrow (hid.trans (hrowid.trans hid').symm)]
              have hany : (⟨.transaction (.markTimedOut id resolvedAt), .ok answer⟩ ::
                  own tid a.trace).any (fun e => (swept e).any fun t =>
                    t.userId == userId && t.method == .MPESA) = true := by
                refine List.any_eq_true.mpr ⟨e, List.mem_cons_of_mem _ he,
                  List.any_eq_true.mpr ⟨t', ht', ?_⟩⟩
                rw [howner, hmethod]
                exact Bool.and_eq_true_iff.mpr ⟨beq_self_eq_true _, rfl⟩
              cases q <;> first
                | exact hany
                | cases hreaches
                | cases (Bool.and_eq_true_iff.mp hreaches).2
          | _ => exact htouches.elim
      | subscription c =>
          cases c with
          | commitActivation id owner resolvedAt startAt expiresAt =>
              obtain ⟨t, x, he, howner⟩ := howes
              refine payment he rfl ?_ (hreaches.payment rfl)
              rcases htouches with rfl | ⟨row, hrow, hid, huser⟩
              · exact howner
              · have hshows : t.id = id := shows_own_row hr (did he)
                rw [← shown_user hr (did he) rfl hrow (hid.trans hshows.symm), huser]
          | _ => exact htouches.elim
      | _ => exact htouches.elim

/-! ## Over a run -/

/-- Whom a request acts for only grows. -/
theorem Request.actsFor_mono {q : Request} {s s' : Store} {h h' : List (Prog.Entry Sig)}
    (hkept : TokensKept s s') (hsub : ∀ e ∈ h, e ∈ h') (hacts : q.actsFor s h userId = true) :
    q.actsFor s' h' userId = true := by
  have shows : ∀ {p : Prog.Entry Sig → Bool}, h.any p = true → h'.any p = true := by
    intro p hany
    obtain ⟨e, he, hp⟩ := List.any_eq_true.mp hany
    exact List.any_eq_true.mpr ⟨e, hsub e he, hp⟩
  cases q with
  | register email password => exact Request.vouchedFor_mono hsub hacts
  | login email password => exact Request.vouchedFor_mono hsub hacts
  | refresh presented => exact Request.vouchedFor_mono hsub hacts
  | mpesaCallback req token => exact shows hacts
  | bankGatewayWebhook req => exact shows hacts
  | sweepTick => exact shows hacts
  | logout presented =>
      obtain ⟨r, hr, hp⟩ := List.any_eq_true.mp hacts
      obtain ⟨r', hr', hlater⟩ := hkept r hr
      refine List.any_eq_true.mpr ⟨r', hr', ?_⟩
      rw [hlater.userId, hlater.tokenHash]
      exact hp
  | _ => exact hacts

theorem own_subset_cons (tid : Nat) (ev : Event Sig Request) (tr : Trace) :
    ∀ e ∈ own tid tr, e ∈ own tid (ev :: tr) := fun _ he =>
  mem_own.mpr (List.mem_cons_of_mem _ (mem_own.mp he))

/-- **An account changes for its user only**: in every run, whatever the
interleaving, either everything the user has is as it was, or some request of
the run acted for the user. -/
theorem accounts_change_for_their_user (hr : (app cfg).Run ok (Machine.start s) b)
    (userId : String) : SameRows userId s b.store ∨
      ∃ tid q, Event.began tid q ∈ b.trace ∧
        q.actsFor b.store (own tid b.trace) userId = true := by
  by_cases hacts : ∃ tid q, Event.began tid q ∈ b.trace ∧
      q.actsFor b.store (own tid b.trace) userId = true
  · exact .inr hacts
  · refine .inl (Machine.Run.keeps_along (m := app cfg) (P := fun _ _ _ => True)
      (R := fun _ _ _ => True) (I := fun s' tr => (¬ ∃ tid q, Event.began tid q ∈ tr ∧
        q.actsFor s' (own tid tr) userId = true) → SameRows userId s s') (fun q => .always _ _)
      ?_ ?_ (fun _ => .refl userId s) hr hacts)
    · intro sys q _ h _ hnone
      refine h fun ⟨tid, q', hbegan, hq'⟩ => hnone ⟨tid, q', List.mem_cons_of_mem _ hbegan, ?_⟩
      rwa [own_began]
    · intro sys tid o q c k hsys h _ hth _ hnone
      have hkept : TokensKept sys.store (exec o c sys.store).2 := exec_tokensKept o c sys.store
      have hbegan := (Machine.Run.emits (P := fun _ _ _ => True) (R := fun _ _ _ => True)
        (fun q => .always _ _) hsys).began tid _ hth
      -- nobody acted for the user before the statement, and the statement does not
      have hbefore : SameRows userId s sys.store := by
        refine h fun ⟨t, q', hbegan', hq'⟩ => hnone ⟨t, q', List.mem_cons_of_mem _ hbegan', ?_⟩
        exact Request.actsFor_mono hkept (own_subset_cons t _ _) hq'
      refine hbefore.trans (exec_sameRows o c sys.store fun htouches => hnone ?_)
      refine ⟨tid, q, List.mem_cons_of_mem _ hbegan, ?_⟩
      rw [own_did_self]
      exact touches_actsFor hsys hth o htouches

end

/-- Two users, one of them signed in. -/
def sampleNeighbours : Store :=
  { Store.empty with
    users := ⟨[⟨"user-2", "baraka@example.com", "hash-2", .USER⟩], by decide⟩
    refreshTokens := ⟨[⟨"rt-2", "user-2", .sha256 "token-2", 5000, none⟩], by decide⟩
    transactions := ⟨[⟨"tx-2", "user-2", .MPESA, 50000, .PENDING, none, 0, none, none⟩], by decide⟩ }

/-- Some request of the run acted for the user. -/
def actedFor (b : AppState) (userId : String) : Bool :=
  b.trace.any fun ev =>
    match ev with
    | .began tid q => q.actsFor b.store (own tid b.trace) userId
    | .did _ _ => false

/-- Thread 3 signs in as `user-2` with a password that is not accepted, thread 4
registers their email again. -/
def sampleIntruders : List (Action Ambient Request) :=
  [.begin (.login "baraka@example.com" "a-guess"), .step 3 (.quiet 6000),
    .step 3 { Ambient.quiet 6001 with accepts := false },
    .begin (.register "baraka@example.com" "a-guess"), .step 4 (.quiet 6002)]

/-- `sampleUser` registers, pays and has the payment delivered beside `user-2`, and
two intruders are turned away: what `user-2` has stays as it was. -/
theorem accounts_change_for_their_user_sample : ∃ b : AppState,
    b.store.subscriptions.rows.length = 1 ∧ SameRows "user-2" sampleNeighbours b.store := by
  obtain ⟨b, hr, hb⟩ := Machine.exists_run_of_replay (m := app sampleConfig)
    (a := Machine.start sampleNeighbours) anyAction
    (sampleRegistration ++ samplePush ++ sampleActivation ++ sampleIntruders)
    (fun b => b.store.subscriptions.rows.length == 1 && !actedFor b "user-2") (by decide +kernel)
  simp only [Bool.and_eq_true, beq_iff_eq, Bool.not_eq_true'] at hb
  refine ⟨b, hb.1, ?_⟩
  rcases accounts_change_for_their_user hr "user-2" with hsame | ⟨tid, q, hbegan, hacts⟩
  · exact hsame
  · have hacted : actedFor b "user-2" = true := List.any_eq_true.mpr ⟨_, hbegan, hacts⟩
    rw [hb.2] at hacted
    cases hacted

end StreamingService
