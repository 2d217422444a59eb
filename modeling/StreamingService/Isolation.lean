import Mathlib.Data.Set.Finite.Lattice
import Mathlib.Data.Fintype.EquivFin
import StreamingService.Account

/-!
# Isolation

What a user's account endpoints tell about other users. The profile, the
subscription and the billing history are scoped to the user, so their
answers are functions of the user's own rows. The payment status looks a
Transaction up by id alone: it stays within the account exactly when the id
is one of the user's own.
-/

namespace StreamingService

open Lib

/-! ## The requests and their answers -/

/-- The endpoints through which a user reads the account. -/
inductive AccountRequest where
  | me
  | subscription
  | history
  | status (transactionId : String)

def AccountRequest.toRequest (user : JwtAccessPayload) : AccountRequest → Request
  | .me => .me (some user)
  | .subscription => .subscriptionStatus (some user)
  | .history => .history (some user)
  | .status transactionId => .paymentStatus (some user) transactionId

/-- What each of them answers at an instant. -/
def Store.accountAnswer (s : Store) (user : JwtAccessPayload) (t : Millis) :
    AccountRequest → Except Exception Reply
  | .me =>
      match s.users.find? fun u => u.id == user.sub with
      | none => .error (.unauthorized "Unauthorized")
      | some row =>
          let (profile, activeUntil) := profile t row (s.latestActive row.id)
          .ok (.profile profile activeUntil)
  | .subscription => .ok (.subscription (subscriptionStatus t (s.latest user.sub)))
  | .history =>
      .ok (.items (historyEntries (s.transactions.filter fun x => x.userId == user.sub)))
  | .status transactionId =>
      match s.transactions.find? fun x => x.id == transactionId with
      | none => .error (.notFound "Transaction not found")
      | some row => .ok (.payment row.id row.status row.resolvedAt)

section

variable {cfg : AppConfig} {user : JwtAccessPayload}

theorem account_reads (s : Store) (t : Millis) (q : AccountRequest) :
    ReadsAt t (handle cfg (q.toRequest user)) s (s.accountAnswer user t q) := by
  cases q with
  | me =>
      have h := (getMe_reads t s user.sub).map_eq fun me => Reply.profile me.1 me.2
      simp only [Store.accountAnswer]
      cases hfind : s.users.find? fun u => u.id == user.sub with
      | none =>
          rw [hfind] at h
          exact h
      | some row =>
          rw [hfind] at h
          exact h
  | subscription => exact (getStatusForUser_reads t s user.sub).map_eq Reply.subscription
  | history => exact (listHistoryForUser_reads t s user.sub).map_eq Reply.items
  | status transactionId =>
      have h := (getStatus_reads t s transactionId).map_eq fun x => Reply.payment x.1 x.2.1 x.2.2
      simp only [Store.accountAnswer]
      cases hfind : s.transactions.find? fun x => x.id == transactionId with
      | none =>
          rw [hfind] at h
          exact h
      | some row =>
          rw [hfind] at h
          exact h

/-- The two databases answer the request alike at every instant. -/
def SameResponse (cfg : AppConfig) (user : JwtAccessPayload) (q : AccountRequest)
    (s s' : Store) : Prop :=
  ∀ t, ∃ r, AnswersAt t (handle cfg (q.toRequest user)) s r ∧
    AnswersAt t (handle cfg (q.toRequest user)) s' r

theorem sameResponse_iff {q : AccountRequest} {s s' : Store} :
    SameResponse cfg user q s s' ↔
      ∀ t, s.accountAnswer user t q = s'.accountAnswer user t q := by
  constructor
  · intro h t
    obtain ⟨r, hr, hr'⟩ := h t
    rw [(account_reads s t q).answersAt.unique hr, (account_reads s' t q).answersAt.unique hr']
  · intro h t
    refine ⟨_, (account_reads s t q).answersAt, ?_⟩
    rw [h t]
    exact (account_reads s' t q).answersAt

end

/-! ## Databases that agree on an account -/

/-- The foreign keys of the account tables. -/
structure Store.Referential (s : Store) : Prop where
  subscriptionUser : ∀ x ∈ s.subscriptions, ∃ u ∈ s.users, u.id = x.userId
  subscriptionTransaction :
    ∀ x ∈ s.subscriptions, ∃ t ∈ s.transactions, t.id = x.transactionId
  transactionUser : ∀ t ∈ s.transactions, ∃ u ∈ s.users, u.id = t.userId

/-- The two databases agree on the user's row, Subscriptions and Transactions. -/
structure SameAccount (userId : String) (s s' : Store) : Prop where
  user : s.users.find? (fun u => u.id == userId) = s'.users.find? fun u => u.id == userId
  subscriptions : s.subscriptions.filter (fun x => x.userId == userId) =
    s'.subscriptions.filter fun x => x.userId == userId
  transactions : s.transactions.filter (fun x => x.userId == userId) =
    s'.transactions.filter fun x => x.userId == userId

/-- The id is one of the user's own Transactions. -/
def OwnTransaction (s : Store) (userId id : String) : Prop :=
  ∃ x ∈ s.transactions, x.userId = userId ∧ x.id = id

/-- The id is a Transaction of somebody else. -/
def ForeignTransaction (s : Store) (userId id : String) : Prop :=
  ∃ x ∈ s.transactions, x.userId ≠ userId ∧ x.id = id

section

variable {userId id : String} {s s' : Store}

theorem SameAccount.latest (h : SameAccount userId s s') : s.latest userId = s'.latest userId := by
  unfold Store.latest
  rw [h.subscriptions]

theorem SameAccount.latestActive (h : SameAccount userId s s') :
    s.latestActive userId = s'.latestActive userId := by
  have hfilter : ∀ s : Store, (s.subscriptions.filter fun x =>
      x.userId == userId && x.status == .ACTIVE) =
        (s.subscriptions.filter fun x => x.userId == userId).filter fun x =>
          x.status == .ACTIVE := by
    intro s
    simp only [Table.filter, List.filter_filter]
    apply List.filter_congr
    intro x _
    rw [Bool.and_comm]
  unfold Store.latestActive
  rw [hfilter s, hfilter s', h.subscriptions]

theorem SameAccount.mem (h : SameAccount userId s s') {x : Transaction} (hx : x ∈ s.transactions)
    (huser : x.userId = userId) : x ∈ s'.transactions := by
  have hmem : x ∈ s.transactions.filter fun x => x.userId == userId :=
    Table.mem_filter.mpr ⟨hx, by simp [huser]⟩
  rw [h.transactions] at hmem
  exact (Table.mem_filter.mp hmem).1

theorem SameAccount.symm (h : SameAccount userId s s') : SameAccount userId s' s :=
  ⟨h.user.symm, h.subscriptions.symm, h.transactions.symm⟩

/-- A lookup that is not somebody else's answers the user's own row, or nothing. -/
theorem find_of_not_foreign (h : ¬ ForeignTransaction s userId id) :
    (∃ x ∈ s.transactions, x.userId = userId ∧ x.id = id ∧
      s.transactions.find? (fun x => x.id == id) = some x) ∨
    (¬ OwnTransaction s userId id ∧ s.transactions.find? (fun x => x.id == id) = none) := by
  cases hfind : s.transactions.find? fun x => x.id == id with
  | none =>
      refine .inr ⟨?_, rfl⟩
      rintro ⟨x, hx, -, hid⟩
      rw [transactions_find? hx hid] at hfind
      cases hfind
  | some x =>
      obtain ⟨hx, hid⟩ := Table.mem_of_find? hfind
      have hid : x.id = id := by simpa using hid
      by_cases huser : x.userId = userId
      · exact .inl ⟨x, hx, huser, hid, rfl⟩
      · exact absurd ⟨x, hx, huser, hid⟩ h

theorem SameAccount.find (h : SameAccount userId s s') (hs : ¬ ForeignTransaction s userId id)
    (hs' : ¬ ForeignTransaction s' userId id) :
    s.transactions.find? (fun x => x.id == id) = s'.transactions.find? fun x => x.id == id := by
  rcases find_of_not_foreign hs with ⟨x, hx, huser, hid, hfind⟩ | ⟨hno, hfind⟩
  · rw [hfind, transactions_find? (h.mem hx huser) hid]
  · rcases find_of_not_foreign hs' with ⟨x, hx, huser, hid, -⟩ | ⟨-, hfind'⟩
    · exact absurd ⟨x, h.symm.mem hx huser, huser, hid⟩ hno
    · rw [hfind, hfind']

/-- The user's own Transaction is nobody else's. -/
theorem OwnTransaction.not_foreign (h : OwnTransaction s userId id) :
    ¬ ForeignTransaction s userId id := by
  obtain ⟨x, hx, huser, hid⟩ := h
  rintro ⟨y, hy, huser', hid'⟩
  have heq : x = y :=
    Table.eq_of_clash hx hy (by simp [Indexed.clash, hid, hid'])
  exact huser' (heq ▸ huser)

end

/-- The answers are functions of the account, as long as the status request
names nobody else's Transaction. -/
theorem SameAccount.answer {user : JwtAccessPayload} {s s' : Store} {q : AccountRequest}
    (h : SameAccount user.sub s s')
    (hs : ∀ id, q = .status id → ¬ ForeignTransaction s user.sub id)
    (hs' : ∀ id, q = .status id → ¬ ForeignTransaction s' user.sub id) (t : Millis) :
    s.accountAnswer user t q = s'.accountAnswer user t q := by
  cases q with
  | me =>
      simp only [Store.accountAnswer]
      rw [← h.user]
      cases hfind : s.users.find? fun u => u.id == user.sub with
      | none => rfl
      | some row =>
          have hid : row.id = user.sub := by simpa using (Table.mem_of_find? hfind).2
          simp only [hid, h.latestActive]
  | subscription => simp only [Store.accountAnswer, h.latest]
  | history => simp only [Store.accountAnswer, h.transactions]
  | status id => simp only [Store.accountAnswer, h.find (hs id rfl) (hs' id rfl)]

/-! ## Databases that differ elsewhere -/

/-- Some text is in none of finitely many places. -/
theorem exists_fresh (used : List String) : ∃ text, ¬ text ∈ used := by
  obtain ⟨text, htext⟩ := Infinite.exists_notMem_finset used.toFinset
  exact ⟨text, by simpa using htext⟩

/-- The Transaction with another status. -/
def Transaction.flip (t : Transaction) : Transaction :=
  { t with status := if t.status = .PENDING then .FAILED else .PENDING }

theorem Transaction.flip_status (t : Transaction) : t.flip.status ≠ t.status := by
  unfold Transaction.flip
  by_cases h : t.status = .PENDING
  · simp [h]
  · simp only [h, if_false]
    exact fun heq => h heq.symm

/-- The database with another status for the Transaction `id`. -/
def Store.flipped (s : Store) (id : String) : Store :=
  { s with transactions := s.transactions.update (fun t => t.id == id) .flip fun _ _ => rfl }

section

variable {userId id : String} {s : Store}

theorem mem_flipped {x : Transaction} (hx : x ∈ s.transactions) :
    ∃ y ∈ (s.flipped id).transactions, y.id = x.id ∧ y.userId = x.userId := by
  refine ⟨if x.id == id then x.flip else x, List.mem_map.mpr ⟨x, hx, rfl⟩, ?_⟩
  split <;> exact ⟨rfl, rfl⟩

theorem flipped_find {x : Transaction} (hx : x ∈ s.transactions) (hid : x.id = id) :
    (s.flipped id).transactions.find? (fun t => t.id == id) = some x.flip := by
  apply transactions_find?
  · refine List.mem_map.mpr ⟨x, hx, ?_⟩
    simp [hid]
  · exact hid

theorem flipped_sameAccount (h : ForeignTransaction s userId id) :
    SameAccount userId s (s.flipped id) where
  user := rfl
  subscriptions := rfl
  transactions := by
    obtain ⟨x, hx, huser, hid⟩ := h
    refine (Table.filter_update s.transactions (f := Transaction.flip) (fun _ _ => rfl) ?_).symm
    intro y hy hp
    have hyid : y.id = id := by simpa using hp
    have heq : y = x := Table.eq_of_clash hy hx (by simp [Indexed.clash, hyid, hid])
    subst heq
    simp [huser, Transaction.flip]

theorem flipped_referential (h : s.Referential) : (s.flipped id).Referential where
  subscriptionUser := h.subscriptionUser
  subscriptionTransaction := by
    intro x hx
    obtain ⟨t, ht, htid⟩ := h.subscriptionTransaction x hx
    obtain ⟨y, hy, hyid, -⟩ :
      ∃ y ∈ (s.flipped id).transactions, y.id = t.id ∧ y.userId = t.userId := mem_flipped ht
    exact ⟨y, hy, hyid.trans htid⟩
  transactionUser := by
    intro y hy
    obtain ⟨x, hx, rfl⟩ := List.mem_map.mp hy
    obtain ⟨u, hu, huid⟩ := h.transactionUser x hx
    refine ⟨u, hu, ?_⟩
    split <;> exact huid

/-- Somebody else's payment under an id that is not taken. -/
theorem exists_foreign (userId : String) (hs : s.Referential)
    (hfree : s.transactions.find? (fun x => x.id == id) = none) :
    ∃ s' : Store, s'.Referential ∧ SameAccount userId s s' ∧
      (s'.transactions.find? fun x => x.id == id).isSome := by
  obtain ⟨name, hname⟩ := exists_fresh
    (userId :: s.users.rows.map (·.id) ++ s.users.rows.map (·.email))
  simp only [List.cons_append, List.mem_cons, List.mem_append, List.mem_map, not_or,
    not_exists, not_and] at hname
  obtain ⟨hne, hid, hemail⟩ := hname
  let stranger : User := ⟨name, name, "", .USER⟩
  let payment : Transaction := ⟨id, name, .MPESA, 0, .PENDING, none, 0, none, none⟩
  obtain ⟨users, husers⟩ := Table.insert?_of_fresh (t := s.users) (r := stranger) (by
    intro u hu
    simp [Indexed.clash, stranger, hid u hu, hemail u hu])
  obtain ⟨payments, hpayments⟩ := Table.insert?_of_fresh (t := s.transactions) (r := payment) (by
    intro x hx
    have hx : (x.id == id) = false := Table.find?_eq_none.mp hfree x hx
    cases href : x.providerReference <;> simp [Indexed.clash, payment, hx, href])
  have hne' : (name == userId) = false := by simpa using fun h : name = userId => hne h
  refine ⟨{ s with users := users, transactions := payments }, ⟨?_, ?_, ?_⟩, ⟨?_, rfl, ?_⟩, ?_⟩
  · intro x hx
    obtain ⟨u, hu, huid⟩ := hs.subscriptionUser x hx
    exact ⟨u, (Table.mem_insert? husers).mpr (.inl hu), huid⟩
  · intro x hx
    obtain ⟨t, ht, htid⟩ := hs.subscriptionTransaction x hx
    exact ⟨t, (Table.mem_insert? hpayments).mpr (.inl ht), htid⟩
  · intro t ht
    rcases (Table.mem_insert? hpayments).mp ht with ht | rfl
    · obtain ⟨u, hu, huid⟩ := hs.transactionUser t ht
      exact ⟨u, (Table.mem_insert? husers).mpr (.inl hu), huid⟩
    · exact ⟨stranger, (Table.mem_insert? husers).mpr (.inr rfl), rfl⟩
  · show s.users.rows.find? _ = users.rows.find? _
    rw [Table.insert?_eq_some husers, List.find?_append]
    simp [stranger, hne']
  · show s.transactions.rows.filter _ = payments.rows.filter _
    rw [Table.insert?_eq_some hpayments, List.filter_append]
    simp [payment, hne']
  · obtain ⟨x, hx⟩ := Table.find?_isSome (p := fun x => x.id == id)
      ((Table.mem_insert? hpayments).mpr (.inr rfl)) (by simp [payment])
    simp [hx]

end

/-! ## The guarantee -/

/-- **The account endpoints keep to the account** unless a status request
names somebody else's Transaction; and they do against every database that
agrees on the account exactly when a status request names one of the user's
own. -/
theorem account_requests_isolated (cfg : AppConfig) (user : JwtAccessPayload)
    (q : AccountRequest) :
    (∀ s s', SameAccount user.sub s s' →
      (∀ id, q = .status id →
        ¬ ForeignTransaction s user.sub id ∧ ¬ ForeignTransaction s' user.sub id) →
      SameResponse cfg user q s s') ∧
    ∀ s : Store, s.Referential →
      ((∀ s', s'.Referential → SameAccount user.sub s s' → SameResponse cfg user q s s') ↔
        ∀ id, q = .status id → OwnTransaction s user.sub id) := by
  refine ⟨?_, ?_⟩
  · intro s s' hsame hforeign
    rw [sameResponse_iff]
    exact hsame.answer (fun id hq => (hforeign id hq).1) fun id hq => (hforeign id hq).2
  intro s hs
  constructor
  · intro hall id hq
    subst hq
    by_cases hforeign : ForeignTransaction s user.sub id
    · -- another status for the stranger's payment shows
      have hforeign' := hforeign
      obtain ⟨x, hx, -, hid⟩ := hforeign'
      have hresp := sameResponse_iff.mp
        (hall _ (flipped_referential hs) (flipped_sameAccount hforeign)) 0
      simp only [Store.accountAnswer, flipped_find hx hid, transactions_find? hx hid, Except.ok.injEq,
        Reply.payment.injEq] at hresp
      exact absurd hresp.2.1.symm x.flip_status
    · rcases find_of_not_foreign hforeign with ⟨x, hx, huser, hid, -⟩ | ⟨-, hfree⟩
      · exact ⟨x, hx, huser, hid⟩
      · -- a stranger's payment under the free id shows
        obtain ⟨s', hs', hsame, hfound⟩ := exists_foreign user.sub hs hfree
        obtain ⟨x, hx⟩ := Option.isSome_iff_exists.mp hfound
        have hresp := sameResponse_iff.mp (hall s' hs' hsame) 0
        simp [Store.accountAnswer, hfree, hx] at hresp
  · intro hown s' _ hsame
    rw [sameResponse_iff]
    refine hsame.answer (fun id hq => (hown id hq).not_foreign) ?_
    intro id hq
    obtain ⟨x, hx, huser, hid⟩ := hown id hq
    exact OwnTransaction.not_foreign ⟨x, hsame.mem hx huser, huser, hid⟩

def strangerUser : JwtAccessPayload := ⟨"user-2", "juma@example.com", .USER⟩

/-- `strangerUser` registers as thread 2, up to the insert of the row. -/
def strangerRegistration : List (Action Ambient Request) :=
  [.begin (.register "juma@example.com" "a-password"),
    .step 2 (.quiet 1), .step 2 ((Ambient.quiet 2).generating "hash"),
    .step 2 ((Ambient.quiet 3).generating "user-2")]

/-- Thread 3 sweeps a month later. -/
def sampleSweep : List (Action Ambient Request) :=
  [.begin .sweepTick, .step 3 (.quiet 3000000000), .step 3 (.quiet 3000000000),
    .step 3 (.quiet 3000000001), .step 3 (.quiet 3000000002)]

/-- The sweep of one user's payment shows in what another user, who owns no
payment at all, is answered. -/
theorem payment_status_shows_strangers :
    ∃ a b, (app sampleConfig).Run anyAction (Machine.start .empty) a ∧
      (app sampleConfig).Run anyAction a b ∧
      (∃ u ∈ a.store.users, u.id = strangerUser.sub) ∧
      SameAccount strangerUser.sub a.store b.store ∧
      ¬ SameResponse sampleConfig strangerUser (.status "tx-1") a.store b.store := by
  obtain ⟨a, b, ha, hb, hab⟩ := Machine.exists_runs_of_replay (m := app sampleConfig)
    (s := Machine.start .empty) anyAction
    (sampleRegistration ++ samplePush ++ strangerRegistration) sampleSweep
    (fun a b => decide (∃ u ∈ a.store.users.rows, u.id = strangerUser.sub) &&
      decide (a.store.users.find? (fun u => u.id == strangerUser.sub) =
        b.store.users.find? fun u => u.id == strangerUser.sub) &&
      decide (a.store.subscriptions.filter (fun x => x.userId == strangerUser.sub) =
        b.store.subscriptions.filter fun x => x.userId == strangerUser.sub) &&
      decide (a.store.transactions.filter (fun x => x.userId == strangerUser.sub) =
        b.store.transactions.filter fun x => x.userId == strangerUser.sub) &&
      decide ((a.store.transactions.find? fun x => x.id == "tx-1").map (·.status) =
        some .PENDING) &&
      decide ((b.store.transactions.find? fun x => x.id == "tx-1").map (·.status) =
        some .TIMED_OUT)) (by decide +kernel)
  simp only [Bool.and_eq_true, decide_eq_true_eq] at hab
  obtain ⟨⟨⟨⟨⟨huser, hu⟩, hsubs⟩, hpayments⟩, hpending⟩, htimedOut⟩ := hab
  refine ⟨a, b, ha, hb, huser, ⟨hu, hsubs, hpayments⟩, ?_⟩
  intro hsame
  have hresp := sameResponse_iff.mp hsame 0
  obtain ⟨x, hx, hxs⟩ := Option.map_eq_some_iff.mp hpending
  obtain ⟨y, hy, hys⟩ := Option.map_eq_some_iff.mp htimedOut
  simp [Store.accountAnswer, hx, hy, hxs, hys] at hresp

end StreamingService
