import StreamingService.Account
import StreamingService.Payments.Ledger

/-!
# Payments — History

The billing history. Every write to `transactions` keeps the rows there are
and what they were created with, and only an initiation that passed its
conflict check inserts one; so a user's history lists the user's inserts,
one entry each, whatever became of them.
-/

namespace StreamingService

open Lib

open TransactionsService (HistoryEntry listHistoryForUser)

/-! ## Inserts -/

/-- What an entry of the history shows of the attempt itself. -/
structure Attempt where
  id : String
  method : PaymentMethod
  amount : Int
  initiatedAt : Millis
  deriving DecidableEq

def Transaction.attempt (t : Transaction) : Attempt := ⟨t.id, t.method, t.amount, t.initiatedAt⟩

def TransactionsService.HistoryEntry.attempt (e : HistoryEntry) : Attempt :=
  ⟨e.id, e.method, e.amount, e.initiatedAt⟩

/-- The user and the method of an initiation. -/
def Request.initiates : Request → Option (String × PaymentMethod)
  | .initiateMpesa (some user) _ => some (user.sub, .MPESA)
  | .initiateBankGateway (some user) => some (user.sub, .BANK_GATEWAY)
  | _ => none

/-- The conflict check that found nothing. -/
def checked (userId : String) : Prog.Entry Sig := ⟨.transaction (.findFirstPending userId), .ok none⟩

/-- The accepted insert. -/
def inserted (userId : String) (method : PaymentMethod) (amount : Option Rat) (t : Transaction) :
    Prog.Entry Sig :=
  ⟨.transaction (.create userId method amount), .ok t⟩

/-- Thread `tid` is an initiation by the user that passed the conflict check and
executed its insert: these are its first two statements. -/
def InsertedBy (tr : Trace) (userId : String) (tid : Nat) (t : Transaction) : Prop :=
  ∃ q method amount later, Event.began tid q ∈ tr ∧ q.initiates = some (userId, method) ∧
    own tid tr = later ++ [inserted userId method amount t, checked userId]

/-- The thread and the row of an insert. -/
def insertOf : Event Sig Request → Option (Nat × Transaction)
  | .did tid ⟨.transaction (.create _ _ _), .ok t⟩ => some (tid, t)
  | _ => none

/-- The inserts for a user, newest first. -/
def insertsFor (tr : Trace) (userId : String) : List (Nat × Transaction) :=
  (tr.filterMap insertOf).filter fun x => x.2.userId == userId

theorem insertOf_eq_some {ev : Event Sig Request} {tid : Nat} {t : Transaction}
    (h : insertOf ev = some (tid, t)) :
    ∃ userId method amount, ev = .did tid (inserted userId method amount t) := by
  unfold insertOf at h
  split at h
  · cases h
    exact ⟨_, _, _, rfl⟩
  · cases h

/-! ## The handlers -/

/-- An insert is the second statement of an initiation, right after a conflict
check that found nothing. -/
def InsertStep (q : Request) (h : List (Prog.Entry Sig)) (e : Prog.Entry Sig) : Prop :=
  ∀ userId method amount t, e = inserted userId method amount t →
    q.initiates = some (userId, method) ∧ h = [checked userId]

def Cmd.inserts : Cmd → Bool
  | .transaction (.create _ _ _) => true
  | _ => false

theorem InsertStep.of_other {q : Request} {h : List (Prog.Entry Sig)} {e : Prog.Entry Sig}
    (he : e.1.inserts = false) : InsertStep q h e := by
  rintro userId method amount t rfl
  cases he

theorem inserts_of_provider {c : Cmd} (h : Within Cmd.ofProvider c) : c.inserts = false := by
  cases c with
  | service c => rfl
  | _ => cases h

section

variable {q : Request} {h : List (Prog.Entry Sig)} {α : Type}

theorem InsertStep.of_calls {p : App α} (hp : p.Calls fun c : Cmd => c.inserts = false) :
    p.Emits (InsertStep q) (fun _ _ => True) h :=
  .of_calls hp (fun _ _ => .of_other) fun _ _ => trivial

theorem createPending_inserts (cfg : AppConfig) {userId : String} {method : PaymentMethod}
    (hq : q.initiates = some (userId, method)) :
    (TransactionsService.createPending cfg userId method).Emits (InsertStep q) (fun _ _ => True) [] := by
  refine .perform_bind (fun existing => ⟨.of_other rfl, ?_⟩) fun e => ⟨.of_other rfl, trivial⟩
  split
  · trivial
  · rename_i hnone
    cases existing with
    | some t => exact absurd rfl hnone
    | none =>
        intro r
        refine ⟨?_, trivial⟩
        intro userId' method' amount t heq
        obtain ⟨hc, -⟩ := Sigma.mk.inj_iff.mp heq
        cases hc
        exact ⟨hq, rfl⟩

theorem initiateMpesa_inserts (cfg : AppConfig) {userId : String} (userEmail phoneNumber : String)
    (hq : q.initiates = some (userId, .MPESA)) :
    (PaymentsService.initiateMpesa cfg userId userEmail phoneNumber).Emits (InsertStep q)
      (fun _ _ => True) [] := by
  refine .bind (createPending_inserts cfg hq) (fun _ _ _ => InsertStep.of_calls ?_) fun _ _ _ => trivial
  refine .bind (.catchErr ?_ ?_) fun _ => trivial
  · refine .bind ((mpesaProvider_calls cfg _).mono fun _ => inserts_of_provider) ?_
    intro result
    split
    · exact .perform_bind rfl fun _ => trivial
    · trivial
  · intro err
    refine .bind ?_ fun _ => trivial
    exact .perform_bind rfl fun resolvedAt => ⟨rfl, fun _ => trivial⟩

theorem initiateBankGateway_inserts (cfg : AppConfig) {userId : String} (userEmail : String)
    (hq : q.initiates = some (userId, .BANK_GATEWAY)) :
    (PaymentsService.initiateBankGateway cfg userId userEmail).Emits (InsertStep q) (fun _ _ => True) [] := by
  refine .bind (createPending_inserts cfg hq) (fun _ _ _ => InsertStep.of_calls ?_) fun _ _ _ => trivial
  refine .catchErr ?_ ?_
  · exact .bind ((bankGatewayProvider_calls cfg _).mono fun _ => inserts_of_provider)
      fun result => trivial
  · intro err
    refine .bind ?_ fun _ => trivial
    exact .perform_bind rfl fun resolvedAt => ⟨rfl, fun _ => trivial⟩

end

/-- No other request inserts. -/
theorem inserts_of_footprint {q : Request} (hmpesa : ∀ user phone, q ≠ .initiateMpesa user phone)
    (hbank : ∀ user, q ≠ .initiateBankGateway user) {c : Cmd} (hc : Within q.footprint c) :
    c.inserts = false := by
  cases c with
  | transaction c =>
      cases c with
      | create _ _ _ =>
          cases q with
          | initiateMpesa user phone => exact absurd rfl (hmpesa user phone)
          | initiateBankGateway user => exact absurd rfl (hbank user)
          | _ => cases hc
      | _ => rfl
  | _ => rfl

theorem insert_steps (cfg : AppConfig) (q : Request) :
    (handle cfg q).Emits (InsertStep q) (fun _ _ => True) [] := by
  have other (hmpesa : ∀ user phone, q ≠ .initiateMpesa user phone)
      (hbank : ∀ user, q ≠ .initiateBankGateway user) :
      (handle cfg q).Emits (InsertStep q) (fun _ _ => True) [] :=
    .of_calls (handle_calls cfg q) (fun _ _ hc => .of_other (inserts_of_footprint hmpesa hbank hc))
      fun _ _ => trivial
  cases q with
  | initiateMpesa user phoneNumber =>
      cases user with
      | none => trivial
      | some user =>
          refine emits_guard ?_
          exact .bind (initiateMpesa_inserts cfg _ _ rfl) (fun _ _ _ => trivial) fun _ _ _ => trivial
  | initiateBankGateway user =>
      cases user with
      | none => trivial
      | some user =>
          refine emits_guard ?_
          exact .bind (initiateBankGateway_inserts cfg _ rfl) (fun _ _ _ => trivial)
            fun _ _ _ => trivial
  | _ => exact other (by simp) (by simp)

/-! ## The rows of a run -/

/-- What the rows were created with: the user, and the attempt. -/
def Transaction.created (t : Transaction) : String × Attempt := (t.userId, t.attempt)

theorem Transaction.SameAs.created {t t' : Transaction} (h : t.SameAs t') :
    t'.created = t.created := by
  simp [Transaction.created, Transaction.attempt, h.id, h.userId, h.method, h.amount, h.initiatedAt]

/-- An update of a row keeps what the rows were created with. -/
theorem RowUpdated.created {s s' : Store} {id : String} {f : Transaction → Transaction}
    (h : RowUpdated s s' id f) (hf : ∀ t : Transaction, t.SameAs (f t)) :
    s'.transactions.rows.map Transaction.created = s.transactions.rows.map Transaction.created := by
  rw [show s'.transactions.rows = _ from h, List.map_map]
  refine List.map_congr_left fun t _ => ?_
  show Transaction.created (if t.id == id then f t else t) = t.created
  split
  · exact (hf t).created
  · rfl

/-- The rows are the inserts, in their order. -/
def RowsAreInserts (s : Store) (tr : Trace) : Prop :=
  s.transactions.rows.map Transaction.created =
    ((tr.filterMap insertOf).map fun x => x.2.created).reverse

/-- A row has an end exactly when it is no longer `PENDING`. -/
def ResolvedWhenOver (s : Store) : Prop :=
  ∀ t ∈ s.transactions, t.resolvedAt = none ↔ t.status = .PENDING

namespace LedgerStep

variable {o : Ambient} {s s' : Store} {e : Prog.Entry Sig}

theorem rowsAreInserts (h : LedgerStep o s s' e) (tid : Nat) {tr : Trace}
    (hI : RowsAreInserts s tr) : RowsAreInserts s' (.did tid e :: tr) := by
  -- a statement that is no insert and keeps what the rows were created with
  have kept : insertOf (.did tid e) = none →
      s'.transactions.rows.map Transaction.created = s.transactions.rows.map Transaction.created →
      RowsAreInserts s' (.did tid e :: tr) := by
    intro hno hrows
    rw [RowsAreInserts, List.filterMap_cons_none hno, hrows]
    exact hI
  cases h with
  | quiet hquiet hts _ =>
      refine kept ?_ (by rw [hts])
      unfold insertOf
      split
      · rename_i heq
        cases heq
        cases hquiet
      · rfl
  | create _ _ hts _ =>
      rw [RowsAreInserts, Table.insert?_eq_some hts, List.map_append,
        show s.transactions.rows.map Transaction.created = _ from hI]
      simp [insertOf]
  | refer _ _ _ hrows _ => exact kept rfl (hrows.created fun _ => ⟨rfl, rfl, rfl, rfl, rfl⟩)
  | fail _ _ _ hrows _ => exact kept rfl (hrows.created fun _ => ⟨rfl, rfl, rfl, rfl, rfl⟩)
  | timeOut _ _ hrows _ => exact kept rfl (hrows.created fun _ => ⟨rfl, rfl, rfl, rfl, rfl⟩)
  | activate _ _ _ hrows _ => exact kept rfl (hrows.created fun _ => ⟨rfl, rfl, rfl, rfl, rfl⟩)

theorem resolvedWhenOver (h : LedgerStep o s s' e) (hI : ResolvedWhenOver s) :
    ResolvedWhenOver s' := by
  intro t' ht'
  cases h with
  | quiet _ hts _ => exact hI t' (hts ▸ ht')
  | create _ _ hts _ =>
      rcases (Table.mem_insert? hts).mp ht' with ht | rfl
      · exact hI t' ht
      · exact iff_of_true rfl rfl
  | refer _ _ _ hrows _ =>
      rcases hrows.cases ht' with ⟨t, ht, -, rfl⟩ | ⟨ht, -⟩
      · exact hI t ht
      · exact hI t' ht
  | fail _ _ _ hrows _ =>
      rcases hrows.cases ht' with ⟨t, ht, -, rfl⟩ | ⟨ht, -⟩
      · exact iff_of_false (by simp [Transaction.fail]) (by simp [Transaction.fail])
      · exact hI t' ht
  | timeOut _ _ hrows _ =>
      rcases hrows.cases ht' with ⟨t, ht, -, rfl⟩ | ⟨ht, -⟩
      · exact iff_of_false (by simp [Transaction.timeOut]) (by simp [Transaction.timeOut])
      · exact hI t' ht
  | activate _ _ _ hrows _ =>
      rcases hrows.cases ht' with ⟨t, ht, -, rfl⟩ | ⟨ht, -⟩
      · exact iff_of_false (by simp [Transaction.succeed]) (by simp [Transaction.succeed])
      · exact hI t' ht

end LedgerStep

section

variable {cfg : AppConfig} {ok : AppState → Action Ambient Request → Prop} {s : Store} {b : AppState}

theorem rowsAreInserts_run (hs : s.transactions = .empty)
    (hr : (app cfg).Run ok (Machine.start s) b) : RowsAreInserts b.store b.trace := by
  refine Machine.Run.keeps (I := RowsAreInserts) (fun _ _ _ _ h => h)
    (fun sys tid o c h _ _ => (exec_ledger o c sys.store).rowsAreInserts tid h) ?_ hr
  show s.transactions.rows.map Transaction.created = []
  rw [hs]
  rfl

theorem resolvedWhenOver_run (hs : s.transactions = .empty)
    (hr : (app cfg).Run ok (Machine.start s) b) : ResolvedWhenOver b.store := by
  refine Machine.Run.keeps (I := fun s _ => ResolvedWhenOver s) (fun _ _ _ _ h => h)
    (fun sys _ o c h _ _ => (exec_ledger o c sys.store).resolvedWhenOver h) ?_ hr
  intro t ht
  have ht : t ∈ s.transactions := ht
  rw [hs] at ht
  exact absurd ht (Table.not_mem_empty t)

/-! ## The inserts of a run -/

/-- An insert of the trace, with the conflict check before it. -/
theorem insert_at_split (hr : (app cfg).Run ok (Machine.start s) b) {post pre : Trace} {tid : Nat}
    {userId : String} {method : PaymentMethod} {amount : Option Rat} {t : Transaction}
    (htr : b.trace = post ++ .did tid (inserted userId method amount t) :: pre) :
    (∃ q, Event.began tid q ∈ b.trace ∧ q.initiates = some (userId, method)) ∧
      own tid pre = [checked userId] := by
  have hrec := Machine.Run.emits (insert_steps cfg) hr
  have hdid : Event.did tid (inserted userId method amount t) ∈ b.trace := by
    rw [htr]
    exact List.mem_append_right _ List.mem_cons_self
  obtain ⟨q, hq⟩ := hrec.did_began hdid
  obtain ⟨hinit, hown⟩ := hrec.at_split hq htr userId method amount t rfl
  exact ⟨⟨q, hq, hinit⟩, hown⟩

/-- A thread inserts once. -/
theorem inserts_nodup (hr : (app cfg).Run ok (Machine.start s) b) :
    ((b.trace.filterMap insertOf).map Prod.fst).Nodup := by
  rw [List.map_filterMap]
  refine Always.nodup _ ?_ (Machine.Run.emits (insert_steps cfg) hr).past
  intro ev pre hJ tid hkey ev' hev' hkey'
  obtain ⟨⟨_, t⟩, hins, rfl⟩ := Option.map_eq_some_iff.mp hkey
  obtain ⟨⟨tid', t'⟩, hins', htid⟩ := Option.map_eq_some_iff.mp hkey'
  obtain ⟨userId, method, amount, rfl⟩ := insertOf_eq_some hins
  obtain ⟨userId', method', amount', rfl⟩ := insertOf_eq_some hins'
  obtain ⟨q, -, hstep⟩ := hJ
  have hown := (hstep userId method amount t rfl).2
  -- before its insert the thread has performed the conflict check only
  have hmem := mem_own.mpr hev'
  rw [show tid' = _ from htid, hown, List.mem_singleton] at hmem
  cases hmem

theorem insertsFor_nodup (hr : (app cfg).Run ok (Machine.start s) b) (userId : String) :
    ((insertsFor b.trace userId).map Prod.fst).Nodup :=
  (inserts_nodup hr).sublist (List.filter_sublist.map _)

/-- The row of an insert is the user's it was made for. -/
theorem inserted_userId (hr : (app cfg).Run ok (Machine.start s) b) {tid : Nat} {userId : String}
    {method : PaymentMethod} {amount : Option Rat} {t : Transaction}
    (h : Event.did tid (inserted userId method amount t) ∈ b.trace) : t.userId = userId := by
  refine Machine.Run.answers (K := fun _ e => ∀ userId method amount t,
    e = inserted userId method amount t → t.userId = userId) ?_ (fun _ _ _ _ h => h) hr tid _ h
    userId method amount t rfl
  intro o c s userId method amount t heq
  have hstep := exec_ledger o c s
  rw [show (⟨c, (exec o c s).1⟩ : Prog.Entry Sig) = _ from heq] at hstep
  cases hstep with
  | quiet hquiet _ _ => cases hquiet
  | create _ _ _ _ => rfl

theorem mem_insertsFor (hr : (app cfg).Run ok (Machine.start s) b) {userId : String} {tid : Nat}
    {t : Transaction} : (tid, t) ∈ insertsFor b.trace userId ↔ InsertedBy b.trace userId tid t := by
  constructor
  · intro h
    obtain ⟨hmem, huser⟩ := List.mem_filter.mp h
    obtain ⟨ev, hev, hins⟩ := List.mem_filterMap.mp hmem
    obtain ⟨userId', method, amount, rfl⟩ := insertOf_eq_some hins
    obtain rfl : userId' = userId := (inserted_userId hr hev).symm.trans (by simpa using huser)
    obtain ⟨post, pre, htr⟩ := List.append_of_mem hev
    obtain ⟨⟨q, hq, hinit⟩, hown⟩ := insert_at_split hr htr
    refine ⟨q, method, amount, own tid post, hq, hinit, ?_⟩
    rw [htr, own_append, own_did_self, hown]
  · rintro ⟨q, method, amount, later, -, -, hown⟩
    have hmem : inserted userId method amount t ∈ own tid b.trace := by
      rw [hown]
      simp
    refine List.mem_filter.mpr ⟨List.mem_filterMap.mpr ⟨_, mem_own.mp hmem, rfl⟩, ?_⟩
    simpa using inserted_userId hr (mem_own.mp hmem)

/-! ## The listing -/

/-- What `listHistoryForUser` answers from a store. -/
theorem listHistory_eq {os : Nat → Ambient} {s : Store} {userId : String} {entries : List HistoryEntry}
    (h : ((listHistoryForUser userId).run exec os s).1 = .ok entries) :
    entries = ((s.transactions.filter fun t => t.userId == userId).insertionSort
      fun a b => b.initiatedAt ≤ a.initiatedAt).map fun t =>
        { id := t.id, method := t.method, amount := t.amount, status := t.status,
          initiatedAt := t.initiatedAt, resolvedAt := t.resolvedAt } := by
  obtain ⟨rows, hrows, h⟩ := Prog.run_perform_bind h
  rw [exec_of_ok hrows] at hrows
  cases hrows
  cases h
  rfl

/-- The attempts of a listing are the user's inserts. -/
theorem listing_perm (hs : s.transactions = .empty) (hr : (app cfg).Run ok (Machine.start s) b)
    {os : Nat → Ambient} {userId : String} {entries : List HistoryEntry}
    (h : ((listHistoryForUser userId).run exec os b.store).1 = .ok entries) :
    (entries.map HistoryEntry.attempt).Perm
      ((insertsFor b.trace userId).map fun x => x.2.attempt) := by
  have hrows : (b.store.transactions.filter fun t => t.userId == userId).map Transaction.attempt =
      ((insertsFor b.trace userId).map fun x => x.2.attempt).reverse := by
    have hall := congrArg (fun l : List (String × Attempt) =>
      (l.filter fun x => x.1 == userId).map Prod.snd) (rowsAreInserts_run hs hr)
    simp only [List.filter_map, List.map_map, ← List.map_reverse, List.filter_reverse] at hall
    rw [← List.map_reverse]
    exact hall
  rw [listHistory_eq h, List.map_map]
  refine ((List.perm_insertionSort _ _).map _).trans ?_
  refine (List.Perm.of_eq ?_).trans (List.reverse_perm _)
  exact hrows

/-- An entry is a row of the user. -/
theorem mem_listing {os : Nat → Ambient} {s : Store} {userId : String} {entries : List HistoryEntry}
    (h : ((listHistoryForUser userId).run exec os s).1 = .ok entries) {e : HistoryEntry} :
    e ∈ entries ↔ ∃ t ∈ s.transactions, t.userId = userId ∧ e =
      { id := t.id, method := t.method, amount := t.amount, status := t.status,
        initiatedAt := t.initiatedAt, resolvedAt := t.resolvedAt } := by
  rw [listHistory_eq h, List.mem_map]
  constructor
  · rintro ⟨t, ht, rfl⟩
    obtain ⟨ht, huser⟩ := Table.mem_filter.mp (List.mem_insertionSort _ |>.mp ht)
    exact ⟨t, ht, by simpa using huser, rfl⟩
  · rintro ⟨t, ht, huser, rfl⟩
    exact ⟨t, (List.mem_insertionSort _).mpr (Table.mem_filter.mpr ⟨ht, by simpa using huser⟩), rfl⟩

theorem listing_ordered {os : Nat → Ambient} {s : Store} {userId : String}
    {entries : List HistoryEntry}
    (h : ((listHistoryForUser userId).run exec os s).1 = .ok entries) :
    entries.Pairwise fun e e' => e'.initiatedAt ≤ e.initiatedAt := by
  rw [listHistory_eq h, List.pairwise_map]
  have : Std.Total fun a b : Transaction => b.initiatedAt ≤ a.initiatedAt :=
    ⟨fun a b => Int.le_total b.initiatedAt a.initiatedAt⟩
  have : IsTrans Transaction fun a b => b.initiatedAt ≤ a.initiatedAt :=
    ⟨fun _ _ _ hab hbc => Int.le_trans hbc hab⟩
  exact List.pairwise_insertionSort _ _

/-- A row of a state has a later version in every later state. -/
theorem row_run {a : AppState} (hr : (app cfg).Run ok a b) {t : Transaction}
    (ht : t ∈ a.store.transactions) : ∃ t' ∈ b.store.transactions, t.SameAs t' :=
  Machine.Run.keeps (I := fun s _ => ∃ t' ∈ s.transactions, t.SameAs t') (fun _ _ _ _ h => h)
    (fun sys _ o c h _ _ => by
      obtain ⟨t', ht', hto⟩ := h
      obtain ⟨t'', ht'', hto'⟩ := (exec_ledger o c sys.store).row ht'
      exact ⟨t'', ht'', hto.trans hto'⟩) ⟨t, ht, .refl t⟩ hr

end

/-! ## The guarantee -/

/-- The entries are the user's history in `s`. -/
def Lists (s : Store) (userId : String) (entries : List HistoryEntry) : Prop :=
  ∃ os, ((listHistoryForUser userId).run exec os s).1 = .ok entries

/-- One entry for every initiation by the user that inserted, and no other. -/
def OneEach (tr : Trace) (userId : String) (entries : List HistoryEntry) : Prop :=
  ∃ initiations : List (Nat × Transaction), (initiations.map Prod.fst).Nodup ∧
    (∀ tid t, (tid, t) ∈ initiations ↔ InsertedBy tr userId tid t) ∧
    (entries.map HistoryEntry.attempt).Perm (initiations.map fun x => x.2.attempt)

/-- A later listing shows every attempt as the earlier one did. -/
structure ListedAgain (entries entries' : List HistoryEntry) : Prop where
  kept : ∀ e ∈ entries, ∃ e' ∈ entries', e'.attempt = e.attempt
  same : ∀ e ∈ entries, ∀ e' ∈ entries', e'.id = e.id → e'.attempt = e.attempt

/-- **The billing ledger is complete and append-only**: the history is returned, and
what is returned is the user's initiations. -/
theorem history_is_complete {cfg : AppConfig} {s : Store} (hs : s.transactions = .empty)
    {b : AppState} (hr : (app cfg).Run anyAction (Machine.start s) b) {userId : String} :
    (∀ instant, ∃ entries, Lists b.store userId entries ∧
      AnswersAt instant (listHistoryForUser userId) b.store (.ok entries)) ∧
    ∀ entries, Lists b.store userId entries →
      OneEach b.trace userId entries ∧
      entries.Pairwise (fun e e' => e'.initiatedAt ≤ e.initiatedAt) ∧
      (∀ e ∈ entries, e.resolvedAt = none ↔ e.status = .PENDING) ∧
      ∀ c, (app cfg).Run anyAction b c → ∀ entries', Lists c.store userId entries' →
        ListedAgain entries entries' := by
  refine ⟨fun instant => ?_, ?_⟩
  · have hanswers := (listHistoryForUser_reads instant b.store userId).answersAt
    exact ⟨_, ⟨fun _ => .quiet instant, hanswers _ fun _ => at_quiet instant⟩, hanswers⟩
  rintro entries ⟨os, hlist⟩
  refine ⟨⟨_, insertsFor_nodup hr userId, fun _ _ => mem_insertsFor hr, listing_perm hs hr hlist⟩,
    listing_ordered hlist, ?_, ?_⟩
  · intro e he
    obtain ⟨t, ht, -, rfl⟩ := (mem_listing hlist).mp he
    exact resolvedWhenOver_run hs hr t ht
  · rintro c hc entries' ⟨os', hlist'⟩
    constructor
    · intro e he
      obtain ⟨t, ht, huser, rfl⟩ := (mem_listing hlist).mp he
      obtain ⟨t', ht', hsame⟩ := row_run hc ht
      refine ⟨_, (mem_listing hlist').mpr ⟨t', ht', hsame.userId.trans huser, rfl⟩, ?_⟩
      exact congrArg Prod.snd hsame.created
    · intro e he e' he' hid
      obtain ⟨t, ht, huser, rfl⟩ := (mem_listing hlist).mp he
      obtain ⟨t₁, ht₁, -, rfl⟩ := (mem_listing hlist').mp he'
      obtain ⟨t', ht', hsame⟩ := row_run hc ht
      obtain rfl : t₁ = t' := transactions_eq_of_id ht₁ ht' (hid.trans hsame.id.symm)
      exact congrArg Prod.snd hsame.created

/-- The entry of a payment that was initiated and confirmed. -/
theorem history_is_complete_sample :
    ∃ (b : AppState) (entries : List HistoryEntry), Lists b.store "user-1" entries ∧
      entries.length = 1 ∧ OneEach b.trace "user-1" entries := by
  obtain ⟨b, hr, hb⟩ := Machine.exists_run_of_replay (m := app sampleConfig)
    (a := Machine.start .empty) anyAction (sampleRegistration ++ samplePush ++ sampleActivation)
    (fun b => match ((listHistoryForUser "user-1").run exec (fun _ => .quiet 6000) b.store).1 with
      | .ok entries => entries.length == 1
      | .error _ => false) (by decide +kernel)
  split at hb
  · rename_i entries hentries
    have hlist : Lists b.store "user-1" entries := ⟨_, hentries⟩
    exact ⟨b, entries, hlist, by simpa using hb, ((history_is_complete rfl hr).2 _ hlist).1⟩
  · cases hb

end StreamingService
