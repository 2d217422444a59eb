import StreamingService.Lib.Crash
import StreamingService.Payments.Ledger

/-!
# Payments — Initiation

An initiation handled alone, whatever the provider does. It opens one
Transaction before it calls the provider; when anything between the insert
and the answer throws, the row is closed as `FAILED`, so the user's next
attempt is not refused.
-/

namespace StreamingService

open Lib

/-! ## One more Transaction -/

/-- `s'` is `s` with the Transaction `t` added. -/
def Opened (s s' : Store) (t : Transaction) : Prop :=
  ∃ ts : Table Transaction, ts.rows = s.transactions.rows ++ [t] ∧
    s' = { s with transactions := ts }

/-- The `PENDING` Transaction `createPending` looks for. -/
def Store.pendingOf (s : Store) (userId : String) : Option Transaction :=
  s.transactions.find? fun t => t.userId == userId && t.status == .PENDING

namespace Opened

variable {s s' s'' : Store} {t : Transaction}

/-- The row that was added can be updated by its id: no other row has it. -/
theorem update (h : Opened s s' t) {f : Transaction → Transaction}
    (hrows : RowUpdated s' s'' t.id f)
    (hrest : s'' = { s' with transactions := s''.transactions }) : Opened s s'' (f t) := by
  obtain ⟨ts, hts, rfl⟩ := h
  refine ⟨s''.transactions, ?_, hrest⟩
  have hdistinct := Table.distinct_iff.mp ts.unique
  rw [hts, List.pairwise_append] at hdistinct
  have hold : ∀ x ∈ s.transactions.rows, (if x.id == t.id then f x else x) = x := by
    intro x hx
    have hne := hdistinct.2.2 x hx t (by simp)
    simp only [Indexed.clash, Bool.or_eq_false_iff] at hne
    simp [hne.1]
  have hrows' : s''.transactions.rows = ts.rows.map fun x => if x.id == t.id then f x else x := hrows
  rw [hrows', hts, List.map_append, List.map_congr_left hold]
  simp

/-- No `PENDING` row of the user but the one added. -/
theorem pendingOf (h : Opened s s' t) (hfree : s.pendingOf t.userId = none)
    (hst : t.status ≠ .PENDING) : s'.pendingOf t.userId = none := by
  obtain ⟨ts, hts, rfl⟩ := h
  unfold Store.pendingOf Table.find? at hfree ⊢
  simp [hts, hfree, hst]

end Opened

section

variable {o : Ambient} {s s' : Store}

/-- Beside its own table a statement of `transactions` changes nothing. -/
theorem exec_transaction_frame {c : TransactionStmt} {r : Except Exception c.Resp}
    (h : exec o (.transaction c) s = (r, s')) : s' = { s with transactions := s'.transactions } := by
  have hframe : (exec o (.transaction c) s).2 =
      { s with transactions := (exec o (.transaction c) s).2.transactions } :=
    exec_cases (c := .transaction c) (P := fun out => out.2 =
      { s with transactions := out.2.transactions }) (fun _ => rfl) (transaction_frame o s c)
  rw [h] at hframe
  exact hframe

theorem create_opened {userId : String} {method : PaymentMethod} {amount : Option Rat}
    {t : Transaction} (h : exec o (.transaction (.create userId method amount)) s = (.ok t, s')) :
    Opened s s' t ∧ ∃ cents, t = .pending o userId method cents := by
  have hledger := exec_ledger o (.transaction (.create userId method amount)) s
  rw [h] at hledger
  cases hledger with
  | quiet hquiet _ _ => cases hquiet
  | create _ _ hts _ =>
      exact ⟨⟨s'.transactions, Table.insert?_eq_some hts, exec_transaction_frame h⟩, _, rfl⟩

theorem refer_opened {s₀ : Store} {t row : Transaction} {ref : JsVal} (ht : Opened s₀ s t)
    (h : exec o (.transaction (.setProviderReference t.id ref)) s = (.ok row, s')) :
    ∃ f, textUpdate ref = some f ∧ Opened s₀ s' (t.refer f) := by
  have hledger := exec_ledger o (.transaction (.setProviderReference t.id ref)) s
  rw [h] at hledger
  cases hledger with
  | quiet hquiet _ _ => cases hquiet
  | refer href _ _ hrows _ => exact ⟨_, href, ht.update hrows (exec_transaction_frame h)⟩

theorem fail_opened {s₀ : Store} {t row : Transaction} {resolvedAt : Millis} {reason : String}
    (ht : Opened s₀ s t)
    (h : exec o (.transaction (.markFailed t.id resolvedAt (some (.str reason)))) s = (.ok row, s')) :
    Opened s₀ s' (t.fail resolvedAt fun _ => some reason) := by
  have hledger := exec_ledger o (.transaction (.markFailed t.id resolvedAt (some (.str reason)))) s
  rw [h] at hledger
  cases hledger with
  | quiet hquiet _ _ => cases hquiet
  | fail hreason _ _ hrows _ =>
      cases hreason
      exact ht.update hrows (exec_transaction_frame h)

end

/-! ## What the provider gave -/

/-- Daraja's answer to the push, if it came. -/
def stkReply : Prog.Entry Sig → Option HttpReply
  | ⟨.service (.darajaStkPush _), .ok reply⟩ => some reply
  | _ => none

/-- The `CheckoutRequestID` the provider answered with in a history; a checkout
of the bank gateway carries none. -/
def providerGave (h : List (Prog.Entry Sig)) : JsVal :=
  match h.findSome? stkReply with
  | none => none
  | some reply => (JsVal.member reply.body "CheckoutRequestID").getD none

/-- The reference a value is: a text that is not empty, also in Prisma's
`{ set: .. }`. -/
def JsVal.reference : JsVal → Option String
  | some (.str ref) => if ref = "" then none else some ref
  | some (.obj [("set", .str ref)]) => some ref
  | _ => none

/-- What is stored of a value that is stored at all. -/
theorem JsVal.reference_of_truthy {v : JsVal} {f : Option String → Option String}
    (htruthy : v.truthy = true) (hf : textUpdate v = some f) : f none = v.reference := by
  unfold textUpdate at hf
  split at hf
  · cases htruthy
  · cases htruthy
  · cases hf
    have hne : ∀ s : String, JsVal.truthy (some (.str s)) = true → s ≠ "" := by simp [JsVal.truthy]
    simp [JsVal.reference, hne _ htruthy]
  · cases hf
    rfl
  · cases hf
    rfl
  · cases hf

theorem JsVal.reference_of_falsy {v : JsVal} (h : v.truthy = false) : v.reference = none := by
  unfold JsVal.reference
  split
  · rw [if_pos (by simpa [JsVal.truthy] using h)]
  · cases h
  · rfl

/-! ## The outcome -/

/-- **What an initiation by the user leaves**, by how it ends: a refused one
nothing, a failed one a `FAILED` row and a free user, a successful one the
`PENDING` row with the reference the provider gave. -/
def Initiated {α : Type} (userId : String) (method : PaymentMethod) (s : Store)
    (r : Except Exception α) (sh : Store × List (Prog.Entry Sig)) : Prop :=
  match r with
  | .ok _ => ∃ t, Opened s sh.1 t ∧ t.userId = userId ∧ t.method = method ∧
      t.status = .PENDING ∧ t.providerReference = (providerGave sh.2).reference
  | .error (.conflict _) => sh.1 = s ∧ ∃ t ∈ s.transactions, t.userId = userId ∧ t.status = .PENDING
  | .error _ => ∃ t, Opened s sh.1 t ∧ t.userId = userId ∧ t.method = method ∧
      t.status = .FAILED ∧ t.resolvedAt.isSome = true ∧ t.failureReason.isSome = true ∧
      sh.1.pendingOf userId = none

/-- An error says the same whatever the call would have answered. -/
theorem Initiated.rethrown {α β : Type} {userId : String} {method : PaymentMethod} {s : Store}
    {e : Exception} {sh : Store × List (Prog.Entry Sig)}
    (h : Initiated (α := α) userId method s (.error e) sh) :
    Initiated (α := β) userId method s (.error e) sh := by
  cases e <;> exact h

/-- The database accepts the statement; only the reference may be refused. -/
def acceptedByDatabase : Prog.Entry Sig → Bool
  | ⟨.transaction (.setProviderReference _ _), _⟩ => true
  | ⟨.transaction _, .error _⟩ => false
  | _ => true

/-- The provider may do anything; the database accepts everything but, perhaps,
the reference. -/
def InitiationFair (o : Ambient) (e : Prog.Entry Sig) : Prop :=
  o.Foreign ∧ acceptedByDatabase e = true

instance (o : Ambient) (e : Prog.Entry Sig) : Decidable (InitiationFair o e) :=
  inferInstanceAs (Decidable (_ ∧ _))

/-! ## Statement by statement -/

section

variable {cfg : AppConfig} {userId : String} {method : PaymentMethod} {s : Store}
  {h : List (Prog.Entry Sig)}

/-- Safe from the state and history reached, with the history noted. -/
abbrev Ends {α : Type} (Q : Except Exception α → Store × List (Prog.Entry Sig) → Prop) (p : App α)
    (sh : Store × List (Prog.Entry Sig)) : Prop :=
  Prog.Safe (Prog.noting exec) InitiationFair (fun _ => True) Q p sh

/-- What `createPending` has done when it answers. -/
structure Created (userId : String) (method : PaymentMethod) (s : Store) (t : Transaction)
    (sh : Store × List (Prog.Entry Sig)) : Prop where
  opened : Opened s sh.1 t
  user : t.userId = userId
  means : t.method = method
  pending : t.status = .PENDING
  noReference : t.providerReference = none
  free : s.pendingOf userId = none
  notAsked : sh.2.findSome? stkReply = none

theorem createPending_ends :
    Ends (fun r sh => match r with
      | .ok t => Created userId method s t sh
      | .error e => ∃ message, e = .conflict message ∧ sh.1 = s ∧
          ∃ t ∈ s.transactions, t.userId = userId ∧ t.status = .PENDING)
      (TransactionsService.createPending cfg userId method) (s, []) := by
  refine Prog.Safe.noting_bind ?_ ?_
  · intro o existing s' _ hex
    have hread := exec_ok hex
    simp only [answer, TransactionStmt.answer] at hread
    obtain ⟨rfl, rfl⟩ := hread
    refine Prog.Safe.ite (fun hsome => ?_) fun hnone => ?_
    · obtain ⟨t, hfind⟩ := Option.isSome_iff_exists.mp hsome
      obtain ⟨ht, hp⟩ := Table.mem_of_find? hfind
      simp only [Bool.and_eq_true, beq_iff_eq] at hp
      exact ⟨trivial, _, rfl, rfl, t, ht, hp⟩
    · have hfree : s.pendingOf userId = none := by simpa [Store.pendingOf] using hnone
      refine Prog.Safe.noting_perform (S := Sig) (c := .transaction (.create userId method _)) ?_
      rintro o r s' ⟨-, hacc⟩ hex
      cases r with
      | error e => cases hacc
      | ok t =>
          obtain ⟨hopened, cents, rfl⟩ := create_opened hex
          exact ⟨hopened, rfl, rfl, rfl, rfl, hfree, rfl⟩
  · rintro o e s' ⟨-, hacc⟩ -
    cases hacc

/-- What a call of a provider leaves: the store as it was, and the reference
it answered in the history. -/
def Called (s : Store) (r : Except Exception InitiatePaymentOutput)
    (sh : Store × List (Prog.Entry Sig)) : Prop :=
  sh.1 = s ∧ match r with
    | .ok result => result.providerReference = providerGave sh.2
    | .error e => e.isHttp = false

/-- A call that asks for no reference. -/
def Unasked {α : Type} (s : Store) (r : Except Exception α)
    (sh : Store × List (Prog.Entry Sig)) : Prop :=
  sh.1 = s ∧ match r with
    | .ok _ => sh.2.findSome? stkReply = none
    | .error e => e.isHttp = false

/-- Reading an answer's body throws no exception of the services. -/
theorem json_error {reply : HttpReply} {e : Exception} (he : reply.json = .error e) :
    e.isHttp = false := by
  unfold HttpReply.json at he
  split at he <;> cases he
  rfl

theorem prop_error {v : JsVal} {name : String} {e : Exception} (he : prop v name = .error e) :
    e.isHttp = false := by
  unfold prop at he
  split at he <;> cases he
  rfl

/-- A call outside leaves the store as it was, and what it throws is none of the
services' exceptions. -/
theorem service_ends {α : Type} {Q : Except Exception α → Store × List (Prog.Entry Sig) → Prop}
    {c : ServiceCall} {f : (Cmd.service c).Resp → App α} (hc : ∀ job, c ≠ .queueAdd job)
    (hok : ∀ a, Ends Q (f a) (s, h ++ [⟨.service c, .ok a⟩]))
    (herr : ∀ e, e.isHttp = false → Q (.error e) (s, h ++ [⟨.service c, .error e⟩])) :
    Ends Q (stmt (.service c) >>= f) (s, h) := by
  refine Prog.Safe.noting_bind ?_ ?_
  · intro o a s' _ hex
    obtain rfl := service_store hex hc
    exact hok a
  · rintro o e s' ⟨hforeign, -⟩ hex
    obtain rfl := service_store hex hc
    exact herr e (exec_foreign hforeign (by rw [hex]))

theorem getAccessToken_ends (hh : h.findSome? stkReply = none) :
    Ends (Unasked s) MpesaProvider.getAccessToken (s, h) := by
  refine service_ends (by simp) (fun reply => ?_) fun e he => ⟨rfl, he⟩
  refine Prog.Safe.ite (fun _ => ⟨trivial, rfl, rfl⟩) fun _ => ?_
  refine Prog.Safe.ofExcept_bind trivial ?_ fun e he => ⟨rfl, json_error he⟩
  intro body _
  cases hprop : prop body "access_token" with
  | error e => exact ⟨trivial, rfl, prop_error hprop⟩
  | ok token => exact ⟨trivial, rfl, by simp [List.findSome?_append, hh, stkReply]⟩

theorem mpesa_ends {input : InitiatePaymentInput} (hh : h.findSome? stkReply = none) :
    Ends (Called s) (MpesaProvider.initiate cfg input) (s, h) := by
  refine Prog.Safe.ite (fun _ => ⟨trivial, rfl, rfl⟩) fun _ => ?_
  refine Prog.Safe.bind (getAccessToken_ends hh) ?_ fun e sh he => he
  rintro token ⟨s', h'⟩ ⟨rfl, hh'⟩
  refine service_ends (by simp) (fun reply => ?_) fun e he => ⟨rfl, he⟩
  refine Prog.Safe.ite (fun _ => ⟨trivial, rfl, rfl⟩) fun _ => ?_
  refine Prog.Safe.ofExcept_bind trivial ?_ fun e he => ⟨rfl, json_error he⟩
  intro body hbody
  refine Prog.Safe.ofExcept_bind trivial ?_ fun e he => ⟨rfl, prop_error he⟩
  intro checkoutRequestId hid
  refine ⟨trivial, rfl, ?_⟩
  have hmember : JsVal.member reply.body "CheckoutRequestID" = some checkoutRequestId := by
    unfold HttpReply.json at hbody
    unfold prop at hid
    split at hbody <;> cases hbody
    rename_i v hv
    rw [hv]
    split at hid <;> cases hid
    assumption
  simp only [providerGave, List.findSome?_append, hh', Option.none_or, List.findSome?_cons,
    stkReply, hmember]
  rfl

theorem bankGateway_ends {input : InitiatePaymentInput} (hh : h.findSome? stkReply = none) :
    Ends (Unasked s) (BankGatewayProvider.initiate cfg input) (s, h) := by
  refine service_ends (by simp) (fun reply => ?_) fun e he => ⟨rfl, he⟩
  refine Prog.Safe.ite (fun _ => ⟨trivial, rfl, rfl⟩) fun _ => ?_
  refine Prog.Safe.ofExcept_bind trivial ?_ fun e he => ⟨rfl, json_error he⟩
  intro body _
  refine Prog.Safe.ofExcept_bind trivial ?_ fun e he => ⟨rfl, prop_error he⟩
  intro data _
  refine Prog.Safe.ofExcept_bind trivial ?_ fun e he => ⟨rfl, prop_error he⟩
  intro link _
  exact ⟨trivial, rfl, by simp [List.findSome?_append, hh, stkReply]⟩

/-- **The catch block**: a row left `PENDING` by a call that throws is closed,
and the error goes on. -/
theorem closes {α : Type} {t : Transaction} {s₁ : Store} {e : Exception} {reason : String}
    (ht : Created userId method s t (s₁, [])) (he : e.isHttp = false) :
    Ends (Initiated (α := α) userId method s)
      (do
        let _ ← TransactionsService.markFailed t.id (some (.str reason))
        throw e) (s₁, h) := by
  refine Prog.Safe.bind (Q := fun r sh => ∃ row resolvedAt, r = .ok row ∧
    Opened s sh.1 (t.fail resolvedAt fun _ => some reason)) ?_ ?_ ?_
  · refine Prog.Safe.noting_bind ?_ fun o e s₂ _ hex => (now_error hex).elim
    intro o resolvedAt s₂ _ hex
    obtain rfl := now_store hex
    refine Prog.Safe.noting_perform (S := Sig)
      (c := .transaction (.markFailed t.id resolvedAt (some (.str reason)))) ?_
    rintro o' r s₃ ⟨-, hacc⟩ hex'
    cases r with
    | error e => cases hacc
    | ok row => exact ⟨row, resolvedAt, rfl, fail_opened ht.opened hex'⟩
  · rintro row ⟨s₂, h₂⟩ ⟨-, resolvedAt, -, hopened⟩
    refine ⟨trivial, ?_⟩
    have hclosed : Initiated (α := α) userId method s (.error .typeError) (s₂, h₂) := by
      refine ⟨_, hopened, ht.user, ht.means, rfl, rfl, rfl, ?_⟩
      have hfree := ht.free
      rw [← ht.user] at hfree ⊢
      exact hopened.pendingOf hfree (by simp [Transaction.fail])
    cases e <;> first | exact hclosed | cases he
  · rintro e' sh ⟨row, resolvedAt, hr, -⟩
    cases hr

/-- `initiateMpesa`, statement by statement. -/
theorem initiateMpesa_ends {userEmail phoneNumber : String} :
    Ends (Initiated userId .MPESA s)
      (PaymentsService.initiateMpesa cfg userId userEmail phoneNumber) (s, []) := by
  refine Prog.Safe.bind createPending_ends ?_ ?_
  · rintro t ⟨s₁, h₁⟩ ht
    refine Prog.Safe.bind (Q := Initiated userId .MPESA s) ?_ ?_ ?_
    · refine Prog.Safe.catchErr (Q := fun r sh => match r with
        | .ok a => Initiated userId .MPESA s (.ok a) sh
        | .error e => sh.1 = s₁ ∧ e.isHttp = false) ?_ (fun a sh hend => hend) ?_
      · refine Prog.Safe.bind (mpesa_ends ht.notAsked) ?_ fun e sh he => he
        rintro result ⟨s₂, h₂⟩ ⟨rfl, href⟩
        refine Prog.Safe.ite (fun htruthy => ?_) fun hfalsy => ?_
        · refine Prog.Safe.noting_bind ?_ ?_
          · intro o row s₃ _ hex
            obtain ⟨f, hf, hopened⟩ := refer_opened ht.opened hex
            refine ⟨trivial, _, hopened, ht.user, ht.means, ht.pending, ?_⟩
            have hgave : ∀ e : Prog.Entry Sig, stkReply e = none →
                providerGave (h₂ ++ [e]) = providerGave h₂ := by
              intro e he
              simp [providerGave, List.findSome?_append, he]
            rw [hgave _ rfl, ← href, ← JsVal.reference_of_truthy htruthy hf]
            simp [Transaction.refer, ht.noReference]
          · rintro o e s₃ ⟨hforeign, -⟩ hex
            exact ⟨exec_refused hex, exec_foreign hforeign (by rw [hex])⟩
        · refine ⟨trivial, t, ht.opened, ht.user, ht.means, ht.pending, ?_⟩
          rw [← href, JsVal.reference_of_falsy (by simpa using hfalsy)]
          exact ht.noReference
      · rintro e ⟨s₂, h₂⟩ ⟨rfl, he⟩
        exact closes ⟨ht.opened, ht.user, ht.means, ht.pending, ht.noReference, ht.free, rfl⟩ he
    · rintro a sh hend
      exact ⟨trivial, hend⟩
    · rintro e sh hend
      exact hend.rethrown
  · rintro e sh ⟨message, rfl, hend⟩
    exact hend

/-- `initiateBankGateway`, statement by statement. -/
theorem initiateBankGateway_ends {userEmail : String} :
    Ends (Initiated userId .BANK_GATEWAY s)
      (PaymentsService.initiateBankGateway cfg userId userEmail) (s, []) := by
  refine Prog.Safe.bind createPending_ends ?_ ?_
  · rintro t ⟨s₁, h₁⟩ ht
    refine Prog.Safe.catchErr (Q := fun r sh => match r with
      | .ok a => Initiated userId .BANK_GATEWAY s (.ok a) sh
      | .error e => sh.1 = s₁ ∧ e.isHttp = false) ?_ (fun a sh hend => hend) ?_
    · refine Prog.Safe.bind (bankGateway_ends ht.notAsked) ?_ fun e sh he => he
      rintro result ⟨s₂, h₂⟩ ⟨rfl, hasked⟩
      refine ⟨trivial, t, ht.opened, ht.user, ht.means, ht.pending, ?_⟩
      have hgave : providerGave h₂ = none := by simp [providerGave, show h₂.findSome? stkReply = none from hasked]
      rw [hgave]
      exact ht.noReference
    · rintro e ⟨s₂, h₂⟩ ⟨rfl, he⟩
      exact closes ⟨ht.opened, ht.user, ht.means, ht.pending, ht.noReference, ht.free, rfl⟩ he
  · rintro e sh ⟨message, rfl, hend⟩
    exact hend

end

/-! ## Every initiation -/

/-- **A failed initiation frees the user**, whatever the provider did. -/
theorem failed_initiation_frees_user (cfg : AppConfig) (userId userEmail : String) (s : Store)
    (os : Nat → Ambient) :
    (∀ phoneNumber,
      Prog.Along exec InitiationFair
        (PaymentsService.initiateMpesa cfg userId userEmail phoneNumber) os s →
      Initiated userId .MPESA s
        ((PaymentsService.initiateMpesa cfg userId userEmail phoneNumber).run exec os s).1
        ((PaymentsService.initiateMpesa cfg userId userEmail phoneNumber).runStore exec os s,
          (PaymentsService.initiateMpesa cfg userId userEmail phoneNumber).history exec os s)) ∧
    (Prog.Along exec InitiationFair
        (PaymentsService.initiateBankGateway cfg userId userEmail) os s →
      Initiated userId .BANK_GATEWAY s
        ((PaymentsService.initiateBankGateway cfg userId userEmail).run exec os s).1
        ((PaymentsService.initiateBankGateway cfg userId userEmail).runStore exec os s,
          (PaymentsService.initiateBankGateway cfg userId userEmail).history exec os s)) :=
  ⟨fun _ hfair => initiateMpesa_ends.history hfair,
    fun hfair => initiateBankGateway_ends.history hfair⟩

/-- `user-1` has no payment; `ws-1` is the reference of another user's. -/
def sampleReferences : Store :=
  { Store.empty with
    users := ⟨[⟨"user-1", "amina@example.com", "hash", .USER⟩,
      ⟨"user-2", "baraka@example.com", "hash", .USER⟩], by decide⟩
    transactions := ⟨[⟨"tx-0", "user-2", .MPESA, 49900, .SUCCEEDED, some "ws-1", 100, some 200, none⟩],
      by decide⟩ }

/-- Daraja answers `ws-1`. -/
def sampleProvider (n : Nat) : Ambient :=
  match n with
  | 1 => (Ambient.quiet 1001).generating "tx-1"
  | 2 => (Ambient.quiet 1002).replying (.obj [("access_token", .str "token")])
  | 3 => (Ambient.quiet 1003).replying (.obj [("CheckoutRequestID", .str "ws-1")])
  | n => .quiet (1000 + n)

/-- The reference is refused, and `tx-1` ends `FAILED`; so does a checkout whose
answer has no `data`. -/
theorem failed_initiation_frees_user_sample :
    Initiated "user-1" .MPESA sampleReferences
      (.error (.prisma .uniqueViolation) : Except Exception String)
      ((PaymentsService.initiateMpesa sampleConfig "user-1" "amina@example.com" "0712345678").runStore
          exec sampleProvider sampleReferences,
        (PaymentsService.initiateMpesa sampleConfig "user-1" "amina@example.com" "0712345678").history
          exec sampleProvider sampleReferences) ∧
    Initiated "user-1" .BANK_GATEWAY sampleReferences
      (.error .typeError : Except Exception (String × JsVal))
      ((PaymentsService.initiateBankGateway sampleConfig "user-1" "amina@example.com").runStore
          exec sampleProvider sampleReferences,
        (PaymentsService.initiateBankGateway sampleConfig "user-1" "amina@example.com").history
          exec sampleProvider sampleReferences) := by
  obtain ⟨hmpesa, hbank⟩ := failed_initiation_frees_user sampleConfig "user-1" "amina@example.com"
    sampleReferences sampleProvider
  have hmpesa := hmpesa "0712345678" (by decide +kernel)
  have hbank := hbank (by decide +kernel)
  have hrefused : ((PaymentsService.initiateMpesa sampleConfig "user-1" "amina@example.com"
      "0712345678").run exec sampleProvider sampleReferences).1 =
      .error (.prisma .uniqueViolation) := by decide +kernel
  have hbroken : (((PaymentsService.initiateBankGateway sampleConfig "user-1"
      "amina@example.com").run exec sampleProvider sampleReferences).1.map fun _ => ()) =
      .error .typeError := by decide +kernel
  rw [hrefused] at hmpesa
  refine ⟨hmpesa, ?_⟩
  cases hr : ((PaymentsService.initiateBankGateway sampleConfig "user-1"
      "amina@example.com").run exec sampleProvider sampleReferences).1 with
  | ok a =>
      rw [hr] at hbroken
      cases hbroken
  | error e =>
      rw [hr] at hbroken hbank
      cases hbroken
      exact hbank

end StreamingService
