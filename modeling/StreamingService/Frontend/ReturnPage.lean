import StreamingService.Frontend.Polling
import StreamingService.Lib.Asker

/-!
# Frontend — ReturnPage

The page the bank gateway sends the user back to. It asks for the payment that
the redirect names, and asks again three seconds after each answer that is
still pending; another reference cancels the one before. Unlike the two pages
with a timer of their own it has one request out at a time, so it can neither
go back from a final status nor show the status of another payment.

Left out: the request for the profile that follows a success, whose answer is
not read.
-/

namespace StreamingService

open Lib

/-! ## The page -/

/-- The page beside the backend's database. -/
abbrev ReturnWorld : Type := Asker.World Store String TransactionStatus

/-- What `poll` asks about a reference, and which status makes it ask again. -/
def returnPage (cfg : AppConfig) : Asker Polled Store String TransactionStatus where
  answer env s txRef := UsePolling.get cfg txRef env s
  pending := .PENDING

/-! ## Beside the backend -/

/-- The stored status that an answer carries. -/
abbrev paidStatus (s : Store) (txRef : String) : Option TransactionStatus := s.transactionStatus txRef

/-- Nothing is asked about an empty reference, and the database moves by runs of the
backend whose status writes meet `PENDING` rows. -/
def besideBackend (cfg : AppConfig) (w : ReturnWorld) : Asker.Label Polled Store String → Prop
  | .ask txRef => txRef ≠ ""
  | .move s => ∃ a b : AppState, (app cfg).Run (stepsMeet SettlesPending) a b ∧
      w.server = a.store ∧ s = b.store
  | _ => True

theorem besideBackend_moves {cfg : AppConfig} {w : ReturnWorld}
    {l : Asker.Label Polled Store String} (h : besideBackend cfg w l) :
    (returnPage cfg).Moves paidStatus w l := by
  cases l with
  | move s =>
      obtain ⟨a, b, hr, hserver, rfl⟩ := h
      intro txRef
      rw [hserver]
      have hsettles : (UsePolling.display cfg txRef).Settles a.store b.store := settles_of_run hr
      exact hsettles
  | _ => trivial

/-- The page in a state it has reached. -/
structure FollowsPayment (cfg : AppConfig) (w : ReturnWorld) : Prop where
  /-- One request or timer at most for each opening, two openings for one reference apart. -/
  once : w.asking.Nodup
  /-- The page asks on, or nothing is to come and it shows the final status of the
  payment it is open for. -/
  alive : ∀ (g : Nat) (q : Asker.Question String), w.questions[g]? = some q →
    q.cancelled = false → g ∈ w.asking ∨ (w.Quiet ∧ ∃ x, w.shown = some x ∧ x ≠ .PENDING ∧
      paidStatus w.server q.key = some x)
  /-- With nothing to come, it shows what it shows for as long as it asks nothing else. -/
  stays : ∀ b, (returnPage cfg).steps.Run
    (fun w l => besideBackend cfg w l ∧ ∀ txRef, l ≠ .ask txRef) w b → w.Quiet →
    b.Quiet ∧ b.shown = w.shown
  /-- What is newly shown is what the request of the payment the page is open for was
  answered; and a final status is still that payment's. -/
  fresh : ∀ l b, (returnPage cfg).steps.next w l = some b → b.shown ≠ w.shown →
    ∃ (i g : Nat) (q : Asker.Question String) (x : TransactionStatus), l = .arrive i ∧
      w.out[i]? = some (g, .answered (some x)) ∧ w.questions[g]? = some q ∧
      q.cancelled = false ∧ b.shown = some x ∧ (x ≠ .PENDING → paidStatus w.server q.key = some x)
  /-- A final status can be shown, whatever is to come for other references. -/
  finishes : ∀ (g : Nat) (q : Asker.Question String) (x : TransactionStatus) (env : Polled),
    w.questions[g]? = some q → q.cancelled = false → x ≠ .PENDING →
    UsePolling.get cfg q.key env w.server = some x →
    ∃ b, (returnPage cfg).steps.Run Asker.Own w b ∧ b.shown = some x ∧ b.Quiet

/-- The admitted steps but the database's. -/
def asksOnly (_ : ReturnWorld) : Asker.Label Polled Store String → Prop
  | .ask txRef => txRef ≠ ""
  | .move _ => False
  | _ => True

instance (w : ReturnWorld) : (l : Asker.Label Polled Store String) → Decidable (asksOnly w l)
  | .ask _ => inferInstanceAs (Decidable (_ ≠ _))
  | .move _ => .isFalse id
  | .cancel | .fire _ | .serve _ _ | .arrive _ | .lose _ => .isTrue trivial

end StreamingService
