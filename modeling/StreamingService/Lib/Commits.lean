import StreamingService.Lib.Machine

/-!
# Lib — Commits

Linearization. An abstract value of the store is moved by operations; each
operation is committed by one statement of the request that asks for it, and
no other statement moves the value. In every run the value is then the
committed operations applied in the order of their statements: an
interleaving is as good as the operations one at a time.
-/

namespace Lib

variable {S : Signature} {σ ω Q α Op A : Type}

/-- The request a thread was begun with. -/
def requestOf (tid : Nat) : List (Event S Q) → Option Q
  | [] => none
  | .began t q :: tr => if t = tid then some q else requestOf tid tr
  | .did _ _ :: tr => requestOf tid tr

theorem requestOf_mem {tid : Nat} {tr : List (Event S Q)} {q : Q}
    (h : requestOf tid tr = some q) : Event.began tid q ∈ tr := by
  induction tr with
  | nil => cases h
  | cons ev tr ih =>
      cases ev with
      | began t q' =>
          by_cases ht : t = tid
          · subst ht
            rw [requestOf, if_pos rfl] at h
            cases h
            exact List.mem_cons_self
          · rw [requestOf, if_neg ht] at h
            exact List.mem_cons_of_mem _ (ih h)
      | did t e => exact List.mem_cons_of_mem _ (ih h)

/-- A thread that has begun has a request. -/
theorem requestOf_of_mem {tid : Nat} {tr : List (Event S Q)} {q : Q}
    (h : Event.began tid q ∈ tr) : ∃ q', requestOf tid tr = some q' := by
  induction tr with
  | nil => cases h
  | cons ev tr ih =>
      cases ev with
      | began t q' =>
          by_cases ht : t = tid
          · exact ⟨q', if_pos ht⟩
          · rw [requestOf, if_neg ht]
            rcases List.mem_cons.mp h with heq | h
            · cases heq
              exact absurd rfl ht
            · exact ih h
      | did t e =>
          rcases List.mem_cons.mp h with heq | h
          · cases heq
          · exact ih h

section

variable (effect : Q → Prog.Entry S → Option Op)

/-- The operations a trace has committed, newest first. -/
def commits : List (Event S Q) → List Op
  | [] => []
  | .began _ _ :: tr => commits tr
  | .did tid e :: tr => ((requestOf tid tr).bind fun q => effect q e).toList ++ commits tr

variable {effect}

/-- A statement of a thread whose request is known. -/
theorem commits_did {tid : Nat} {q : Q} {tr : List (Event S Q)} (h : requestOf tid tr = some q)
    (e : Prog.Entry S) : commits effect (.did tid e :: tr) = (effect q e).toList ++ commits effect tr := by
  rw [commits, h]
  rfl

end

namespace Machine

variable {m : Machine S σ ω Q α} {effect : Q → Prog.Entry S → Option Op} {abs : σ → A}
  {apply : Op → A → A} {ok : Sys S σ Q α → Action ω Q → Prop} {s : σ} {b : Sys S σ Q α}

/-- The request of a thread, as its trace has it. -/
theorem Run.requestOf (hr : m.Run ok (start s) b) {tid : Nat} {th : Thread S Q α}
    (hth : b.threads[tid]? = some th) : Lib.requestOf tid b.trace = some th.request := by
  have hrec := Run.emits (fun q => Prog.Emits.always (m.handle q) []) hr
  obtain ⟨q, hq⟩ := requestOf_of_mem (hrec.began tid th hth)
  rw [hq, hrec.request (hrec.began tid th hth) (requestOf_mem hq)]

/-- **Linearization**: an abstract value that each statement moves by the
operation it commits is the committed operations, applied one at a time. -/
theorem Run.linearizes
    (hstep : ∀ (sys : Sys S σ Q α) (tid : Nat) (o : ω) (q : Q) (c : S.Cmd)
      (k : Except S.Err (S.Resp c) → Prog S α), m.Run ok (start s) sys →
      sys.threads[tid]? = some ⟨q, .call c k⟩ → abs (m.exec o c sys.store).2 =
        (effect q ⟨c, (m.exec o c sys.store).1⟩).elim (abs sys.store) (apply · (abs sys.store)))
    (hr : m.Run ok (start s) b) :
    abs b.store = (commits effect b.trace).foldr apply (abs s) := by
  refine Run.keeps_along (P := fun _ _ _ => True) (R := fun _ _ _ => True)
    (I := fun s' tr => abs s' = (commits effect tr).foldr apply (abs s)) (fun q => .always _ _)
    (fun _ _ _ h _ => h) ?_ rfl hr
  intro sys tid o q c k hsys h _ hth _
  rw [commits_did (hsys.requestOf hth), hstep sys tid o q c k hsys hth]
  cases effect q ⟨c, (m.exec o c sys.store).1⟩ with
  | none => exact h
  | some op => exact congrArg (apply op) h

end Machine

end Lib
