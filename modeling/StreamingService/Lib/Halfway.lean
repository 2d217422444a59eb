import StreamingService.Lib.Prog

/-!
# Lib — Halfway

Calls of several statements without a transaction around them: does a call
that throws leave the store as it met it? As long as the call has changed
nothing, a statement that fails does no harm; from the first change on,
every statement that is left has to be answered.

`same` says of a store that it is, where it matters, the one the call met.
-/

namespace Lib

namespace Prog

variable {S : Signature} {σ ω α β : Type}

/-- A call that throws, unless to reject its input, leaves what `same` says. -/
def AllOrNothing (exec : Exec S σ ω) (same : σ → Prop) (rejects : S.Err → Bool) (p : Prog S α)
    (os : Nat → ω) (s : σ) : Prop :=
  ∀ e, (p.run exec os s).1 = .error e → rejects e = false → same (p.runStore exec os s)

namespace AllOrNothing

variable {exec : Exec S σ ω} {same : σ → Prop} {rejects : S.Err → Bool} {os : Nat → ω} {s s' : σ}

theorem done (a : α) : AllOrNothing exec same rejects (.done (.ok a) : Prog S α) os s := by
  intro e he
  cases he

theorem throw_iff {e : S.Err} :
    AllOrNothing exec same rejects (.done (.error e) : Prog S α) os s ↔ (rejects e = false → same s) := by
  refine ⟨fun h => h e rfl, ?_⟩
  intro h e' he'
  cases he'
  exact h

/-- What is answered does not matter. -/
theorem answer_iff {p : Prog S α} {g : α → β} :
    AllOrNothing exec same rejects (p >>= fun a => pure (g a)) os s ↔
      AllOrNothing exec same rejects p os s := by
  induction p generalizing os s with
  | done r =>
      cases r with
      | ok a => exact iff_of_true (done _) (done _)
      | error e => exact throw_iff.trans throw_iff.symm
  | call c k ih => exact ih (exec (os 0) c s).1

theorem pos_iff {B : Prop} [Decidable B] {p q : Prog S α} (hb : B) :
    AllOrNothing exec same rejects (if B then p else q) os s ↔
      AllOrNothing exec same rejects p os s := by
  rw [if_pos hb]

theorem neg_iff {B : Prop} [Decidable B] {p q : Prog S α} (hb : ¬ B) :
    AllOrNothing exec same rejects (if B then p else q) os s ↔
      AllOrNothing exec same rejects q os s := by
  rw [if_neg hb]

section

variable {c : S.Cmd} {f : S.Resp c → Prog S β}

/-- A statement that is answered. -/
theorem ok_iff {a : S.Resp c} (h : exec (os 0) c s = (.ok a, s')) :
    AllOrNothing exec same rejects (perform c >>= f) os s ↔
      AllOrNothing exec same rejects (f a) (fun n => os (n + 1)) s' := by
  simp only [AllOrNothing, runStore, perform, call_bind, run_call, h, done_ok_bind]

/-- A statement that fails. -/
theorem error_iff {e : S.Err} (h : exec (os 0) c s = (.error e, s')) :
    AllOrNothing exec same rejects (perform c >>= f) os s ↔ (rejects e = false → same s') := by
  have hthrown : AllOrNothing exec same rejects (.done (.error e) : Prog S β)
      (fun n => os (n + 1)) s' ↔ (rejects e = false → same s') := throw_iff
  refine Iff.trans ?_ hthrown
  simp only [AllOrNothing, runStore, perform, call_bind, run_call, h, done_error_bind]

/-- **Before the call has written**, only what follows an answer matters. -/
theorem before_iff (herr : ∀ e s', exec (os 0) c s = (.error e, s') → same s') :
    AllOrNothing exec same rejects (perform c >>= f) os s ↔
      ∀ a s', exec (os 0) c s = (.ok a, s') →
        AllOrNothing exec same rejects (f a) (fun n => os (n + 1)) s' := by
  cases hex : exec (os 0) c s with
  | mk r s' =>
      cases r with
      | ok a =>
          rw [ok_iff hex]
          refine ⟨?_, fun h => h a s' rfl⟩
          intro h a' s'' heq
          cases heq
          exact h
      | error e =>
          rw [error_iff hex]
          exact iff_of_true (fun _ => herr e s' hex) fun _ _ heq => by cases heq

/-- **Once the call has written**, the statement has to be answered. -/
theorem after_iff
    (herr : ∀ e s', exec (os 0) c s = (.error e, s') → rejects e = false ∧ ¬ same s') :
    AllOrNothing exec same rejects (perform c >>= f) os s ↔
      ∃ a s', exec (os 0) c s = (.ok a, s') ∧
        AllOrNothing exec same rejects (f a) (fun n => os (n + 1)) s' := by
  cases hex : exec (os 0) c s with
  | mk r s' =>
      cases r with
      | ok a =>
          rw [ok_iff hex]
          refine ⟨fun h => ⟨a, s', rfl, h⟩, ?_⟩
          rintro ⟨a', s'', heq, h⟩
          cases heq
          exact h
      | error e =>
          obtain ⟨hrejects, hdiffers⟩ := herr e s' hex
          rw [error_iff hex]
          refine iff_of_false (fun h => hdiffers (h hrejects)) ?_
          rintro ⟨a', s'', heq, -⟩
          cases heq

end

end AllOrNothing

end Prog

end Lib
