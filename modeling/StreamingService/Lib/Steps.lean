import Mathlib.Init

/-!
# Lib — Steps

Systems that move by labelled steps: which states a run reaches, the rule
of invariants, and replays of a given list of labels.
-/

namespace Lib

variable {σ lab : Type}

/-- A step by a label, or none when the label does not apply. -/
structure Steps (σ lab : Type) : Type where
  next : σ → lab → Option σ

namespace Steps

variable (m : Steps σ lab)

/-- The states a run reaches from `a` through labels that `ok` admits. -/
inductive Run (ok : σ → lab → Prop) (a : σ) : σ → Prop
  | refl : Run ok a a
  | step {b c : σ} {l : lab} : Run ok a b → ok b l → m.next b l = some c → Run ok a c

variable {m} {ok : σ → lab → Prop}

theorem Run.trans {a b c : σ} (hab : m.Run ok a b) (hbc : m.Run ok b c) : m.Run ok a c := by
  induction hbc with
  | refl => exact hab
  | step _ hok hn ih => exact ih.step hok hn

theorem Run.mono {ok' : σ → lab → Prop} {a b : σ} (h : ∀ s l, ok s l → ok' s l)
    (hr : m.Run ok a b) : m.Run ok' a b := by
  induction hr with
  | refl => exact .refl
  | step _ hok hn ih => exact ih.step (h _ _ hok) hn

/-- **The invariant rule**: what every admitted step keeps holds of every
state reached. -/
theorem Run.keeps {I : σ → Prop} {a b : σ} (ha : I a)
    (hstep : ∀ b l c, I b → ok b l → m.next b l = some c → I c) (hr : m.Run ok a b) : I b := by
  induction hr with
  | refl => exact ha
  | step _ hok hn ih => exact hstep _ _ _ ih hok hn

section

variable (ok) [∀ s l, Decidable (ok s l)]

/-- Perform a list of steps in order, as long as `ok` admits them. -/
def replay (m : Steps σ lab) (a : σ) : List lab → Option σ
  | [] => some a
  | l :: rest => if ok a l then (m.next a l).bind fun b => m.replay b rest else none

variable {ok}

theorem replay_run {ls : List lab} {a b : σ} (h : m.replay ok a ls = some b) : m.Run ok a b := by
  induction ls generalizing a with
  | nil =>
      simp only [replay, Option.some.injEq] at h
      subst h
      exact .refl
  | cons l rest ih =>
      simp only [replay] at h
      by_cases hok : ok a l
      · rw [if_pos hok] at h
        obtain ⟨a', hn, h⟩ := Option.bind_eq_some_iff.mp h
        exact (Run.refl.step hok hn).trans (ih h)
      · rw [if_neg hok] at h
        cases h

variable (ok)

/-- A replay that ends in a state with a decidable property reaches one. -/
theorem exists_run_of_replay {a : σ} (ls : List lab) (p : σ → Bool)
    (h : (m.replay ok a ls).map p = some true) : ∃ b, m.Run ok a b ∧ p b = true := by
  obtain ⟨b, hb, hp⟩ := Option.map_eq_some_iff.mp h
  exact ⟨b, replay_run hb, hp⟩

end

end Steps

end Lib
