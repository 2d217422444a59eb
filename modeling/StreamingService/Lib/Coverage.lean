import Mathlib.Data.Int.ConditionallyCompleteOrder
import Mathlib.Data.Int.Interval
import Mathlib.Data.Finset.Union
import Mathlib.Data.List.Sort
import Mathlib.Order.Interval.Finset.Basic
import Mathlib.Tactic.Linarith
import Mathlib.Tactic.Ring

/-!
# Lib — Coverage

Periods of one length `p`, each from its start on: the time they cover
together. Where the next period starts before the last has run out, the time
they share counts once, so a period adds what is left of it at the next start.
-/

namespace Lib

variable {p a b t : ℤ} {starts : List ℤ}

/-- The instants of the periods `[a, a + p)`. -/
noncomputable def covered (p : ℤ) (starts : List ℤ) : Finset ℤ :=
  starts.toFinset.biUnion fun a => Finset.Ico a (a + p)

theorem mem_covered : t ∈ covered p starts ↔ ∃ a ∈ starts, a ≤ t ∧ t < a + p := by
  simp [covered]

/-- The time covered by periods in order of their starts. -/
def coveredTime (p : ℤ) : List ℤ → ℤ
  | [] => 0
  | [_] => p
  | a :: b :: rest => min p (b - a) + coveredTime p (b :: rest)

/-- Up to the next start, only the earliest period runs; from there on it has
nothing to add. -/
theorem covered_cons (hab : a ≤ b) :
    covered p (a :: b :: starts) =
      Finset.Ico a (min (a + p) b) ∪ covered p (b :: starts) := by
  ext t
  simp only [Finset.mem_union, Finset.mem_Ico, mem_covered, lt_min_iff]
  constructor
  · rintro ⟨x, hx, hle, hlt⟩
    rcases List.mem_cons.mp hx with rfl | hx
    · rcases lt_or_ge t b with htb | hbt
      · exact .inl ⟨hle, hlt, htb⟩
      · exact .inr ⟨b, List.mem_cons_self, hbt, by omega⟩
    · exact .inr ⟨x, hx, hle, hlt⟩
  · rintro (⟨hle, hlt, -⟩ | ⟨x, hx, hle, hlt⟩)
    · exact ⟨a, List.mem_cons_self, hle, hlt⟩
    · exact ⟨x, List.mem_cons_of_mem _ hx, hle, hlt⟩

theorem covered_disjoint (hs : (b :: starts).Pairwise (· ≤ ·)) :
    Disjoint (Finset.Ico a (min (a + p) b)) (covered p (b :: starts)) := by
  rw [Finset.disjoint_left]
  intro t ht hcov
  obtain ⟨x, hx, hle, -⟩ := mem_covered.mp hcov
  have hbx : b ≤ x := by
    rcases List.mem_cons.mp hx with rfl | hx
    · exact le_refl _
    · exact List.rel_of_pairwise_cons hs hx
  have htb : t < b := (lt_min_iff.mp (Finset.mem_Ico.mp ht).2).2
  omega

/-- **What periods cover**: of each, the part before the next start. -/
theorem card_covered (hp : 0 ≤ p) (hs : starts.Pairwise (· ≤ ·)) :
    ((covered p starts).card : ℤ) = coveredTime p starts := by
  induction starts with
  | nil => rfl
  | cons a rest ih =>
      cases rest with
      | nil => simp [covered, coveredTime, hp]
      | cons b rest =>
          have hab : a ≤ b := List.rel_of_pairwise_cons hs List.mem_cons_self
          have hrest := hs.of_cons
          rw [covered_cons hab, Finset.card_union_of_disjoint (covered_disjoint hrest), Nat.cast_add,
            ih hrest, Int.card_Ico, coveredTime]
          omega

/-- Periods cover at most what they last, one by one. -/
theorem coveredTime_le (p : ℤ) (starts : List ℤ) :
    coveredTime p starts ≤ starts.length * p := by
  induction starts with
  | nil => simp [coveredTime]
  | cons a rest ih =>
      cases rest with
      | nil => simp [coveredTime]
      | cons b rest =>
          rw [coveredTime, List.length_cons, Nat.cast_add, add_mul]
          have hmin : min p (b - a) ≤ p := min_le_left _ _
          push_cast at ih ⊢
          linarith

/-- **Nothing is lost exactly when no period starts before the last is over.** -/
theorem coveredTime_eq_iff :
    coveredTime p starts = starts.length * p ↔ starts.IsChain fun a b => a + p ≤ b := by
  induction starts with
  | nil => simp [coveredTime]
  | cons a rest ih =>
      cases rest with
      | nil => simp [coveredTime]
      | cons b rest =>
          have hle := coveredTime_le p (b :: rest)
          rw [List.isChain_cons_cons, ← ih, coveredTime, List.length_cons, Nat.cast_add, add_mul]
          push_cast at hle ⊢
          constructor
          · intro h
            have hmin : min p (b - a) = p := by
              have := min_le_left p (b - a)
              linarith
            exact ⟨by have := min_eq_left_iff.mp hmin; omega, by linarith⟩
          · rintro ⟨hab, hrest⟩
            rw [min_eq_left (by omega)]
            linarith

/-- One more period, after all the others: it adds the time since the latest
start, and no more than its own length. -/
theorem coveredTime_concat (last : ℤ) :
    coveredTime p (starts ++ [a, last]) = coveredTime p (starts ++ [a]) + min p (last - a) := by
  induction starts with
  | nil => simp [coveredTime, add_comm]
  | cons x rest ih =>
      cases rest with
      | nil => simp [coveredTime]; ring
      | cons y rest =>
          simp only [List.cons_append, coveredTime] at ih ⊢
          rw [ih]
          ring

end Lib
