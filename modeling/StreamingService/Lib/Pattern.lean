import Mathlib.Computability.RegularExpressions

/-!
# Lib — Pattern

Anchored patterns, `/^…$/`, over Mathlib's regular expressions: literals,
character classes and a class repeated a fixed number of times. `test` runs
the pattern on a text; the `_iff` lemmas say what each piece matches.
-/

namespace Lib.Pattern

open RegularExpression

universe u

variable {α : Type u}

/-- The letters of a text, one after the other. -/
def literal : List α → RegularExpression α
  | [] => 1
  | a :: as => char a * literal as

/-- A class of letters. -/
def oneOf : List α → RegularExpression α
  | [] => 0
  | a :: as => char a + oneOf as

/-- `/^…$/.test(text)`. -/
def test (P : RegularExpression Char) (text : String) : Bool := P.rmatch text.toList

variable [DecidableEq α]

theorem rmatch_literal {as x : List α} : (literal as).rmatch x = true ↔ x = as := by
  induction as generalizing x with
  | nil => exact one_rmatch_iff x
  | cons a as ih =>
      rw [literal, mul_rmatch_iff]
      constructor
      · rintro ⟨t, u, rfl, ht, hu⟩
        rw [(char_rmatch_iff a t).mp ht, ih.mp hu, List.singleton_append]
      · rintro rfl
        exact ⟨[a], as, rfl, (char_rmatch_iff a [a]).mpr rfl, ih.mpr rfl⟩

theorem rmatch_oneOf {as x : List α} : (oneOf as).rmatch x = true ↔ ∃ a ∈ as, x = [a] := by
  induction as with
  | nil => simp [oneOf]
  | cons a as ih =>
      rw [oneOf, add_rmatch_iff, char_rmatch_iff, ih]
      simp

/-- A class repeated: so many letters, all of the class. -/
theorem rmatch_oneOf_pow {as x : List α} {n : ℕ} :
    (oneOf as ^ n).rmatch x = true ↔ x.length = n ∧ ∀ a ∈ x, a ∈ as := by
  induction n generalizing x with
  | zero =>
      have hone : (oneOf as ^ 0).rmatch x = true ↔ x = [] := one_rmatch_iff x
      rw [hone, List.length_eq_zero_iff]
      constructor
      · rintro rfl
        exact ⟨rfl, fun a ha => absurd ha List.not_mem_nil⟩
      · exact fun h => h.1
  | succ n ih =>
      have hmul : (oneOf as ^ (n + 1)).rmatch x = true ↔
          ∃ t u, x = t ++ u ∧ (oneOf as ^ n).rmatch t = true ∧ (oneOf as).rmatch u = true :=
        mul_rmatch_iff _ _ x
      rw [hmul]
      constructor
      · rintro ⟨t, u, rfl, ht, hu⟩
        obtain ⟨hlen, hall⟩ := ih.mp ht
        obtain ⟨a, ha, rfl⟩ := rmatch_oneOf.mp hu
        refine ⟨by simp [hlen], fun b hb => ?_⟩
        rcases List.mem_append.mp hb with hb | hb
        · exact hall b hb
        · rwa [List.mem_singleton.mp hb]
      · rintro ⟨hlen, hall⟩
        have hne : x ≠ [] := by
          rintro rfl
          cases hlen
        have hdrop : x.dropLast.length = n := by simp [hlen]
        refine ⟨x.dropLast, [x.getLast hne], (List.dropLast_append_getLast hne).symm, ?_, ?_⟩
        · exact ih.mpr ⟨hdrop, fun a ha => hall a (List.mem_of_mem_dropLast ha)⟩
        · exact rmatch_oneOf.mpr ⟨_, hall _ (List.getLast_mem hne), rfl⟩

end Lib.Pattern
