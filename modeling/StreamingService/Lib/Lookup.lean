import Mathlib.Logic.Function.Basic
import StreamingService.Lib.Table

/-!
# Lib — Lookup

A table as a partial map from a key. As long as rows of one key clash, an
insert is one update of the map, and so is an update of the row of a key.
-/

namespace Lib.Table

universe u v

variable {ρ : Type u} {κ : Type v} [Indexed ρ] [DecidableEq κ] {key : ρ → κ} {t t' : Table ρ}

/-- The row of a key. -/
def lookup (key : ρ → κ) (t : Table ρ) (k : κ) : Option ρ := t.find? fun x => key x == k

/-- The rows of a key are the one that is found. -/
theorem lookup_eq_some (hkey : ∀ a b, key a = key b → Indexed.clash a b = true) {k : κ} {r : ρ} :
    t.lookup key k = some r ↔ r ∈ t ∧ key r = k := by
  constructor
  · intro h
    obtain ⟨hr, hk⟩ := mem_of_find? h
    exact ⟨hr, beq_iff_eq.mp hk⟩
  · rintro ⟨hr, rfl⟩
    refine find?_eq_some hr (beq_self_eq_true _) fun a b ha hb => hkey a b ?_
    rw [beq_iff_eq] at ha hb
    rw [ha, hb]

/-- A new row is found under its own key. -/
theorem lookup_insert (hkey : ∀ a b, key a = key b → Indexed.clash a b = true) {r : ρ}
    (h : t.insert? r = some t') :
    t'.lookup key = Function.update (t.lookup key) (key r) (some r) := by
  funext k
  rw [lookup, find?, insert?_eq_some h, List.find?_append]
  by_cases hk : k = key r
  · subst hk
    have hnone : (t.rows.find? fun x => key x == key r) = none := by
      refine List.find?_eq_none.mpr fun x hx heq => ?_
      have hclash := hkey x r (beq_iff_eq.mp heq)
      rw [insert?_fresh h hx] at hclash
      cases hclash
    simp [hnone]
  · have hne : (key r == k) = false := beq_eq_false_iff_ne.mpr fun h => hk h.symm
    simp [Function.update_of_ne hk, hne, lookup, find?]

/-- An update of the row of a key is found under that key. -/
theorem lookup_update (t : Table ρ) (k : κ) {f : ρ → ρ}
    (hf : ∀ a b, Indexed.clash (f a) b = Indexed.clash a b) (hkey : ∀ r, key (f r) = key r) :
    (t.update (fun x => key x == k) f hf).lookup key =
      Function.update (t.lookup key) k ((t.lookup key k).map f) := by
  have hsel : ∀ r, key (if (key r == k) = true then f r else r) = key r := by
    intro r
    split
    · exact hkey r
    · rfl
  funext k'
  have hcomp : ((fun x => key x == k') ∘ fun r => if (key r == k) = true then f r else r) =
      fun x => key x == k' := by
    funext r
    exact congrArg (· == k') (hsel r)
  rw [lookup, find?, update_rows, List.find?_map, hcomp]
  by_cases hk : k' = k
  · subst hk
    rw [Function.update_self, lookup, find?]
    cases hfind : t.rows.find? fun x => key x == k' with
    | none => rfl
    | some r =>
        show some (if (key r == k') = true then f r else r) = some (f r)
        rw [if_pos (List.find?_some hfind)]
  · rw [Function.update_of_ne hk, lookup, find?]
    cases hfind : t.rows.find? fun x => key x == k' with
    | none => rfl
    | some r =>
        have hr : key r = k' := by simpa using List.find?_some hfind
        simp [hr, hk]

end Lib.Table
