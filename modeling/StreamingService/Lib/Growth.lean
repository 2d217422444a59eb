import Mathlib.Data.List.Forall2
import StreamingService.Lib.Table

/-!
# Lib — Growth

Tables that only grow. `Grows R new t t'` says that `t'` is `t` followed by
the rows `new`, every row at its place in a version `R` relates it to: no
row is deleted, moved or replaced, and no row is there that `new` does not
account for. Inserts and updates are growth, and growth composes.
-/

namespace Lib.Table

universe u

variable {ρ : Type u} {R : ρ → ρ → Prop}

/-- Pointwise steps compose. -/
theorem forall₂_trans (hR : ∀ a b c, R a b → R b c → R a c) {as bs cs : List ρ}
    (h : List.Forall₂ R as bs) (h' : List.Forall₂ R bs cs) : List.Forall₂ R as cs := by
  induction h generalizing cs with
  | nil =>
      cases h'
      exact .nil
  | cons hab _ ih =>
      cases h' with
      | cons hbc hrest => exact .cons (hR _ _ _ hab hbc) (ih hrest)

variable [Indexed ρ] {t t' t'' : Table ρ} {new new' : List ρ}

/-- The rows of `t`, and then `new`, all in later versions. -/
def Grows (R : ρ → ρ → Prop) (new : List ρ) (t t' : Table ρ) : Prop :=
  List.Forall₂ R (t.rows ++ new) t'.rows

theorem Grows.refl (hR : ∀ r, R r r) (t : Table ρ) : Grows R [] t t := by
  rw [Grows, List.append_nil]
  exact List.forall₂_same.mpr fun r _ => hR r

theorem Grows.of_eq (hR : ∀ r, R r r) (h : t' = t) : Grows R [] t t' := h ▸ .refl hR t

theorem Grows.trans (hR : ∀ r, R r r) (htrans : ∀ a b c, R a b → R b c → R a c)
    (h : Grows R new t t') (h' : Grows R new' t' t'') : Grows R (new ++ new') t t'' := by
  have hnew : List.Forall₂ R new' new' := List.forall₂_same.mpr fun r _ => hR r
  rw [Grows, ← List.append_assoc]
  exact forall₂_trans htrans (List.rel_append h hnew) h'

theorem Grows.insert (hR : ∀ r, R r r) {r : ρ} (h : t.insert? r = some t') :
    Grows R [r] t t' := by
  rw [Grows, insert?_eq_some h]
  exact List.forall₂_same.mpr fun r _ => hR r

theorem Grows.map {p : ρ → Bool} {f : ρ → ρ} (hR : ∀ r, R r r) (hf : ∀ r, R r (f r))
    (h : t'.rows = t.rows.map fun r => if p r then f r else r) : Grows R [] t t' := by
  rw [Grows, List.append_nil, h, List.forall₂_map_right_iff, List.forall₂_same]
  intro r _
  split
  · exact hf r
  · exact hR r

/-- A row that was there is there in a later version. -/
theorem Grows.mem (h : Grows R new t t') {r : ρ} (hr : r ∈ t) : ∃ r' ∈ t', R r r' := by
  obtain ⟨i, hi, rfl⟩ := List.mem_iff_getElem.mp (List.mem_append_left new hr)
  have hi' : i < t'.rows.length := h.length_eq ▸ hi
  exact ⟨t'.rows[i], List.getElem_mem hi', (List.forall₂_iff_get.mp h).2 i hi hi'⟩

/-- A row that is there is a later version of one that was, or of a new one. -/
theorem Grows.origin (h : Grows R new t t') {r' : ρ} (hr : r' ∈ t') :
    ∃ r, R r r' ∧ (r ∈ t ∨ r ∈ new) := by
  obtain ⟨i, hi, rfl⟩ := List.mem_iff_getElem.mp hr
  have hi' : i < (t.rows ++ new).length := h.length_eq ▸ hi
  exact ⟨(t.rows ++ new)[i], (List.forall₂_iff_get.mp h).2 i hi' hi,
    List.mem_append.mp (List.getElem_mem hi')⟩

omit [Indexed ρ] in
/-- A selection no rewritten row is in, before or after, does not see the rewriting. -/
theorem filter_rewritten {rows : List ρ} {p q : ρ → Bool} {f : ρ → ρ}
    (h : ∀ r ∈ rows, p r = true → q r = false ∧ q (f r) = false) :
    (rows.map fun r => if p r then f r else r).filter q = rows.filter q := by
  induction rows with
  | nil => rfl
  | cons r rest ih =>
      rw [List.map_cons, List.filter_cons, List.filter_cons,
        ih fun x hx => h x (List.mem_cons_of_mem _ hx)]
      by_cases hp : p r = true
      · obtain ⟨hq, hqf⟩ := h r List.mem_cons_self hp
        simp [hp, hq, hqf]
      · simp [hp]

/-- A selection the new row is not in does not see the insert. -/
theorem filter_inserted {q : ρ → Bool} {r : ρ} (h : t.insert? r = some t') (hq : q r = false) :
    t'.rows.filter q = t.rows.filter q := by
  rw [insert?_eq_some h, List.filter_append]
  simp [hq]

/-- Rows that keep every column: the table is the old one and the new rows. -/
theorem grows_eq_iff : Grows Eq new t t' ↔ t'.rows = t.rows ++ new := by
  rw [Grows, List.forall₂_eq_eq_eq]
  exact eq_comm

end Lib.Table
