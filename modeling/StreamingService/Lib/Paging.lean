import Mathlib.Data.List.Nodup
import Mathlib.Data.List.Pairwise
import Mathlib.Data.List.Perm.Basic
import Mathlib.Order.Lattice
import Mathlib.Data.List.Count

/-!
# Lib — Paging

Paging by offset over an order that is not total. Every page is a query of
its own and may see another arrangement of the rows with equal keys; an
arrangement settles the position of a row only up to the rows of its key.
The pages show every row once exactly when no key is split by a page
boundary: then the position still tells the page.
-/

namespace Lib

variable {α κ : Type*} [LinearOrder κ] {key : α → κ} {n i j : Nat} {l L : List α} {x y : α}

/-! ## Arrangements -/

/-- The rows of `l` in an order that puts greater keys first. -/
structure Arranges (key : α → κ) (l L : List α) : Prop where
  perm : L.Perm l
  sorted : L.Pairwise fun a b => key b ≤ key a

/-- How many rows have a greater key. -/
def newer (key : α → κ) (l : List α) (x : α) : Nat := l.countP fun y => decide (key x < key y)

/-- How many rows have no smaller key, `x` included. -/
def notOlder (key : α → κ) (l : List α) (x : α) : Nat := l.countP fun y => decide (key x ≤ key y)

/-- The `i`-th page of `n` rows. -/
def page (n i : Nat) (L : List α) : List α := (L.drop (i * n)).take n

/-- No key is split by a page boundary: the first and the last position of its
rows are on one page. -/
def OnOnePage (key : α → κ) (n : Nat) (l : List α) : Prop :=
  ∀ x ∈ l, newer key l x / n = (notOlder key l x - 1) / n

instance : Decidable (OnOnePage key n l) := inferInstanceAs (Decidable (∀ x ∈ l, _))

theorem page_sublist (n i : Nat) (L : List α) : (page n i L).Sublist L :=
  (List.take_sublist n _).trans (List.drop_sublist _ L)

/-- A row is on the page of its position. -/
theorem mem_page_iff (hn : 0 < n) : x ∈ page n i L ↔ ∃ m, L[m]? = some x ∧ m / n = i := by
  rw [List.mem_iff_getElem?]
  constructor
  · rintro ⟨k, hk⟩
    rw [page, List.getElem?_take] at hk
    split at hk
    · rename_i hlt
      rw [List.getElem?_drop] at hk
      refine ⟨_, hk, ?_⟩
      rw [Nat.mul_comm, Nat.mul_add_div hn, Nat.div_eq_of_lt hlt, Nat.add_zero]
    · cases hk
  · rintro ⟨m, hm, rfl⟩
    refine ⟨m % n, ?_⟩
    rw [page, List.getElem?_take, if_pos (Nat.mod_lt m hn), List.getElem?_drop, Nat.mul_comm,
      Nat.div_add_mod]
    exact hm

theorem split_at_getElem? {m : Nat} (hx : L[m]? = some x) :
    L = L.take m ++ x :: L.drop (m + 1) ∧ (L.take m).length = m := by
  obtain ⟨hlt, hget⟩ := List.getElem?_eq_some_iff.mp hx
  refine ⟨?_, List.length_take_of_le (Nat.le_of_lt hlt)⟩
  conv_lhs => rw [← List.take_append_drop m L, List.drop_eq_getElem_cons hlt, hget]

/-! ## Positions -/

namespace Arranges

variable (h : Arranges key l L) {m : Nat}
include h

theorem newer_eq (x : α) : newer key l x = newer key L x := (h.perm.countP_eq _).symm

theorem notOlder_eq (x : α) : notOlder key l x = notOlder key L x := (h.perm.countP_eq _).symm

/-- What stands before a row has no smaller key, what stands after it no greater. -/
theorem around (hx : L[m]? = some x) :
    (∀ a ∈ L.take m, key x ≤ key a) ∧ ∀ b ∈ L.drop (m + 1), key b ≤ key x := by
  have hs := h.sorted
  rw [(split_at_getElem? hx).1, List.pairwise_append] at hs
  exact ⟨fun a ha => hs.2.2 a ha x List.mem_cons_self, (List.pairwise_cons.mp hs.2.1).1⟩

/-- The rows with a greater key all stand before. -/
theorem newer_eq_take (hx : L[m]? = some x) :
    newer key l x = (L.take m).countP fun y => decide (key x < key y) := by
  obtain ⟨-, hafter⟩ := h.around hx
  have hnone : (L.drop (m + 1)).countP (fun y => decide (key x < key y)) = 0 := by
    rw [List.countP_eq_zero]
    intro b hb
    simpa using hafter b hb
  rw [h.newer_eq, newer]
  conv_lhs => rw [(split_at_getElem? hx).1]
  simp [hnone]

/-- The rows that stand before all have no smaller key. -/
theorem notOlder_eq_drop (hx : L[m]? = some x) :
    notOlder key l x = m + 1 + (L.drop (m + 1)).countP fun y => decide (key x ≤ key y) := by
  obtain ⟨hbefore, -⟩ := h.around hx
  have hall : (L.take m).countP (fun y => decide (key x ≤ key y)) = m := by
    conv_rhs => rw [← (split_at_getElem? hx).2]
    rw [List.countP_eq_length]
    intro a ha
    simpa using hbefore a ha
  rw [h.notOlder_eq, notOlder]
  conv_lhs => rw [(split_at_getElem? hx).1]
  rw [List.countP_append, List.countP_cons, hall]
  simp
  omega

/-- **A position is known up to the rows of its key.** -/
theorem position (hx : L[m]? = some x) : newer key l x ≤ m ∧ m < notOlder key l x := by
  constructor
  · rw [h.newer_eq_take hx]
    exact Nat.le_trans List.countP_le_length (Nat.le_of_eq (split_at_getElem? hx).2)
  · rw [h.notOlder_eq_drop hx]
    omega

/-- Before its own key's other rows, a row has the least position. -/
theorem position_first (hx : L[m]? = some x) (hfirst : ∀ a ∈ L.take m, key a ≠ key x) :
    newer key l x = m := by
  obtain ⟨hbefore, -⟩ := h.around hx
  rw [h.newer_eq_take hx]
  conv_rhs => rw [← (split_at_getElem? hx).2]
  rw [List.countP_eq_length]
  intro a ha
  simpa using lt_of_le_of_ne (hbefore a ha) (hfirst a ha).symm

/-- After its own key's other rows, a row has the greatest position. -/
theorem position_last (hx : L[m]? = some x) (hlast : ∀ b ∈ L.drop (m + 1), key b ≠ key x) :
    notOlder key l x = m + 1 := by
  obtain ⟨-, hafter⟩ := h.around hx
  have hnone : (L.drop (m + 1)).countP (fun y => decide (key x ≤ key y)) = 0 := by
    rw [List.countP_eq_zero]
    intro b hb
    simpa using lt_of_le_of_ne (hafter b hb) (hlast b hb)
  rw [h.notOlder_eq_drop hx, hnone]

/-- Where no key is split, the page of a row does not depend on the arrangement. -/
theorem mem_page_iff_newer (hn : 0 < n) (hone : OnOnePage key n l) :
    x ∈ page n i L ↔ x ∈ l ∧ newer key l x / n = i := by
  rw [mem_page_iff hn]
  constructor
  · rintro ⟨m, hx, rfl⟩
    have hmem : x ∈ l := h.perm.mem_iff.mp (List.mem_of_getElem? hx)
    obtain ⟨hle, hlt⟩ := h.position hx
    have hupper : m / n ≤ (notOlder key l x - 1) / n := Nat.div_le_div_right (by omega)
    rw [← hone x hmem] at hupper
    exact ⟨hmem, Nat.le_antisymm (Nat.div_le_div_right hle) hupper⟩
  · rintro ⟨hmem, rfl⟩
    obtain ⟨m, hx⟩ := List.mem_iff_getElem?.mp (h.perm.mem_iff.mpr hmem)
    obtain ⟨hle, hlt⟩ := h.position hx
    have hupper : m / n ≤ (notOlder key l x - 1) / n := Nat.div_le_div_right (by omega)
    rw [← hone x hmem] at hupper
    exact ⟨m, hx, Nat.le_antisymm hupper (Nat.div_le_div_right hle)⟩

end Arranges

/-! ## All pages -/

/-- `P` pages, one after the other, each of an arrangement of its own. -/
def pages (n P : Nat) (Ls : Nat → List α) : List α := (List.range P).flatMap fun i => page n i (Ls i)

theorem newer_lt_length (hx : x ∈ l) : newer key l x < l.length := by
  rw [newer, List.countP_lt_length_iff]
  exact ⟨x, hx, by simp⟩

/-- Fewer rows are newer than a newer row. -/
theorem newer_le_newer (h : key x ≤ key y) : newer key l y ≤ newer key l x :=
  List.countP_mono_left fun a _ ha => by simpa using lt_of_le_of_lt h (by simpa using ha)

/-- **Where no key is split, the pages arrange the rows.** -/
theorem pages_arranges {Ls : Nat → List α} {P : Nat} (hn : 0 < n) (hnodup : l.Nodup)
    (hone : OnOnePage key n l) (hLs : ∀ i, Arranges key l (Ls i)) (hP : l.length ≤ P * n) :
    Arranges key l (pages n P Ls) := by
  have hmem : ∀ {x i}, x ∈ page n i (Ls i) ↔ x ∈ l ∧ newer key l x / n = i :=
    (hLs _).mem_page_iff_newer hn hone
  have hdistinct : (pages n P Ls).Nodup := by
    rw [pages, List.nodup_flatMap]
    refine ⟨fun i _ => ?_, List.nodup_range.imp ?_⟩
    · exact ((hLs i).perm.nodup_iff.mpr hnodup).sublist (page_sublist n i _)
    · intro i j hij x hxi hxj
      exact hij ((hmem.mp hxi).2.symm.trans (hmem.mp hxj).2)
  constructor
  · rw [List.perm_ext_iff_of_nodup hdistinct hnodup]
    intro x
    rw [pages, List.mem_flatMap]
    constructor
    · rintro ⟨i, -, hx⟩
      exact (hmem.mp hx).1
    · intro hx
      refine ⟨newer key l x / n, List.mem_range.mpr ?_, hmem.mpr ⟨hx, rfl⟩⟩
      exact Nat.div_lt_of_lt_mul (by rw [Nat.mul_comm]; exact Nat.lt_of_lt_of_le (newer_lt_length hx) hP)
  · rw [pages, List.pairwise_flatMap]
    refine ⟨fun i _ => (hLs i).sorted.sublist (page_sublist n i _), List.pairwise_lt_range.imp ?_⟩
    intro i j hij x hx y hy
    -- a greater key on a later page would be on an earlier one
    by_contra hlt
    have hle := Nat.div_le_div_right (c := n) (newer_le_newer (l := l) (le_of_not_ge hlt))
    rw [(hmem.mp hx).2, (hmem.mp hy).2] at hle
    omega

/-- A row on two pages is shown twice. -/
theorem not_nodup_pages {Ls : Nat → List α} {P : Nat} (hij : i ≠ j) (hi : i < P) (hj : j < P)
    (hxi : x ∈ page n i (Ls i)) (hxj : x ∈ page n j (Ls j)) : ¬ (pages n P Ls).Nodup := by
  rw [pages, List.nodup_flatMap]
  rintro ⟨-, hdisjoint⟩
  have : Std.Symm (Function.onFun List.Disjoint fun i => page n i (Ls i)) :=
    ⟨fun _ _ hdis _ hx hx' => hdis hx' hx⟩
  exact hdisjoint.forall (List.mem_range.mpr hi) (List.mem_range.mpr hj) hij hxi hxj

/-- The pages end with the rows. -/
theorem page_eq_nil (h : Arranges key l L) (hi : l.length ≤ i * n) : page n i L = [] := by
  rw [page, List.drop_eq_nil_of_le (by rw [h.perm.length_eq]; exact hi), List.take_nil]

end Lib
