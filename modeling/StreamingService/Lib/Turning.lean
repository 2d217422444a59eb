import Mathlib.Data.List.Perm.Subperm
import StreamingService.Lib.Paging

/-!
# Lib — Turning

Paging by offset through rows that are added to between two pages. Rows that
are added, wherever in the order, move the others towards the end: a row the
reader has not met yet stays ahead, and a row it has met may come again. So
turning the pages until one is not full misses no row that was there when the
first was read, if it shares its key with none.
-/

namespace Lib

/-! ## Rows that stay -/

section

variable {α ι κ : Type*} {ident : α → ι} {key : α → κ} {l l' l'' : List α} {x : α}

/-- Every row of `l` is still one of `l'`, with its key. -/
def Added (ident : α → ι) (key : α → κ) (l l' : List α) : Prop :=
  ∀ x ∈ l, ∃ x' ∈ l', ident x' = ident x ∧ key x' = key x

/-- No other row has the key of `x`. -/
def AloneAt (ident : α → ι) (key : α → κ) (l : List α) (x : α) : Prop :=
  ∀ y ∈ l, key y = key x → ident y = ident x

namespace Added

theorem refl (l : List α) : Added ident key l l := fun x hx => ⟨x, hx, rfl, rfl⟩

/-- A row that was there is there later. -/
theorem still (h : Added ident key l l') (hx : ∃ y ∈ l, ident y = ident x ∧ key y = key x) :
    ∃ y ∈ l', ident y = ident x ∧ key y = key x := by
  obtain ⟨y, hy, hid, hkey⟩ := hx
  obtain ⟨y', hy', hid', hkey'⟩ := h y hy
  exact ⟨y', hy', hid'.trans hid, hkey'.trans hkey⟩

theorem trans (h : Added ident key l l') (h' : Added ident key l' l'') :
    Added ident key l l'' := by
  intro x hx
  exact h'.still (h x hx)

/-- A row that is alone later was alone before. -/
theorem alone (h : Added ident key l l') (hx : AloneAt ident key l' x) :
    AloneAt ident key l x := by
  intro y hy hkey
  obtain ⟨y', hy', hid', hkey'⟩ := h y hy
  rw [← hid']
  exact hx y' hy' (hkey'.trans hkey)

/-- Additions, one after the other. -/
theorem chain {ls : Nat → List α} {P : Nat} (h : ∀ i < P, Added ident key (ls i) (ls (i + 1))) :
    ∀ j ≤ P, ∀ i ≤ j, Added ident key (ls i) (ls j) := by
  intro j
  induction j with
  | zero =>
      intro _ i hi
      cases Nat.le_zero.mp hi
      exact .refl _
  | succ j ih =>
      intro hj i hi
      rcases Nat.lt_or_eq_of_le hi with hlt | rfl
      · exact (ih (by omega) i (by omega)).trans (h j (by omega))
      · exact .refl _

end Added

end

/-! ## Where a row is met -/

section

variable {α ι κ : Type*} [LinearOrder κ] {ident : α → ι} {key : α → κ} {n i j : Nat}
  {l l' L : List α} {x y : α}

/-- Rows that are added move the others back, if at all. -/
theorem Added.newer_le (h : Added ident key l l') (hl : (l.map ident).Nodup) (x : α) :
    newer key l x ≤ newer key l' x := by
  let stamp (y : α) : ι × κ := (ident y, key y)
  have hcount : ∀ l : List α,
      newer key l x = (l.map stamp).countP fun p => decide (key x < p.2) := by
    intro l
    rw [List.countP_map]
    rfl
  have hstamps : (l.map stamp).Nodup := by
    refine List.Nodup.of_map Prod.fst ?_
    rw [List.map_map]
    exact hl
  rw [hcount, hcount]
  refine (hstamps.subperm fun p hp => ?_).countP_le _
  obtain ⟨y, hy, rfl⟩ := List.mem_map.mp hp
  obtain ⟨y', hy', hid, hkey⟩ := h y hy
  exact List.mem_map.mpr ⟨y', hy', Prod.ext hid hkey⟩

section

variable (h : Arranges key l L) (hl : (l.map ident).Nodup) (halone : AloneAt ident key l x)
include h hl halone

/-- Alone at its key, a row stands behind the newer rows and nothing else. -/
theorem Arranges.position_alone {m : Nat} (hm : L[m]? = some y) (hid : ident y = ident x)
    (hkey : key y = key x) : newer key l x = m := by
  have hdistinct : L.Nodup := h.perm.nodup_iff.mpr (.of_map ident hl)
  rw [(split_at_getElem? hm).1, List.nodup_append] at hdistinct
  have hfirst : newer key l y = m := h.position_first hm fun a ha heq => by
    have hal : a ∈ l := h.perm.mem_iff.mp (List.mem_of_mem_take ha)
    have hyl : y ∈ l := h.perm.mem_iff.mp (List.mem_of_getElem? hm)
    have hay : a = y :=
      List.inj_on_of_nodup_map hl hal hyl ((halone a hal (heq.trans hkey)).trans hid.symm)
    exact hdistinct.2.2 a ha y List.mem_cons_self hay
  rw [← hfirst, newer, newer, hkey]

/-- Alone at its key, a row is on the page that the newer rows lead to. -/
theorem Arranges.met_iff (hn : 0 < n) (hx : ∃ y ∈ l, ident y = ident x ∧ key y = key x) :
    (∃ y ∈ page n i L, ident y = ident x) ↔ newer key l x / n = i := by
  obtain ⟨y, hy, hid, hkey⟩ := hx
  constructor
  · rintro ⟨z, hz, hzid⟩
    obtain ⟨m, hm, rfl⟩ := (mem_page_iff hn).mp hz
    have hzl : z ∈ l := h.perm.mem_iff.mp (List.mem_of_getElem? hm)
    cases List.inj_on_of_nodup_map hl hzl hy (hzid.trans hid.symm)
    rw [h.position_alone hl halone hm hid hkey]
  · rintro rfl
    obtain ⟨m, hm⟩ := List.mem_iff_getElem?.mp (h.perm.mem_iff.mpr hy)
    refine ⟨y, (mem_page_iff hn).mpr ⟨m, hm, ?_⟩, hid⟩
    rw [h.position_alone hl halone hm hid hkey]

end

/-! ## The pages turned -/

/-- A position that only moves back is met by the pages turned, if the last of them
reaches it. -/
theorem exists_page_met (pos : Nat → Nat) {P : Nat} (hback : ∀ i < P, pos i ≤ pos (i + 1))
    (hend : pos P < (P + 1) * n) : ∃ i ≤ P, pos i / n = i := by
  induction P with
  | zero =>
      refine ⟨0, Nat.le_refl 0, Nat.div_eq_of_lt ?_⟩
      omega
  | succ P ih =>
      by_cases hmet : pos (P + 1) / n = P + 1
      · exact ⟨P + 1, Nat.le_refl _, hmet⟩
      · -- it stands before the last page, and stood there a page ago
        have hlt : pos (P + 1) / n < P + 1 + 1 := Nat.div_lt_of_lt_mul (by rwa [Nat.mul_comm])
        have hn : 0 < n := by
          rcases Nat.eq_zero_or_pos n with rfl | hn
          · simp at hend
          · exact hn
        have hbefore : pos (P + 1) < (P + 1) * n := (Nat.div_lt_iff_lt_mul hn).mp (by omega)
        obtain ⟨i, hi, hpos⟩ := ih (fun i hi => hback i (by omega))
          (Nat.lt_of_le_of_lt (hback P (by omega)) hbefore)
        exact ⟨i, by omega, hpos⟩

/-- A page that is not full is the last. -/
theorem length_lt_of_page (h : (page n i L).length < n) : L.length < (i + 1) * n := by
  rw [page, List.length_take, List.length_drop] at h
  rw [Nat.succ_mul]
  omega

section

variable {ls Ls : Nat → List α} {P : Nat}
  (hadd : ∀ i < P, Added ident key (ls i) (ls (i + 1)))
  (hl : ∀ i ≤ P, ((ls i).map ident).Nodup) (hLs : ∀ i ≤ P, Arranges key (ls i) (Ls i))
  (hx : ∃ y ∈ ls 0, ident y = ident x ∧ key y = key x)
  (halone : AloneAt ident key (ls P) x)
include hadd hl hLs hx halone

theorem turned_iff (hn : 0 < n) (hi : i ≤ P) :
    (∃ y ∈ page n i (Ls i), ident y = ident x) ↔ newer key (ls i) x / n = i :=
  (hLs i hi).met_iff (hl i hi) ((Added.chain hadd P (Nat.le_refl P) i hi).alone halone) hn
    ((Added.chain hadd i hi 0 (Nat.zero_le i)).still hx)

/-- **No row is missed** by turning the pages until one is not full, while rows are
added anywhere. -/
theorem exists_turned (hn : 0 < n) (hlast : (page n P (Ls P)).length < n) :
    ∃ i ≤ P, ∃ y ∈ page n i (Ls i), ident y = ident x := by
  have hend : newer key (ls P) x < (P + 1) * n := by
    obtain ⟨y, hy, -, hkey⟩ := (Added.chain hadd P (Nat.le_refl P) 0 (Nat.zero_le P)).still hx
    have hlt : newer key (ls P) y < (ls P).length := newer_lt_length hy
    rw [newer, hkey] at hlt
    refine Nat.lt_trans hlt ?_
    rw [← (hLs P (Nat.le_refl P)).perm.length_eq]
    exact length_lt_of_page hlast
  obtain ⟨i, hi, hpos⟩ := exists_page_met (fun i => newer key (ls i) x)
    (fun i hi => (hadd i hi).newer_le (hl i (Nat.le_of_lt hi)) x) hend
  exact ⟨i, hi, (turned_iff hadd hl hLs hx halone hn hi).mpr hpos⟩

/-- A row is met again only where newer rows have been added. -/
theorem newer_lt_of_turned (hn : 0 < n) (hij : i < j) (hj : j ≤ P)
    (hi : ∃ y ∈ page n i (Ls i), ident y = ident x)
    (hj' : ∃ y ∈ page n j (Ls j), ident y = ident x) :
    newer key (ls i) x < newer key (ls j) x := by
  rw [turned_iff hadd hl hLs hx halone hn (by omega)] at hi
  rw [turned_iff hadd hl hLs hx halone hn hj] at hj'
  by_contra hle
  have hdiv := Nat.div_le_div_right (c := n) (Nat.le_of_not_lt hle)
  omega

end

end

end Lib
