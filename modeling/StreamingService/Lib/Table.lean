import Mathlib.Data.List.Basic
import Mathlib.Data.List.Pairwise

/-!
# Lib — Table

A relational table under unique indexes. The rows carry their own
well-formedness: `Table.unique` says that no two rows share a key of any
unique index, so a table that breaks its indexes cannot be built, and
every statement that could break one answers `none` instead.

`clash` is the union of the table's indexes: two rows clash when some
index maps both to the same key. SQL's rule that `NULL` never equals
`NULL` is the instance's business (a null key clashes with nothing).
-/

namespace Lib

universe u

/-- The unique indexes of a row type, as one symmetric relation. -/
class Indexed (ρ : Type u) where
  clash : ρ → ρ → Bool
  clash_comm : ∀ a b, clash a b = clash b a
  clash_self : ∀ a, clash a a = true

open Indexed

/-- No two rows of the list clash. -/
def distinct {ρ : Type u} [Indexed ρ] : List ρ → Bool
  | [] => true
  | r :: rest => !rest.any (clash r) && distinct rest

/-- Rows under unique indexes. -/
structure Table (ρ : Type u) [Indexed ρ] where
  rows : List ρ
  unique : distinct rows = true

namespace Table

variable {ρ : Type u} [Indexed ρ]

theorem ext {t t' : Table ρ} (h : t.rows = t'.rows) : t = t' := by
  cases t
  cases t'
  cases h
  rfl

instance : Membership ρ (Table ρ) := ⟨fun t r => r ∈ t.rows⟩

theorem mem_rows {t : Table ρ} {r : ρ} : r ∈ t.rows ↔ r ∈ t := Iff.rfl

instance [DecidableEq ρ] : DecidableEq (Table ρ) := fun t t' =>
  decidable_of_iff (t.rows = t'.rows) ⟨ext, fun h => by rw [h]⟩

/-! ## The indexes -/

theorem distinct_iff {rows : List ρ} :
    distinct rows = true ↔ rows.Pairwise (fun a b => clash a b = false) := by
  induction rows with
  | nil => simp [distinct]
  | cons r rest ih => simp [distinct, ih, List.pairwise_cons]

/-- Clashing rows of one table are the same row. -/
theorem eq_of_clash {t : Table ρ} {a b : ρ} (ha : a ∈ t) (hb : b ∈ t)
    (h : clash a b = true) : a = b := by
  by_contra hne
  have hp := distinct_iff.mp t.unique
  have : Std.Symm (fun a b : ρ => clash a b = false) :=
    ⟨fun x y hxy => by rw [clash_comm]; exact hxy⟩
  have hf := hp.forall ha hb hne
  rw [h] at hf
  cases hf

/-! ## Statements -/

def empty : Table ρ := ⟨[], rfl⟩

@[simp] theorem empty_rows : (empty : Table ρ).rows = [] := rfl

@[simp] theorem not_mem_empty (r : ρ) : ¬ r ∈ (empty : Table ρ) := List.not_mem_nil

/-- `findFirst` and `findUnique`: the first row a condition selects. -/
def find? (t : Table ρ) (p : ρ → Bool) : Option ρ := t.rows.find? p

/-- `findMany`: the rows a condition selects. -/
def filter (t : Table ρ) (p : ρ → Bool) : List ρ := t.rows.filter p

/-- `create`: refused when the new row clashes with a stored one. -/
def insert? (t : Table ρ) (r : ρ) : Option (Table ρ) :=
  if h : distinct (t.rows ++ [r]) = true then some ⟨t.rows ++ [r], h⟩ else none

/-- `update` of columns that belong to an index: refused when two rows
would clash afterwards. -/
def update? (t : Table ρ) (p : ρ → Bool) (f : ρ → ρ) : Option (Table ρ) :=
  if h : distinct (t.rows.map fun r => if p r then f r else r) = true
  then some ⟨_, h⟩ else none

theorem distinct_map {f : ρ → ρ} (hf : ∀ a b, clash (f a) (f b) = clash a b)
    {rows : List ρ} (h : distinct rows = true) : distinct (rows.map f) = true := by
  rw [distinct_iff] at h ⊢
  rw [List.pairwise_map]
  exact h.imp fun {a b} hab => by rw [hf, hab]

/-- `update` of columns outside every index: it cannot be refused. -/
def update (t : Table ρ) (p : ρ → Bool) (f : ρ → ρ)
    (hf : ∀ a b, clash (f a) b = clash a b) : Table ρ :=
  ⟨t.rows.map fun r => if p r then f r else r,
    distinct_map (fun a b => by
      have key : ∀ x y, clash (if p x then f x else x) y = clash x y := by
        intro x y
        split
        · exact hf x y
        · rfl
      rw [key, clash_comm, key, clash_comm]) t.unique⟩

@[simp] theorem update_rows (t : Table ρ) (p : ρ → Bool) (f : ρ → ρ)
    (hf : ∀ a b, clash (f a) b = clash a b) :
    (t.update p f hf).rows = t.rows.map fun r => if p r then f r else r := rfl

/-- An update that changes no row. -/
theorem update_eq_self (t : Table ρ) {p : ρ → Bool} {f : ρ → ρ}
    (hf : ∀ a b, clash (f a) b = clash a b) :
    t.update p f hf = t ↔ ∀ r ∈ t, p r = true → f r = r := by
  have hrows : t.update p f hf = t ↔ (t.update p f hf).rows = t.rows :=
    ⟨fun h => by rw [h], ext⟩
  rw [hrows, update_rows, show t.rows = t.rows.map id by simp, List.map_map, List.map_inj_left]
  refine forall₂_congr fun r _ => ?_
  by_cases hp : p r = true <;> simp [hp]

/-- A selection no updated row is in, before or after, does not see the update. -/
theorem filter_update (t : Table ρ) {p q : ρ → Bool} {f : ρ → ρ}
    (hf : ∀ a b, clash (f a) b = clash a b)
    (h : ∀ r ∈ t.rows, p r = true → q r = false ∧ q (f r) = false) :
    (t.update p f hf).rows.filter q = t.rows.filter q := by
  rw [update_rows]
  generalize t.rows = rows at h
  induction rows with
  | nil => rfl
  | cons r rest ih =>
      rw [List.map_cons, List.filter_cons, List.filter_cons,
        ih fun x hx => h x (List.mem_cons_of_mem _ hx)]
      by_cases hp : p r = true
      · obtain ⟨hq, hqf⟩ := h r List.mem_cons_self hp
        simp [hp, hq, hqf]
      · simp [hp]

/-- `deleteMany`: fewer rows clash no more. -/
def remove (t : Table ρ) (p : ρ → Bool) : Table ρ :=
  ⟨t.rows.filter fun r => !p r, by
    rw [distinct_iff]
    exact (distinct_iff.mp t.unique).filter _⟩

/-- A nested `create` of several rows: all of them or none. -/
def insertMany? (t : Table ρ) : List ρ → Option (Table ρ)
  | [] => some t
  | r :: rest => (t.insert? r).bind fun t' => t'.insertMany? rest

/-! ## What the statements answer -/

theorem mem_of_find? {t : Table ρ} {p : ρ → Bool} {r : ρ} (h : t.find? p = some r) :
    r ∈ t ∧ p r = true :=
  ⟨List.mem_of_find?_eq_some h, List.find?_some h⟩

theorem find?_eq_none {t : Table ρ} {p : ρ → Bool} :
    t.find? p = none ↔ ∀ r ∈ t, p r = false := by
  simp only [find?, List.find?_eq_none, Bool.not_eq_true]
  exact Iff.rfl

theorem find?_isSome {t : Table ρ} {p : ρ → Bool} {r : ρ} (hr : r ∈ t)
    (hp : p r = true) : ∃ r', t.find? p = some r' := by
  cases h : t.find? p with
  | some r' => exact ⟨r', rfl⟩
  | none =>
      rw [find?_eq_none.mp h r hr] at hp
      cases hp

/-- A lookup by an indexed key finds the only row that carries the key. -/
theorem find?_eq_some {t : Table ρ} {p : ρ → Bool} {r : ρ} (hr : r ∈ t)
    (hp : p r = true) (hkey : ∀ a b, p a = true → p b = true → clash a b = true) :
    t.find? p = some r := by
  obtain ⟨r', h⟩ := find?_isSome hr hp
  obtain ⟨hm, hp'⟩ := mem_of_find? h
  rw [h, eq_of_clash hm hr (hkey _ _ hp' hp)]

section

variable {κ : Type} [BEq κ] [LawfulBEq κ]

/-- A lookup by a column that is indexed alone. -/
theorem find?_of_key {t : Table ρ} {r : ρ} {k : κ} (key : ρ → κ)
    (hkey : ∀ a b, key a = key b → clash a b = true) (hr : r ∈ t) (hk : key r = k) :
    t.find? (fun x => key x == k) = some r := by
  refine find?_eq_some hr (beq_iff_eq.mpr hk) ?_
  intro a b ha hb
  exact hkey a b ((beq_iff_eq.mp ha).trans (beq_iff_eq.mp hb).symm)

/-- What holds of every row of a key holds of the one that is found. -/
theorem forall_iff_of_find? {t : Table ρ} {r : ρ} {k : κ} (key : ρ → κ)
    (hkey : ∀ a b, key a = key b → clash a b = true)
    (h : t.find? (fun x => key x == k) = some r) {P : ρ → Prop} :
    (∀ x ∈ t, key x = k → P x) ↔ P r := by
  obtain ⟨hr, hkr⟩ := mem_of_find? h
  refine ⟨fun hall => hall r hr (beq_iff_eq.mp hkr), ?_⟩
  intro hP x hx hkx
  rw [eq_of_clash hx hr (hkey x r (hkx.trans (beq_iff_eq.mp hkr).symm))]
  exact hP

end

theorem mem_filter {t : Table ρ} {p : ρ → Bool} {r : ρ} :
    r ∈ t.filter p ↔ r ∈ t ∧ p r = true := List.mem_filter

/-- An index admits one row of a key. -/
theorem length_filter_le_one {t : Table ρ} {p : ρ → Bool}
    (hkey : ∀ a b, p a = true → p b = true → clash a b = true) : (t.filter p).length ≤ 1 := by
  have hsel : ∀ r ∈ t.filter p, p r = true := fun r hr => (mem_filter.mp hr).2
  have hdist : (t.filter p).Pairwise fun a b => clash a b = false :=
    (distinct_iff.mp t.unique).filter p
  match hrows : t.filter p with
  | [] => simp
  | [r] => simp
  | a :: b :: rest =>
      rw [hrows] at hsel hdist
      have hclash := hkey a b (hsel a (by simp)) (hsel b (by simp))
      rw [(List.pairwise_cons.mp hdist).1 b (by simp)] at hclash
      cases hclash

theorem insert?_eq_some {t t' : Table ρ} {r : ρ} (h : t.insert? r = some t') :
    t'.rows = t.rows ++ [r] := by
  simp only [insert?] at h
  split at h
  · cases h
    rfl
  · cases h

theorem mem_insert? {t t' : Table ρ} {r x : ρ} (h : t.insert? r = some t') :
    x ∈ t' ↔ x ∈ t ∨ x = r := by
  rw [← mem_rows, insert?_eq_some h, List.mem_append, List.mem_singleton]
  exact Iff.rfl

/-- An accepted row clashes with none of the rows already there. -/
theorem insert?_fresh {t t' : Table ρ} {r x : ρ} (h : t.insert? r = some t')
    (hx : x ∈ t) : clash x r = false := by
  have hu := distinct_iff.mp t'.unique
  rw [insert?_eq_some h, List.pairwise_append] at hu
  exact hu.2.2 x hx r (by simp)

/-- A row that clashes with none is accepted. -/
theorem insert?_of_fresh {t : Table ρ} {r : ρ} (h : ∀ x ∈ t, clash x r = false) :
    ∃ t', t.insert? r = some t' := by
  have hu : distinct (t.rows ++ [r]) = true := by
    rw [distinct_iff, List.pairwise_append]
    refine ⟨distinct_iff.mp t.unique, by simp, ?_⟩
    intro x hx y hy
    rw [List.mem_singleton.mp hy]
    exact h x hx
  exact ⟨⟨t.rows ++ [r], hu⟩, by simp [insert?, hu]⟩

/-- The row clashes with none that is stored. -/
def Admits (t : Table ρ) (r : ρ) : Prop := ∀ x ∈ t, clash x r = false

theorem admits_iff {t : Table ρ} {r : ρ} : t.Admits r ↔ ∃ t', t.insert? r = some t' := by
  refine ⟨insert?_of_fresh, ?_⟩
  rintro ⟨t', h⟩ x hx
  exact insert?_fresh h hx

/-- An update of columns outside every index admits the same rows. -/
theorem admits_update {t : Table ρ} {p : ρ → Bool} {f : ρ → ρ}
    (hf : ∀ a b, clash (f a) b = clash a b) {r : ρ} : (t.update p f hf).Admits r ↔ t.Admits r := by
  have hclash : ∀ x, clash (if p x then f x else x) r = clash x r := by
    intro x
    split
    · exact hf x r
    · rfl
  refine List.forall_mem_map.trans ?_
  simp only [hclash]
  exact Iff.rfl

/-- A row is accepted exactly when the table stays distinct. -/
theorem insert?_of_distinct {t : Table ρ} {r : ρ} (h : distinct (t.rows ++ [r]) = true) :
    t.insert? r = some ⟨t.rows ++ [r], h⟩ := dif_pos h

/-- Several rows are accepted exactly when the table stays distinct. -/
theorem insertMany?_iff {t : Table ρ} {rs : List ρ} :
    (∃ t', t.insertMany? rs = some t') ↔ distinct (t.rows ++ rs) = true := by
  induction rs generalizing t with
  | nil =>
      rw [List.append_nil]
      exact ⟨fun _ => t.unique, fun _ => ⟨t, rfl⟩⟩
  | cons r rest ih =>
      have happ : t.rows ++ r :: rest = t.rows ++ [r] ++ rest := by simp
      constructor
      · rintro ⟨t', h⟩
        obtain ⟨t₁, h₁, hrest⟩ := Option.bind_eq_some_iff.mp h
        rw [happ, ← insert?_eq_some h₁]
        exact ih.mp ⟨t', hrest⟩
      · intro hdist
        have hone : distinct (t.rows ++ [r]) = true := by
          rw [happ, distinct_iff, List.pairwise_append] at hdist
          exact distinct_iff.mpr hdist.1
        obtain ⟨t', hrest⟩ := (ih (t := ⟨t.rows ++ [r], hone⟩)).mpr (happ ▸ hdist)
        refine ⟨t', ?_⟩
        rw [insertMany?, insert?_of_distinct hone]
        exact hrest

theorem insertMany?_eq_some {t t' : Table ρ} {rs : List ρ} (h : t.insertMany? rs = some t') :
    t'.rows = t.rows ++ rs := by
  induction rs generalizing t with
  | nil =>
      cases h
      rw [List.append_nil]
  | cons r rest ih =>
      obtain ⟨t₁, h₁, hrest⟩ := Option.bind_eq_some_iff.mp h
      rw [ih hrest, insert?_eq_some h₁, List.append_assoc]
      rfl

theorem update?_eq_some {t t' : Table ρ} {p : ρ → Bool} {f : ρ → ρ}
    (h : t.update? p f = some t') :
    t'.rows = t.rows.map fun r => if p r then f r else r := by
  simp only [update?] at h
  split at h
  · cases h
    rfl
  · cases h

end Table

end Lib
