import StreamingService.Lib.Growth

/-!
# Lib — References

Foreign keys. `Refers key id t u` says that every row of `t` names a row of
`u`. Growth of both tables keeps it as long as the new rows of `t` do, since
neither table loses a row or changes the columns that are compared.
-/

namespace Lib.Table

universe u v w

variable {ρ : Type u} {σ : Type v} {κ : Type w} [Indexed ρ] [Indexed σ]
  {key : ρ → κ} {id : σ → κ} {t t' : Table ρ} {u u' : Table σ}

/-- The row with this key is stored. -/
def Holds (id : σ → κ) (u : Table σ) (k : κ) : Prop := ∃ x ∈ u, id x = k

/-- Every row of `t` names a row of `u`. -/
def Refers (key : ρ → κ) (id : σ → κ) (t : Table ρ) (u : Table σ) : Prop :=
  ∀ r ∈ t, u.Holds id (key r)

theorem Holds.grow {S : σ → σ → Prop} {new : List σ} (hS : ∀ x x', S x x' → id x' = id x)
    (hu : Grows S new u u') {k : κ} (h : u.Holds id k) : u'.Holds id k := by
  obtain ⟨x, hx, rfl⟩ := h
  obtain ⟨x', hx', hsame⟩ := hu.mem hx
  exact ⟨x', hx', hS x x' hsame⟩

theorem Refers.empty : Refers key id (Table.empty : Table ρ) u := by
  intro r hr
  cases hr

/-- **Growth keeps foreign keys**, when each new row names a row that is there
already. -/
theorem Refers.grow {R : ρ → ρ → Prop} {S : σ → σ → Prop} {new : List ρ} {new' : List σ}
    (hR : ∀ r r', R r r' → key r' = key r) (hS : ∀ x x', S x x' → id x' = id x)
    (ht : Grows R new t t') (hu : Grows S new' u u') (h : Refers key id t u)
    (hnew : ∀ r ∈ new, u.Holds id (key r)) : Refers key id t' u' := by
  intro r' hr'
  obtain ⟨r, hsame, hr⟩ := ht.origin hr'
  rw [hR r r' hsame]
  rcases hr with hr | hr
  · exact (h r hr).grow hS hu
  · exact (hnew r hr).grow hS hu

end Lib.Table
