import StreamingService.Lib.Machine

/-!
# Lib — Journal

A trace read as the journal of its store: `rowsOf` collects what the entries have
inserted, `replayed` applies the entries to a part of the store, the oldest first.
Where each statement acts on that part as its own entry says, the trace of a run
determines it.
-/

namespace Lib

variable {S : Signature} {σ ω Q α τ ρ : Type}

/-! ## Inserted rows -/

/-- The rows that the statements of a trace have inserted, oldest first. -/
def rowsOf (inserted : Prog.Entry S → Option ρ) : List (Event S Q) → List ρ
  | [] => []
  | .began _ _ :: tr => rowsOf inserted tr
  | .did _ e :: tr => rowsOf inserted tr ++ (inserted e).toList

theorem mem_rowsOf {inserted : Prog.Entry S → Option ρ} {tr : List (Event S Q)} {row : ρ} :
    row ∈ rowsOf inserted tr ↔ ∃ tid e, Event.did tid e ∈ tr ∧ inserted e = some row := by
  induction tr with
  | nil => simp [rowsOf]
  | cons ev tr ih =>
      cases ev with
      | began t q => simp [rowsOf, ih]
      | did t e =>
          rw [rowsOf, List.mem_append, ih, Option.mem_toList]
          constructor
          · rintro (⟨tid, e', he', hrow⟩ | hrow)
            · exact ⟨tid, e', List.mem_cons_of_mem _ he', hrow⟩
            · exact ⟨t, e, List.mem_cons_self, hrow⟩
          · rintro ⟨tid, e', he', hrow⟩
            rcases List.mem_cons.mp he' with heq | he'
            · cases heq
              exact .inr hrow
            · exact .inl ⟨tid, e', he', hrow⟩

/-- Rows that are apart come from statements that are not the same. -/
theorem rowsOf_apart {inserted : Prog.Entry S → Option ρ} {R : ρ → ρ → Prop}
    (hsymm : ∀ a b, R a b → R b a) {tr : List (Event S Q)} (h : (rowsOf inserted tr).Pairwise R)
    {t t' : Nat} {e e' : Prog.Entry S} {r r' : ρ} (he : Event.did t e ∈ tr) (he' : Event.did t' e' ∈ tr)
    (hr : inserted e = some r) (hr' : inserted e' = some r') :
    (Event.did t e : Event S Q) = .did t' e' ∨ R r r' := by
  induction tr with
  | nil => cases he
  | cons ev tr ih =>
      cases ev with
      | began t₀ q =>
          refine ih h ?_ ?_
          · exact (List.mem_cons.mp he).resolve_left fun heq => by cases heq
          · exact (List.mem_cons.mp he').resolve_left fun heq => by cases heq
      | did t₀ e₀ =>
          obtain ⟨hrows, -, hnew⟩ := List.pairwise_append.mp h
          have old : ∀ {t e r}, Event.did t e ∈ tr → inserted e = some r → r ∈ rowsOf inserted tr :=
            fun he hr => mem_rowsOf.mpr ⟨_, _, he, hr⟩
          rcases List.mem_cons.mp he with heq | hmem <;>
            rcases List.mem_cons.mp he' with heq' | hmem'
          · exact .inl (heq.trans heq'.symm)
          · cases heq
            exact .inr (hsymm _ _ (hnew _ (old hmem' hr') _ (Option.mem_toList.mpr hr)))
          · cases heq'
            exact .inr (hnew _ (old hmem hr) _ (Option.mem_toList.mpr hr'))
          · exact ih hrows hmem hmem'

/-! ## Replaying a trace -/

section

variable {write : Prog.Entry S → τ → τ}

/-- What the entries of a trace make of `s`. -/
def replayed (write : Prog.Entry S → τ → τ) : List (Event S Q) → τ → τ
  | [], s => s
  | .began _ _ :: tr, s => replayed write tr s
  | .did _ e :: tr, s => write e (replayed write tr s)

/-- What holds at the start holds at the end, unless some entry has cancelled it. -/
theorem replayed_since {P : τ → Prop} {cancels : Prog.Entry S → Prop}
    (h : ∀ e s, P s → P (write e s) ∨ cancels e) {s : τ} (hs : P s) (tr : List (Event S Q)) :
    P (replayed write tr s) ∨ ∃ tid e, Event.did tid e ∈ tr ∧ cancels e := by
  induction tr with
  | nil => exact .inl hs
  | cons ev tr ih =>
      rcases ih with ih | ⟨tid, e, he, hcancels⟩
      · cases ev with
        | began tid q => exact .inl ih
        | did tid e =>
            rcases h e _ ih with hkept | hcancels
            · exact .inl hkept
            · exact .inr ⟨tid, e, List.mem_cons_self, hcancels⟩
      · exact .inr ⟨tid, e, List.mem_cons_of_mem _ he, hcancels⟩

/-- **The journal of a run**: the part of the store that the entries account for is
what the trace makes of it. -/
theorem Machine.Run.journal {m : Machine S σ ω Q α} {ok : Sys S σ Q α → Action ω Q → Prop}
    {a b : Sys S σ Q α} (view : σ → τ)
    (hwrite : ∀ o c s, view (m.exec o c s).2 = write ⟨c, (m.exec o c s).1⟩ (view s))
    (hr : m.Run ok a b) :
    ∃ post, b.trace = post ++ a.trace ∧ view b.store = replayed write post (view a.store) := by
  refine Run.keeps (I := fun s tr => ∃ post, tr = post ++ a.trace ∧
    view s = replayed write post (view a.store)) ?_ ?_ ⟨[], rfl, rfl⟩ hr
  · rintro s _ tid q ⟨post, rfl, h⟩
    exact ⟨.began tid q :: post, rfl, h⟩
  · rintro sys tid o c ⟨post, htr, h⟩ - -
    rw [htr]
    refine ⟨_ :: post, rfl, ?_⟩
    rw [hwrite, h]
    rfl

end

end Lib
