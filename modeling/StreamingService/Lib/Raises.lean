import StreamingService.Lib.Prog

/-!
# Lib — Raises

The errors a program can end with, as long as its statements answer as `G`
says. What a statement throws is an `E` by `G`; what the program throws of
its own is read off its text.
-/

namespace Lib

namespace Prog

variable {S : Signature} {α β : Type}

/-- When every answer keeps to `G`, an error the program ends with is an `E`. -/
def Raises (G : Entry S → Prop) (E : S.Err → Prop) : Prog S α → Prop
  | done r => ∀ e, r = .error e → E e
  | call c k => ∀ r, G ⟨c, r⟩ → (k r).Raises G E

namespace Raises

variable {G : Entry S → Prop} {E : S.Err → Prop}

theorem ok (a : α) : (done (.ok a) : Prog S α).Raises G E := by
  intro e h
  cases h

theorem error {e : S.Err} (he : E e) : (done (.error e) : Prog S α).Raises G E := by
  intro e' h
  cases h
  exact he

theorem ite {P : Prop} [Decidable P] {p q : Prog S α} (hp : P → p.Raises G E)
    (hq : ¬ P → q.Raises G E) : (if P then p else q).Raises G E := by
  by_cases h : P
  · rw [if_pos h]
    exact hp h
  · rw [if_neg h]
    exact hq h

theorem bind {p : Prog S α} {f : α → Prog S β} (hp : p.Raises G E)
    (hf : ∀ a, (f a).Raises G E) : (p >>= f).Raises G E := by
  induction p with
  | done r =>
      cases r with
      | ok a => exact hf a
      | error e => exact .error (hp e rfl)
  | call c k ih => exact fun r hr => ih r (hp r hr)

theorem catchErr {p : Prog S α} {h : S.Err → Prog S α} (hp : p.Raises G E)
    (hh : ∀ e, E e → (h e).Raises G E) : (tryCatch p h : Prog S α).Raises G E := by
  induction p with
  | done r =>
      cases r with
      | ok a => exact .ok a
      | error e => exact hh e (hp e rfl)
  | call c k ih => exact fun r hr => ih r (hp r hr)

theorem ofExcept {r : Except S.Err α} (h : ∀ e, r = .error e → E e) :
    (ofExcept r : Prog S α).Raises G E := h

section

variable (hG : ∀ c e, G ⟨c, .error e⟩ → E e)
include hG

theorem perform (c : S.Cmd) : (perform c).Raises G E := by
  intro r hr e he
  subst he
  exact hG c e hr

/-- A statement and what follows its answer. -/
theorem perform_bind {c : S.Cmd} {f : S.Resp c → Prog S β}
    (hf : ∀ a, G ⟨c, .ok a⟩ → (f a).Raises G E) : (Prog.perform c >>= f).Raises G E := by
  intro r hr
  cases r with
  | ok a => exact hf a hr
  | error e => exact .error (hG c e hr)

end

/-- **The end of a program, in any interference**: when its whole history
keeps to `G`, its error is an `E`. -/
theorem emits {p : Prog S α} (hp : p.Raises G E) (h : List (Entry S)) :
    p.Emits (fun _ _ => True)
      (fun r h' => (∀ e ∈ h', G e) → ∀ e, r = .error e → E e) h := by
  induction p generalizing h with
  | done r => exact fun _ => hp
  | call c k ih =>
      intro r
      refine ⟨trivial, ?_⟩
      by_cases hr : G ⟨c, r⟩
      · exact ih r (hp r hr) _
      · -- the history already has an answer outside `G`
        refine .mono (fun _ _ _ => trivial) ?_ (Emits.always (k r) (⟨c, r⟩ :: h)).grows
        exact fun _ _ hgrown hall => absurd (hall _ (hgrown.2 _ List.mem_cons_self)) hr

end Raises

end Prog

end Lib
