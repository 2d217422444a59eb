import StreamingService.Lib.Prog

/-!
# Lib — Reads

Programs that only read. Run alone in an environment that keeps to a
condition, such a program leaves the store as it is, and what it answers
is a function of the store. Two-run properties (the answer does not depend
on a part of the store) are then statements about that function.
-/

namespace Lib

namespace Prog

variable {S : Signature} {σ ω α β : Type}

/-- In every environment that satisfies `E`, the program leaves `s` as it is
and its answer satisfies `Q`. -/
def Reads (exec : Exec S σ ω) (E : ω → Prop) (Q : Except S.Err α → Prop) : Prog S α → σ → Prop
  | done r, _ => Q r
  | call c k, s => ∀ o, E o → (exec o c s).2 = s ∧ Reads exec E Q (k (exec o c s).1) s

namespace Reads

variable {exec : Exec S σ ω} {E : ω → Prop} {Q Q' : Except S.Err α → Prop} {s : σ}

/-- **Soundness.** -/
theorem run {p : Prog S α} (h : Reads exec E Q p s) {os : Nat → ω} (hE : ∀ n, E (os n)) :
    Q (p.run exec os s).1 ∧ p.runStore exec os s = s := by
  induction p generalizing os with
  | done r => exact ⟨h, rfl⟩
  | call c k ih =>
      obtain ⟨hs, hk⟩ := h (os 0) (hE 0)
      obtain ⟨hQ, hrest⟩ := ih _ hk fun n => hE (n + 1)
      refine ⟨?_, ?_⟩
      · rw [run_call, hs]
        exact hQ
      · show (k _).runStore exec _ (exec (os 0) c s).2 = s
        rw [hs]
        exact hrest

/-- A program with one answer answers it, and uses up a first part of the
environment. -/
theorem run_eq {p : Prog S α} {r : Except S.Err α} (h : Reads exec E (· = r) p s)
    {os : Nat → ω} (hE : ∀ n, E (os n)) : ∃ n, p.run exec os s = (r, s, fun m => os (m + n)) := by
  obtain ⟨hr, hs⟩ := h.run hE
  obtain ⟨n, hn⟩ := run_env exec p os s
  exact ⟨n, Prod.ext hr (Prod.ext hs hn)⟩

/-- A statement that answers `v` whatever the environment, and what follows. -/
theorem perform_bind {Q : Except S.Err β → Prop} {c : S.Cmd} {f : S.Resp c → Prog S β}
    {v : S.Resp c} (hv : ∀ o, E o → exec o c s = (.ok v, s)) (hf : Reads exec E Q (f v) s) :
    Reads exec E Q (perform c >>= f) s := by
  intro o ho
  rw [hv o ho]
  exact ⟨rfl, hf⟩

/-- A statement whose answer depends on the environment. -/
theorem perform_bind_of {Q : Except S.Err β → Prop} {c : S.Cmd} {f : S.Resp c → Prog S β}
    {V : S.Resp c → Prop} (hv : ∀ o, E o → ∃ v, exec o c s = (.ok v, s) ∧ V v)
    (hf : ∀ v, V v → Reads exec E Q (f v) s) : Reads exec E Q (perform c >>= f) s := by
  intro o ho
  obtain ⟨v, hex, hV⟩ := hv o ho
  rw [hex]
  exact ⟨rfl, hf v hV⟩

/-- A statement that answers `v` or fails, and what follows. -/
theorem perform_bind_or {Q : Except S.Err β → Prop} {c : S.Cmd} {f : S.Resp c → Prog S β}
    {v : S.Resp c} (hv : ∀ o, E o → exec o c s = (.ok v, s) ∨ ∃ e, exec o c s = (.error e, s))
    (hf : Reads exec E Q (f v) s) (herr : ∀ e, Q (.error e)) :
    Reads exec E Q (perform c >>= f) s := by
  intro o ho
  rcases hv o ho with hex | ⟨e, hex⟩
  · rw [hex]
    exact ⟨rfl, hf⟩
  · rw [hex]
    exact ⟨rfl, herr e⟩

theorem ite {P : Prop} [Decidable P] {p q : Prog S α} (hp : P → Reads exec E Q p s)
    (hq : ¬ P → Reads exec E Q q s) : Reads exec E Q (if P then p else q) s := by
  by_cases h : P
  · rw [if_pos h]
    exact hp h
  · rw [if_neg h]
    exact hq h

theorem mono {p : Prog S α} (hQ : ∀ r, Q r → Q' r) (h : Reads exec E Q p s) :
    Reads exec E Q' p s := by
  induction p with
  | done r => exact hQ r h
  | call c k ih => exact fun o ho => ⟨(h o ho).1, ih _ (h o ho).2⟩

/-- The rule of sequencing. -/
theorem bind {Q₂ : Except S.Err β → Prop} {p : Prog S α} {f : α → Prog S β}
    (hp : Reads exec E Q p s) (hok : ∀ a, Q (.ok a) → Reads exec E Q₂ (f a) s)
    (herr : ∀ e, Q (.error e) → Q₂ (.error e)) : Reads exec E Q₂ (p >>= f) s := by
  induction p with
  | done r =>
      cases r with
      | ok a => exact hok a hp
      | error e => exact herr e hp
  | call c k ih => exact fun o ho => ⟨(hp o ho).1, ih _ (hp o ho).2⟩

/-- A program with one answer, and what follows it. -/
theorem bind_eq {Q₂ : Except S.Err β → Prop} {p : Prog S α} {f : α → Prog S β}
    {r : Except S.Err α} (hp : Reads exec E (· = r) p s)
    (hok : ∀ a, r = .ok a → Reads exec E Q₂ (f a) s) (herr : ∀ e, r = .error e → Q₂ (.error e)) :
    Reads exec E Q₂ (p >>= f) s :=
  bind hp (fun a h => hok a h.symm) fun e h => herr e h.symm

/-- A program with one answer, and a value made from it. -/
theorem map_eq {p : Prog S α} {r : Except S.Err α} (h : Reads exec E (· = r) p s) (f : α → β) :
    Reads exec E (· = r.map f) (p >>= fun a => pure (f a)) s := by
  refine h.bind_eq ?_ ?_
  · intro a ha
    subst ha
    rfl
  · intro e he
    subst he
    rfl

end Reads

end Prog

end Lib
