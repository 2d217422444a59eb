import StreamingService.Lib.Raises

/-!
# Lib — Refusal

Programs that check before they act. Some of the errors a program can end
with are refusals; a refusal is the program's own, no statement throws one.
A program keeps the discipline when it refuses only on grounds its history
shows, and only while it has done nothing but look: after any other
statement it refuses no more.
-/

namespace Lib

namespace Prog

/-- What is a refusal, which statements only look, and which answers a program
may be given. -/
structure Discipline (S : Signature) where
  answers : Entry S → Prop
  refuses : S.Err → Prop
  looks : S.Cmd → Prop
  /-- A statement that fails refuses nothing. -/
  own : ∀ c e, answers ⟨c, .error e⟩ → ¬ refuses e

variable {S : Signature} {α β : Type}

/-- The program does not refuse. -/
abbrev Quiet (D : Discipline S) (p : Prog S α) : Prop := p.Raises D.answers fun e => ¬ D.refuses e

/-- The program only looks; its refusals have the grounds `E` and its answers
satisfy `Q`, against the history at its end. -/
def Looks (D : Discipline S) (E : List (Entry S) → S.Err → Prop)
    (Q : α → List (Entry S) → Prop) : Prog S α → List (Entry S) → Prop
  | done (.ok a), h => Q a h
  | done (.error e), h => D.refuses e → E h e
  | call c k, h => D.looks c ∧ ∀ r, D.answers ⟨c, r⟩ → (k r).Looks D E Q (⟨c, r⟩ :: h)

/-- The program looks, and refuses on the grounds `E` or goes on to act; from its
first other statement it is quiet. -/
def Checks (D : Discipline S) (E : List (Entry S) → S.Err → Prop) :
    Prog S α → List (Entry S) → Prop
  | done r, h => ∀ e, r = .error e → D.refuses e → E h e
  | call c k, h => ∀ r, D.answers ⟨c, r⟩ →
      (D.looks c ∧ (k r).Checks D E (⟨c, r⟩ :: h)) ∨ (k r).Quiet D

section

variable {D : Discipline S} {E E' : List (Entry S) → S.Err → Prop} {h : List (Entry S)}

theorem Quiet.perform (c : S.Cmd) : (Prog.perform c).Quiet D := Raises.perform D.own c

theorem Quiet.perform_bind {c : S.Cmd} {f : S.Resp c → Prog S β} (hf : ∀ a, (f a).Quiet D) :
    (Prog.perform c >>= f).Quiet D :=
  Raises.perform_bind D.own fun a _ => hf a

namespace Looks

variable {Q Q' : α → List (Entry S) → Prop} {Q₂ : β → List (Entry S) → Prop}

theorem perform {c : S.Cmd} {Q : S.Resp c → List (Entry S) → Prop} (hc : D.looks c)
    (hQ : ∀ a, Q a (⟨c, .ok a⟩ :: h)) : (Prog.perform c).Looks D E Q h := by
  refine ⟨hc, ?_⟩
  intro r hr
  cases r with
  | ok a => exact hQ a
  | error e => exact fun he => absurd he (D.own c e hr)

theorem perform_bind {c : S.Cmd} {f : S.Resp c → Prog S β} (hc : D.looks c)
    (hf : ∀ a, (f a).Looks D E Q₂ (⟨c, .ok a⟩ :: h)) : (Prog.perform c >>= f).Looks D E Q₂ h := by
  refine ⟨hc, ?_⟩
  intro r hr
  cases r with
  | ok a => exact hf a
  | error e => exact fun he => absurd he (D.own c e hr)

theorem ite {P : Prop} [Decidable P] {p q : Prog S α} (hp : P → p.Looks D E Q h)
    (hq : ¬ P → q.Looks D E Q h) : (if P then p else q).Looks D E Q h := by
  by_cases hP : P
  · rw [if_pos hP]
    exact hp hP
  · rw [if_neg hP]
    exact hq hP

theorem bind {p : Prog S α} {f : α → Prog S β} (hp : p.Looks D E Q h)
    (hf : ∀ a h', Q a h' → (f a).Looks D E Q₂ h') : (p >>= f).Looks D E Q₂ h := by
  induction p generalizing h with
  | done r =>
      cases r with
      | ok a => exact hf a h hp
      | error e => exact hp
  | call c k ih => exact ⟨hp.1, fun r hr => ih r (hp.2 r hr)⟩

/-- What was seen stays seen. -/
theorem mono {p : Prog S α} (hQ : ∀ a h', (∀ e ∈ h, e ∈ h') → Q a h' → Q' a h')
    (hp : p.Looks D E Q h) : p.Looks D E Q' h := by
  induction p generalizing h with
  | done r =>
      cases r with
      | ok a => exact hQ a h (fun _ he => he) hp
      | error e => exact hp
  | call c k ih =>
      refine ⟨hp.1, fun r hr => ih r ?_ (hp.2 r hr)⟩
      exact fun a h' hsub => hQ a h' fun e he => hsub e (List.mem_cons_of_mem _ he)

end Looks

namespace Checks

theorem ok (a : α) : (done (.ok a) : Prog S α).Checks D E h := by
  intro e he
  cases he

theorem error {e : S.Err} (he : E h e) : (done (.error e) : Prog S α).Checks D E h := by
  intro e' he' _
  cases he'
  exact he

theorem quiet {p : Prog S α} (hp : p.Quiet D) : p.Checks D E h := by
  cases p with
  | done r => exact fun e he href => absurd href (hp e he)
  | call c k => exact fun r hr => .inr (hp r hr)

theorem ite {P : Prop} [Decidable P] {p q : Prog S α} (hp : P → p.Checks D E h)
    (hq : ¬ P → q.Checks D E h) : (if P then p else q).Checks D E h := by
  by_cases hP : P
  · rw [if_pos hP]
    exact hp hP
  · rw [if_neg hP]
    exact hq hP

/-- A look, and what follows its answer. -/
theorem look {c : S.Cmd} {f : S.Resp c → Prog S β} (hc : D.looks c)
    (hf : ∀ a, (f a).Checks D E (⟨c, .ok a⟩ :: h)) : (Prog.perform c >>= f).Checks D E h := by
  intro r hr
  refine .inl ⟨hc, ?_⟩
  cases r with
  | ok a => exact hf a
  | error e =>
      intro e' he' href
      cases he'
      exact absurd href (D.own c e hr)

/-- Looks, and what follows what they found. -/
theorem looks {Q : α → List (Entry S) → Prop} {p : Prog S α} {f : α → Prog S β}
    (hp : p.Looks D E Q h) (hf : ∀ a h', Q a h' → (f a).Checks D E h') :
    (p >>= f).Checks D E h := by
  induction p generalizing h with
  | done r =>
      cases r with
      | ok a => exact hf a h hp
      | error e =>
          intro e' he' href
          cases he'
          exact hp href
  | call c k ih => exact fun r hr => .inl ⟨hp.1, ih r (hp.2 r hr)⟩

/-- The rest of a program that has checked. -/
theorem bind {p : Prog S α} {f : α → Prog S β} (hp : p.Checks D E h)
    (hf : ∀ a, (f a).Quiet D) : (p >>= f).Checks D E h := by
  induction p generalizing h with
  | done r =>
      cases r with
      | ok a => exact quiet (hf a)
      | error e =>
          intro e' he' href
          cases he'
          exact hp e rfl href
  | call c k ih =>
      intro r hr
      rcases hp r hr with ⟨hc, hk⟩ | hk
      · exact .inl ⟨hc, ih r hk⟩
      · exact .inr (.bind hk hf)

/-- **The end of a program, in any interference**: when its whole history keeps to
the answers expected, a refusal has its grounds, and nothing but looks came
before it. -/
theorem emits {p : Prog S α} (hp : p.Checks D E h) (hh : ∀ e ∈ h, D.looks e.1) :
    p.Emits (fun _ _ => True) (fun r h' => (∀ e ∈ h', D.answers e) →
      ∀ e, r = .error e → D.refuses e → E h' e ∧ ∀ x ∈ h', D.looks x.1) h := by
  induction p generalizing h with
  | done r => exact fun _ e he href => ⟨hp e he href, hh⟩
  | call c k ih =>
      intro r
      refine ⟨trivial, ?_⟩
      by_cases hr : D.answers ⟨c, r⟩
      · rcases hp r hr with ⟨hc, hk⟩ | hk
        · refine ih r hk ?_
          intro e he
          rcases List.mem_cons.mp he with rfl | he
          · exact hc
          · exact hh e he
        · -- from here on the program is quiet
          refine (hk.emits _).mono (fun _ _ _ => trivial) ?_
          exact fun _ _ hquiet hall e he href => absurd href (hquiet hall e he)
      · -- the history already has an answer that was not expected
        refine .mono (fun _ _ _ => trivial) ?_ (Emits.always (k r) (⟨c, r⟩ :: h)).grows
        exact fun _ _ hgrown hall => absurd (hall _ (hgrown.2 _ List.mem_cons_self)) hr

end Checks

end

end Prog

end Lib
