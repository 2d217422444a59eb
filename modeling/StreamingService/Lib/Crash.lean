import StreamingService.Lib.Prog

/-!
# Lib — Crash

A Hoare logic for a program that runs alone, with a crash condition: what
every store on its way satisfies, and so what a crash between any two
statements leaves behind. The environment may be assumed to keep to a
condition `G` on each statement and its answer.
-/

namespace Lib

namespace Prog

variable {S : Signature} {σ ω α β : Type}

/-! ## Environments that keep to a condition -/

/-- Every statement of the run keeps to `G`. -/
def Along (exec : Exec S σ ω) (G : ω → Entry S → Prop) : Prog S α → (Nat → ω) → σ → Prop
  | done _, _, _ => True
  | call c k, os, s =>
      G (os 0) ⟨c, (exec (os 0) c s).1⟩ ∧
        Along exec G (k (exec (os 0) c s).1) (fun n => os (n + 1)) (exec (os 0) c s).2

/-- The first `n` statements of the run keep to `G`. -/
def AlongFor (exec : Exec S σ ω) (G : ω → Entry S → Prop) :
    Nat → Prog S α → (Nat → ω) → σ → Prop
  | 0, _, _, _ => True
  | _ + 1, done _, _, _ => True
  | n + 1, call c k, os, s =>
      G (os 0) ⟨c, (exec (os 0) c s).1⟩ ∧
        AlongFor exec G n (k (exec (os 0) c s).1) (fun n => os (n + 1)) (exec (os 0) c s).2

section

variable {exec : Exec S σ ω} {G : ω → Entry S → Prop}

instance Along.instDecidable [∀ o e, Decidable (G o e)] :
    (p : Prog S α) → (os : Nat → ω) → (s : σ) → Decidable (Along exec G p os s)
  | done _, _, _ => isTrue trivial
  | call c k, os, s =>
      have : Decidable (Along exec G (k (exec (os 0) c s).1) (fun n => os (n + 1))
          (exec (os 0) c s).2) := Along.instDecidable _ _ _
      inferInstanceAs (Decidable (_ ∧ _))

theorem Along.first {p : Prog S α} {os : Nat → ω} {s : σ} (h : Along exec G p os s) (n : Nat) :
    AlongFor exec G n p os s := by
  induction p generalizing n os s with
  | done r => cases n <;> trivial
  | call c k ih =>
      cases n with
      | zero => trivial
      | succ n => exact ⟨h.1, ih _ h.2 n⟩

theorem Along.mono {G' : ω → Entry S → Prop} (hG : ∀ o e, G o e → G' o e) {p : Prog S α}
    {os : Nat → ω} {s : σ} (h : Along exec G p os s) : Along exec G' p os s := by
  induction p generalizing os s with
  | done r => trivial
  | call c k ih => exact ⟨hG _ _ h.1, ih _ h.2⟩

/-- What every part of the environment satisfies joins the condition. -/
theorem Along.and {B : ω → Prop} {p : Prog S α} {os : Nat → ω} {s : σ} (h : Along exec G p os s)
    (hB : ∀ n, B (os n)) : Along exec (fun o e => G o e ∧ B o) p os s := by
  induction p generalizing os s with
  | done r => trivial
  | call c k ih => exact ⟨⟨h.1, hB 0⟩, ih _ h.2 fun n => hB (n + 1)⟩

theorem AlongFor.and {B : ω → Prop} {n : Nat} {p : Prog S α} {os : Nat → ω} {s : σ}
    (h : AlongFor exec G n p os s) (hB : ∀ n, B (os n)) :
    AlongFor exec (fun o e => G o e ∧ B o) n p os s := by
  induction p generalizing n os s with
  | done r => cases n <;> trivial
  | call c k ih =>
      cases n with
      | zero => trivial
      | succ n => exact ⟨⟨h.1, hB 0⟩, ih _ h.2 fun n => hB (n + 1)⟩

theorem along_true (p : Prog S α) (os : Nat → ω) (s : σ) :
    Along exec (fun _ _ => True) p os s := by
  induction p generalizing os s with
  | done r => trivial
  | call c k ih => exact ⟨trivial, ih _ _ _⟩

end

/-! ## A monitor beside the store -/

section

variable {γ : Type} {exec : Exec S σ ω} {upd : γ → σ → Entry S → γ}

/-- The same statements, with a monitor that sees each of them, its answer and
the store it met. -/
def watch (exec : Exec S σ ω) (upd : γ → σ → Entry S → γ) : Exec S (σ × γ) ω := fun o c sg =>
  ((exec o c sg.1).1, (exec o c sg.1).2, upd sg.2 sg.1 ⟨c, (exec o c sg.1).1⟩)

theorem watch_exec {γ : Type} {exec : Exec S σ ω} {upd : γ → σ → Entry S → γ} {o : ω} {c : S.Cmd}
    {sg sg' : σ × γ} {r : Except S.Err (S.Resp c)} (h : watch exec upd o c sg = (r, sg')) :
    exec o c sg.1 = (r, sg'.1) := by
  cases h
  rfl

/-- A monitor changes nothing about what it watches. -/
theorem watch_store (p : Prog S α) (os : Nat → ω) (s : σ) (g : γ) :
    (p.runStore (watch exec upd) os (s, g)).1 = p.runStore exec os s := by
  induction p generalizing os s g with
  | done r => rfl
  | call c k ih => exact ih _ _ _ _

end

/-! ## What a run performs -/

section

variable {exec : Exec S σ ω}

/-- The statements of the run and their answers, first to last. -/
def history (exec : Exec S σ ω) : Prog S α → (Nat → ω) → σ → List (Entry S)
  | done _, _, _ => []
  | call c k, os, s =>
      ⟨c, (exec (os 0) c s).1⟩ ::
        history exec (k (exec (os 0) c s).1) (fun n => os (n + 1)) (exec (os 0) c s).2

/-- The same statements, noting what has been performed. -/
abbrev noting (exec : Exec S σ ω) : Exec S (σ × List (Entry S)) ω :=
  watch exec fun h _ e => h ++ [e]

theorem noting_run (p : Prog S α) (os : Nat → ω) (s : σ) (h : List (Entry S)) :
    (p.run (noting exec) os (s, h)).1 = (p.run exec os s).1 ∧
      p.runStore (noting exec) os (s, h) = (p.runStore exec os s, h ++ p.history exec os s) := by
  induction p generalizing os s h with
  | done r => exact ⟨rfl, by simp [runStore, history]⟩
  | call c k ih =>
      obtain ⟨hres, hstore⟩ := ih (exec (os 0) c s).1 (fun n => os (n + 1)) (exec (os 0) c s).2
        (h ++ [⟨c, (exec (os 0) c s).1⟩])
      refine ⟨hres, ?_⟩
      rw [history, List.append_cons]
      exact hstore

theorem Along.noting {G : ω → Entry S → Prop} {p : Prog S α} {os : Nat → ω} {s : σ}
    (hG : Along exec G p os s) (h : List (Entry S)) :
    Along (Prog.noting exec) G p os (s, h) := by
  induction p generalizing os s h with
  | done r => trivial
  | call c k ih => exact ⟨hG.1, ih _ hG.2 _⟩

end

/-! ## The logic -/

/-- From `s`, in every environment that keeps to `G`, every store on the way
satisfies the crash condition `C`, and the end satisfies `Q`. -/
def Safe (exec : Exec S σ ω) (G : ω → Entry S → Prop) (C : σ → Prop)
    (Q : Except S.Err α → σ → Prop) : Prog S α → σ → Prop
  | done r, s => C s ∧ Q r s
  | call c k, s => C s ∧ ∀ o, G o ⟨c, (exec o c s).1⟩ →
      Safe exec G C Q (k (exec o c s).1) (exec o c s).2

namespace Safe

variable {exec : Exec S σ ω} {G : ω → Entry S → Prop} {C : σ → Prop}
  {Q : Except S.Err α → σ → Prop} {s : σ}

/-- **Soundness**: the end of a run. -/
theorem run {p : Prog S α} (h : Safe exec G C Q p s) {os : Nat → ω} (hG : Along exec G p os s) :
    Q (p.run exec os s).1 (p.runStore exec os s) := by
  induction p generalizing os s with
  | done r => exact h.2
  | call c k ih => exact ih _ (h.2 _ hG.1) hG.2

/-- **Soundness**: a crash after `n` statements. -/
theorem crash {p : Prog S α} (h : Safe exec G C Q p s) {n : Nat} {os : Nat → ω}
    (hG : AlongFor exec G n p os s) : C (p.crash exec n os s) := by
  induction p generalizing n os s with
  | done r => cases n <;> exact h.1
  | call c k ih =>
      cases n with
      | zero => exact h.1
      | succ n => exact ih _ (h.2 _ hG.1) hG.2

/-- A statement and what follows it, by how the statement ends. -/
theorem perform_bind {Q₂ : Except S.Err β → σ → Prop} {c : S.Cmd} {f : S.Resp c → Prog S β}
    (hs : C s)
    (hok : ∀ o a s', G o ⟨c, .ok a⟩ → exec o c s = (.ok a, s') → Safe exec G C Q₂ (f a) s')
    (herr : ∀ o e s', G o ⟨c, .error e⟩ → exec o c s = (.error e, s') → C s' ∧ Q₂ (.error e) s') :
    Safe exec G C Q₂ (perform c >>= f) s := by
  refine ⟨hs, ?_⟩
  intro o hG
  cases hex : exec o c s with
  | mk r s' =>
      rw [hex] at hG
      cases r with
      | ok a => exact hok o a s' hG hex
      | error e => exact herr o e s' hG hex

theorem perform {c : S.Cmd} {Q : Except S.Err (S.Resp c) → σ → Prop} (hs : C s)
    (h : ∀ o r s', G o ⟨c, r⟩ → exec o c s = (r, s') → C s' ∧ Q r s') :
    Safe exec G C Q (Prog.perform c) s :=
  ⟨hs, fun o hG => h o _ _ hG rfl⟩

theorem ofExcept_bind {Q₂ : Except S.Err β → σ → Prop} {r : Except S.Err α} {f : α → Prog S β}
    (hs : C s) (hok : ∀ a, r = .ok a → Safe exec G C Q₂ (f a) s)
    (herr : ∀ e, r = .error e → Q₂ (.error e) s) : Safe exec G C Q₂ (ofExcept r >>= f) s := by
  cases r with
  | ok a => exact hok a rfl
  | error e => exact ⟨hs, herr e rfl⟩

theorem ite {B : Prop} [Decidable B] {p q : Prog S α} (hp : B → Safe exec G C Q p s)
    (hq : ¬ B → Safe exec G C Q q s) : Safe exec G C Q (if B then p else q) s := by
  by_cases hb : B
  · rw [if_pos hb]
    exact hp hb
  · rw [if_neg hb]
    exact hq hb

theorem mono {C' : σ → Prop} {Q' : Except S.Err α → σ → Prop} {p : Prog S α}
    (hC : ∀ s, C s → C' s) (hQ : ∀ r s, Q r s → Q' r s) (h : Safe exec G C Q p s) :
    Safe exec G C' Q' p s := by
  induction p generalizing s with
  | done r => exact ⟨hC _ h.1, hQ _ _ h.2⟩
  | call c k ih => exact ⟨hC _ h.1, fun o hG => ih _ (h.2 o hG)⟩

/-- The rule of sequencing. -/
theorem bind {Q₂ : Except S.Err β → σ → Prop} {p : Prog S α} {f : α → Prog S β}
    (hp : Safe exec G C Q p s) (hok : ∀ a s', Q (.ok a) s' → Safe exec G C Q₂ (f a) s')
    (herr : ∀ e s', Q (.error e) s' → Q₂ (.error e) s') : Safe exec G C Q₂ (p >>= f) s := by
  induction p generalizing s with
  | done r =>
      cases r with
      | ok a => exact hok a s hp.2
      | error e => exact ⟨hp.1, herr e s hp.2⟩
  | call c k ih => exact ⟨hp.1, fun o hG => ih _ (hp.2 o hG)⟩

/-- The rule of exceptions. -/
theorem catchErr {Q' : Except S.Err α → σ → Prop} {p : Prog S α} {f : S.Err → Prog S α}
    (hp : Safe exec G C Q p s) (hok : ∀ a s', Q (.ok a) s' → Q' (.ok a) s')
    (herr : ∀ e s', Q (.error e) s' → Safe exec G C Q' (f e) s') :
    Safe exec G C Q' (tryCatch p f : Prog S α) s := by
  induction p generalizing s with
  | done r =>
      cases r with
      | ok a => exact ⟨hp.1, hok a s hp.2⟩
      | error e => exact herr e s hp.2
  | call c k ih => exact ⟨hp.1, fun o hG => ih _ (hp.2 o hG)⟩

/-- **Soundness**: the end of a run, with what it has performed. -/
theorem history {C : σ × List (Entry S) → Prop}
    {Q : Except S.Err α → σ × List (Entry S) → Prop} {p : Prog S α}
    (h : Safe (noting exec) G C Q p (s, [])) {os : Nat → ω} (hG : Along exec G p os s) :
    Q (p.run exec os s).1 (p.runStore exec os s, p.history exec os s) := by
  have hend := h.run (hG.noting [])
  obtain ⟨hres, hstore⟩ : (p.run (noting exec) os (s, [])).1 = (p.run exec os s).1 ∧ _ :=
    noting_run p os s []
  rw [hres, hstore] at hend
  exact hend

/-- A statement and what follows it, noting the statement. -/
theorem noting_bind {Q₂ : Except S.Err β → σ × List (Entry S) → Prop} {c : S.Cmd}
    {f : S.Resp c → Prog S β} {h : List (Entry S)}
    (hok : ∀ o a s', G o ⟨c, .ok a⟩ → exec o c s = (.ok a, s') →
      Safe (noting exec) G (fun _ => True) Q₂ (f a) (s', h ++ [⟨c, .ok a⟩]))
    (herr : ∀ o e s', G o ⟨c, .error e⟩ → exec o c s = (.error e, s') →
      Q₂ (.error e) (s', h ++ [⟨c, .error e⟩])) :
    Safe (noting exec) G (fun _ => True) Q₂ (Prog.perform c >>= f) (s, h) := by
  have hnoted : ∀ o r sh, noting exec o c (s, h) = (r, sh) →
      exec o c s = (r, sh.1) ∧ sh = (sh.1, h ++ [⟨c, r⟩]) := by
    rintro o r sh hex
    cases hex
    exact ⟨rfl, rfl⟩
  refine perform_bind trivial ?_ ?_
  · intro o a sh hG hex
    obtain ⟨hex', hsh⟩ := hnoted o _ sh hex
    rw [hsh]
    exact hok o a sh.1 hG hex'
  · intro o e sh hG hex
    obtain ⟨hex', hsh⟩ := hnoted o _ sh hex
    rw [hsh]
    exact ⟨trivial, herr o e sh.1 hG hex'⟩

/-- A last statement, noted. -/
theorem noting_perform {c : S.Cmd} {Q : Except S.Err (S.Resp c) → σ × List (Entry S) → Prop}
    {h : List (Entry S)}
    (hQ : ∀ o r s', G o ⟨c, r⟩ → exec o c s = (r, s') → Q r (s', h ++ [⟨c, r⟩])) :
    Safe (noting exec) G (fun _ => True) Q (Prog.perform c) (s, h) :=
  perform trivial fun o r sh hG hex => by
    cases hex
    exact ⟨trivial, hQ o _ _ hG rfl⟩

/-- **The invariant rule**: what every statement of the program keeps holds
all along. -/
theorem invariant {A : S.Cmd → Prop} {p : Prog S α} (hp : p.Calls A)
    (hI : ∀ o c s, A c → G o ⟨c, (exec o c s).1⟩ → C s → C (exec o c s).2) (hs : C s) :
    Safe exec G C (fun _ => C) p s := by
  induction p generalizing s with
  | done r => exact ⟨hs, hs⟩
  | call c k ih => exact ⟨hs, fun o hG => ih _ (hp.2 _) (hI o c s hp.1 hG hs)⟩

end Safe

end Prog

end Lib
