import Mathlib.Init

/-!
# Lib — Prog

Programs over atomic statements. A program either is done (with an
answer or a thrown error) or performs one statement and goes on with
whatever it answers; nothing but a statement reads or changes the shared
store, so the points where two programs can overlap are exactly the
`call`s. One program text therefore serves every execution model: alone
from start to end (`run`), alone up to a crash (`crash`), or interleaved
with any number of others (`Lib.Machine`).

Two program logics are used on top. `Calls` bounds the statements a
program can perform. `Emits` is the logic of a program's own history: it
relates every statement to the ones the same program performed before,
for all answers the statements may give, and so holds under any
interference.
-/

namespace Lib

/-- The atomic statements a program may perform, what each answers, and
what can be thrown. -/
structure Signature where
  Cmd : Type
  Resp : Cmd → Type
  Err : Type

/-- A program: done, or one statement and a continuation on its answer. -/
inductive Prog (S : Signature) (α : Type) : Type where
  | done (r : Except S.Err α)
  | call (c : S.Cmd) (k : Except S.Err (S.Resp c) → Prog S α)

namespace Prog

variable {S : Signature} {α β : Type}

/-! ## Sequencing and exceptions -/

def bind : Prog S α → (α → Prog S β) → Prog S β
  | done (.ok a), f => f a
  | done (.error e), _ => done (.error e)
  | call c k, f => call c fun r => (k r).bind f

/-- `try { p } catch (err) { h err }`. -/
def catchErr : Prog S α → (S.Err → Prog S α) → Prog S α
  | done (.ok a), _ => done (.ok a)
  | done (.error e), h => h e
  | call c k, h => call c fun r => (k r).catchErr h

/-- One statement; what it throws, the program throws. -/
def perform (c : S.Cmd) : Prog S (S.Resp c) := call c done

/-- A value computed without any statement, or the error it threw. -/
def ofExcept (r : Except S.Err α) : Prog S α := done r

instance : Monad (Prog S) where
  pure a := done (.ok a)
  bind := bind

instance : MonadExceptOf S.Err (Prog S) where
  throw e := done (.error e)
  tryCatch := catchErr

@[simp] theorem pure_eq (a : α) : (pure a : Prog S α) = done (.ok a) := rfl

@[simp] theorem throw_eq (e : S.Err) : (throw e : Prog S α) = done (.error e) := rfl

@[simp] theorem done_ok_bind (a : α) (f : α → Prog S β) :
    (done (.ok a) >>= f) = f a := rfl

@[simp] theorem done_error_bind (e : S.Err) (f : α → Prog S β) :
    ((done (.error e) : Prog S α) >>= f) = done (.error e) := rfl

@[simp] theorem call_bind (c : S.Cmd) (k : Except S.Err (S.Resp c) → Prog S α)
    (f : α → Prog S β) : (call c k >>= f) = call c fun r => k r >>= f := rfl

@[simp] theorem done_ok_catch (a : α) (h : S.Err → Prog S α) :
    (tryCatch (done (.ok a)) h : Prog S α) = done (.ok a) := rfl

@[simp] theorem done_error_catch (e : S.Err) (h : S.Err → Prog S α) :
    (tryCatch (done (.error e)) h : Prog S α) = h e := rfl

@[simp] theorem call_catch (c : S.Cmd) (k : Except S.Err (S.Resp c) → Prog S α)
    (h : S.Err → Prog S α) :
    (tryCatch (call c k) h : Prog S α) = call c fun r => tryCatch (k r) h := rfl

/-! ## Running alone -/

/-- What a statement does to the store, given what the environment
supplies for it (the clock, generated values, answers from outside). -/
abbrev Exec (S : Signature) (σ ω : Type) : Type :=
  ω → (c : S.Cmd) → σ → Except S.Err (S.Resp c) × σ

variable {σ ω : Type}

/-- The program alone from start to end: its answer, the store it leaves
and the part of the environment it did not use. -/
def run (exec : Exec S σ ω) : Prog S α → (Nat → ω) → σ →
    Except S.Err α × σ × (Nat → ω)
  | done r, os, s => (r, s, os)
  | call c k, os, s =>
      (k (exec (os 0) c s).1).run exec (fun n => os (n + 1)) (exec (os 0) c s).2

@[simp] theorem run_done (exec : Exec S σ ω) (r : Except S.Err α) (os : Nat → ω)
    (s : σ) : (done r).run exec os s = (r, s, os) := rfl

@[simp] theorem run_call (exec : Exec S σ ω) (c : S.Cmd)
    (k : Except S.Err (S.Resp c) → Prog S α) (os : Nat → ω) (s : σ) :
    (call c k).run exec os s =
      (k (exec (os 0) c s).1).run exec (fun n => os (n + 1)) (exec (os 0) c s).2 := rfl

/-- A run that answers has answered its first statement. -/
theorem run_perform_bind {exec : Exec S σ ω} {c : S.Cmd} {f : S.Resp c → Prog S β}
    {os : Nat → ω} {s : σ} {b : β} (h : ((perform c >>= f).run exec os s).1 = .ok b) :
    ∃ a, (exec (os 0) c s).1 = .ok a ∧
      ((f a).run exec (fun n => os (n + 1)) (exec (os 0) c s).2).1 = .ok b := by
  simp only [perform, call_bind, run_call] at h
  cases hr : (exec (os 0) c s).1 with
  | ok a =>
      rw [hr] at h
      exact ⟨a, rfl, h⟩
  | error e =>
      rw [hr] at h
      cases h

theorem run_perform {exec : Exec S σ ω} {c : S.Cmd} {os : Nat → ω} {s s' : σ}
    {r : Except S.Err (S.Resp c)} (h : exec (os 0) c s = (r, s')) :
    (perform c).run exec os s = (r, s', fun n => os (n + 1)) := by
  simp only [perform, run_call, run_done, h]

/-- A first statement that is answered. -/
theorem run_perform_ok {exec : Exec S σ ω} {c : S.Cmd} {f : S.Resp c → Prog S β}
    {os : Nat → ω} {s s' : σ} {a : S.Resp c} (h : exec (os 0) c s = (.ok a, s')) :
    (perform c >>= f).run exec os s = (f a).run exec (fun n => os (n + 1)) s' := by
  simp only [perform, call_bind, run_call, h, done_ok_bind]

/-- What a program that answers is followed by. -/
theorem run_bind_ok {exec : Exec S σ ω} {p : Prog S α} {f : α → Prog S β} {os os' : Nat → ω}
    {s s' : σ} {a : α} (h : p.run exec os s = (.ok a, s', os')) :
    (p >>= f).run exec os s = (f a).run exec os' s' := by
  induction p generalizing os s with
  | done r =>
      cases h
      rfl
  | call c k ih => exact ih _ h

/-- A program in sequence that answers has a first part that does. -/
theorem run_ok_of_bind {exec : Exec S σ ω} {p : Prog S α} {f : α → Prog S β} {os : Nat → ω}
    {s : σ} {b : β} (h : ((p >>= f).run exec os s).1 = .ok b) :
    ∃ a, (p.run exec os s).1 = .ok a := by
  induction p generalizing os s with
  | done r =>
      cases r with
      | ok a => exact ⟨a, rfl⟩
      | error e => cases h
  | call c k ih => exact ih _ h

/-- A program uses up a first part of the environment. -/
theorem run_env (exec : Exec S σ ω) (p : Prog S α) (os : Nat → ω) (s : σ) :
    ∃ n, (p.run exec os s).2.2 = fun m => os (m + n) := by
  induction p generalizing os s with
  | done r => exact ⟨0, rfl⟩
  | call c k ih =>
      obtain ⟨n, hn⟩ := ih (exec (os 0) c s).1 (fun n => os (n + 1)) (exec (os 0) c s).2
      refine ⟨n + 1, ?_⟩
      rw [run_call, hn]
      funext m
      show os (m + n + 1) = os (m + (n + 1))
      rw [Nat.add_assoc]

/-- The store a run leaves. -/
def runStore (exec : Exec S σ ω) (p : Prog S α) (os : Nat → ω) (s : σ) : σ :=
  (p.run exec os s).2.1

/-- The store when the program crashes after `n` statements (or has ended
before). -/
def crash (exec : Exec S σ ω) : Nat → Prog S α → (Nat → ω) → σ → σ
  | 0, _, _, s => s
  | _ + 1, done _, _, s => s
  | n + 1, call c k, os, s =>
      crash exec n (k (exec (os 0) c s).1) (fun n => os (n + 1)) (exec (os 0) c s).2

/-! ## The statements a program can perform -/

/-- Every statement of the program is allowed, whatever the earlier ones
answer. -/
def Calls (A : S.Cmd → Prop) : Prog S α → Prop
  | done _ => True
  | call c k => A c ∧ ∀ r, (k r).Calls A

namespace Calls

variable {A B : S.Cmd → Prop}

@[simp] theorem done_iff (r : Except S.Err α) : (done r : Prog S α).Calls A ↔ True := Iff.rfl

@[simp] theorem call_iff (c : S.Cmd) (k : Except S.Err (S.Resp c) → Prog S α) :
    (call c k).Calls A ↔ A c ∧ ∀ r, (k r).Calls A := Iff.rfl

@[simp] theorem perform_iff (c : S.Cmd) : (perform c).Calls A ↔ A c :=
  ⟨fun h => h.1, fun h => ⟨h, fun _ => trivial⟩⟩

/-- A statement and what follows it; when it throws, nothing follows. -/
theorem perform_bind {c : S.Cmd} {f : S.Resp c → Prog S β} (hc : A c)
    (hf : ∀ a, (f a).Calls A) : (perform c >>= f).Calls A := by
  refine ⟨hc, ?_⟩
  intro r
  cases r with
  | ok a => exact hf a
  | error e => trivial

theorem ofExcept_bind {r : Except S.Err α} {f : α → Prog S β}
    (hf : ∀ a, r = .ok a → (f a).Calls A) : (ofExcept r >>= f).Calls A := by
  cases r with
  | ok a => exact hf a rfl
  | error e => trivial

theorem ite {P : Prop} [Decidable P] {p q : Prog S α} (hp : P → p.Calls A)
    (hq : ¬ P → q.Calls A) : (if P then p else q).Calls A := by
  by_cases h : P
  · rw [if_pos h]
    exact hp h
  · rw [if_neg h]
    exact hq h

theorem bind {p : Prog S α} {f : α → Prog S β} (hp : p.Calls A)
    (hf : ∀ a, (f a).Calls A) : (p >>= f).Calls A := by
  induction p with
  | done r =>
      cases r with
      | ok a => exact hf a
      | error e => trivial
  | call c k ih => exact ⟨hp.1, fun r => ih r (hp.2 r)⟩

theorem catchErr {p : Prog S α} {h : S.Err → Prog S α} (hp : p.Calls A)
    (hh : ∀ e, (h e).Calls A) : (tryCatch p h : Prog S α).Calls A := by
  induction p with
  | done r =>
      cases r with
      | ok a => trivial
      | error e => exact hh e
  | call c k ih => exact ⟨hp.1, fun r => ih r (hp.2 r)⟩

theorem mono {p : Prog S α} (h : ∀ c, A c → B c) (hp : p.Calls A) : p.Calls B := by
  induction p with
  | done r => trivial
  | call c k ih => exact ⟨h c hp.1, fun r => ih r (hp.2 r)⟩

theorem and {p : Prog S α} (hp : p.Calls A) (hp' : p.Calls B) : p.Calls fun c => A c ∧ B c := by
  induction p with
  | done r => trivial
  | call c k ih => exact ⟨⟨hp.1, hp'.1⟩, fun r => ih r (hp.2 r) (hp'.2 r)⟩

end Calls

/-- Statements that keep a property of the store keep it over a run. -/
theorem run_keeps {exec : Exec S σ ω} {I : σ → Prop} {A : S.Cmd → Prop}
    (hI : ∀ o c s, A c → I s → I (exec o c s).2) {p : Prog S α} (hp : p.Calls A)
    (os : Nat → ω) {s : σ} (hs : I s) : I (p.runStore exec os s) := by
  induction p generalizing os s with
  | done r => exact hs
  | call c k ih => exact ih _ (hp.2 _) _ (hI _ _ _ hp.1 hs)

/-! ## A program's own history -/

/-- A statement performed and its answer. -/
abbrev Entry (S : Signature) : Type := (c : S.Cmd) × Except S.Err (S.Resp c)

/-- `p.Emits P Q h`: started when its own history is `h` (newest first),
every statement of `p` satisfies `P` against the history before it, and
the end satisfies `Q` against the whole history, for all answers. -/
def Emits (P : List (Entry S) → Entry S → Prop)
    (Q : Except S.Err α → List (Entry S) → Prop) : Prog S α → List (Entry S) → Prop
  | done r, h => Q r h
  | call c k, h => ∀ r, P h ⟨c, r⟩ ∧ (k r).Emits P Q (⟨c, r⟩ :: h)

namespace Emits

variable {P P' : List (Entry S) → Entry S → Prop}
  {Q Q' : Except S.Err α → List (Entry S) → Prop} {h : List (Entry S)}

@[simp] theorem done_iff (r : Except S.Err α) : (done r).Emits P Q h ↔ Q r h := Iff.rfl

@[simp] theorem call_iff (c : S.Cmd) (k : Except S.Err (S.Resp c) → Prog S α) :
    (call c k).Emits P Q h ↔ ∀ r, P h ⟨c, r⟩ ∧ (k r).Emits P Q (⟨c, r⟩ :: h) := Iff.rfl

/-- The rule of a statement: what follows it is shown by how it ends. -/
theorem call_cases {c : S.Cmd} {k : Except S.Err (S.Resp c) → Prog S α} (hP : ∀ r, P h ⟨c, r⟩)
    (herr : ∀ e, (k (.error e)).Emits P Q (⟨c, .error e⟩ :: h))
    (hok : ∀ a, (k (.ok a)).Emits P Q (⟨c, .ok a⟩ :: h)) : (call c k).Emits P Q h := by
  intro r
  refine ⟨hP r, ?_⟩
  cases r with
  | ok a => exact hok a
  | error e => exact herr e

/-- A statement and what follows it, by how the statement ends. -/
theorem perform_bind {Q₂ : Except S.Err β → List (Entry S) → Prop} {c : S.Cmd}
    {f : S.Resp c → Prog S β}
    (hok : ∀ a, P h ⟨c, .ok a⟩ ∧ (f a).Emits P Q₂ (⟨c, .ok a⟩ :: h))
    (herr : ∀ e, P h ⟨c, .error e⟩ ∧ Q₂ (.error e) (⟨c, .error e⟩ :: h)) :
    (perform c >>= f).Emits P Q₂ h := by
  intro r
  cases r with
  | ok a => exact hok a
  | error e => exact herr e

theorem ofExcept_bind {Q₂ : Except S.Err β → List (Entry S) → Prop} {r : Except S.Err α}
    {f : α → Prog S β} (hok : ∀ a, r = .ok a → (f a).Emits P Q₂ h)
    (herr : ∀ e, r = .error e → Q₂ (.error e) h) : (ofExcept r >>= f).Emits P Q₂ h := by
  cases r with
  | ok a => exact hok a rfl
  | error e => exact herr e rfl

theorem ite {C : Prop} [Decidable C] {p q : Prog S α} (hp : C → p.Emits P Q h)
    (hq : ¬ C → q.Emits P Q h) : (if C then p else q).Emits P Q h := by
  by_cases hc : C
  · rw [if_pos hc]
    exact hp hc
  · rw [if_neg hc]
    exact hq hc

theorem mono {p : Prog S α} (hP : ∀ h e, P h e → P' h e) (hQ : ∀ r h, Q r h → Q' r h)
    (hp : p.Emits P Q h) : p.Emits P' Q' h := by
  induction p generalizing h with
  | done r => exact hQ _ _ hp
  | call c k ih => exact fun r => ⟨hP _ _ (hp r).1, ih r (hp r).2⟩

/-- The rule of sequencing: the first program's end is the second's start. -/
theorem bind {p : Prog S α} {f : α → Prog S β}
    {Q₂ : Except S.Err β → List (Entry S) → Prop} (hp : p.Emits P Q h)
    (hok : ∀ a h', Q (.ok a) h' → (f a).Emits P Q₂ h')
    (herr : ∀ e h', Q (.error e) h' → Q₂ (.error e) h') : (p >>= f).Emits P Q₂ h := by
  induction p generalizing h with
  | done r =>
      cases r with
      | ok a => exact hok a h hp
      | error e => exact herr e h hp
  | call c k ih => exact fun r => ⟨(hp r).1, ih r (hp r).2⟩

/-- The rule of exceptions: the handler starts where the error ended. -/
theorem catchErr {p : Prog S α} {f : S.Err → Prog S α}
    {Q₂ : Except S.Err α → List (Entry S) → Prop} (hp : p.Emits P Q h)
    (hok : ∀ a h', Q (.ok a) h' → Q₂ (.ok a) h')
    (herr : ∀ e h', Q (.error e) h' → (f e).Emits P Q₂ h') :
    (tryCatch p f : Prog S α).Emits P Q₂ h := by
  induction p generalizing h with
  | done r =>
      cases r with
      | ok a => exact hok a h hp
      | error e => exact herr e h hp
  | call c k ih => exact fun r => ⟨(hp r).1, ih r (hp r).2⟩

/-- Every program emits something. -/
theorem always (p : Prog S α) (h : List (Entry S)) :
    p.Emits (fun _ _ => True) (fun _ _ => True) h := by
  induction p generalizing h with
  | done r => trivial
  | call c k ih => exact fun r => ⟨trivial, ih r _⟩

/-- What has been performed stays performed. -/
theorem past (p : Prog S α) {e : Entry S} (he : e ∈ h) :
    p.Emits (fun h _ => e ∈ h) (fun _ _ => True) h := by
  induction p generalizing h with
  | done r => trivial
  | call c k ih => exact fun r => ⟨he, ih r (List.mem_cons_of_mem _ he)⟩

/-- A history only grows. -/
theorem grows {p : Prog S α} (hp : p.Emits P Q h) :
    p.Emits P (fun r h' => Q r h' ∧ ∀ e ∈ h, e ∈ h') h := by
  induction p generalizing h with
  | done r => exact ⟨hp, fun _ he => he⟩
  | call c k ih =>
      refine fun r => ⟨(hp r).1, (ih r (hp r).2).mono (fun _ _ hP => hP) ?_⟩
      intro _ _ hQ
      exact ⟨hQ.1, fun e he => hQ.2 e (List.mem_cons_of_mem _ he)⟩

theorem and {p : Prog S α} (hp : p.Emits P Q h) (hp' : p.Emits P' Q' h) :
    p.Emits (fun h e => P h e ∧ P' h e) (fun r h => Q r h ∧ Q' r h) h := by
  induction p generalizing h with
  | done r => exact ⟨hp, hp'⟩
  | call c k ih => exact fun r => ⟨⟨(hp r).1, (hp' r).1⟩, ih r (hp r).2 (hp' r).2⟩

/-- A bound on the statements joins what is known of the history. -/
theorem within {A : S.Cmd → Prop} {p : Prog S α} (hc : p.Calls A) (hp : p.Emits P Q h) :
    p.Emits (fun h e => A e.1 ∧ P h e) Q h := by
  induction p generalizing h with
  | done r => exact hp
  | call c k ih => exact fun r => ⟨⟨hc.1, (hp r).1⟩, ih r (hc.2 r) (hp r).2⟩

/-- A bound on the statements bounds every history. -/
theorem of_calls {A : S.Cmd → Prop} {p : Prog S α} (hp : p.Calls A)
    (hP : ∀ h e, A e.1 → P h e) (hQ : ∀ r h, Q r h) : p.Emits P Q h := by
  induction p generalizing h with
  | done r => exact hQ _ _
  | call c k ih => exact fun r => ⟨hP _ _ hp.1, ih r (hp.2 r)⟩

/-- A bound on the statements bounds what has been performed. -/
theorem of_calls_past {A : S.Cmd → Prop} {p : Prog S α} (hp : p.Calls A) (hh : ∀ e ∈ h, A e.1) :
    p.Emits (fun h e => A e.1 ∧ ∀ e' ∈ h, A e'.1) (fun _ h => ∀ e ∈ h, A e.1) h := by
  induction p generalizing h with
  | done r => exact hh
  | call c k ih =>
      refine fun r => ⟨⟨hp.1, hh⟩, ih r (hp.2 r) ?_⟩
      intro e he
      rcases List.mem_cons.mp he with rfl | he
      · exact hp.1
      · exact hh e he

end Emits

end Prog

end Lib
