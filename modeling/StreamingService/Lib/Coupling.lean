import Mathlib.Data.List.Forall2
import Mathlib.Data.Option.Defs
import StreamingService.Lib.Machine

/-!
# Lib — Coupling

Two runs side by side. A coupling relates statements, and what related
statements are answered. Two programs are coupled when they perform related
statements for as long as their answers are related, and end alike. Where two
stores answer related statements relatedly, coupled threads stay coupled
under one schedule: what one run shows and the relation does not let through
does not depend on the difference of the stores.
-/

namespace Lib

variable {S : Signature} {σ ω Q α β : Type}

/-- Related statements, and related entries: those that fail, fail alike. -/
structure Coupling (S : Signature) where
  cmd : S.Cmd → S.Cmd → Prop
  entry : Prog.Entry S → Prog.Entry S → Prop
  fails : ∀ {c c' r r'}, entry ⟨c, r⟩ ⟨c', r'⟩ → ∀ e, r = .error e ↔ r' = .error e

/-- A statement related to itself, whose answer the relation lets through. -/
def Coupling.Plain (R : Coupling S) (c : S.Cmd) : Prop :=
  R.cmd c c ∧ ∀ r r', R.entry ⟨c, r⟩ ⟨c, r'⟩ → r = r'

namespace Prog

/-- Related statements on related answers, up to one end. -/
def Coupled (R : Coupling S) : Prog S α → Prog S α → Prop
  | done r, done r' => r = r'
  | call c k, call c' k' =>
      R.cmd c c' ∧ ∀ r r', R.entry ⟨c, r⟩ ⟨c', r'⟩ → (k r).Coupled R (k' r')
  | done _, call _ _ => False
  | call _ _, done _ => False

namespace Coupled

variable {R : Coupling S}

/-- A program of plain statements is coupled with itself. -/
theorem of_plain {p : Prog S α} (hp : p.Calls R.Plain) : p.Coupled R p := by
  induction p with
  | done r => rfl
  | call c k ih =>
      refine ⟨hp.1.1, fun r r' hr => ?_⟩
      cases hp.1.2 r r' hr
      exact ih r (hp.2 r)

/-- Related statements, and what follows related answers. -/
theorem perform_bind {c c' : S.Cmd} {f : S.Resp c → Prog S β} {f' : S.Resp c' → Prog S β}
    (hc : R.cmd c c')
    (hf : ∀ a a', R.entry ⟨c, .ok a⟩ ⟨c', .ok a'⟩ → (f a).Coupled R (f' a')) :
    (perform c >>= f).Coupled R (perform c' >>= f') := by
  refine ⟨hc, fun r r' hr => ?_⟩
  cases r with
  | error e =>
      cases (R.fails hr e).mp rfl
      exact rfl
  | ok a =>
      cases r' with
      | error e => cases (R.fails hr e).mpr rfl
      | ok a' => exact hf a a' hr

theorem bind {p p' : Prog S α} {f f' : α → Prog S β} (hp : p.Coupled R p')
    (hf : ∀ a, (f a).Coupled R (f' a)) : (p >>= f).Coupled R (p' >>= f') := by
  induction p generalizing p' with
  | done r =>
      cases p' with
      | done r' =>
          cases hp
          cases r with
          | ok a => exact hf a
          | error e => exact rfl
      | call c' k' => exact hp.elim
  | call c k ih =>
      cases p' with
      | done r' => exact hp.elim
      | call c' k' => exact ⟨hp.1, fun r r' hr => ih r (hp.2 r r' hr)⟩

end Coupled

end Prog

/-! ## Lists side by side -/

section

variable {γ δ : Type} {R : γ → δ → Prop} {l : List γ} {l' : List δ}

theorem forall₂_lookup (h : List.Forall₂ R l l') (n : Nat) : Option.Rel R l[n]? l'[n]? := by
  induction h generalizing n with
  | nil => exact .none
  | cons hab _ ih =>
      cases n with
      | zero => exact .some hab
      | succ n => exact ih n

theorem forall₂_set (h : List.Forall₂ R l l') (n : Nat) {a : γ} {b : δ} (hab : R a b) :
    List.Forall₂ R (l.set n a) (l'.set n b) := by
  induction h generalizing n with
  | nil => exact .nil
  | cons hhead htail ih =>
      cases n with
      | zero => exact .cons hab htail
      | succ n => exact .cons hhead (ih n)

end

/-! ## One schedule, two stores -/

namespace Machine

variable {m : Machine S σ ω Q α} {R : Coupling S} {P : σ → σ → Prop}

/-- Threads of one request, coupled in what is left of them. -/
structure ThreadAlike (R : Coupling S) (th th' : Thread S Q α) : Prop where
  request : th.request = th'.request
  prog : th.prog.Coupled R th'.prog

/-- The same beginning, or related entries of one thread. -/
inductive EventAlike (R : Coupling S) : Event S Q → Event S Q → Prop
  | began (tid : Nat) (q : Q) : EventAlike R (.began tid q) (.began tid q)
  | did (tid : Nat) {e e' : Prog.Entry S} (hc : R.cmd e.1 e'.1) (he : R.entry e e') :
      EventAlike R (.did tid e) (.did tid e')

/-- Two states of two runs side by side. -/
structure Alike (R : Coupling S) (P : σ → σ → Prop) (a b : Sys S σ Q α) : Prop where
  store : P a.store b.store
  threads : List.Forall₂ (ThreadAlike R) a.threads b.threads
  trace : List.Forall₂ (EventAlike R) a.trace b.trace

theorem Alike.start {s s' : σ} (h : P s s') :
    Alike R P (Machine.start s : Sys S σ Q α) (Machine.start s') := ⟨h, .nil, .nil⟩

/-- The statements answer related statements relatedly, and leave the stores
related. -/
def Respects (m : Machine S σ ω Q α) (R : Coupling S) (P : σ → σ → Prop) : Prop :=
  ∀ o c c' s s', R.cmd c c' → P s s' →
    R.entry ⟨c, (m.exec o c s).1⟩ ⟨c', (m.exec o c' s').1⟩ ∧ P (m.exec o c s).2 (m.exec o c' s').2

/-- **One action** keeps two states alike, or neither admits it. -/
theorem Alike.next (hexec : m.Respects R P) (hhandle : ∀ q, (m.handle q).Coupled R (m.handle q))
    {a b : Sys S σ Q α} (h : Alike R P a b) (act : Action ω Q) :
    Option.Rel (Alike R P) (m.next a act) (m.next b act) := by
  cases act with
  | begin q =>
      refine .some ⟨h.store, ?_, ?_⟩
      · exact List.rel_append h.threads (.cons ⟨rfl, hhandle q⟩ .nil)
      · rw [h.threads.length_eq]
        exact .cons (.began _ q) h.trace
  | step tid o =>
      have hth := forall₂_lookup h.threads tid
      simp only [Machine.next]
      generalize a.threads[tid]? = th at hth
      generalize b.threads[tid]? = th' at hth
      cases hth with
      | none => exact .none
      | @some th th' halike =>
          obtain ⟨q, p⟩ := th
          obtain ⟨q', p'⟩ := th'
          obtain ⟨rfl, hprog⟩ := halike
          cases p with
          | done r =>
              cases p' with
              | done r' => exact .none
              | call c' k' => exact hprog.elim
          | call c k =>
              cases p' with
              | done r' => exact hprog.elim
              | call c' k' =>
                  obtain ⟨hentry, hstore⟩ := hexec o c c' _ _ hprog.1 h.store
                  exact .some ⟨hstore, forall₂_set h.threads tid ⟨rfl, hprog.2 _ _ hentry⟩,
                    .cons (.did tid hprog.1 hentry) h.trace⟩

/-- **One schedule** keeps two states alike, when the same actions are admitted in
states that are. -/
theorem Alike.replay {ok : Sys S σ Q α → Action ω Q → Prop} [∀ s act, Decidable (ok s act)]
    (hexec : m.Respects R P) (hhandle : ∀ q, (m.handle q).Coupled R (m.handle q))
    (hok : ∀ a b act, Alike R P a b → (ok a act ↔ ok b act)) {a b : Sys S σ Q α}
    (h : Alike R P a b) (acts : List (Action ω Q)) :
    Option.Rel (Alike R P) (m.replay ok a acts) (m.replay ok b acts) := by
  induction acts generalizing a b with
  | nil => exact .some h
  | cons act rest ih =>
      simp only [Machine.replay]
      by_cases ha : ok a act
      · rw [if_pos ha, if_pos ((hok a b act h).mp ha)]
        have hnext := h.next hexec hhandle act
        generalize m.next a act = a' at hnext
        generalize m.next b act = b' at hnext
        cases hnext with
        | none => exact .none
        | some halike => exact ih halike
      · rw [if_neg ha, if_neg fun hb => ha ((hok a b act h).mpr hb)]
        exact .none

/-- A thread that has ended has the end of the other run's. -/
theorem Alike.ended {a b : Sys S σ Q α} (h : Alike R P a b) {tid : Nat} {q : Q}
    {r : Except S.Err α} (hth : a.threads[tid]? = some ⟨q, .done r⟩) :
    b.threads[tid]? = some ⟨q, .done r⟩ := by
  have hlookup := forall₂_lookup h.threads tid
  rw [hth] at hlookup
  generalize b.threads[tid]? = th' at hlookup
  cases hlookup with
  | @some _ th' halike =>
      obtain ⟨q', p'⟩ := th'
      obtain ⟨rfl, hprog⟩ := halike
      cases p' with
      | done r' =>
          cases hprog
          rfl
      | call c' k' => exact hprog.elim

end Machine

end Lib
