import StreamingService.Lib.Machine

/-!
# Lib — Strict

Programs without an exception handler. `G` says which answers a program can
go on with; any other ends it with an error there and then. A strict program
is one of these whose every other end is a value, after at most `n`
statements. In a run, the end of its thread tells whether all its answers
were `G`.
-/

namespace Lib

namespace Prog

variable {S : Signature} {α β : Type}

/-- At most `n` statements; a `G` answer leads on, any other to an error, and
a program that is led on to its end ends with a `V`. -/
def Strict (G : Entry S → Prop) (V : α → Prop) : Nat → Prog S α → Prop
  | _, done r => ∃ a, r = .ok a ∧ V a
  | 0, call _ _ => False
  | n + 1, call c k => ∀ r, (G ⟨c, r⟩ → (k r).Strict G V n) ∧
      (¬ G ⟨c, r⟩ → ∃ e, k r = done (.error e))

namespace Strict

variable {G : Entry S → Prop} {V : α → Prop} {n : Nat}

@[simp] theorem done_iff {r : Except S.Err α} :
    (done r).Strict G V n ↔ ∃ a, r = .ok a ∧ V a := by
  cases n <;> exact Iff.rfl

theorem ok {a : α} (ha : V a) : (done (.ok a)).Strict G V n :=
  done_iff.mpr ⟨a, rfl, ha⟩

/-- A strict program that goes on has a statement left to spend. -/
theorem call_iff {c : S.Cmd} {k : Except S.Err (S.Resp c) → Prog S α} :
    (call c k).Strict G V n ↔ ∃ m, n = m + 1 ∧ ∀ r, (G ⟨c, r⟩ → (k r).Strict G V m) ∧
      (¬ G ⟨c, r⟩ → ∃ e, k r = done (.error e)) := by
  cases n with
  | zero =>
      constructor
      · intro h
        exact h.elim
      · rintro ⟨m, hm, -⟩
        cases hm
  | succ m =>
      constructor
      · intro h
        exact ⟨m, rfl, h⟩
      · rintro ⟨m', hm, h⟩
        cases hm
        exact h

/-- A larger allowance. -/
theorem le {m : Nat} (hle : n ≤ m) {p : Prog S α} (hp : p.Strict G V n) : p.Strict G V m := by
  induction n generalizing m p with
  | zero =>
      cases p with
      | done r => exact done_iff.mpr (done_iff.mp hp)
      | call c k => exact hp.elim
  | succ n ih =>
      cases p with
      | done r => exact done_iff.mpr (done_iff.mp hp)
      | call c k =>
          obtain ⟨m, rfl⟩ : ∃ m', m = m' + 1 := ⟨m - 1, by omega⟩
          intro r
          exact ⟨fun hr => ih (by omega) ((hp r).1 hr), (hp r).2⟩

theorem ite {P : Prop} [Decidable P] {p q : Prog S α} (hp : P → p.Strict G V n)
    (hq : ¬ P → q.Strict G V n) : (if P then p else q).Strict G V n := by
  by_cases h : P
  · rw [if_pos h]
    exact hp h
  · rw [if_neg h]
    exact hq h

/-- Two strict programs in sequence. -/
theorem bind {U : α → Prop} {V : β → Prop} {m : Nat} {p : Prog S α} {f : α → Prog S β}
    (hp : p.Strict G U m) (hf : ∀ a, U a → (f a).Strict G V n) :
    (p >>= f).Strict G V (m + n) := by
  induction m generalizing p with
  | zero =>
      cases p with
      | done r =>
          obtain ⟨a, rfl, ha⟩ := done_iff.mp hp
          exact (hf a ha).le (by omega)
      | call c k => exact hp.elim
  | succ m ih =>
      cases p with
      | done r =>
          obtain ⟨a, rfl, ha⟩ := done_iff.mp hp
          exact (hf a ha).le (by omega)
      | call c k =>
          rw [call_bind, call_iff]
          refine ⟨m + n, by omega, fun r => ⟨fun hr => ih ((hp r).1 hr), ?_⟩⟩
          intro hr
          -- what ends the first program ends both
          obtain ⟨e, he⟩ := (hp r).2 hr
          exact ⟨e, by rw [he]; rfl⟩

section

variable (hG : ∀ c e, ¬ G ⟨c, .error e⟩)
include hG

/-- One statement, some answers of which the program refuses itself. -/
theorem perform_or {V : β → Prop} {c : S.Cmd} {f : S.Resp c → Prog S β}
    (hok : ∀ a, G ⟨c, .ok a⟩ → (f a).Strict G V n)
    (hbad : ∀ a, ¬ G ⟨c, .ok a⟩ → ∃ e, f a = done (.error e)) :
    (Prog.perform c >>= f).Strict G V (n + 1) := by
  intro r
  cases r with
  | ok a => exact ⟨hok a, hbad a⟩
  | error e => exact ⟨fun hr => absurd hr (hG c e), fun _ => ⟨e, rfl⟩⟩

/-- One statement, every answer of which leads on. -/
theorem perform_bind {V : β → Prop} {c : S.Cmd} {f : S.Resp c → Prog S β}
    (hc : ∀ a, G ⟨c, .ok a⟩) (hf : ∀ a, (f a).Strict G V n) :
    (Prog.perform c >>= f).Strict G V (n + 1) :=
  perform_or hG (fun a _ => hf a) fun a hbad => absurd (hc a) hbad

/-- A statement that is the whole program. -/
theorem perform {c : S.Cmd} (hc : ∀ a, G ⟨c, .ok a⟩) :
    (Prog.perform c).Strict G (fun _ => True) (n + 1) := by
  intro r
  cases r with
  | ok a => exact ⟨fun _ => .ok trivial, fun hr => absurd (hc a) hr⟩
  | error e => exact ⟨fun hr => absurd hr (hG c e), fun _ => ⟨e, rfl⟩⟩

end

end Strict

end Prog

/-! ## In a run -/

namespace Machine

variable {S : Signature} {σ ω Q α : Type} {m : Machine S σ ω Q α}

/-- What is left of a thread: a strict program, or the error that ended it. -/
def Settles (G : Prog.Entry S → Prop) (V : α → Prop) (n : Nat) (p : Prog S α) : Prop :=
  p.Strict G V n ∨ ∃ e, p = .done (.error e)

/-- **Strict handlers in every interleaving**: a thread has what is left of a
strict program, and has spent the statements that are missing. -/
theorem Run.settles {ok : Sys S σ Q α → Action ω Q → Prop} {C : Q → Prop}
    {G : Prog.Entry S → Prop} {V : α → Prop} {n : Nat}
    (hC : ∀ q, C q → Settles G V n (m.handle q)) {s : σ} {b : Sys S σ Q α}
    (hr : m.Run ok (start s) b) {tid : Nat} {q : Q} {p : Prog S α}
    (hth : b.threads[tid]? = some ⟨q, p⟩) (hq : C q) :
    ∃ left, (own tid b.trace).length + left = n ∧ Settles G V left p := by
  refine Run.threads (J := fun q p h => C q → ∃ left, h.length + left = n ∧ Settles G V left p)
    ?_ ?_ hr tid _ hth hq
  · intro q hq
    exact ⟨n, by simp, hC q hq⟩
  · intro q c k h r hJ hq
    obtain ⟨left, hlen, hstrict | ⟨e, he⟩⟩ := hJ hq
    · obtain ⟨left, rfl, hk⟩ := Prog.Strict.call_iff.mp hstrict
      refine ⟨left, by simp only [List.length_cons]; omega, ?_⟩
      by_cases hg : G ⟨c, r⟩
      · exact .inl ((hk r).1 hg)
      · exact .inr ((hk r).2 hg)
    · cases he

end Machine

end Lib
