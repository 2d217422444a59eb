import StreamingService.Lib.Machine

/-!
# Lib — InTurn

Requests served in turn. Every statement is performed by the thread that was
begun last: a program may be left before its end, as a crash leaves it, but no
two overlap. So what a program meets when it runs alone, from any store, it
meets in every such run.
-/

namespace Lib

variable {S : Signature} {σ ω Q α β : Type}

/-! ## A program alone -/

namespace Prog

/-- Alone from `s`, in any environment: every statement meets `K` in the store it
finds, and the end satisfies `R`. -/
def Meets (exec : Exec S σ ω) (K : σ → Entry S → Prop) (R : Except S.Err α → σ → Prop) :
    Prog S α → σ → Prop
  | done r, s => R r s
  | call c k, s => ∀ o, K s ⟨c, (exec o c s).1⟩ ∧
      Meets exec K R (k (exec o c s).1) (exec o c s).2

namespace Meets

variable {exec : Exec S σ ω} {K : σ → Entry S → Prop} {R R' : Except S.Err α → σ → Prop}
  {R₂ : Except S.Err β → σ → Prop} {s : σ}

/-- A statement and what follows it, by how the statement ends. -/
theorem perform_bind {c : S.Cmd} {f : S.Resp c → Prog S β} (hK : ∀ o, K s ⟨c, (exec o c s).1⟩)
    (hok : ∀ o a s', exec o c s = (.ok a, s') → Meets exec K R₂ (f a) s')
    (herr : ∀ o e s', exec o c s = (.error e, s') → R₂ (.error e) s') :
    Meets exec K R₂ (perform c >>= f) s := by
  intro o
  refine ⟨hK o, ?_⟩
  cases hout : exec o c s with
  | mk r s' =>
      cases r with
      | ok a => exact hok o a s' hout
      | error e => exact herr o e s' hout

theorem ofExcept_bind {r : Except S.Err α} {f : α → Prog S β}
    (hok : ∀ a, r = .ok a → Meets exec K R₂ (f a) s) (herr : ∀ e, r = .error e → R₂ (.error e) s) :
    Meets exec K R₂ (ofExcept r >>= f) s := by
  cases r with
  | ok a => exact hok a rfl
  | error e => exact herr e rfl

theorem ite {B : Prop} [Decidable B] {p q : Prog S α} (hp : B → Meets exec K R p s)
    (hq : ¬ B → Meets exec K R q s) : Meets exec K R (if B then p else q) s := by
  by_cases hb : B
  · rw [if_pos hb]
    exact hp hb
  · rw [if_neg hb]
    exact hq hb

/-- The rule of sequencing. -/
theorem bind {p : Prog S α} {f : α → Prog S β} (hp : Meets exec K R p s)
    (hok : ∀ a s', R (.ok a) s' → Meets exec K R₂ (f a) s')
    (herr : ∀ e s', R (.error e) s' → R₂ (.error e) s') : Meets exec K R₂ (p >>= f) s := by
  induction p generalizing s with
  | done r =>
      cases r with
      | ok a => exact hok a s hp
      | error e => exact herr e s hp
  | call c k ih => exact fun o => ⟨(hp o).1, ih _ (hp o).2⟩

/-- The rule of exceptions. -/
theorem catchErr {p : Prog S α} {f : S.Err → Prog S α} (hp : Meets exec K R p s)
    (hok : ∀ a s', R (.ok a) s' → R' (.ok a) s')
    (herr : ∀ e s', R (.error e) s' → Meets exec K R' (f e) s') :
    Meets exec K R' (tryCatch p f : Prog S α) s := by
  induction p generalizing s with
  | done r =>
      cases r with
      | ok a => exact hok a s hp
      | error e => exact herr e s hp
  | call c k ih => exact fun o => ⟨(hp o).1, ih _ (hp o).2⟩

/-- **The invariant rule**: a bound on the statements, each of which meets `K` and
keeps `I`. -/
theorem of_calls {A : S.Cmd → Prop} {I : σ → Prop} {p : Prog S α} (hp : p.Calls A)
    (hI : ∀ o c s, A c → I s → K s ⟨c, (exec o c s).1⟩ ∧ I (exec o c s).2) (hs : I s) :
    Meets exec K (fun _ => I) p s := by
  induction p generalizing s with
  | done r => exact hs
  | call c k ih =>
      intro o
      obtain ⟨hK, hs'⟩ := hI o c s hp.1 hs
      exact ⟨hK, ih _ (hp.2 _) hs'⟩

end Meets

end Prog

/-! ## Programs in turn -/

namespace Machine

variable {m : Machine S σ ω Q α}

/-- The thread that was begun last, and no other, performs a statement. -/
def inTurn (sys : Sys S σ Q α) : Action ω Q → Prop
  | .begin _ => True
  | .step tid _ => tid + 1 = sys.threads.length

instance (sys : Sys S σ Q α) : (act : Action ω Q) → Decidable (inTurn sys act)
  | .begin _ => isTrue trivial
  | .step tid _ => inferInstanceAs (Decidable (tid + 1 = sys.threads.length))

variable {K : σ → Prog.Entry S → Prop} {s : σ} {b : Sys S σ Q α}

/-- What is left of the last program runs as it would alone. -/
theorem Run.meets_last (hm : ∀ q s, (m.handle q).Meets m.exec K (fun _ _ => True) s)
    (hr : m.Run inTurn (start s) b) {tid : Nat} {th : Thread S Q α}
    (hlast : tid + 1 = b.threads.length) (hth : b.threads[tid]? = some th) :
    th.prog.Meets m.exec K (fun _ _ => True) b.store := by
  induction hr generalizing tid th with
  | refl => cases hth
  | step hr hturn hnext ih =>
      rcases m.next_cases hnext with ⟨q, rfl, rfl⟩ | ⟨tid', o, q, c, k, rfl, hth', rfl⟩
      · rw [List.length_append, List.length_singleton, Nat.add_right_cancel_iff] at hlast
        subst hlast
        rw [List.getElem?_concat_length] at hth
        cases hth
        exact hm q _
      · have hsame : tid' = tid := by
          have hturn : tid' + 1 = _ := hturn
          rw [List.length_set] at hlast
          omega
        subst hsame
        obtain ⟨hlt, -⟩ := List.getElem?_eq_some_iff.mp hth'
        rw [List.getElem?_set_self hlt] at hth
        cases hth
        exact (ih hturn hth' o).2

/-- **Programs served in turn keep to what each keeps to alone.** -/
theorem Run.meets_inTurn (hm : ∀ q s, (m.handle q).Meets m.exec K (fun _ _ => True) s)
    (hr : m.Run inTurn (start s) b) :
    m.Run (fun sys act => ∀ tid o c, act = .step tid o → sys.pending tid = some c →
      K sys.store ⟨c, (m.exec o c sys.store).1⟩) (start s) b := by
  induction hr with
  | refl => exact .refl
  | step hr hturn hnext ih =>
      refine ih.step ?_ hnext
      rintro tid o c rfl hpend
      obtain ⟨q, k, hth⟩ := Sys.pending_thread hpend
      exact (hr.meets_last hm hturn hth o).1

end Machine

end Lib
