import StreamingService.Lib.Crash

/-!
# Lib — Stall

Programs with statements that may stay without an answer: a promise nothing
settles. `stalls` says of the environment at a statement that it will never
answer it. A run that meets such a statement waits there for ever; it has
performed what stands before it, and never ends.
-/

namespace Lib

namespace Prog

variable {S : Signature} {σ ω α β : Type} {exec : Exec S σ ω} {stalls : ω → S.Cmd → Bool}

/-- The end of the run: `none` when it waits for ever. -/
def await (exec : Exec S σ ω) (stalls : ω → S.Cmd → Bool) : Prog S α → (Nat → ω) → σ →
    Option (Except S.Err α × σ)
  | done r, _, s => some (r, s)
  | call c k, os, s =>
      if stalls (os 0) c = true then none
      else await exec stalls (k (exec (os 0) c s).1) (fun n => os (n + 1)) (exec (os 0) c s).2

/-- The statements the run performs and their answers, first to last. -/
def trail (exec : Exec S σ ω) (stalls : ω → S.Cmd → Bool) : Prog S α → (Nat → ω) → σ →
    List (Entry S)
  | done _, _, _ => []
  | call c k, os, s =>
      if stalls (os 0) c = true then []
      else ⟨c, (exec (os 0) c s).1⟩ ::
        trail exec stalls (k (exec (os 0) c s).1) (fun n => os (n + 1)) (exec (os 0) c s).2

/-- No statement of the run stays without an answer. -/
abbrev Answered (exec : Exec S σ ω) (stalls : ω → S.Cmd → Bool) (p : Prog S α) (os : Nat → ω)
    (s : σ) : Prop :=
  Along exec (fun o e => stalls o e.1 = false) p os s

/-- **A run ends exactly when all its statements are answered**: it is then the
run of `run`. -/
theorem await_eq {p : Prog S α} {os : Nat → ω} {s : σ} :
    p.Answered exec stalls os s →
      p.await exec stalls os s = some ((p.run exec os s).1, p.runStore exec os s) := by
  induction p generalizing os s with
  | done r => exact fun _ => rfl
  | call c k ih =>
      intro h
      rw [await, if_neg (by simp [h.1]), ih _ h.2]
      rfl

theorem answered_of_await {p : Prog S α} {os : Nat → ω} {s : σ} {r : Except S.Err α × σ} :
    p.await exec stalls os s = some r → p.Answered exec stalls os s := by
  induction p generalizing os s with
  | done r => exact fun _ => trivial
  | call c k ih =>
      intro h
      rw [await] at h
      split at h
      · cases h
      · rename_i hstalls
        exact ⟨by simpa using hstalls, ih _ h⟩

theorem trail_eq {p : Prog S α} {os : Nat → ω} {s : σ} :
    p.Answered exec stalls os s → p.trail exec stalls os s = p.history exec os s := by
  induction p generalizing os s with
  | done r => exact fun _ => rfl
  | call c k ih =>
      intro h
      rw [trail, history, if_neg (by simp [h.1]), ih _ h.2]

/-- What holds of every statement performed is a condition the run keeps to. -/
theorem along_of_history {G : Entry S → Prop} {p : Prog S α} {os : Nat → ω} {s : σ} :
    (∀ e ∈ p.history exec os s, G e) → Along exec (fun _ e => G e) p os s := by
  induction p generalizing os s with
  | done r => exact fun _ => trivial
  | call c k ih =>
      intro h
      exact ⟨h _ List.mem_cons_self, ih _ fun e he => h e (List.mem_cons_of_mem _ he)⟩

/-! ## The first statement -/

section

variable {c : S.Cmd} {f : S.Resp c → Prog S β} {os : Nat → ω} {s s' : σ}

theorem answered_ok {a : S.Resp c} (h : exec (os 0) c s = (.ok a, s')) :
    (perform c >>= f).Answered exec stalls os s ↔
      stalls (os 0) c = false ∧ (f a).Answered exec stalls (fun n => os (n + 1)) s' := by
  show _ ∧ Along exec _ (done (exec (os 0) c s).1 >>= f) _ _ ↔ _
  rw [h]
  exact Iff.rfl

theorem answered_error {e : S.Err} (h : exec (os 0) c s = (.error e, s')) :
    (perform c >>= f).Answered exec stalls os s ↔ stalls (os 0) c = false := by
  show _ ∧ Along exec _ (done (exec (os 0) c s).1 >>= f) _ _ ↔ _
  rw [h]
  exact and_iff_left trivial

theorem await_ok {a : S.Resp c} (hc : stalls (os 0) c = false)
    (h : exec (os 0) c s = (.ok a, s')) :
    (perform c >>= f).await exec stalls os s = (f a).await exec stalls (fun n => os (n + 1)) s' := by
  show (if stalls (os 0) c = true then none else
    await exec stalls (done (exec (os 0) c s).1 >>= f) _ (exec (os 0) c s).2) = _
  rw [if_neg (by simp [hc]), h]
  rfl

theorem await_error {e : S.Err} (hc : stalls (os 0) c = false)
    (h : exec (os 0) c s = (.error e, s')) :
    (perform c >>= f).await exec stalls os s = some (.error e, s') := by
  show (if stalls (os 0) c = true then none else
    await exec stalls (done (exec (os 0) c s).1 >>= f) _ (exec (os 0) c s).2) = _
  rw [if_neg (by simp [hc]), h]
  rfl

theorem trail_ok {a : S.Resp c} (hc : stalls (os 0) c = false)
    (h : exec (os 0) c s = (.ok a, s')) :
    (perform c >>= f).trail exec stalls os s =
      ⟨c, .ok a⟩ :: (f a).trail exec stalls (fun n => os (n + 1)) s' := by
  show (if stalls (os 0) c = true then [] else ⟨c, (exec (os 0) c s).1⟩ ::
    trail exec stalls (done (exec (os 0) c s).1 >>= f) _ (exec (os 0) c s).2) = _
  rw [if_neg (by simp [hc]), h]
  rfl

theorem trail_error {e : S.Err} (hc : stalls (os 0) c = false)
    (h : exec (os 0) c s = (.error e, s')) :
    (perform c >>= f).trail exec stalls os s = [⟨c, .error e⟩] := by
  show (if stalls (os 0) c = true then [] else ⟨c, (exec (os 0) c s).1⟩ ::
    trail exec stalls (done (exec (os 0) c s).1 >>= f) _ (exec (os 0) c s).2) = _
  rw [if_neg (by simp [hc]), h]
  rfl

end

/-! ## Programs that are answered -/

section

variable {A : S.Cmd → Prop}

theorem Answered.of_calls (hA : ∀ o c, A c → stalls o c = false) {p : Prog S α} (hp : p.Calls A)
    (os : Nat → ω) (s : σ) : p.Answered exec stalls os s := by
  induction p generalizing os s with
  | done r => trivial
  | call c k ih => exact ⟨hA _ _ hp.1, ih _ (hp.2 _) _ _⟩

/-- What follows never waits. -/
theorem Answered.bind (hA : ∀ o c, A c → stalls o c = false) {p : Prog S α} {f : α → Prog S β}
    {os : Nat → ω} {s : σ} (hf : ∀ a, (f a).Calls A) :
    p.Answered exec stalls os s → (p >>= f).Answered exec stalls os s := by
  induction p generalizing os s with
  | done r =>
      cases r with
      | ok a => exact fun _ => .of_calls hA (hf a) _ _
      | error e => exact fun _ => trivial
  | call c k ih => exact fun h => ⟨h.1, ih _ h.2⟩

/-- The handler never waits. -/
theorem Answered.catchErr (hA : ∀ o c, A c → stalls o c = false) {p : Prog S α}
    {f : S.Err → Prog S α} {os : Nat → ω} {s : σ} (hf : ∀ e, (f e).Calls A) :
    p.Answered exec stalls os s → (tryCatch p f : Prog S α).Answered exec stalls os s := by
  induction p generalizing os s with
  | done r =>
      cases r with
      | ok a => exact fun _ => trivial
      | error e => exact fun _ => .of_calls hA (hf e) _ _
  | call c k ih => exact fun h => ⟨h.1, ih _ h.2⟩

end

/-- A sequence that never waits starts with a program that never waits. -/
theorem answered_of_bind {p : Prog S α} {f : α → Prog S β} {os : Nat → ω} {s : σ} :
    (p >>= f).Answered exec stalls os s → p.Answered exec stalls os s := by
  induction p generalizing os s with
  | done r => exact fun _ => trivial
  | call c k ih => exact fun h => ⟨h.1, ih _ h.2⟩

theorem answered_of_catchErr {p : Prog S α} {f : S.Err → Prog S α} {os : Nat → ω} {s : σ} :
    (tryCatch p f : Prog S α).Answered exec stalls os s → p.Answered exec stalls os s := by
  induction p generalizing os s with
  | done r => exact fun _ => trivial
  | call c k ih => exact fun h => ⟨h.1, ih _ h.2⟩

end Prog

end Lib
