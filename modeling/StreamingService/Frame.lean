import StreamingService.Exec

/-!
# Frame

What each part of the database leaves alone. A statement answers from the
whole store but writes the tables of its own part only; everything else of
the store it leaves is the store it found.
-/

namespace StreamingService

open Lib

/-! ## Refusals -/

theorem Except.exists_of_isOk {ε α : Type} {r : Except ε α} (h : r.isOk = true) :
    ∃ a, r = .ok a := by
  cases r with
  | ok a => exact ⟨a, rfl⟩
  | error e => cases h

/-- A statement the environment refuses changes nothing. -/
theorem exec_fault {o : Ambient} {e : Exception} (h : o.fault = some e) (c : Cmd) (s : Store)
    (hc : c ≠ .now) : exec o c s = (.error e, s) := by
  cases c with
  | now => exact absurd rfl hc
  | _ => simp only [exec, h]

/-- A statement the environment lets through. -/
theorem exec_answer {o : Ambient} (h : o.fault = none) (c : Cmd) (s : Store) :
    exec o c s = answer o c s := by
  cases c with
  | now => rfl
  | _ => simp only [exec, h]

/-- What holds of every refusal and of every answer holds of every statement. -/
theorem exec_cases {o : Ambient} {c : Cmd} {s : Store} {P : Outcome c.Resp → Prop}
    (hfault : ∀ e, P (.error e, s)) (hanswer : P (answer o c s)) : P (exec o c s) := by
  cases hf : o.fault with
  | none =>
      rw [exec_answer hf]
      exact hanswer
  | some e =>
      by_cases hc : c = .now
      · subst hc
        exact hanswer
      · rw [exec_fault hf c s hc]
        exact hfault e

section

variable {o : Ambient} {s s' : Store}

/-- An answer is one the environment let through. -/
theorem exec_ok {c : Cmd} {a : c.Resp} (h : exec o c s = (.ok a, s')) :
    answer o c s = (.ok a, s') := by
  cases hf : o.fault with
  | none => rw [← exec_answer hf, h]
  | some e =>
      by_cases hc : c = .now
      · subst hc
        exact h
      · rw [exec_fault hf c s hc] at h
        cases h

/-- A statement that answers was let through. -/
theorem exec_of_ok {c : Cmd} {a : c.Resp} (h : (exec o c s).1 = .ok a) :
    exec o c s = answer o c s := by
  have hpair : exec o c s = (.ok a, (exec o c s).2) := by rw [← h]
  rw [exec_ok hpair, ← hpair]

theorem exec_ok_iff {c : Cmd} (hc : c ≠ .now) {a : c.Resp} :
    exec o c s = (.ok a, s') ↔ o.fault = none ∧ answer o c s = (.ok a, s') := by
  refine ⟨fun h => ⟨?_, exec_ok h⟩, fun h => by rw [exec_answer h.1, h.2]⟩
  cases hf : o.fault with
  | none => rfl
  | some e =>
      rw [exec_fault hf c s hc] at h
      cases h

/-- What holds of the answer, if the environment lets the statement through. -/
theorem exec_forall {c : Cmd} (hc : c ≠ .now) {a : c.Resp} {P : c.Resp → Store → Prop}
    (hans : answer o c s = (.ok a, s')) :
    (∀ b s'', exec o c s = (.ok b, s'') → P b s'') ↔ (o.fault = none → P a s') := by
  simp only [exec_ok_iff hc, hans]
  refine ⟨fun h hf => h a s' ⟨hf, rfl⟩, ?_⟩
  rintro h b s'' ⟨hf, heq⟩
  cases heq
  exact h hf

/-- It does, and this holds of the answer. -/
theorem exec_exists {c : Cmd} (hc : c ≠ .now) {a : c.Resp} {P : c.Resp → Store → Prop}
    (hans : answer o c s = (.ok a, s')) :
    (∃ b s'', exec o c s = (.ok b, s'') ∧ P b s'') ↔ o.fault = none ∧ P a s' := by
  simp only [exec_ok_iff hc, hans]
  refine ⟨?_, fun h => ⟨a, s', ⟨h.1, rfl⟩, h.2⟩⟩
  rintro ⟨b, s'', ⟨hf, heq⟩, h⟩
  cases heq
  exact ⟨hf, h⟩

/-- Reading the clock changes nothing. -/
theorem now_store {r : Except Exception Millis} (h : exec o .now s = (r, s')) : s' = s := by
  cases h
  rfl

/-- Reading the clock cannot fail. -/
theorem now_error {e : Exception} (h : exec o .now s = (.error e, s')) : False := by
  cases h

end

/-! ## The schema's refusals -/

section

variable {o : Ambient} {s : Store} {e : Exception}

theorem transaction_error {c : TransactionStmt} (h : (c.answer o s).1 = .error e) :
    ∃ p, e = .prisma p := by
  cases c <;> simp only [TransactionStmt.answer, updateTransaction, refuse] at h <;>
    (repeat' split at h) <;> cases h <;> exact ⟨_, rfl⟩

theorem subscription_error {c : SubscriptionStmt} (h : (c.answer o s).1 = .error e) :
    ∃ p, e = .prisma p := by
  cases c <;> simp only [SubscriptionStmt.answer, refuse] at h <;>
    (repeat' split at h) <;> cases h <;> exact ⟨_, rfl⟩

theorem account_error {c : AccountStmt} (h : (c.answer o s).1 = .error e) :
    ∃ p, e = .prisma p := by
  cases c <;> simp only [AccountStmt.answer, refuse] at h <;>
    (repeat' split at h) <;> cases h <;> exact ⟨_, rfl⟩

theorem catalog_error {c : CatalogStmt} (h : (c.answer o s).1 = .error e) :
    ∃ p, e = .prisma p := by
  cases c <;> simp only [CatalogStmt.answer, refuse] at h <;>
    (repeat' split at h) <;> cases h <;> exact ⟨_, rfl⟩

theorem mediaAsset_error {c : MediaAssetStmt} (h : (c.answer o s).1 = .error e) :
    ∃ p, e = .prisma p := by
  cases c <;> simp only [MediaAssetStmt.answer, updateAsset, refuse] at h <;>
    (repeat' split at h) <;> cases h <;> exact ⟨_, rfl⟩

/-- What the schema refuses, Prisma reports. -/
theorem answer_error {c : Cmd} (h : (answer o c s).1 = .error e) : ∃ p, e = .prisma p := by
  cases c with
  | now => cases h
  | transaction c => exact transaction_error h
  | subscription c => exact subscription_error h
  | account c => exact account_error h
  | catalog c => exact catalog_error h
  | mediaAsset c => exact mediaAsset_error h
  | service c => cases c <;> cases h

end

/-! ## A statement that throws changes nothing -/

section

variable {o : Ambient} {s s' : Store} {e : Exception}

theorem transaction_refused {c : TransactionStmt} (h : (c.answer o s).1 = .error e) :
    (c.answer o s).2 = s := by
  revert h
  cases c <;> simp only [TransactionStmt.answer, updateTransaction, refuse] <;>
    (repeat' split) <;> intro h <;> first | rfl | cases h

theorem subscription_refused {c : SubscriptionStmt} (h : (c.answer o s).1 = .error e) :
    (c.answer o s).2 = s := by
  revert h
  cases c <;> simp only [SubscriptionStmt.answer, refuse] <;>
    (repeat' split) <;> intro h <;> first | rfl | cases h

theorem account_refused {c : AccountStmt} (h : (c.answer o s).1 = .error e) :
    (c.answer o s).2 = s := by
  revert h
  cases c <;> simp only [AccountStmt.answer, refuse] <;>
    (repeat' split) <;> intro h <;> first | rfl | cases h

theorem catalog_refused {c : CatalogStmt} (h : (c.answer o s).1 = .error e) :
    (c.answer o s).2 = s := by
  revert h
  cases c <;> simp only [CatalogStmt.answer, refuse] <;>
    (repeat' split) <;> intro h <;> first | rfl | cases h

theorem mediaAsset_refused {c : MediaAssetStmt} (h : (c.answer o s).1 = .error e) :
    (c.answer o s).2 = s := by
  revert h
  cases c <;> simp only [MediaAssetStmt.answer, updateAsset, refuse] <;>
    (repeat' split) <;> intro h <;> first | rfl | cases h

theorem answer_refused {c : Cmd} (h : (answer o c s).1 = .error e) : (answer o c s).2 = s := by
  cases c with
  | now => rfl
  | transaction c => exact transaction_refused h
  | subscription c => exact subscription_refused h
  | account c => exact account_refused h
  | catalog c => exact catalog_refused h
  | mediaAsset c => exact mediaAsset_refused h
  | service c => cases c <;> cases h

/-- **A statement that throws changes nothing.** -/
theorem exec_refused {c : Cmd} (h : exec o c s = (.error e, s')) : s' = s := by
  cases hf : o.fault with
  | none =>
      rw [exec_answer hf] at h
      have hstore : (answer o c s).2 = s := answer_refused (e := e) (by rw [h])
      rw [h] at hstore
      exact hstore
  | some e' =>
      by_cases hc : c = .now
      · subst hc
        exact (now_error h).elim
      · rw [exec_fault hf c s hc] at h
        cases h
        rfl

end

/-- Nest's `HttpException`s: only the services' own code throws one. -/
def Exception.isHttp : Exception → Bool
  | .conflict _ | .notFound _ | .forbidden _ | .unauthorized _ | .unprocessable _ => true
  | _ => false

/-- What fails outside the services throws none of their exceptions. -/
def Ambient.Foreign (o : Ambient) : Prop := ∀ e ∈ o.fault, e.isHttp = false

instance (o : Ambient) : Decidable o.Foreign :=
  inferInstanceAs (Decidable (∀ e ∈ o.fault, e.isHttp = false))

theorem exec_foreign {o : Ambient} (ho : o.Foreign) {c : Cmd} {s : Store} {e : Exception}
    (h : (exec o c s).1 = .error e) : e.isHttp = false := by
  revert h
  cases hf : o.fault with
  | none =>
      intro h
      rw [exec_answer hf] at h
      obtain ⟨p, rfl⟩ := answer_error h
      rfl
  | some e' =>
      by_cases hc : c = .now
      · subst hc
        exact fun h => (now_error (Prod.ext h rfl)).elim
      · rw [exec_fault hf c s hc]
        intro h
        cases h
        exact ho e hf

/-! ## The parts -/

variable (o : Ambient) (s : Store)

theorem transaction_frame (c : TransactionStmt) :
    (c.answer o s).2 = { s with transactions := (c.answer o s).2.transactions } := by
  cases c <;> simp only [TransactionStmt.answer, updateTransaction] <;> (repeat' split) <;> rfl

theorem subscription_frame (c : SubscriptionStmt) :
    (c.answer o s).2 = { s with
      transactions := (c.answer o s).2.transactions
      subscriptions := (c.answer o s).2.subscriptions } := by
  cases c <;> simp only [SubscriptionStmt.answer]
  repeat' split
  all_goals rfl

theorem account_frame (c : AccountStmt) :
    (c.answer o s).2 = { s with
      users := (c.answer o s).2.users
      refreshTokens := (c.answer o s).2.refreshTokens } := by
  cases c <;> simp only [AccountStmt.answer] <;> (repeat' split) <;> rfl

theorem catalog_frame (c : CatalogStmt) :
    (c.answer o s).2 = { s with
      genres := (c.answer o s).2.genres
      titles := (c.answer o s).2.titles
      titleGenres := (c.answer o s).2.titleGenres
      seasons := (c.answer o s).2.seasons
      episodes := (c.answer o s).2.episodes } := by
  cases c <;> simp only [CatalogStmt.answer] <;> (repeat' split) <;> rfl

theorem mediaAsset_frame (c : MediaAssetStmt) :
    (c.answer o s).2 = { s with mediaAssets := (c.answer o s).2.mediaAssets } := by
  cases c <;> simp only [MediaAssetStmt.answer, updateAsset] <;> (repeat' split) <;> rfl

theorem service_frame (c : ServiceCall) :
    (c.answer o s).2 = { s with transcodeQueue := (c.answer o s).2.transcodeQueue } := by
  cases c <;> rfl

/-- Of the services only the queue keeps anything. -/
theorem service_store {o : Ambient} {c : ServiceCall} {s s' : Store}
    {r : Except Exception (Cmd.service c).Resp} (h : exec o (.service c) s = (r, s'))
    (hc : ∀ job, c ≠ .queueAdd job) : s' = s := by
  have hstore : (exec o (.service c) s).2 = s :=
    exec_cases (c := .service c) (P := fun out => out.2 = s) (fun _ => rfl) (by
      cases c with
      | queueAdd job => exact absurd rfl (hc job)
      | _ => rfl)
  rw [h] at hstore
  exact hstore

/-- The parts a statement may write. -/
inductive Part where
  | payments | accounts | catalog | mediaAssets | transcodeQueue

@[simp] def Cmd.writes : Cmd → Option Part
  | .now => none
  | .transaction _ | .subscription _ => some .payments
  | .account _ => some .accounts
  | .catalog _ => some .catalog
  | .mediaAsset _ => some .mediaAssets
  | .service _ => some .transcodeQueue

/-- Beside `part`, the store is the one before. -/
structure Store.SameBeside (part : Option Part) (s s' : Store) : Prop where
  payments : part ≠ some .payments →
    s'.transactions = s.transactions ∧ s'.subscriptions = s.subscriptions
  accounts : part ≠ some .accounts →
    s'.users = s.users ∧ s'.refreshTokens = s.refreshTokens
  catalog : part ≠ some .catalog → s'.titles = s.titles ∧ s'.seasons = s.seasons ∧
    s'.episodes = s.episodes
  mediaAssets : part ≠ some .mediaAssets → s'.mediaAssets = s.mediaAssets
  transcodeQueue : part ≠ some .transcodeQueue → s'.transcodeQueue = s.transcodeQueue

theorem Store.SameBeside.refl (part : Option Part) : s.SameBeside part s :=
  ⟨fun _ => ⟨rfl, rfl⟩, fun _ => ⟨rfl, rfl⟩, fun _ => ⟨rfl, rfl, rfl⟩, fun _ => rfl, fun _ => rfl⟩

/-- **The frame of a statement.** -/
theorem exec_frame (c : Cmd) : s.SameBeside c.writes (exec o c s).2 := by
  apply exec_cases (P := fun out => s.SameBeside c.writes out.2) fun _ => .refl s _
  cases c with
  | now => exact .refl s _
  | transaction c =>
      simp only [answer]
      rw [transaction_frame]
      exact ⟨fun h => absurd rfl h, fun _ => ⟨rfl, rfl⟩, fun _ => ⟨rfl, rfl, rfl⟩, fun _ => rfl,
        fun _ => rfl⟩
  | subscription c =>
      simp only [answer]
      rw [subscription_frame]
      exact ⟨fun h => absurd rfl h, fun _ => ⟨rfl, rfl⟩, fun _ => ⟨rfl, rfl, rfl⟩, fun _ => rfl,
        fun _ => rfl⟩
  | account c =>
      simp only [answer]
      rw [account_frame]
      exact ⟨fun _ => ⟨rfl, rfl⟩, fun h => absurd rfl h, fun _ => ⟨rfl, rfl, rfl⟩, fun _ => rfl,
        fun _ => rfl⟩
  | catalog c =>
      simp only [answer]
      rw [catalog_frame]
      exact ⟨fun _ => ⟨rfl, rfl⟩, fun _ => ⟨rfl, rfl⟩, fun h => absurd rfl h, fun _ => rfl,
        fun _ => rfl⟩
  | mediaAsset c =>
      simp only [answer]
      rw [mediaAsset_frame]
      exact ⟨fun _ => ⟨rfl, rfl⟩, fun _ => ⟨rfl, rfl⟩, fun _ => ⟨rfl, rfl, rfl⟩,
        fun h => absurd rfl h, fun _ => rfl⟩
  | service c =>
      simp only [answer]
      rw [service_frame]
      exact ⟨fun _ => ⟨rfl, rfl⟩, fun _ => ⟨rfl, rfl⟩, fun _ => ⟨rfl, rfl, rfl⟩, fun _ => rfl,
        fun h => absurd rfl h⟩

end StreamingService
