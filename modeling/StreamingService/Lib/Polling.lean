import Mathlib.Data.List.Basic
import StreamingService.Lib.Steps

/-!
# Lib — Polling

Clients that poll a server on a timer without waiting for the answers. Any
number of requests are out at once; each is answered by the server's state
of one moment, and the answers arrive in any order, or not at all. A client
shows the status of whatever answer arrived last, so it goes back from a
final status exactly when an older answer is still on its way.
-/

namespace Lib

variable {ε υ α σ st : Type}

/-! ## Pollers -/

/-- What a client asks, and what it makes of a response. -/
structure Poller (ε υ α σ : Type) : Type where
  /-- What the server answers in an environment; none is a failure. -/
  answer : ε → υ → Option α
  receive : α → σ → σ
  reject : σ → σ
  /-- Whether the timer is set. -/
  polling : σ → Bool

namespace Poller

/-- A request that is out. -/
inductive Flight (α : Type) where
  | sent
  | answered (response : Option α)
  deriving DecidableEq

/-- The server's state, the client's, and the requests that are out. -/
structure World (υ α σ : Type) : Type where
  server : υ
  page : σ
  out : List (Flight α)

inductive Label (ε υ : Type) where
  /-- The timer fires. -/
  | tick
  /-- The server answers a request. -/
  | serve (i : Nat) (env : ε)
  | arrive (i : Nat)
  /-- A request fails on its way there or back. -/
  | lose (i : Nat)
  /-- The server's state changes. -/
  | move (server : υ)

variable (p : Poller ε υ α σ)

/-- The client's callback, once its request has ended. -/
def callback : Option α → σ → σ
  | some a => p.receive a
  | none => p.reject

def next (w : World υ α σ) : Label ε υ → Option (World υ α σ)
  | .tick => if p.polling w.page then some { w with out := w.out ++ [.sent] } else none
  | .serve i env =>
      match w.out[i]? with
      | some .sent => some { w with out := w.out.set i (.answered (p.answer env w.server)) }
      | _ => none
  | .arrive i =>
      match w.out[i]? with
      | some (.answered response) =>
          some { w with page := p.callback response w.page, out := w.out.eraseIdx i }
      | _ => none
  | .lose i =>
      if i < w.out.length then
        some { w with page := p.reject w.page, out := w.out.eraseIdx i }
      else none
  | .move server => some { w with server := server }

/-- The client beside the server. -/
def steps : Steps (World υ α σ) (Label ε υ) where
  next := p.next

/-- Nothing asked yet. -/
def World.start (server : υ) (page : σ) : World υ α σ where
  server := server
  page := page
  out := []

/-- What one step does. -/
inductive Step (w : World υ α σ) : Label ε υ → World υ α σ → Prop
  | tick : p.polling w.page = true → Step w .tick { w with out := w.out ++ [.sent] }
  | serve {i : Nat} {env : ε} : w.out[i]? = some .sent →
      Step w (.serve i env) { w with out := w.out.set i (.answered (p.answer env w.server)) }
  | receive {i : Nat} {a : α} : w.out[i]? = some (.answered (some a)) →
      Step w (.arrive i) { w with page := p.receive a w.page, out := w.out.eraseIdx i }
  | reject {l : Label ε υ} {i : Nat} :
      Step w l { w with page := p.reject w.page, out := w.out.eraseIdx i }
  | move {server : υ} : Step w (.move server) { w with server := server }

variable {p} {w w' : World υ α σ} {l : Label ε υ}

theorem step_cases (h : p.steps.next w l = some w') : p.Step w l w' := by
  change p.next w l = some w' at h
  cases l with
  | tick =>
      simp only [next] at h
      split at h
      · rename_i hset
        cases h
        exact .tick hset
      · cases h
  | serve i env =>
      simp only [next] at h
      split at h
      · rename_i hsent
        cases h
        exact .serve hsent
      · cases h
  | arrive i =>
      simp only [next] at h
      split at h
      · rename_i response hanswered
        cases h
        cases response with
        | none => exact .reject
        | some a => exact .receive hanswered
      · cases h
  | lose i =>
      simp only [next] at h
      split at h
      · cases h
        exact .reject
      · cases h
  | move server =>
      cases h
      exact .move

end Poller

/-! ## What is shown -/

/-- The status a client shows, beside the server's own. -/
structure Display (p : Poller ε υ α σ) (st : Type) where
  pending : st
  /-- The server's status, if there is one to ask for. -/
  status : υ → Option st
  /-- The status in an answer. -/
  reads : α → st
  shown : σ → Option st
  answer_status : ∀ {env : ε} {v : υ} {a : α}, p.answer env v = some a → status v = some (reads a)
  shown_receive : ∀ a s, shown (p.receive a s) = some (reads a)
  polling_receive : ∀ a s,
    p.polling (p.receive a s) = true ↔ p.polling s = true ∧ reads a = pending
  shown_reject : ∀ s, shown (p.reject s) = shown s
  polling_reject : ∀ s, p.polling (p.reject s) = p.polling s

namespace Display

open Poller

variable {p : Poller ε υ α σ} (d : Display p st) {w w' a b c : World υ α σ} {l : Label ε υ}
  {x : st}

/-- The server's status moves only away from nothing or from pending. -/
def Settles (v v' : υ) : Prop :=
  d.status v' = d.status v ∨ d.status v = none ∨ d.status v = some d.pending

/-- The steps of a server whose status settles once. -/
def Moves (w : World υ α σ) : Label ε υ → Prop
  | .move v => d.Settles w.server v
  | _ => True

instance [DecidableEq st] (w : World υ α σ) (l : Label ε υ) : Decidable (d.Moves w l) :=
  match l with
  | .move _ => inferInstanceAs (Decidable (_ ∨ _ ∨ _))
  | .tick | .serve _ _ | .arrive _ | .lose _ => .isTrue trivial

/-- The client shows a final status. -/
def Final (w : World υ α σ) (x : st) : Prop := d.shown w.page = some x ∧ x ≠ d.pending

/-- A pending answer is on its way. -/
def PendingOut (w : World υ α σ) : Prop :=
  ∃ a, .answered (some a) ∈ w.out ∧ d.reads a = d.pending

/-- A final answer arrives only when no pending one is on its way. -/
def InOrder (w : World υ α σ) : Label ε υ → Prop
  | .arrive i => ∀ a, w.out[i]? = some (.answered (some a)) → d.reads a ≠ d.pending →
      ¬d.PendingOut w
  | _ => True

/-- The admitted steps when every final answer arrives in order. -/
def Orderly (w : World υ α σ) (l : Label ε υ) : Prop := d.Moves w l ∧ d.InOrder w l

/-- The final answers on their way, and the final status shown, are the
server's; a final status shown has no pending answer behind it; and the timer
stops for a final status only. -/
structure Sound (w : World υ α σ) : Prop where
  past : ∀ a, .answered (some a) ∈ w.out → d.reads a ≠ d.pending →
    d.status w.server = some (d.reads a)
  final : ∀ x, d.Final w x → d.status w.server = some x ∧ ¬d.PendingOut w
  stopped : p.polling w.page = false → ∃ x, d.Final w x

variable {d}

theorem Settles.final {v v' : υ} (h : d.Settles v v') (hv : d.status v = some x)
    (hx : x ≠ d.pending) : d.status v' = some x := by
  rcases h with h | h | h
  · rw [h, hv]
  · rw [h] at hv
    cases hv
  · rw [h] at hv
    cases hv
    exact absurd rfl hx

theorem sound_start (v : υ) {s : σ} (hshown : d.shown s = some d.pending)
    (hpolling : p.polling s = true) : d.Sound (World.start v s) where
  past _ ha := nomatch ha
  final x hx := by
    have heq : d.pending = x := Option.some.inj (hshown.symm.trans hx.1)
    exact absurd heq.symm hx.2
  stopped hstop := by
    rw [World.start, hpolling] at hstop
    cases hstop

/-- A step that shows what was shown keeps a sound world, if what is newly on
its way was just read. -/
theorem Sound.of_out (h : d.Sound w) (hserver : w'.server = w.server)
    (hshown : d.shown w'.page = d.shown w.page) (hpolling : p.polling w'.page = p.polling w.page)
    (hout : ∀ a, .answered (some a) ∈ w'.out →
      .answered (some a) ∈ w.out ∨ d.status w.server = some (d.reads a)) : d.Sound w' where
  past a ha hfinal := by
    rw [hserver]
    rcases hout a ha with ha | hread
    · exact h.past a ha hfinal
    · exact hread
  final x hx := by
    have hw := h.final x ⟨hshown ▸ hx.1, hx.2⟩
    rw [hserver]
    refine ⟨hw.1, ?_⟩
    rintro ⟨a, ha, hpending⟩
    rcases hout a ha with ha | hread
    · exact hw.2 ⟨a, ha, hpending⟩
    · -- the server answers nothing pending any more
      rw [hw.1, hpending] at hread
      exact hx.2 (Option.some.inj hread)
  stopped hstop := by
    obtain ⟨x, hx⟩ := h.stopped (hpolling ▸ hstop)
    exact ⟨x, hshown ▸ hx.1, hx.2⟩

/-- One step in order keeps a sound world. -/
theorem Sound.step (h : d.Sound w) (hok : d.Orderly w l) (hn : p.steps.next w l = some w') :
    d.Sound w' := by
  cases step_cases hn with
  | tick _ =>
      refine h.of_out rfl rfl rfl fun a ha => ?_
      rcases List.mem_append.mp ha with ha | ha
      · exact .inl ha
      · simp at ha
  | serve _ =>
      refine h.of_out rfl rfl rfl fun a ha => ?_
      rcases List.mem_or_eq_of_mem_set ha with ha | ha
      · exact .inl ha
      · exact .inr (d.answer_status (Flight.answered.inj ha).symm)
  | reject =>
      exact h.of_out rfl (d.shown_reject _) (d.polling_reject _) fun a ha =>
        .inl (List.mem_of_mem_eraseIdx ha)
  | @receive i a hout =>
      have hmem := List.mem_of_getElem? hout
      refine ⟨fun b hb => h.past b (List.mem_of_mem_eraseIdx hb), fun x hx => ?_, fun hstop => ?_⟩
      · obtain ⟨hshown, hx⟩ := hx
        have heq : d.reads a = x := Option.some.inj ((d.shown_receive a _).symm.trans hshown)
        subst heq
        refine ⟨h.past a hmem hx, ?_⟩
        rintro ⟨b, hb, hpending⟩
        exact hok.2 a hout hx ⟨b, List.mem_of_mem_eraseIdx hb, hpending⟩
      · refine ⟨d.reads a, d.shown_receive a _, fun hpending => ?_⟩
        -- the timer had stopped before, with no pending answer left
        have hbefore : p.polling w.page = false := by
          rw [Bool.eq_false_iff] at hstop ⊢
          exact fun hset => hstop ((d.polling_receive a _).mpr ⟨hset, hpending⟩)
        obtain ⟨x, hx⟩ := h.stopped hbefore
        exact (h.final x hx).2 ⟨a, hmem, hpending⟩
  | move =>
      refine ⟨fun a ha hfinal => hok.1.final (h.past a ha hfinal) hfinal, fun x hx => ?_, h.stopped⟩
      have hw := h.final x hx
      exact ⟨hok.1.final hw.1 hx.2, hw.2⟩

/-- A sound world that shows a final status shows it after every step. -/
theorem Sound.shows (h : d.Sound w) (hx : d.Final w x) (hn : p.steps.next w l = some w') :
    d.Final w' x := by
  refine ⟨?_, hx.2⟩
  cases step_cases hn with
  | tick _ => exact hx.1
  | serve _ => exact hx.1
  | reject => exact (d.shown_reject _).trans hx.1
  | @receive i a hout =>
      have hmem := List.mem_of_getElem? hout
      obtain ⟨hserver, hnone⟩ := h.final x hx
      have hfinal : d.reads a ≠ d.pending := fun hpending => hnone ⟨a, hmem, hpending⟩
      rw [d.shown_receive, ← h.past a hmem hfinal, hserver]
  | move => exact hx.1

theorem Sound.run (h : d.Sound a) (hr : p.steps.Run d.Orderly a b) : d.Sound b :=
  hr.keeps h fun _ _ _ hb hok hn => hb.step hok hn

/-- **Nothing goes back**: in a run whose final answers arrive in order a
final status stays shown. -/
theorem Sound.stays (h : d.Sound a) (hr : p.steps.Run d.Orderly a b) (hx : d.Final a x) :
    d.Final b x := by
  have hboth : d.Sound b ∧ d.Final b x :=
    hr.keeps (I := fun w => d.Sound w ∧ d.Final w x) ⟨h, hx⟩ fun _ _ _ hb hok hn =>
      ⟨hb.1.step hok hn, hb.1.shows hb.2 hn⟩
  exact hboth.2

/-! ## Answers out of order -/

/-- The requests that are out may all be lost. -/
theorem exists_drained (w : World υ α σ) :
    ∃ w', p.steps.Run d.Moves w w' ∧ w'.out = [] ∧ d.shown w'.page = d.shown w.page ∧
      p.polling w'.page = p.polling w.page := by
  obtain ⟨server, page, out⟩ := w
  induction out generalizing page with
  | nil => exact ⟨_, .refl, rfl, rfl, rfl⟩
  | cons flight rest ih =>
      obtain ⟨w', hr, hout, hshown, hpolling⟩ := ih (p.reject page)
      have hlose : p.steps.next ⟨server, page, flight :: rest⟩ (.lose 0) =
          some ⟨server, p.reject page, rest⟩ := by simp [steps, next]
      refine ⟨w', (Steps.Run.refl.step trivial hlose).trans hr, hout, ?_, ?_⟩
      · rw [hshown, d.shown_reject]
      · rw [hpolling, d.polling_reject]

/-- **Going back**: after a final answer out of order, a run shows pending
again, and ends so with the timer stopped and every request over. -/
theorem back_of_outOfOrder (hlate : ¬d.InOrder w l) (hn : p.steps.next w l = some w') :
    (∃ x, d.Final w' x) ∧ ∃ b, p.steps.Run d.Moves w' b ∧ d.shown b.page = some d.pending ∧
      p.polling b.page = false ∧ b.out = [] := by
  cases l with
  | tick => exact absurd trivial hlate
  | serve => exact absurd trivial hlate
  | lose => exact absurd trivial hlate
  | move => exact absurd trivial hlate
  | arrive i =>
      simp only [InOrder, not_forall, not_not] at hlate
      obtain ⟨a, hout, hfinal, late, hlate, hpending⟩ := hlate
      have hw' : w' = { w with page := p.receive a w.page, out := w.out.eraseIdx i } := by
        change p.next w (.arrive i) = some w' at hn
        simp only [next, hout] at hn
        exact (Option.some.inj hn).symm
      subst hw'
      refine ⟨⟨d.reads a, d.shown_receive a _, hfinal⟩, ?_⟩
      -- the pending answer is still out, arrives next, and the others are lost
      have hstill : .answered (some late) ∈ w.out.eraseIdx i := by
        obtain ⟨j, hj⟩ := List.mem_iff_getElem?.mp hlate
        refine List.mem_eraseIdx_iff_getElem?.mpr ⟨j, ?_, hj⟩
        rintro rfl
        rw [hout] at hj
        cases hj
        exact hfinal hpending
      obtain ⟨j, hj⟩ := List.mem_iff_getElem?.mp hstill
      obtain ⟨b, hr, hb, hshown, hpolling⟩ := exists_drained (d := d)
        { w with
          page := p.receive late (p.receive a w.page), out := (w.out.eraseIdx i).eraseIdx j }
      have harrive : p.steps.next
          { w with page := p.receive a w.page, out := w.out.eraseIdx i } (.arrive j) = some
          { w with
            page := p.receive late (p.receive a w.page), out := (w.out.eraseIdx i).eraseIdx j } := by
        simp only [steps, next, hj]
        rfl
      refine ⟨b, (Steps.Run.refl.step trivial harrive).trans hr, ?_, ?_, hb⟩
      · rw [hshown, d.shown_receive, hpending]
      · rw [hpolling, Bool.eq_false_iff]
        intro hset
        exact hfinal ((d.polling_receive a _).mp ((d.polling_receive late _).mp hset).1).2

end Display

end Lib
