import Mathlib.Data.List.Nodup
import StreamingService.Lib.Steps

/-!
# Lib — Asker

Clients that ask a server again and again, one request at a time: the answer
to a request shows a status, and only then sets the timer for the next one, as
long as the status is pending. What is asked about may change; the callbacks
of an earlier question are still to come, but they find it cancelled. The
client shows nothing old, and never goes back from a final status, in
whichever order the requests of different questions end.
-/

namespace Lib

variable {ε υ κ st : Type}

/-! ## Askers -/

/-- What the server answers about a key in an environment; none is a failure. -/
structure Asker (ε υ κ st : Type) : Type where
  answer : ε → υ → κ → Option st
  pending : st

namespace Asker

/-- A callback that is to come: a timer's or a request's. -/
inductive Callback (st : Type) where
  | timer
  | sent
  | answered (response : Option st)
  deriving DecidableEq

/-- A key that was asked about, and whether it has been cancelled. -/
structure Question (κ : Type) : Type where
  key : κ
  cancelled : Bool
  deriving DecidableEq

/-- The server's state, the status shown, the questions so far, and the
callbacks to come, each with the index of its question. -/
structure World (υ κ st : Type) : Type where
  server : υ
  shown : Option st
  questions : List (Question κ)
  out : List (Nat × Callback st)

inductive Label (ε υ κ : Type) where
  /-- Ask about a key, and no more about the one before. -/
  | ask (key : κ)
  | cancel
  /-- A timer fires. -/
  | fire (i : Nat)
  | serve (i : Nat) (env : ε)
  | arrive (i : Nat)
  /-- A request fails on its way there or back. -/
  | lose (i : Nat)
  /-- The server's state changes. -/
  | move (server : υ)

def Question.cancel (q : Question κ) : Question κ := { q with cancelled := true }

namespace World

def isCancelled (w : World υ κ st) (g : Nat) : Bool :=
  match w.questions[g]? with
  | some q => q.cancelled
  | none => true

/-- The request failed: unless the question is cancelled, the timer is set. -/
def failed (w : World υ κ st) (i g : Nat) : World υ κ st :=
  { w with out := if w.isCancelled g then w.out.eraseIdx i else w.out.set i (g, .timer) }

end World

section

variable (p : Asker ε υ κ st) [DecidableEq st]

/-- A response has arrived: unless the question is cancelled it is shown, and a
pending one sets the timer. -/
def received (w : World υ κ st) (i g : Nat) (status : st) : World υ κ st :=
  if w.isCancelled g then { w with out := w.out.eraseIdx i }
  else if status = p.pending then { w with shown := some status, out := w.out.set i (g, .timer) }
  else { w with shown := some status, out := w.out.eraseIdx i }

def next (w : World υ κ st) : Label ε υ κ → Option (World υ κ st)
  | .ask key =>
      some { w with
        questions := w.questions.map Question.cancel ++ [⟨key, false⟩]
        out := w.out ++ [(w.questions.length, .sent)] }
  | .cancel => some { w with questions := w.questions.map Question.cancel }
  | .fire i =>
      match w.out[i]? with
      | some (g, .timer) => some { w with out := w.out.set i (g, .sent) }
      | _ => none
  | .serve i env =>
      match w.out[i]? with
      | some (g, .sent) =>
          w.questions[g]?.map fun q =>
            { w with out := w.out.set i (g, .answered (p.answer env w.server q.key)) }
      | _ => none
  | .arrive i =>
      match w.out[i]? with
      | some (g, .answered (some status)) => some (p.received w i g status)
      | some (g, .answered none) => some (w.failed i g)
      | _ => none
  | .lose i =>
      match w.out[i]? with
      | some (g, .sent) | some (g, .answered _) => some (w.failed i g)
      | _ => none
  | .move server => some { w with server := server }

/-- The client beside the server. -/
def steps : Steps (World υ κ st) (Label ε υ κ) where
  next := p.next

/-- Nothing asked yet. -/
def World.start (server : υ) : World υ κ st where
  server := server
  shown := none
  questions := []
  out := []

/-- What one step does. -/
inductive Step (w : World υ κ st) : Label ε υ κ → World υ κ st → Prop
  | ask (key : κ) : Step w (.ask key) { w with
      questions := w.questions.map Question.cancel ++ [⟨key, false⟩]
      out := w.out ++ [(w.questions.length, .sent)] }
  | cancel : Step w .cancel { w with questions := w.questions.map Question.cancel }
  | fire {i g : Nat} (h : w.out[i]? = some (g, .timer)) :
      Step w (.fire i) { w with out := w.out.set i (g, .sent) }
  | serve {i g : Nat} {env : ε} {q : Question κ} (h : w.out[i]? = some (g, .sent))
      (hq : w.questions[g]? = some q) : Step w (.serve i env)
        { w with out := w.out.set i (g, .answered (p.answer env w.server q.key)) }
  | received {i g : Nat} {status : st} (h : w.out[i]? = some (g, .answered (some status))) :
      Step w (.arrive i) (p.received w i g status)
  | failed {l : Label ε υ κ} {i g : Nat} {c : Callback st} (h : w.out[i]? = some (g, c)) :
      Step w l (w.failed i g)
  | move (server : υ) : Step w (.move server) { w with server := server }

variable {p} {w w' : World υ κ st} {l : Label ε υ κ}

theorem step_cases (h : p.steps.next w l = some w') : p.Step w l w' := by
  change p.next w l = some w' at h
  cases l with
  | ask key =>
      cases h
      exact .ask key
  | cancel =>
      cases h
      exact .cancel
  | fire i =>
      simp only [next] at h
      split at h
      · rename_i g hout
        cases h
        exact .fire hout
      · cases h
  | serve i env =>
      simp only [next] at h
      split at h
      · rename_i g hout
        obtain ⟨q, hq, rfl⟩ := Option.map_eq_some_iff.mp h
        exact .serve hout hq
      · cases h
  | arrive i =>
      simp only [next] at h
      split at h
      · rename_i g status hout
        cases h
        exact .received hout
      · rename_i g hout
        cases h
        exact .failed hout
      · cases h
  | lose i =>
      simp only [next] at h
      split at h
      · rename_i g hout
        cases h
        exact .failed hout
      · rename_i g response hout
        cases h
        exact .failed hout
      · cases h
  | move server =>
      cases h
      exact .move server

/-! ## Callbacks -/

end

section

variable {w : World υ κ st} {i g : Nat} {c c' : Callback st}

theorem isCancelled_eq_false :
    w.isCancelled g = false ↔ ∃ q, w.questions[g]? = some q ∧ q.cancelled = false := by
  unfold World.isCancelled
  cases w.questions[g]? with
  | none => simp
  | some q => simp

theorem getElem?_cancel {qs : List (Question κ)} {q : Question κ}
    (h : (qs.map Question.cancel)[g]? = some q) :
    q.cancelled = true ∧ ∃ q', qs[g]? = some q' ∧ q'.key = q.key := by
  rw [List.getElem?_map] at h
  obtain ⟨q', hq', rfl⟩ := Option.map_eq_some_iff.mp h
  exact ⟨rfl, q', hq', rfl⟩

/-- The questions that a callback is to come for. -/
def World.asking (w : World υ κ st) : List Nat := w.out.map Prod.fst

theorem mem_asking (h : w.out[i]? = some (g, c)) : g ∈ w.asking :=
  List.mem_map_of_mem (List.mem_of_getElem? h)

/-- A callback that is replaced stays its question's. -/
theorem map_fst_set {out : List (Nat × Callback st)} (h : out[i]? = some (g, c)) :
    (out.set i (g, c')).map Prod.fst = out.map Prod.fst := by
  obtain ⟨hlt, hget⟩ := List.getElem?_eq_some_iff.mp h
  rw [List.map_set]
  refine List.ext_getElem (by simp) fun j hj hj' => ?_
  rw [List.getElem_set]
  split
  · rename_i heq
    subst heq
    rw [List.getElem_map, hget]
  · rfl

/-- Only the callback's own question loses it. -/
theorem mem_asking_eraseIdx {out : List (Nat × Callback st)} (h : out[i]? = some (g, c)) {g' : Nat}
    (hg : g' ≠ g) : g' ∈ (out.eraseIdx i).map Prod.fst ↔ g' ∈ out.map Prod.fst := by
  simp only [List.mem_map]
  constructor
  · rintro ⟨e, he, rfl⟩
    exact ⟨e, List.mem_of_mem_eraseIdx he, rfl⟩
  · rintro ⟨e, he, rfl⟩
    obtain ⟨j, hj⟩ := List.mem_iff_getElem?.mp he
    refine ⟨e, List.mem_eraseIdx_iff_getElem?.mpr ⟨j, ?_, hj⟩, rfl⟩
    rintro rfl
    rw [h] at hj
    cases hj
    exact hg rfl

/-- Every callback to come will find its question cancelled. -/
def World.Quiet (w : World υ κ st) : Prop := ∀ g ∈ w.asking, w.isCancelled g = true

end

/-! ## What is shown -/

section

variable (p : Asker ε υ κ st) (status : υ → κ → Option st)

/-- The server's statuses move only away from nothing or from pending. -/
def Settles (v v' : υ) : Prop :=
  ∀ key, status v' key = status v key ∨ status v key = none ∨ status v key = some p.pending

/-- The steps of a server whose statuses settle once. -/
def Moves (w : World υ κ st) : Label ε υ κ → Prop
  | .move v => p.Settles status w.server v
  | _ => True

/-- One callback at most is to come for a question, only the last question is not
cancelled, final answers on their way are the server's, and where no callback is
to come for a question that is not cancelled its final status is shown. -/
structure Sound (w : World υ κ st) : Prop where
  once : w.asking.Nodup
  known : ∀ g ∈ w.asking, g < w.questions.length
  last : ∀ g q, w.questions[g]? = some q → q.cancelled = false → g + 1 = w.questions.length
  past : ∀ g x, (g, .answered (some x)) ∈ w.out → x ≠ p.pending →
    ∃ q, w.questions[g]? = some q ∧ status w.server q.key = some x
  alive : ∀ g q, w.questions[g]? = some q → q.cancelled = false →
    g ∈ w.asking ∨ ∃ x, w.shown = some x ∧ x ≠ p.pending ∧ status w.server q.key = some x

variable {p status} {w w' : World υ κ st} {i g : Nat} {c : Callback st}

theorem Settles.final {v v' : υ} (h : p.Settles status v v') {key : κ} {x : st}
    (hv : status v key = some x) (hx : x ≠ p.pending) : status v' key = some x := by
  rcases h key with h | h | h
  · rw [h, hv]
  · rw [h] at hv
    cases hv
  · rw [h] at hv
    cases hv
    exact absurd rfl hx

theorem sound_start (v : υ) : p.Sound status (.start v) where
  once := List.nodup_nil
  known _ hg := absurd hg List.not_mem_nil
  last _ _ hq := by simp [World.start] at hq
  past _ _ hmem := absurd hmem List.not_mem_nil
  alive _ _ hq := by simp [World.start] at hq

/-- There is one question that is not cancelled. -/
theorem Sound.unique (h : p.Sound status w) (hg : w.isCancelled g = false) {g' : Nat}
    {q : Question κ} (hq : w.questions[g']? = some q) (hlive : q.cancelled = false) : g' = g := by
  obtain ⟨q', hq', hlive'⟩ := isCancelled_eq_false.mp hg
  have hlast := h.last g q' hq' hlive'
  have hlast' := h.last g' q hq hlive
  omega

/-- A question has one callback. -/
theorem Sound.callback_unique (h : p.Sound status w) {j : Nat} {c' : Callback st}
    (hi : w.out[i]? = some (g, c)) (hj : w.out[j]? = some (g, c')) : i = j := by
  have hi' : w.asking[i]? = some g := by
    rw [World.asking, List.getElem?_map, hi]
    rfl
  have hj' : w.asking[j]? = some g := by
    rw [World.asking, List.getElem?_map, hj]
    rfl
  exact (List.getElem?_inj (List.getElem?_eq_some_iff.mp hi').1 h.once).mp (hi'.trans hj'.symm)

/-- Without a callback for it, the last question leaves nothing to come. -/
theorem Sound.quiet (h : p.Sound status w) (hlive : w.isCancelled g = false) (hg : g ∉ w.asking) :
    w.Quiet := by
  intro g' hg'
  cases hlive' : w.isCancelled g' with
  | true => rfl
  | false =>
      obtain ⟨q, hq, hqlive⟩ := isCancelled_eq_false.mp hlive'
      rw [h.unique hlive hq hqlive] at hg'
      exact absurd hg' hg

/-- A callback is replaced by another one of its question. -/
theorem Sound.replace (h : p.Sound status w) (hout : w.out[i]? = some (g, c)) {c' : Callback st}
    {shown : Option st} (hshown : shown = w.shown ∨ w.isCancelled g = false)
    (hnew : ∀ x, c' = .answered (some x) → x ≠ p.pending →
      ∃ q, w.questions[g]? = some q ∧ status w.server q.key = some x) :
    p.Sound status { w with shown := shown, out := w.out.set i (g, c') } where
  once := by
    rw [World.asking, map_fst_set hout]
    exact h.once
  known g' hg' := by
    rw [World.asking, map_fst_set hout] at hg'
    exact h.known g' hg'
  last := h.last
  past g' x hmem hx := by
    rcases List.mem_or_eq_of_mem_set hmem with hmem | heq
    · exact h.past g' x hmem hx
    · cases heq
      exact hnew x rfl hx
  alive g' q hq hlive := by
    rw [World.asking, map_fst_set hout]
    rcases hshown with rfl | hg
    · exact h.alive g' q hq hlive
    · rw [h.unique hg hq hlive]
      exact .inl (mem_asking hout)

/-- A callback of a cancelled question is over, or the last one of a question that
now shows its final status. -/
theorem Sound.erase (h : p.Sound status w) (hout : w.out[i]? = some (g, c)) {shown : Option st}
    (hshown : (w.isCancelled g = true ∧ shown = w.shown) ∨ (w.isCancelled g = false ∧
      ∃ x q, shown = some x ∧ x ≠ p.pending ∧ w.questions[g]? = some q ∧
        status w.server q.key = some x)) :
    p.Sound status { w with shown := shown, out := w.out.eraseIdx i } where
  once := by
    have hsub : (w.out.eraseIdx i).Sublist w.out := List.eraseIdx_sublist _ _
    exact h.once.sublist (hsub.map _)
  known g' hg' := by
    obtain ⟨e, he, rfl⟩ := List.mem_map.mp hg'
    exact h.known _ (List.mem_map_of_mem (List.mem_of_mem_eraseIdx he))
  last := h.last
  past g' x hmem hx := h.past g' x (List.mem_of_mem_eraseIdx hmem) hx
  alive g' q hq hlive := by
    rcases hshown with ⟨hg, rfl⟩ | ⟨hg, x, q', hshown, hx, hq', hstatus⟩
    · have hne : g' ≠ g := by
        rintro rfl
        have hlive' : w.isCancelled g' = false := isCancelled_eq_false.mpr ⟨q, hq, hlive⟩
        rw [hlive'] at hg
        cases hg
      rw [World.asking, mem_asking_eraseIdx hout hne]
      exact h.alive g' q hq hlive
    · have heq := h.unique hg hq hlive
      subst heq
      rw [hq] at hq'
      cases hq'
      exact .inr ⟨x, hshown, hx, hstatus⟩

theorem Sound.ask (h : p.Sound status w) (key : κ) : p.Sound status { w with
    questions := w.questions.map Question.cancel ++ [⟨key, false⟩]
    out := w.out ++ [(w.questions.length, .sent)] } where
  once := by
    rw [World.asking, List.map_append, List.nodup_append]
    refine ⟨h.once, List.nodup_singleton _, fun a ha b hb => ?_⟩
    have hlt := h.known a ha
    rw [List.mem_singleton.mp hb]
    exact Nat.ne_of_lt hlt
  known g hg := by
    rw [World.asking, List.map_append] at hg
    rw [List.length_append, List.length_map, List.length_singleton]
    rcases List.mem_append.mp hg with hg | hg
    · have hlt := h.known g hg
      omega
    · rw [List.mem_singleton.mp hg]
      exact Nat.lt_succ_self _
  last g q hq hlive := by
    rw [List.length_append, List.length_map, List.length_singleton]
    rcases Nat.lt_or_ge g w.questions.length with hlt | hge
    · rw [List.getElem?_append_left (by simpa using hlt)] at hq
      rw [(getElem?_cancel hq).1] at hlive
      cases hlive
    · obtain ⟨hlt, -⟩ := List.getElem?_eq_some_iff.mp hq
      rw [List.length_append, List.length_map, List.length_singleton] at hlt
      omega
  past g x hmem hx := by
    rcases List.mem_append.mp hmem with hmem | hmem
    · obtain ⟨q, hq, hstatus⟩ := h.past g x hmem hx
      have hlt := (List.getElem?_eq_some_iff.mp hq).1
      refine ⟨q.cancel, ?_, hstatus⟩
      rw [List.getElem?_append_left (by simpa using hlt), List.getElem?_map, hq]
      rfl
    · simp at hmem
  alive g q hq hlive := by
    rcases Nat.lt_or_ge g w.questions.length with hlt | hge
    · rw [List.getElem?_append_left (by simpa using hlt)] at hq
      rw [(getElem?_cancel hq).1] at hlive
      cases hlive
    · obtain ⟨hlt, -⟩ := List.getElem?_eq_some_iff.mp hq
      rw [List.length_append, List.length_map, List.length_singleton] at hlt
      have heq : g = w.questions.length := by omega
      subst heq
      left
      simp [World.asking]

theorem Sound.cancel (h : p.Sound status w) :
    p.Sound status { w with questions := w.questions.map Question.cancel } where
  once := h.once
  known g hg := by
    rw [List.length_map]
    exact h.known g hg
  last g q hq hlive := by
    rw [(getElem?_cancel hq).1] at hlive
    cases hlive
  past g x hmem hx := by
    obtain ⟨q, hq, hstatus⟩ := h.past g x hmem hx
    refine ⟨q.cancel, ?_, hstatus⟩
    rw [List.getElem?_map, hq]
    rfl
  alive g q hq hlive := by
    rw [(getElem?_cancel hq).1] at hlive
    cases hlive

theorem Sound.move (h : p.Sound status w) {v : υ} (hv : p.Settles status w.server v) :
    p.Sound status { w with server := v } where
  once := h.once
  known := h.known
  last := h.last
  past g x hmem hx := by
    obtain ⟨q, hq, hstatus⟩ := h.past g x hmem hx
    exact ⟨q, hq, hv.final hstatus hx⟩
  alive g q hq hlive := by
    rcases h.alive g q hq hlive with hg | ⟨x, hshown, hx, hstatus⟩
    · exact .inl hg
    · exact .inr ⟨x, hshown, hx, hv.final hstatus hx⟩

theorem Sound.failed (h : p.Sound status w) (hout : w.out[i]? = some (g, c)) :
    p.Sound status (w.failed i g) := by
  unfold World.failed
  cases hg : w.isCancelled g with
  | true => exact h.erase hout (.inl ⟨hg, rfl⟩)
  | false => exact h.replace hout (.inl rfl) fun x hx => nomatch hx

variable [DecidableEq st] {l : Label ε υ κ}

theorem Sound.received (h : p.Sound status w) {x : st}
    (hout : w.out[i]? = some (g, .answered (some x))) :
    p.Sound status (p.received w i g x) := by
  unfold Asker.received
  cases hg : w.isCancelled g with
  | true => exact h.erase hout (.inl ⟨hg, rfl⟩)
  | false =>
      by_cases hx : x = p.pending
      · simp only [hx, if_true, Bool.false_eq_true, if_false]
        exact h.replace hout (.inr hg) fun y hy => nomatch hy
      · simp only [hx, Bool.false_eq_true, if_false]
        obtain ⟨q, hq, hstatus⟩ := h.past g x (List.mem_of_getElem? hout) hx
        exact h.erase hout (.inr ⟨hg, x, q, rfl, hx, hq, hstatus⟩)

/-- One step keeps a sound world. -/
theorem Sound.step (hanswer : ∀ env v key x, p.answer env v key = some x → status v key = some x)
    (h : p.Sound status w) (hok : p.Moves status w l) (hn : p.steps.next w l = some w') :
    p.Sound status w' := by
  cases step_cases hn with
  | ask key => exact h.ask key
  | cancel => exact h.cancel
  | fire hout => exact h.replace hout (.inl rfl) fun x hx => nomatch hx
  | @serve i g env q hout hq =>
      refine h.replace hout (.inl rfl) fun x hx _ => ⟨q, hq, ?_⟩
      exact hanswer env w.server q.key x (Callback.answered.inj hx)
  | received hout => exact h.received hout
  | failed hout => exact h.failed hout
  | move v => exact h.move hok

theorem Sound.run (hanswer : ∀ env v key x, p.answer env v key = some x → status v key = some x)
    {a b : World υ κ st} (h : p.Sound status a) (hr : p.steps.Run (p.Moves status) a b) :
    p.Sound status b :=
  hr.keeps h fun _ _ _ hb hok hn => hb.step hanswer hok hn

/-! ## Nothing more comes, and nothing is stuck -/

/-- **What is shown stays**, once every callback to come finds its question
cancelled, until something else is asked. -/
theorem Quiet.step (h : w.Quiet) (hl : ∀ key, l ≠ .ask key) (hn : p.steps.next w l = some w') :
    w'.Quiet ∧ w'.shown = w.shown := by
  -- a callback to come is replaced or over, and its question stays cancelled
  have replace : ∀ {i g : Nat} {c c' : Callback st}, w.out[i]? = some (g, c) →
      World.Quiet { w with out := w.out.set i (g, c') } := by
    intro i g c c' hout g' hg'
    rw [World.asking, map_fst_set hout] at hg'
    exact h g' hg'
  have erase : ∀ {i : Nat}, World.Quiet { w with out := w.out.eraseIdx i } := by
    intro i g' hg'
    obtain ⟨e, he, rfl⟩ := List.mem_map.mp hg'
    exact h _ (List.mem_map_of_mem (List.mem_of_mem_eraseIdx he))
  cases step_cases hn with
  | ask key => exact absurd rfl (hl key)
  | cancel =>
      refine ⟨fun g _ => ?_, rfl⟩
      cases hq : (w.questions.map Question.cancel)[g]? with
      | none => simp [World.isCancelled, hq]
      | some q => simp [World.isCancelled, hq, (getElem?_cancel hq).1]
  | fire hout => exact ⟨replace hout, rfl⟩
  | serve hout _ => exact ⟨replace hout, rfl⟩
  | received hout =>
      simp only [Asker.received, h _ (mem_asking hout), if_true]
      exact ⟨erase, trivial⟩
  | failed hout =>
      simp only [World.failed, h _ (mem_asking hout), if_true]
      exact ⟨erase, trivial⟩
  | move v => exact ⟨h, rfl⟩

/-- **Nothing old is shown**: what is newly shown answers the question that is not
cancelled. -/
theorem shown_step (hn : p.steps.next w l = some w') (hne : w'.shown ≠ w.shown) :
    ∃ i g q x, l = .arrive i ∧ w.out[i]? = some (g, .answered (some x)) ∧
      w.questions[g]? = some q ∧ q.cancelled = false ∧ w'.shown = some x := by
  cases step_cases hn with
  | ask key => exact absurd rfl hne
  | cancel => exact absurd rfl hne
  | fire _ => exact absurd rfl hne
  | serve _ _ => exact absurd rfl hne
  | @received i g x hout =>
      cases hg : w.isCancelled g with
      | true =>
          simp only [Asker.received, hg, if_true] at hne
          exact absurd rfl hne
      | false =>
          obtain ⟨q, hq, hlive⟩ := isCancelled_eq_false.mp hg
          refine ⟨i, g, q, x, rfl, hout, hq, hlive, ?_⟩
          simp only [Asker.received, hg, Bool.false_eq_true, if_false]
          split <;> rfl
  | failed _ => exact absurd rfl hne
  | move _ => exact absurd rfl hne

/-- The steps of the callbacks alone. -/
def Own (_ : World υ κ st) : Label ε υ κ → Prop
  | .fire _ | .serve _ _ | .arrive _ => True
  | _ => False

/-- The final status `x` is shown, and no callback is to come for it. -/
def Finished (w : World υ κ st) (x : st) : Prop := w.shown = some x ∧ w.Quiet

section

variable {q : Question κ} {x : st} {env : ε}

/-- A final answer arrives. -/
theorem finish_answered
    (hanswer : ∀ env v key x, p.answer env v key = some x → status v key = some x)
    (h : p.Sound status w) (hlive : w.isCancelled g = false)
    (hx : x ≠ p.pending) (hout : w.out[i]? = some (g, .answered (some x))) :
    ∃ b, p.steps.Run Own w b ∧ Finished b x := by
  have hnext : p.steps.next w (.arrive i) =
      some { w with shown := some x, out := w.out.eraseIdx i } := by
    simp [steps, next, hout, Asker.received, hlive, hx]
  have hstep : p.Sound status { w with shown := some x, out := w.out.eraseIdx i } :=
    h.step hanswer (show p.Moves status w (.arrive i) from trivial) hnext
  refine ⟨_, Steps.Run.refl.step (show Own w (.arrive i) from trivial) hnext, rfl, ?_⟩
  refine hstep.quiet hlive fun hg => ?_
  -- the question's only callback is the one that has arrived
  obtain ⟨⟨g', c⟩, he, rfl⟩ := List.mem_map.mp hg
  obtain ⟨j, hji, hj⟩ := List.mem_eraseIdx_iff_getElem?.mp he
  exact hji (h.callback_unique hj hout)

/-- A request is answered with the server's final status. -/
theorem finish_sent (hanswer : ∀ env v key x, p.answer env v key = some x → status v key = some x)
    (h : p.Sound status w) (hq : w.questions[g]? = some q) (hlive : q.cancelled = false)
    (hx : x ≠ p.pending) (henv : p.answer env w.server q.key = some x)
    (hout : w.out[i]? = some (g, .sent)) : ∃ b, p.steps.Run Own w b ∧ Finished b x := by
  have hlt := (List.getElem?_eq_some_iff.mp hout).1
  have hnext : p.steps.next w (.serve i env) =
      some { w with out := w.out.set i (g, .answered (some x)) } := by
    simp [steps, next, hout, hq, henv]
  have hstep : p.Sound status { w with out := w.out.set i (g, .answered (some x)) } :=
    h.step hanswer (show p.Moves status w (.serve i env) from trivial) hnext
  have hcancelled : w.isCancelled g = false := isCancelled_eq_false.mpr ⟨q, hq, hlive⟩
  obtain ⟨b, hr, hb⟩ := finish_answered hanswer hstep hcancelled hx (i := i) (by simp [hlt])
  exact ⟨b, (Steps.Run.refl.step (show Own w (.serve i env) from trivial) hnext).trans hr, hb⟩

/-- A timer fires. -/
theorem finish_timer (hanswer : ∀ env v key x, p.answer env v key = some x → status v key = some x)
    (h : p.Sound status w) (hq : w.questions[g]? = some q) (hlive : q.cancelled = false)
    (hx : x ≠ p.pending) (henv : p.answer env w.server q.key = some x)
    (hout : w.out[i]? = some (g, .timer)) : ∃ b, p.steps.Run Own w b ∧ Finished b x := by
  have hlt := (List.getElem?_eq_some_iff.mp hout).1
  have hnext : p.steps.next w (.fire i) = some { w with out := w.out.set i (g, .sent) } := by
    simp [steps, next, hout]
  have hstep : p.Sound status { w with out := w.out.set i (g, .sent) } :=
    h.step hanswer (show p.Moves status w (.fire i) from trivial) hnext
  obtain ⟨b, hr, hb⟩ := finish_sent hanswer hstep hq hlive hx henv (i := i) (by simp [hlt])
  exact ⟨b, (Steps.Run.refl.step (show Own w (.fire i) from trivial) hnext).trans hr, hb⟩

/-- **Nothing is stuck**: once the server's status is final, the callbacks to come
can show it. -/
theorem Sound.finishes (hanswer : ∀ env v key x, p.answer env v key = some x → status v key = some x)
    (h : p.Sound status w) (hq : w.questions[g]? = some q) (hlive : q.cancelled = false)
    (hx : x ≠ p.pending) (henv : p.answer env w.server q.key = some x) :
    ∃ b, p.steps.Run Own w b ∧ Finished b x := by
  have hcancelled : w.isCancelled g = false := isCancelled_eq_false.mpr ⟨q, hq, hlive⟩
  by_cases hg : g ∈ w.asking
  · obtain ⟨⟨g', c⟩, he, rfl⟩ := List.mem_map.mp hg
    obtain ⟨i, hout⟩ := List.mem_iff_getElem?.mp he
    have hlt := (List.getElem?_eq_some_iff.mp hout).1
    -- a request that is over without a final answer has set the timer
    have again : ∀ w', p.steps.next w (.arrive i) = some w' → w'.server = w.server →
        w'.questions = w.questions → w'.out = w.out.set i (g', .timer) →
        ∃ b, p.steps.Run Own w b ∧ Finished b x := by
      intro w' hn hserver hquestions hw'
      have hstep : p.Sound status w' :=
        h.step hanswer (show p.Moves status w (.arrive i) from trivial) hn
      obtain ⟨b, hr, hb⟩ := finish_timer hanswer hstep (hquestions ▸ hq) hlive hx
        (hserver ▸ henv) (i := i) (by simp [hw', hlt])
      exact ⟨b, (Steps.Run.refl.step (show Own w (.arrive i) from trivial) hn).trans hr, hb⟩
    cases c with
    | timer => exact finish_timer hanswer h hq hlive hx henv hout
    | sent => exact finish_sent hanswer h hq hlive hx henv hout
    | answered response =>
        cases response with
        | none =>
            refine again { w with out := w.out.set i (g', .timer) } ?_ rfl rfl rfl
            simp [steps, next, hout, World.failed, hcancelled]
        | some y =>
            by_cases hy : y = p.pending
            · refine again { w with shown := some y, out := w.out.set i (g', .timer) } ?_ rfl rfl rfl
              simp [steps, next, hout, Asker.received, hcancelled, hy]
            · obtain ⟨q', hq', hstatus⟩ := h.past g' y he hy
              rw [hq] at hq'
              cases hq'
              rw [hanswer env w.server q.key x henv] at hstatus
              cases hstatus
              exact finish_answered hanswer h hcancelled hx hout
  · -- no callback is to come: the final status is shown
    rcases h.alive g q hq hlive with hmem | ⟨y, hshown, hy, hstatus⟩
    · exact absurd hmem hg
    · rw [hanswer env w.server q.key x henv] at hstatus
      cases hstatus
      exact ⟨w, .refl, hshown, h.quiet hcancelled hg⟩

end

end

end Asker

end Lib
