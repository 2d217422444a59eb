import StreamingService.Lib.Prog

/-!
# Lib — Machine

Any number of programs over one store, interleaved one statement at a
time. A request begins a thread that runs its handler; a step performs
the next statement of some thread; a thread nobody schedules again is a
crashed one. Every event is recorded in the trace (newest first), so what
a run did can be stated about the state it reached.

Three rules carry the proofs:

* `Run.keeps` — an invariant of the store and the trace that every
  statement keeps, whoever performs it;
* `Run.emits` — facts about one thread's own history (`Prog.Emits`) hold
  in every interleaving;
* `Always.split` — a fact about each event and its past, read off at any
  point of the trace.
-/

namespace Lib

variable {S : Signature} {σ ω Q α : Type}

/-- What a run does, as it is recorded. -/
inductive Event (S : Signature) (Q : Type) : Type where
  | began (tid : Nat) (q : Q)
  | did (tid : Nat) (e : Prog.Entry S)

/-- A request and what is left of its handler. -/
structure Thread (S : Signature) (Q α : Type) : Type where
  request : Q
  prog : Prog S α

/-- The store, every thread begun so far (the index is its identity) and
the trace. -/
structure Sys (S : Signature) (σ Q α : Type) : Type where
  store : σ
  threads : List (Thread S Q α)
  trace : List (Event S Q)

/-- The meaning of the statements, and the handler of each request. -/
structure Machine (S : Signature) (σ ω Q α : Type) : Type where
  exec : Prog.Exec S σ ω
  handle : Q → Prog S α

/-- What the scheduler and the environment choose. -/
inductive Action (ω Q : Type) : Type where
  | begin (q : Q)
  | step (tid : Nat) (o : ω)

/-- The thread's own statements in a trace, newest first. -/
def own (tid : Nat) : List (Event S Q) → List (Prog.Entry S)
  | [] => []
  | .began _ _ :: tr => own tid tr
  | .did t e :: tr => if t = tid then e :: own tid tr else own tid tr

@[simp] theorem own_began (tid t : Nat) (q : Q) (tr : List (Event S Q)) :
    own tid (.began t q :: tr) = own tid tr := rfl

@[simp] theorem own_did_self (tid : Nat) (e : Prog.Entry S) (tr : List (Event S Q)) :
    own tid (.did tid e :: tr) = e :: own tid tr := by
  simp [own]

theorem own_did_ne {tid t : Nat} (h : t ≠ tid) (e : Prog.Entry S)
    (tr : List (Event S Q)) : own tid (.did t e :: tr) = own tid tr := by
  simp [own, h]

theorem mem_own {tid : Nat} {e : Prog.Entry S} {tr : List (Event S Q)} :
    e ∈ own tid tr ↔ Event.did tid e ∈ tr := by
  induction tr with
  | nil => simp [own]
  | cons ev tr ih =>
      cases ev with
      | began t q => simp [ih]
      | did t e' =>
          by_cases ht : t = tid
          · subst ht
            simp [ih]
          · have hne : ¬ tid = t := fun h => ht h.symm
            simp [own_did_ne ht, ih, hne]

theorem own_append (tid : Nat) (post pre : List (Event S Q)) :
    own tid (post ++ pre) = own tid post ++ own tid pre := by
  induction post with
  | nil => rfl
  | cons ev post ih =>
      cases ev with
      | began t q => exact ih
      | did t e =>
          by_cases ht : t = tid
          · subst ht
            simp [ih]
          · simp [own_did_ne ht, ih]

/-- A cut of a thread's statements is a cut of the trace. -/
theorem own_split {tid : Nat} {e : Prog.Entry S} {hpost hpre : List (Prog.Entry S)}
    {tr : List (Event S Q)} (h : own tid tr = hpost ++ e :: hpre) :
    ∃ post pre, tr = post ++ .did tid e :: pre ∧ own tid post = hpost ∧ own tid pre = hpre := by
  induction tr generalizing hpost with
  | nil => simp [own] at h
  | cons ev tr ih =>
      -- an event of another thread, or before the cut, goes to the later part
      have later : ∀ {hpost' : List (Prog.Entry S)}, own tid tr = hpost' ++ e :: hpre →
          own tid [ev] ++ hpost' = hpost →
          ∃ post pre, ev :: tr = post ++ .did tid e :: pre ∧ own tid post = hpost ∧
            own tid pre = hpre := by
        intro hpost' htail heq
        obtain ⟨post, pre, rfl, hpo, hpr⟩ := ih htail
        exact ⟨ev :: post, pre, rfl, by rw [← heq, ← hpo]; exact own_append tid [ev] post, hpr⟩
      cases ev with
      | began t q => exact later h rfl
      | did t e' =>
          by_cases ht : t = tid
          · subst ht
            rw [own_did_self] at h
            cases hpost with
            | nil =>
                obtain ⟨rfl, rfl⟩ := List.cons.inj h
                exact ⟨[], tr, rfl, rfl, rfl⟩
            | cons e₁ hpost =>
                obtain ⟨rfl, htail⟩ := List.cons.inj h
                exact later htail (by simp [own])
          · rw [own_did_ne ht] at h
            exact later h (by simp [own, ht])

/-- Where an element of a cut list lies. -/
theorem mem_split {ε : Type} {post pre : List ε} {ev ev' : ε} (h : ev ∈ post ++ ev' :: pre) :
    (∃ p₁ p₂, post = p₁ ++ ev :: p₂) ∨ ev = ev' ∨ ev ∈ pre := by
  rcases List.mem_append.mp h with h | h
  · exact .inl (List.append_of_mem h)
  · rcases List.mem_cons.mp h with h | h
    · exact .inr (.inl h)
    · exact .inr (.inr h)

/-- Every event of the trace satisfies `J` against the events before it. -/
def Always (J : Event S Q → List (Event S Q) → Prop) : List (Event S Q) → Prop
  | [] => True
  | e :: tr => J e tr ∧ Always J tr

/-- An event that never repeats a key of an earlier one is the only event with
its key. -/
theorem Always.unique {κ : Type} {J : Event S Q → List (Event S Q) → Prop}
    (key : Event S Q → Option κ)
    (hJ : ∀ ev pre, J ev pre → ∀ k, key ev = some k → ∀ ev' ∈ pre, key ev' ≠ some k)
    {tr : List (Event S Q)} (h : Always J tr) {ev ev' : Event S Q} (hev : ev ∈ tr)
    (hev' : ev' ∈ tr) {k : κ} (hk : key ev = some k) (hk' : key ev' = some k) : ev = ev' := by
  induction tr with
  | nil => cases hev
  | cons e tr ih =>
      rcases List.mem_cons.mp hev with rfl | hmem <;> rcases List.mem_cons.mp hev' with rfl | hmem'
      · rfl
      · exact absurd hk' (hJ _ _ h.1 k hk _ hmem')
      · exact absurd hk (hJ _ _ h.1 k hk' _ hmem)
      · exact ih h.2 hmem hmem'

/-- Keys that never repeat are listed without repetition. -/
theorem Always.nodup {κ : Type} {J : Event S Q → List (Event S Q) → Prop}
    (key : Event S Q → Option κ)
    (hJ : ∀ ev pre, J ev pre → ∀ k, key ev = some k → ∀ ev' ∈ pre, key ev' ≠ some k)
    {tr : List (Event S Q)} (h : Always J tr) : (tr.filterMap key).Nodup := by
  induction tr with
  | nil => exact List.nodup_nil
  | cons e tr ih =>
      cases hk : key e with
      | none =>
          rw [List.filterMap_cons_none hk]
          exact ih h.2
      | some k =>
          rw [List.filterMap_cons_some hk, List.nodup_cons]
          refine ⟨fun hmem => ?_, ih h.2⟩
          obtain ⟨ev', hev', hk'⟩ := List.mem_filterMap.mp hmem
          exact hJ e tr h.1 k hk ev' hev' hk'

theorem Always.split {J : Event S Q → List (Event S Q) → Prop}
    {post pre : List (Event S Q)} {e : Event S Q} (h : Always J (post ++ e :: pre)) :
    J e pre := by
  induction post with
  | nil => exact h.1
  | cons _ _ ih => exact ih h.2

/-- Each event knows where in the whole list it is. -/
theorem Always.along {J : Event S Q → List (Event S Q) → Prop} {tr tr' : List (Event S Q)}
    (h : Always J tr) (hsub : tr <:+ tr') :
    Always (fun e pre => J e pre ∧ e :: pre <:+ tr') tr := by
  induction tr with
  | nil => trivial
  | cons e tr ih => exact ⟨⟨h.1, hsub⟩, ih h.2 ((List.suffix_cons e tr).trans hsub)⟩

/-- The statement a step of thread `tid` is about to perform. -/
def Sys.pending (sys : Sys S σ Q α) (tid : Nat) : Option S.Cmd :=
  match sys.threads[tid]? with
  | some ⟨_, .call c _⟩ => some c
  | _ => none

theorem Sys.pending_thread {sys : Sys S σ Q α} {tid : Nat} {c : S.Cmd}
    (h : sys.pending tid = some c) :
    ∃ (q : Q) (k : Except S.Err (S.Resp c) → Prog S α), sys.threads[tid]? = some ⟨q, .call c k⟩ := by
  unfold Sys.pending at h
  split at h
  · rename_i q c' k hth
    cases h
    exact ⟨q, k, hth⟩
  · cases h

namespace Machine

variable (m : Machine S σ ω Q α)

/-- A store with no request in it yet. -/
def start (s : σ) : Sys S σ Q α := ⟨s, [], []⟩

/-- One action; `none` when the thread does not exist or has ended. -/
def next (sys : Sys S σ Q α) : Action ω Q → Option (Sys S σ Q α)
  | .begin q =>
      some ⟨sys.store, sys.threads ++ [⟨q, m.handle q⟩],
        .began sys.threads.length q :: sys.trace⟩
  | .step tid o =>
      match sys.threads[tid]? with
      | some ⟨q, .call c k⟩ =>
          some ⟨(m.exec o c sys.store).2,
            sys.threads.set tid ⟨q, k (m.exec o c sys.store).1⟩,
            .did tid ⟨c, (m.exec o c sys.store).1⟩ :: sys.trace⟩
      | _ => none

/-- **What an action can do**: begin a thread, or perform one statement of
one thread. -/
theorem next_cases {a b : Sys S σ Q α} {act : Action ω Q} (h : m.next a act = some b) :
    (∃ q, act = .begin q ∧ b = ⟨a.store, a.threads ++ [⟨q, m.handle q⟩],
        .began a.threads.length q :: a.trace⟩) ∨
    (∃ tid o q c k, act = .step tid o ∧ a.threads[tid]? = some ⟨q, .call c k⟩ ∧
      b = ⟨(m.exec o c a.store).2, a.threads.set tid ⟨q, k (m.exec o c a.store).1⟩,
        .did tid ⟨c, (m.exec o c a.store).1⟩ :: a.trace⟩) := by
  cases act with
  | begin q =>
      simp only [next, Option.some.injEq] at h
      exact .inl ⟨q, rfl, h.symm⟩
  | step tid o =>
      simp only [next] at h
      split at h
      · rename_i q c k hth
        simp only [Option.some.injEq] at h
        exact .inr ⟨tid, o, q, c, k, rfl, hth, h.symm⟩
      · cases h

/-! ## Runs -/

/-- The states a run reaches from `a` through actions that `ok` admits. -/
inductive Run (ok : Sys S σ Q α → Action ω Q → Prop) (a : Sys S σ Q α) :
    Sys S σ Q α → Prop
  | refl : Run ok a a
  | step {b c : Sys S σ Q α} {act : Action ω Q} :
      Run ok a b → ok b act → m.next b act = some c → Run ok a c

variable {m}

theorem Run.trans {ok : Sys S σ Q α → Action ω Q → Prop} {a b c : Sys S σ Q α}
    (hab : m.Run ok a b) (hbc : m.Run ok b c) : m.Run ok a c := by
  induction hbc with
  | refl => exact hab
  | step _ hok hn ih => exact ih.step hok hn

theorem Run.mono {ok ok' : Sys S σ Q α → Action ω Q → Prop} {a b : Sys S σ Q α}
    (h : ∀ s act, ok s act → ok' s act) (hr : m.Run ok a b) : m.Run ok' a b := by
  induction hr with
  | refl => exact .refl
  | step _ hok hn ih => exact ih.step (h _ _ hok) hn

/-- **A property that is never regained**: it holds at the end of a run exactly
when every step of the run meets the condition to keep it. -/
theorem Run.holds_iff {ok K : Sys S σ Q α → Action ω Q → Prop} {J : Sys S σ Q α → Prop}
    {a b : Sys S σ Q α} (hK : ∀ s act, K s act → ok s act) (ha : J a)
    (hlost : ∀ c act d, m.next c act = some d → J d → J c)
    (hstep : ∀ c act d, m.Run ok a c → J c → m.next c act = some d → (J d ↔ K c act))
    (hr : m.Run ok a b) : J b ↔ m.Run K a b := by
  constructor
  · intro hb
    induction hr with
    | refl => exact .refl
    | @step c d act hr _ hn ih =>
        have hc := hlost c act d hn hb
        exact (ih hc).step ((hstep c act d hr hc hn).mp hb) hn
  · intro hrK
    clear hr
    induction hrK with
    | refl => exact ha
    | @step c d act hrK hk hn ih => exact (hstep c act d (hrK.mono hK) ih hn).mpr hk

/-- **The invariant rule**, for a property of the store and the trace: it
is kept when a thread begins and by every statement. -/
theorem Run.keeps {ok : Sys S σ Q α → Action ω Q → Prop}
    {I : σ → List (Event S Q) → Prop} {a b : Sys S σ Q α}
    (hbegin : ∀ s tr tid q, I s tr → I s (.began tid q :: tr))
    (hdid : ∀ sys tid o c, I sys.store sys.trace → ok sys (.step tid o) →
      sys.pending tid = some c →
      I (m.exec o c sys.store).2 (.did tid ⟨c, (m.exec o c sys.store).1⟩ :: sys.trace))
    (ha : I a.store a.trace) (hr : m.Run ok a b) : I b.store b.trace := by
  induction hr with
  | refl => exact ha
  | step _ hok hn ih =>
      rcases m.next_cases hn with ⟨q, rfl, rfl⟩ | ⟨tid, o, q, c, k, rfl, hth, rfl⟩
      · exact hbegin _ _ _ _ ih
      · exact hdid _ tid o c ih hok (by simp [Sys.pending, hth])

/-- What has happened stays in the trace. -/
theorem Run.past {ok : Sys S σ Q α → Action ω Q → Prop} {a b : Sys S σ Q α}
    (hr : m.Run ok a b) {ev : Event S Q} (h : ev ∈ a.trace) : ev ∈ b.trace :=
  Run.keeps (I := fun _ tr => ev ∈ tr) (fun _ _ _ _ hmem => List.mem_cons_of_mem _ hmem)
    (fun _ _ _ _ hmem _ _ => List.mem_cons_of_mem _ hmem) h hr

/-- **Cutting a run at an event**: the statement was performed in a state the
run had reached, with the past it has in the trace, and the run went on from
there. -/
theorem Run.cut {ok : Sys S σ Q α → Action ω Q → Prop} {s : σ} {b : Sys S σ Q α}
    (hr : m.Run ok (start s) b) {post pre : List (Event S Q)} {tid : Nat} {e : Prog.Entry S}
    (htr : b.trace = post ++ .did tid e :: pre) :
    ∃ a o c a', m.Run ok (start s) a ∧ a.trace = pre ∧ ok a (.step tid o) ∧
      a.pending tid = some c ∧ e = ⟨c, (m.exec o c a.store).1⟩ ∧
      a'.store = (m.exec o c a.store).2 ∧ a'.trace = .did tid e :: pre ∧ m.Run ok a' b := by
  induction hr generalizing post with
  | refl => exact absurd htr (by simp [start])
  | @step a b act hr hok hn ih =>
      rcases m.next_cases hn with ⟨q, rfl, rfl⟩ | ⟨t, o, q, c, k, rfl, hth, rfl⟩
      · cases post with
        | nil => cases htr
        | cons ev post =>
            obtain ⟨-, htr⟩ := List.cons.inj htr
            obtain ⟨a₁, o, c, a', ha, hpre, hoka, hpend, he, hs, ht, hrest⟩ := ih htr
            exact ⟨a₁, o, c, a', ha, hpre, hoka, hpend, he, hs, ht, hrest.step hok hn⟩
      · cases post with
        | nil =>
            -- the last event: the state before it is the one the run had reached
            obtain ⟨hev, hpre⟩ := List.cons.inj htr
            cases hev
            exact ⟨a, o, c, _, hr, hpre, hok, by simp [Sys.pending, hth], rfl, rfl,
              congrArg _ hpre, .refl⟩
        | cons ev post =>
            obtain ⟨-, htr⟩ := List.cons.inj htr
            obtain ⟨a₁, o₁, c₁, a', ha, hpre, hoka, hpend, he, hs, ht, hrest⟩ := ih htr
            exact ⟨a₁, o₁, c₁, a', ha, hpre, hoka, hpend, he, hs, ht, hrest.step hok hn⟩

/-- What a run adds to the trace was performed in a state on its way. -/
theorem Run.did_since {ok : Sys S σ Q α → Action ω Q → Prop} {a b : Sys S σ Q α}
    (hr : m.Run ok a b) {tid : Nat} {e : Prog.Entry S} (h : Event.did tid e ∈ b.trace)
    (hnew : ¬ Event.did tid e ∈ a.trace) :
    ∃ c o cmd, m.Run ok a c ∧ e = ⟨cmd, (m.exec o cmd c.store).1⟩ ∧ m.Run ok c b := by
  induction hr with
  | refl => exact absurd h hnew
  | @step b c act hr hok hn ih =>
      have earlier (h : Event.did tid e ∈ b.trace) :
          ∃ d o cmd, m.Run ok a d ∧ e = ⟨cmd, (m.exec o cmd d.store).1⟩ ∧ m.Run ok d c := by
        obtain ⟨d, o, cmd, hd, he, hrest⟩ := ih h
        exact ⟨d, o, cmd, hd, he, hrest.step hok hn⟩
      rcases m.next_cases hn with ⟨q, rfl, rfl⟩ | ⟨t, o, q, cmd, k, rfl, hth, rfl⟩
      · rcases List.mem_cons.mp h with h | h
        · cases h
        · exact earlier h
      · rcases List.mem_cons.mp h with h | h
        · cases h
          exact ⟨b, o, cmd, hr, rfl, Run.refl.step hok hn⟩
        · exact earlier h

/-- A run only adds to the trace. -/
theorem Run.trace_suffix {ok : Sys S σ Q α → Action ω Q → Prop} {a b : Sys S σ Q α}
    (hr : m.Run ok a b) : a.trace <:+ b.trace :=
  Run.keeps (I := fun _ tr => a.trace <:+ tr) (fun _ _ _ _ h => h.trans (List.suffix_cons _ _))
    (fun _ _ _ _ h _ _ => h.trans (List.suffix_cons _ _)) (List.suffix_refl _) hr

/-- **The rule of answers**: what an answer says when it is given, and every
statement keeps, still holds of every answer of a run. -/
theorem Run.answers {ok : Sys S σ Q α → Action ω Q → Prop} {K : σ → Prog.Entry S → Prop}
    (hnow : ∀ o c s, K (m.exec o c s).2 ⟨c, (m.exec o c s).1⟩)
    (hlater : ∀ o c s e, K s e → K (m.exec o c s).2 e) {s : σ} {b : Sys S σ Q α}
    (hr : m.Run ok (start s) b) : ∀ tid e, Event.did tid e ∈ b.trace → K b.store e := by
  refine Run.keeps (I := fun s tr => ∀ tid e, Event.did tid e ∈ tr → K s e) ?_ ?_
    (fun _ _ hmem => absurd hmem List.not_mem_nil) hr
  · intro s tr tid q h t e hmem
    rcases List.mem_cons.mp hmem with heq | hmem
    · cases heq
    · exact h t e hmem
  · intro sys tid o c h _ _ t e hmem
    rcases List.mem_cons.mp hmem with heq | hmem
    · cases heq
      exact hnow o c sys.store
    · exact hlater o c sys.store e (h t e hmem)

/-! ## The threads of a run -/

/-- A thread after a beginning: one of those before, or the new one. -/
theorem begun_cases {ths : List (Thread S Q α)} {new th : Thread S Q α} {tid : Nat}
    (h : (ths ++ [new])[tid]? = some th) :
    ths[tid]? = some th ∨ (tid = ths.length ∧ th = new) := by
  rcases Nat.lt_or_ge tid ths.length with hlt | hge
  · rw [List.getElem?_append_left hlt] at h
    exact .inl h
  · rw [List.getElem?_append_right hge, List.getElem?_singleton] at h
    split at h
    · cases h
      exact .inr ⟨by omega, rfl⟩
    · cases h

/-- What links the threads of a state to its trace: each thread was begun
by an event of the trace, no event names a thread that does not exist,
and every thread's history satisfies what its handler emits. -/
structure Recorded (P : Q → List (Prog.Entry S) → Prog.Entry S → Prop)
    (R : Q → Except S.Err α → List (Prog.Entry S) → Prop) (sys : Sys S σ Q α) : Prop where
  began : ∀ tid (th : Thread S Q α), sys.threads[tid]? = some th → Event.began tid th.request ∈ sys.trace
  fresh : ∀ tid, sys.threads.length ≤ tid → own tid sys.trace = [] ∧
    ∀ q, ¬ Event.began tid q ∈ sys.trace
  thread : ∀ tid q, Event.began tid q ∈ sys.trace →
    ∃ th : Thread S Q α, sys.threads[tid]? = some th ∧ th.request = q
  emits : ∀ tid (th : Thread S Q α), sys.threads[tid]? = some th →
    th.prog.Emits (P th.request) (R th.request) (own tid sys.trace)
  past : Always (fun ev pre => match ev with
    | .began tid _ => own tid pre = [] ∧ ∀ q, ¬ Event.began tid q ∈ pre
    | .did tid e => ∃ q, Event.began tid q ∈ pre ∧ P q (own tid pre) e) sys.trace

variable {P : Q → List (Prog.Entry S) → Prog.Entry S → Prop}
  {R : Q → Except S.Err α → List (Prog.Entry S) → Prop}

theorem Recorded.start (s : σ) : Recorded P R (start s : Sys S σ Q α) where
  began := by intro tid th h; simp [Machine.start] at h
  fresh := by intro tid _; simp [Machine.start, own]
  thread := by intro tid q h; simp [Machine.start] at h
  emits := by intro tid th h; simp [Machine.start] at h
  past := trivial

theorem Recorded.begin {a : Sys S σ Q α} (h : Recorded P R a) (q : Q)
    (hq : (m.handle q).Emits (P q) (R q) []) :
    Recorded P R ⟨a.store, a.threads ++ [⟨q, m.handle q⟩],
      .began a.threads.length q :: a.trace⟩ where
  began := by
    intro tid th hth
    rcases begun_cases hth with hth | ⟨rfl, rfl⟩
    · exact List.mem_cons_of_mem _ (h.began tid th hth)
    · exact List.mem_cons_self
  fresh := by
    intro tid hle
    simp only [List.length_append, List.length_singleton] at hle
    obtain ⟨hown, hno⟩ := h.fresh tid (by omega)
    refine ⟨hown, ?_⟩
    intro q' hmem
    rcases List.mem_cons.mp hmem with heq | hmem
    · cases heq
      omega
    · exact hno q' hmem
  thread := by
    intro tid q' hmem
    rcases List.mem_cons.mp hmem with heq | hmem
    · cases heq
      exact ⟨⟨q, m.handle q⟩, by simp, rfl⟩
    · obtain ⟨th, hth, hreq⟩ := h.thread tid q' hmem
      have hlt := (List.getElem?_eq_some_iff.mp hth).1
      exact ⟨th, by simp [List.getElem?_append_left hlt, hth], hreq⟩
  emits := by
    intro tid th hth
    rw [own_began]
    rcases begun_cases hth with hth | ⟨rfl, rfl⟩
    · exact h.emits tid th hth
    · rw [(h.fresh _ (Nat.le_refl _)).1]
      exact hq
  past := ⟨h.fresh _ (Nat.le_refl _), h.past⟩

theorem Recorded.did {a : Sys S σ Q α} (h : Recorded P R a) {tid : Nat} {q : Q}
    {c : S.Cmd} {k : Except S.Err (S.Resp c) → Prog S α}
    (hth : a.threads[tid]? = some ⟨q, .call c k⟩) (r : Except S.Err (S.Resp c)) (s : σ) :
    Recorded P R ⟨s, a.threads.set tid ⟨q, k r⟩, .did tid ⟨c, r⟩ :: a.trace⟩ := by
  have hlt := (List.getElem?_eq_some_iff.mp hth).1
  have hem := h.emits tid _ hth
  have hbeg : Event.began tid q ∈ a.trace := h.began tid _ hth
  refine ⟨?_, ?_, ?_, ?_, ?_, h.past⟩
  · intro t th ht
    by_cases htt : tid = t
    · subst htt
      rw [List.getElem?_set_self hlt] at ht
      cases ht
      exact List.mem_cons_of_mem _ hbeg
    · rw [List.getElem?_set_ne htt] at ht
      exact List.mem_cons_of_mem _ (h.began t th ht)
  · intro t hle
    simp only [List.length_set] at hle
    obtain ⟨hown, hno⟩ := h.fresh t hle
    refine ⟨by rw [own_did_ne (by omega)]; exact hown, ?_⟩
    intro q' hmem
    rcases List.mem_cons.mp hmem with heq | hmem
    · cases heq
    · exact hno q' hmem
  · intro t q' hmem
    rcases List.mem_cons.mp hmem with heq | hmem
    · cases heq
    · obtain ⟨th, ht, hreq⟩ := h.thread t q' hmem
      by_cases htt : tid = t
      · subst htt
        rw [hth] at ht
        cases ht
        exact ⟨_, List.getElem?_set_self hlt, hreq⟩
      · exact ⟨th, by simp [List.getElem?_set_ne htt, ht], hreq⟩
  · intro t th ht
    by_cases htt : tid = t
    · subst htt
      rw [List.getElem?_set_self hlt] at ht
      cases ht
      rw [own_did_self]
      exact (hem r).2
    · rw [List.getElem?_set_ne htt] at ht
      rw [own_did_ne htt]
      exact h.emits t th ht
  · exact ⟨q, hbeg, (hem r).1⟩

/-- **Histories survive interleaving**: when every handler emits `P` and
ends in `R` on its own, every thread of every run does. -/
theorem Run.emits {ok : Sys S σ Q α → Action ω Q → Prop} {s : σ} {b : Sys S σ Q α}
    (hP : ∀ q, (m.handle q).Emits (P q) (R q) []) (hr : m.Run ok (start s) b) :
    Recorded P R b := by
  induction hr with
  | refl => exact .start s
  | step _ _ hn ih =>
      rcases m.next_cases hn with ⟨q, -, rfl⟩ | ⟨tid, o, q, c, k, -, hth, rfl⟩
      · exact ih.begin q (hP q)
      · exact ih.did hth _ _

/-- **The rule of threads**: what holds of every handler before its first
statement, and is kept by whatever a statement answers, holds of what is left
of each thread against the thread's history. -/
theorem Run.threads {ok : Sys S σ Q α → Action ω Q → Prop}
    {J : Q → Prog S α → List (Prog.Entry S) → Prop} (hbegin : ∀ q, J q (m.handle q) [])
    (hdid : ∀ q c k h r, J q (.call c k) h → J q (k r) (⟨c, r⟩ :: h)) {s : σ} {b : Sys S σ Q α}
    (hr : m.Run ok (start s) b) :
    ∀ tid th, b.threads[tid]? = some th → J th.request th.prog (own tid b.trace) := by
  induction hr with
  | refl =>
      intro tid th hth
      simp [start] at hth
  | step hr _ hn ih =>
      rcases m.next_cases hn with ⟨q, -, rfl⟩ | ⟨t, o, q, c, k, -, ht, rfl⟩
      · intro tid th hth
        rw [own_began]
        rcases begun_cases hth with hth | ⟨rfl, rfl⟩
        · exact ih tid th hth
        · -- nothing has been performed under the new identity
          have hrec := Run.emits (fun q => Prog.Emits.always (m.handle q) []) hr
          rw [(hrec.fresh _ (Nat.le_refl _)).1]
          exact hbegin q
      · intro tid th hth
        by_cases htid : t = tid
        · subst htid
          rw [List.getElem?_set_self (List.getElem?_eq_some_iff.mp ht).1] at hth
          cases hth
          rw [own_did_self]
          exact hdid q c k _ _ (ih t _ ht)
        · rw [List.getElem?_set_ne htid] at hth
          rw [own_did_ne htid]
          exact ih tid th hth

/-- What the pending statement of a thread owes to the thread's earlier ones. -/
theorem Run.owes {ok : Sys S σ Q α → Action ω Q → Prop} {s : σ} {b : Sys S σ Q α}
    (hP : ∀ q, (m.handle q).Emits (P q) (R q) []) (hr : m.Run ok (start s) b) {tid : Nat} {q : Q}
    {c : S.Cmd} {k : Except S.Err (S.Resp c) → Prog S α}
    (hth : b.threads[tid]? = some ⟨q, .call c k⟩) (r : Except S.Err (S.Resp c)) :
    P q (own tid b.trace) ⟨c, r⟩ :=
  ((Run.emits hP hr).emits tid _ hth r).1

/-- **The invariant rule with the handlers' histories**: a beginning meets
the condition, and a statement owes what its handler emits. -/
theorem Run.keeps_along {ok : Sys S σ Q α → Action ω Q → Prop}
    {I : σ → List (Event S Q) → Prop} {s : σ} {b : Sys S σ Q α}
    (hP : ∀ q, (m.handle q).Emits (P q) (R q) [])
    (hbegin : ∀ sys q, m.Run ok (start s) sys → I sys.store sys.trace → ok sys (.begin q) →
      I sys.store (.began sys.threads.length q :: sys.trace))
    (hdid : ∀ sys tid o q c k, m.Run ok (start s) sys → I sys.store sys.trace →
      ok sys (.step tid o) → sys.threads[tid]? = some ⟨q, .call c k⟩ →
      P q (own tid sys.trace) ⟨c, (m.exec o c sys.store).1⟩ →
      I (m.exec o c sys.store).2 (.did tid ⟨c, (m.exec o c sys.store).1⟩ :: sys.trace))
    (hs : I s []) (hr : m.Run ok (start s) b) : I b.store b.trace := by
  induction hr with
  | refl => exact hs
  | step hr hok hn ih =>
      rcases m.next_cases hn with ⟨q, rfl, rfl⟩ | ⟨tid, o, q, c, k, rfl, hth, rfl⟩
      · exact hbegin _ q hr ih hok
      · exact hdid _ tid o q c k hr ih hok hth (Run.owes hP hr hth _)

/-- What is asked of every request at its beginning holds of every one that has
begun. -/
theorem Run.began_of_ok {ok : Sys S σ Q α → Action ω Q → Prop} {J : Q → Prop}
    (hJ : ∀ sys q, ok sys (.begin q) → J q) {s : σ} {b : Sys S σ Q α}
    (hr : m.Run ok (start s) b) {tid : Nat} {q : Q} (hq : Event.began tid q ∈ b.trace) : J q := by
  refine Run.keeps_along (m := m) (P := fun _ _ _ => True) (R := fun _ _ _ => True)
    (I := fun _ tr => ∀ tid q, Event.began tid q ∈ tr → J q) (fun q => .always _ _) ?_ ?_
    (fun _ _ hmem => absurd hmem List.not_mem_nil) hr tid q hq
  · intro sys q _ h hok tid q' hmem
    rcases List.mem_cons.mp hmem with heq | hmem
    · cases heq
      exact hJ sys q hok
    · exact h tid q' hmem
  · intro sys tid o q c k _ h _ _ _ tid' q' hmem
    rcases List.mem_cons.mp hmem with heq | hmem
    · cases heq
    · exact h tid' q' hmem

/-- A thread handles one request. -/
theorem Recorded.request {a : Sys S σ Q α} (h : Recorded P R a) {tid : Nat} {q q' : Q}
    (hq : Event.began tid q ∈ a.trace) (hq' : Event.began tid q' ∈ a.trace) : q = q' := by
  obtain ⟨th, hth, rfl⟩ := h.thread tid q hq
  obtain ⟨th', hth', rfl⟩ := h.thread tid q' hq'
  rw [hth] at hth'
  cases hth'
  rfl

/-- What a statement of a thread whose request is known owes to the thread's
earlier ones. -/
theorem Recorded.at_split {a : Sys S σ Q α} (h : Recorded P R a) {tid : Nat} {q : Q}
    {e : Prog.Entry S} {post pre : List (Event S Q)} (hq : Event.began tid q ∈ a.trace)
    (htr : a.trace = post ++ .did tid e :: pre) : P q (own tid pre) e := by
  have hpast := h.past
  rw [htr] at hpast
  obtain ⟨q', hq', hP⟩ := hpast.split
  have hmem : Event.began tid q' ∈ a.trace := by
    rw [htr]
    exact List.mem_append_right _ (List.mem_cons_of_mem _ hq')
  rw [h.request hq hmem]
  exact hP

/-- A statement has a thread that was begun. -/
theorem Recorded.did_began {a : Sys S σ Q α} (h : Recorded P R a) {tid : Nat}
    {e : Prog.Entry S} (he : Event.did tid e ∈ a.trace) : ∃ q, Event.began tid q ∈ a.trace := by
  obtain ⟨post, pre, htr⟩ := List.append_of_mem he
  have hpast := h.past
  rw [htr] at hpast
  obtain ⟨q, hq, -⟩ := hpast.split
  exact ⟨q, by rw [htr]; exact List.mem_append_right _ (List.mem_cons_of_mem _ hq)⟩

/-! ## Replay -/

section

variable (ok : Sys S σ Q α → Action ω Q → Prop) [∀ s act, Decidable (ok s act)]

/-- Perform a list of actions in order, as long as `ok` admits them. -/
def replay (m : Machine S σ ω Q α) (a : Sys S σ Q α) :
    List (Action ω Q) → Option (Sys S σ Q α)
  | [] => some a
  | act :: rest =>
      if ok a act then (m.next a act).bind fun b => m.replay b rest else none

variable {ok}

theorem replay_run {acts : List (Action ω Q)} {a b : Sys S σ Q α}
    (h : m.replay ok a acts = some b) : m.Run ok a b := by
  induction acts generalizing a with
  | nil =>
      simp only [replay, Option.some.injEq] at h
      subst h
      exact .refl
  | cons act rest ih =>
      simp only [replay] at h
      by_cases hok : ok a act
      · rw [if_pos hok] at h
        obtain ⟨a', hn, h⟩ := Option.bind_eq_some_iff.mp h
        exact (Run.refl.step hok hn).trans (ih h)
      · rw [if_neg hok] at h
        cases h

variable (ok)

/-- A replay that ends in a state with a decidable property reaches one. -/
theorem exists_run_of_replay {a : Sys S σ Q α} (acts : List (Action ω Q))
    (p : Sys S σ Q α → Bool) (h : (m.replay ok a acts).map p = some true) :
    ∃ b, m.Run ok a b ∧ p b = true := by
  obtain ⟨b, hr, hp⟩ := Option.map_eq_some_iff.mp h
  exact ⟨b, replay_run hr, hp⟩

/-- A replay in two parts, with a decidable property of the two states it
reaches. -/
theorem exists_runs_of_replay {s : Sys S σ Q α} (first second : List (Action ω Q))
    (p : Sys S σ Q α → Sys S σ Q α → Bool)
    (h : ((m.replay ok s first).bind fun a => (m.replay ok a second).map (p a)) = some true) :
    ∃ a b, m.Run ok s a ∧ m.Run ok a b ∧ p a b = true := by
  obtain ⟨a, ha, h⟩ := Option.bind_eq_some_iff.mp h
  obtain ⟨b, hb, hp⟩ := exists_run_of_replay ok second (p a) h
  exact ⟨a, b, replay_run ha, hb, hp⟩

end

/-! ## A handler alone -/

/-- The actions that run the last thread of `sys` to its end. -/
theorem run_prog {a : Sys S σ Q α} {q : Q} (p : Prog S α) (os : Nat → ω) (tid : Nat)
    (hth : a.threads[tid]? = some ⟨q, p⟩) :
    ∃ b, m.Run (fun _ _ => True) a b ∧ b.store = p.runStore m.exec os a.store ∧
      b.threads[tid]? = some ⟨q, .done (p.run m.exec os a.store).1⟩ := by
  induction p generalizing a os with
  | done r => exact ⟨a, .refl, rfl, hth⟩
  | call c k ih =>
      -- the first statement is one step; the rest is a program of its own
      have hlt := (List.getElem?_eq_some_iff.mp hth).1
      let a' : Sys S σ Q α := ⟨(m.exec (os 0) c a.store).2,
        a.threads.set tid ⟨q, k (m.exec (os 0) c a.store).1⟩,
        .did tid ⟨c, (m.exec (os 0) c a.store).1⟩ :: a.trace⟩
      have hn : m.next a (.step tid (os 0)) = some a' := by simp [next, hth, a']
      obtain ⟨b, hr, hs, hb⟩ := ih (m.exec (os 0) c a.store).1 (a := a')
        (fun n => os (n + 1)) (List.getElem?_set_self hlt)
      exact ⟨b, (Run.refl.step trivial hn).trans hr, hs, hb⟩

/-- **Running alone is one of the interleavings**: a request handled from
start to end with nothing in between is a run of the machine. -/
theorem run_alone (a : Sys S σ Q α) (q : Q) (os : Nat → ω) :
    ∃ b, m.Run (fun _ _ => True) a b ∧
      b.store = (m.handle q).runStore m.exec os a.store ∧
      b.threads[a.threads.length]? =
        some ⟨q, .done ((m.handle q).run m.exec os a.store).1⟩ := by
  let a' : Sys S σ Q α := ⟨a.store, a.threads ++ [⟨q, m.handle q⟩],
    .began a.threads.length q :: a.trace⟩
  have hn : m.next a (.begin q) = some a' := rfl
  have hth : a'.threads[a.threads.length]? = some ⟨q, m.handle q⟩ := by simp [a']
  obtain ⟨b, hr, hs, hb⟩ := run_prog (m := m) (m.handle q) os a.threads.length hth
  exact ⟨b, (Run.refl.step trivial hn).trans hr, hs, hb⟩

end Machine

end Lib
