import StreamingService.Auth.Accounts

/-!
# Auth — Authority

Who may change the library. A registration makes a `USER` and nothing makes
an `ADMIN`, so every admin of a run was there at its start. `RolesGuard`
trusts the role in the access token, and the token says what the row says;
so whatever the catalog, the uploads or the queue have become, one of those
admins asked for it, and the worker finished what the queue was given.
-/

namespace StreamingService

open Lib

/-! ## What is an admin's to do -/

/-- A statement that changes the catalog, an upload or the queue. -/
def Cmd.curates : Cmd → Bool
  | .catalog (.createTitle _ _ _ _ _) | .catalog (.updateTitle _ _) => true
  | .catalog (.createSeason _ _) | .catalog (.createEpisode _ _ _ _) => true
  | .catalog (.updateEpisode _ _) | .catalog (.upsertGenre _) => true
  | .mediaAsset (.upsert _ _ _ _) | .mediaAsset (.resetToPending _) => true
  | .mediaAsset (.setTrailerReady _ _) | .service (.queueAdd _) => true
  | _ => false

/-- The asset whose job the statement concludes. -/
def Cmd.concludes : Cmd → Option String
  | .mediaAsset (.setReady id _) | .mediaAsset (.setFailed id _) => some id
  | _ => none

theorem Request.bearer_of_admin {q : Request} {user : Option JwtAccessPayload}
    (h : q.admin = some user) : q.bearer = user := by
  cases q <;> cases h <;> rfl

/-- The capability of what changes the library is an admin's. -/
theorem Reaches.admin {q : Request} {c : Cmd} (h : Reaches q c) (hc : c.curates = true) :
    q.admin.any isAdmin = true := by
  unfold Cmd.curates at hc
  split at hc
  all_goals first
    | cases q <;> first
      | exact (Bool.and_eq_true_iff.mp h).1
      | cases h
    | cases hc

/-- **Behind `RolesGuard`**: what changes the library comes with an admin's token. -/
theorem Reaches.bearer_admin {q : Request} {c : Cmd} (h : Reaches q c) (hc : c.curates = true) :
    ∃ user, q.bearer = some user ∧ user.role = .ADMIN := by
  obtain ⟨user, hq, hadmin⟩ := (Option.any_eq_true _ _).mp (h.admin hc)
  obtain ⟨user, rfl, hrole⟩ := (Option.any_eq_true _ _).mp hadmin
  exact ⟨user, Request.bearer_of_admin hq, beq_iff_eq.mp hrole⟩

/-- What concludes a job, the worker does, for the job's own asset. -/
theorem Reaches.worker {q : Request} {c : Cmd} (h : Reaches q c) {id : String}
    (hc : c.concludes = some id) : ∃ job, q = .transcode job ∧ job.mediaAssetId = id := by
  unfold Cmd.concludes at hc
  split at hc
  all_goals first
    | cases hc
      cases q <;> first
        | exact ⟨_, rfl, (beq_iff_eq.mp h).symm⟩
        | cases h
        | cases (Bool.and_eq_true_iff.mp h).2
    | cases hc

/-! ## The admins -/

theorem insertedUser_role {o : Ambient} {c : Cmd} {s : Store} {u : User}
    (h : insertedUser ⟨c, (exec o c s).1⟩ = some u) : u.role = .USER := by
  unfold insertedUser at h
  split at h
  · rename_i email passwordHash row heq
    obtain ⟨rfl, hok⟩ := Sigma.mk.inj_iff.mp heq
    have hok := eq_of_heq hok
    cases h
    rw [exec_of_ok hok] at hok
    simp only [answer, AccountStmt.answer] at hok
    split at hok
    · cases hok
    · cases Except.ok.inj hok
      rfl
  · cases h

/-- **Nothing makes an admin.** -/
theorem exec_newcomers (o : Ambient) (c : Cmd) {s : Store} {u : User}
    (hu : u ∈ (exec o c s).2.users) : u ∈ s.users ∨ u.role = .USER := by
  obtain ⟨u', rfl, hold | hnew⟩ := (users_grow o c s).origin hu
  · exact .inl hold
  · exact .inr (insertedUser_role (Option.mem_toList.mp hnew))

section

variable {cfg : AppConfig} {ok : AppState → Action Ambient Request → Prop} {s : Store} {b : AppState}

theorem admins_run (hr : (app cfg).Run ok (Machine.start s) b) {u : User} (hu : u ∈ b.store.users)
    (hrole : u.role = .ADMIN) : u ∈ s.users := by
  refine Machine.Run.keeps (m := app cfg)
    (I := fun s' _ => ∀ u ∈ s'.users, u.role = .ADMIN → u ∈ s.users) (fun _ _ _ _ h => h) ?_
    (fun _ hu _ => hu) hr u hu hrole
  intro sys tid o c h _ _ u hu hrole
  rcases exec_newcomers o c hu with hu | huser
  · exact h u hu hrole
  · rw [huser] at hrole
    cases hrole

/-- A request that comes with an admin's token, and the admin was there from the
start. -/
def AdminRequest (s : Store) (q : Request) : Prop :=
  ∃ u ∈ s.users, u.role = .ADMIN ∧ q.bearer = some u.payload

theorem adminRequest_of_curates (hok : ∀ sys act, ok sys act → authentic sys act)
    (hr : (app cfg).Run ok (Machine.start s) b) {tid : Nat} {e : Prog.Entry Sig}
    (he : Event.did tid e ∈ b.trace) (hc : e.1.curates = true) :
    ∃ q, Event.began tid q ∈ b.trace ∧ AdminRequest s q := by
  obtain ⟨post, pre, htr⟩ := List.append_of_mem he
  obtain ⟨q, hq, hreaches⟩ := reaches_run hr htr
  have hq : Event.began tid q ∈ b.trace := by
    rw [htr]
    exact List.mem_append_right _ (List.mem_cons_of_mem _ hq)
  obtain ⟨user, huser, hrole⟩ := hreaches.bearer_admin hc
  obtain ⟨u, hu, rfl⟩ := bearer_stored hok hr hq huser
  exact ⟨q, hq, u, admins_run hr hu hrole, hrole, huser⟩

/-- The job of a request was queued: at the start, or by a statement since. -/
theorem job_queued (hok : ∀ sys act, ok sys act → authentic sys act)
    (hr : (app cfg).Run ok (Machine.start s) b) {tid : Nat} {q : Request}
    (hq : Event.began tid q ∈ b.trace) {job : TranscodeJobData} (hjob : q.job = some job) :
    job ∈ s.transcodeQueue ∨ ∃ tid' e, Event.did tid' e ∈ b.trace ∧ queuedJob e = some job := by
  have hqueued : job ∈ b.store.transcodeQueue := by
    refine Machine.Run.keeps_along (m := app cfg) (P := fun _ _ _ => True) (R := fun _ _ _ => True)
      (I := fun s tr => ∀ tid q, Event.began tid q ∈ tr → ∀ job ∈ q.job, job ∈ s.transcodeQueue)
      (fun q => .always _ _) ?_ ?_ (fun _ _ hmem => absurd hmem List.not_mem_nil) hr tid q hq job hjob
    · intro sys q _ h hbegin tid q' hmem job hjob
      rcases List.mem_cons.mp hmem with heq | hmem
      · cases heq
        exact (hok _ _ hbegin).2 job hjob
      · exact h tid q' hmem job hjob
    · intro sys tid o q c k _ h _ _ _ t q' hmem job hjob
      rcases List.mem_cons.mp hmem with heq | hmem
      · cases heq
      · show job ∈ (exec o c sys.store).2.transcodeQueue
        rw [queue_grows]
        exact List.mem_append_left _ (h t q' hmem job hjob)
  obtain ⟨post, htr, hrows⟩ := queue_run hr
  rw [hrows] at hqueued
  have htr : b.trace = post := htr.trans (List.append_nil _)
  rcases List.mem_append.mp hqueued with hold | hnew
  · exact .inl hold
  · rw [htr]
    exact .inr (mem_rowsOf.mp hnew)

/-! ## What is left alone -/

/-- The library: the catalog, the uploads and the queue. -/
structure SameContents (s s' : Store) : Prop where
  titles : s'.titles = s.titles
  titleGenres : s'.titleGenres = s.titleGenres
  genres : s'.genres = s.genres
  seasons : s'.seasons = s.seasons
  episodes : s'.episodes = s.episodes
  mediaAssets : s'.mediaAssets = s.mediaAssets
  transcodeQueue : s'.transcodeQueue = s.transcodeQueue

theorem SameContents.refl (s : Store) : SameContents s s := ⟨rfl, rfl, rfl, rfl, rfl, rfl, rfl⟩

theorem SameContents.trans {s s' s'' : Store} (h : SameContents s s') (h' : SameContents s' s'') :
    SameContents s s'' where
  titles := h'.titles.trans h.titles
  titleGenres := h'.titleGenres.trans h.titleGenres
  genres := h'.genres.trans h.genres
  seasons := h'.seasons.trans h.seasons
  episodes := h'.episodes.trans h.episodes
  mediaAssets := h'.mediaAssets.trans h.mediaAssets
  transcodeQueue := h'.transcodeQueue.trans h.transcodeQueue

/-- The other statements leave the library alone. -/
theorem exec_sameContents (o : Ambient) {c : Cmd} (hc : c.curates = false) (hw : c.concludes = none)
    (s : Store) : SameContents s (exec o c s).2 := by
  refine exec_cases (P := fun out => SameContents s out.2) (fun _ => .refl s) ?_
  cases c with
  | now => exact .refl s
  | transaction c =>
      simp only [answer]
      rw [transaction_frame]
      exact ⟨rfl, rfl, rfl, rfl, rfl, rfl, rfl⟩
  | subscription c =>
      simp only [answer]
      rw [subscription_frame]
      exact ⟨rfl, rfl, rfl, rfl, rfl, rfl, rfl⟩
  | account c =>
      simp only [answer]
      rw [account_frame]
      exact ⟨rfl, rfl, rfl, rfl, rfl, rfl, rfl⟩
  | catalog c => cases c <;> first | exact .refl s | cases hc
  | mediaAsset c =>
      cases c <;> first
        | exact .refl s
        | exact Bool.noConfusion hc
        | simp [Cmd.concludes] at hw
  | service c => cases c <;> first | exact .refl s | cases hc

theorem contents_run (hr : (app cfg).Run ok (Machine.start s) b)
    (hquiet : ∀ tid (e : Prog.Entry Sig), Event.did tid e ∈ b.trace →
      e.1.curates = false ∧ e.1.concludes = none) : SameContents s b.store := by
  refine Machine.Run.keeps (m := app cfg) (I := fun s' tr => (∀ tid (e : Prog.Entry Sig),
    Event.did tid e ∈ tr → e.1.curates = false ∧ e.1.concludes = none) → SameContents s s')
    ?_ ?_ (fun _ => .refl s) hr hquiet
  · intro s' tr tid q h hquiet
    exact h fun t e he => hquiet t e (List.mem_cons_of_mem _ he)
  · intro sys tid o c h _ _ hquiet
    obtain ⟨hc, hw⟩ := hquiet tid _ List.mem_cons_self
    exact (h fun t e he => hquiet t e (List.mem_cons_of_mem _ he)).trans
      (exec_sameContents o hc hw sys.store)

/-! ## Whose library it is -/

/-- Everything done to the library is an admin's doing, of those there from the
start, or the worker's; and without a request of either it stays as it was. -/
structure Authority (s : Store) (b : AppState) : Prop where
  admins : ∀ u ∈ b.store.users, u.role = .ADMIN → u ∈ s.users
  curated : ∀ tid (e : Prog.Entry Sig), Event.did tid e ∈ b.trace → e.1.curates = true →
    ∃ q, Event.began tid q ∈ b.trace ∧ AdminRequest s q
  concluded : ∀ tid (e : Prog.Entry Sig) id, Event.did tid e ∈ b.trace → e.1.concludes = some id →
    ∃ job, Event.began tid (.transcode job) ∈ b.trace ∧ job.mediaAssetId = id ∧
      (job ∈ s.transcodeQueue ∨
        ∃ tid' e', Event.did tid' e' ∈ b.trace ∧ queuedJob e' = some job)
  untouched : (∀ tid q, Event.began tid q ∈ b.trace → ¬ AdminRequest s q) →
    (∀ tid job, Event.began tid (.transcode job) ∉ b.trace) → SameContents s b.store

/-- **No privilege is gained**: when nobody but the backend signs access tokens,
every run of requests leaves the library in the hands of the admins it found. -/
theorem authority_stays_with_admins
    (hr : (app cfg).Run authentic (Machine.start s) b) : Authority s b := by
  have hok : ∀ sys act, authentic sys act → authentic sys act := fun _ _ h => h
  have curated := fun tid (e : Prog.Entry Sig) (he : Event.did tid e ∈ b.trace) =>
    adminRequest_of_curates hok hr he
  have concluded : ∀ tid (e : Prog.Entry Sig) id, Event.did tid e ∈ b.trace →
      e.1.concludes = some id → ∃ job, Event.began tid (.transcode job) ∈ b.trace ∧
        job.mediaAssetId = id ∧ (job ∈ s.transcodeQueue ∨
          ∃ tid' e', Event.did tid' e' ∈ b.trace ∧ queuedJob e' = some job) := by
    intro tid e id he hc
    obtain ⟨post, pre, htr⟩ := List.append_of_mem he
    obtain ⟨q, hq, hreaches⟩ := reaches_run hr htr
    obtain ⟨job, rfl, hid⟩ := hreaches.worker hc
    have hq : Event.began tid (.transcode job) ∈ b.trace := by
      rw [htr]
      exact List.mem_append_right _ (List.mem_cons_of_mem _ hq)
    exact ⟨job, hq, hid, job_queued hok hr hq rfl⟩
  refine ⟨fun u hu hrole => admins_run hr hu hrole, curated, concluded, ?_⟩
  intro hnone hidle
  refine contents_run hr fun tid e he => ⟨?_, ?_⟩
  · by_contra hc
    obtain ⟨q, hq, hadmin⟩ := curated tid e he (by simpa using hc)
    exact hnone tid q hq hadmin
  · cases hc : e.1.concludes with
    | none => rfl
    | some id =>
        obtain ⟨job, hq, -, -⟩ := concluded tid e id he hc
        exact absurd hq (hidle tid job)

/-- A database with its admin, as the seed leaves it. -/
def sampleSeeded : Store :=
  { Store.empty with users := ⟨[⟨"admin-1", "admin@example.com", "hash", .ADMIN⟩], by decide⟩ }

/-- The admin logs in. -/
def sampleAdminLogin : List (Action Ambient Request) :=
  [.begin (.login "admin@example.com" "a-password"), .step 0 (.quiet 1), .step 0 (.quiet 2),
    .step 0 (.quiet 3), .step 0 ((Ambient.quiet 4).generating "token-1"), .step 0 (.quiet 5),
    .step 0 ((Ambient.quiet 6).generating "rt-1")]

/-- The admin logs in and creates a title. -/
theorem authority_stays_with_admins_sample : ∃ b : AppState, Authority sampleSeeded b ∧
    b.store.titles.rows.length = 1 := by
  obtain ⟨b, hr, hb⟩ := Machine.exists_run_of_replay (m := app sampleConfig)
    (a := Machine.start sampleSeeded) authentic
    (sampleAdminLogin ++ [.begin (.createTitle (some sampleAdmin)
      { type := .MOVIE, name := "A film", description := "", posterUrl := "", genres := [] }),
      .step 1 ((Ambient.quiet 7).generating "title-1")])
    (fun b => b.store.titles.rows.length == 1) (by decide +kernel)
  exact ⟨b, authority_stays_with_admins hr, beq_iff_eq.mp hb⟩

end

end StreamingService
