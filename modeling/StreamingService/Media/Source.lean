import StreamingService.Media.Assets

/-!
# Media — Source

What an asset's final status speaks about. A job and an upload's completion
carry the source key they have once read, and write their result by the
asset's id alone. A re-upload replaces the key underneath: as long as every
final write meets the key its writer carries, a `READY` or `FAILED` asset
speaks of its current source.
-/

namespace StreamingService

open Lib

/-! ## The condition -/

def Request.job : Request → Option TranscodeJobData
  | .transcode job => some job
  | _ => none

/-- The worker takes its jobs from the queue; a job may be taken again. -/
def queuedJobs (sys : AppState) : Action Ambient Request → Prop
  | .begin q => ∀ job ∈ q.job, job ∈ sys.store.transcodeQueue
  | .step _ _ => True

instance (sys : AppState) (act : Action Ambient Request) : Decidable (queuedJobs sys act) :=
  match act with
  | .begin q => inferInstanceAs (Decidable (∀ job ∈ q.job, job ∈ sys.store.transcodeQueue))
  | .step _ _ => isTrue trivial

/-- The asset an accepted final write names, and the source key its writer
carries. -/
def finalWrite (q : Request) : Prog.Entry Sig → Option (String × String)
  | ⟨.mediaAsset (.setTrailerReady id key), .ok _⟩ => some (id, key)
  | ⟨.mediaAsset (.setReady id _), .ok _⟩ => q.job.map fun job => (id, job.sourceObjectKey)
  | ⟨.mediaAsset (.setFailed id _), .ok _⟩ => q.job.map fun job => (id, job.sourceObjectKey)
  | _ => none

/-- An accepted final write meets a row with the source key its writer carries. -/
def MeetsSource (q : Request) (s : Store) (e : Prog.Entry Sig) : Prop :=
  ∀ w ∈ finalWrite q e, ∀ a ∈ s.mediaAssets.rows, a.id = w.1 → a.sourceObjectKey = w.2

instance (q : Request) (s : Store) (e : Prog.Entry Sig) : Decidable (MeetsSource q s e) :=
  inferInstanceAs (Decidable (∀ w ∈ finalWrite q e, _))

/-- The condition on a step. -/
def writesCurrent (sys : AppState) : Action Ambient Request → Prop
  | .begin _ => True
  | .step tid o => ∀ c ∈ sys.pending tid, ∀ th ∈ sys.threads[tid]?,
      MeetsSource th.request sys.store ⟨c, (exec o c sys.store).1⟩

instance (sys : AppState) (act : Action Ambient Request) : Decidable (writesCurrent sys act) :=
  match act with
  | .begin _ => isTrue trivial
  | .step tid o => inferInstanceAs (Decidable (∀ c ∈ sys.pending tid, ∀ th ∈ sys.threads[tid]?,
      MeetsSource th.request sys.store ⟨c, (exec o c sys.store).1⟩))

/-! ## The claim -/

/-- The thread that last wrote the status of an asset, and what it wrote. -/
def lastWriter (id : String) : Trace → Option (Nat × ProcessingStatus)
  | [] => none
  | .began _ _ :: tr => lastWriter id tr
  | .did tid e :: tr =>
      match assetWrite e with
      | none => lastWriter id tr
      | some w => if w.1 = id then some (tid, w.2) else lastWriter id tr

/-- The status of the asset was written by a job for its current source. -/
def WrittenFor (tr : Trace) (a : MediaAsset) : Prop :=
  ∃ tid job, lastWriter a.id tr = some (tid, a.processingStatus) ∧
    Event.began tid (.transcode job) ∈ tr ∧ job.sourceObjectKey = a.sourceObjectKey

/-- **The final status of every asset speaks about its current source.** -/
def SpeaksOfSource (s : Store) (tr : Trace) : Prop :=
  ∀ a ∈ s.mediaAssets,
    (a.kind = .TRAILER → a.processingStatus = .READY → a.hlsManifestKey = some a.sourceObjectKey) ∧
      (a.kind = .FULL → a.processingStatus = .READY ∨ a.processingStatus = .FAILED →
        WrittenFor tr a)

section

variable {id : String} {tr : Trace} {tid : Nat} {e : Prog.Entry Sig}

theorem lastWriter_kept (hw : ∀ w ∈ assetWrite e, w.1 ≠ id) :
    lastWriter id (.did tid e :: tr) = lastWriter id tr := by
  simp only [lastWriter]
  split
  · rfl
  · rename_i w hwrite
    exact if_neg (hw w hwrite)

theorem lastWriter_wrote {status : ProcessingStatus} (hw : assetWrite e = some (id, status)) :
    lastWriter id (.did tid e :: tr) = some (tid, status) := by
  simp [lastWriter, hw]

theorem WrittenFor.kept {a : MediaAsset} (h : WrittenFor tr a)
    (hw : ∀ w ∈ assetWrite e, w.1 ≠ a.id) : WrittenFor (.did tid e :: tr) a := by
  obtain ⟨t, job, hlast, hbegan, hkey⟩ := h
  exact ⟨t, job, by rw [lastWriter_kept hw]; exact hlast, List.mem_cons_of_mem _ hbegan, hkey⟩

end

/-! ## The path of the handlers -/

/-- What a statement that processes an upload owes to the ones before it: the
kind and the source key of the asset have been read, or the job is the asset's own. -/
def MediaStep (q : Request) (h : List (Prog.Entry Sig)) (e : Prog.Entry Sig) : Prop :=
  match e.1 with
  | .service (.queueAdd job) => ∃ asset : MediaAsset,
      ⟨.mediaAsset (.findById job.mediaAssetId), .ok (some asset)⟩ ∈ h ∧ asset.kind = .FULL ∧
        asset.sourceObjectKey = job.sourceObjectKey
  | .mediaAsset (.setTrailerReady id key) => ∃ asset : MediaAsset,
      ⟨.mediaAsset (.findById id), .ok (some asset)⟩ ∈ h ∧ asset.kind = .TRAILER ∧
        asset.sourceObjectKey = key
  | .mediaAsset (.setReady id _) => ∃ job, q = .transcode job ∧ id = job.mediaAssetId
  | .mediaAsset (.setFailed id _) => ∃ job, q = .transcode job ∧ id = job.mediaAssetId
  | _ => True

theorem MediaStep.of_not_processes {q : Request} {h : List (Prog.Entry Sig)}
    {e : Prog.Entry Sig} (he : e.1.processes = false) : MediaStep q h e := by
  unfold MediaStep
  split <;> first | trivial | (rename_i heq; rw [heq] at he; cases he)

theorem MediaStep.of_job {job : TranscodeJobData} {h : List (Prog.Entry Sig)}
    {e : Prog.Entry Sig} (he : Within (Cmd.ofJob job) e.1) : MediaStep (.transcode job) h e := by
  unfold MediaStep
  split
  all_goals first | trivial | (rename_i heq; rw [heq] at he)
  · cases he
  · cases he
  · exact ⟨job, rfl, by simpa [Within, Cmd.ofJob] using he⟩
  · exact ⟨job, rfl, by simpa [Within, Cmd.ofJob] using he⟩

theorem completeUpload_steps (q : Request) (assetId : String) (h : List (Prog.Entry Sig)) :
    (AdminMediaService.completeUpload assetId).Emits (MediaStep q) (fun _ _ => True) h := by
  refine .perform_bind (fun found => ⟨trivial, ?_⟩) fun e => ⟨trivial, trivial⟩
  match found with
  | none => trivial
  | some asset =>
      refine .perform_bind (fun _ => ⟨trivial, ?_⟩) fun e => ⟨trivial, trivial⟩
      -- what follows depends on the kind the lookup showed
      cases hkind : asset.kind with
      | FULL =>
          exact .perform_bind (fun _ => ⟨⟨asset, by simp, hkind, rfl⟩, trivial⟩)
            fun e => ⟨⟨asset, by simp, hkind, rfl⟩, trivial⟩
      | TRAILER =>
          exact .perform_bind (fun _ => ⟨⟨asset, by simp, hkind, rfl⟩, trivial⟩)
            fun e => ⟨⟨asset, by simp, hkind, rfl⟩, trivial⟩

/-- The path of every request that processes an upload. -/
theorem media_steps (cfg : AppConfig) (q : Request) :
    (handle cfg q).Emits (MediaStep q) (fun _ _ => True) [] := by
  by_cases hq : q.processes = true
  · cases q with
    | completeUpload user assetId =>
        refine .bind (.of_calls (A := fun _ => False) (adminGuard_calls user)
          (fun _ _ hc => hc.elim) fun _ _ => trivial) ?_ fun _ _ _ => trivial
        intro _ h _
        exact .bind (completeUpload_steps _ assetId h) (fun _ _ _ => trivial) fun _ _ _ => trivial
    | transcode job =>
        refine .bind (.of_calls (process_calls job) (fun _ _ hc => .of_job hc) fun _ _ => trivial)
          (fun _ _ _ => trivial) fun _ _ _ => trivial
    | _ => cases hq
  · refine .of_calls (handle_within cfg q) (fun _ _ hc => .of_not_processes ?_) fun _ _ => trivial
    exact Request.processes_of_bounds hc (by simpa using hq)

/-- The source key that a completed upload writes or queues is the one its own lookup of
the asset read. -/
theorem completion_source {cfg : AppConfig} {ok : AppState → Action Ambient Request → Prop}
    {s : Store} {b : AppState} (hr : (app cfg).Run ok (Machine.start s) b) {tid : Nat}
    {c : Cmd} {r : Except Exception c.Resp} (he : Event.did tid ⟨c, r⟩ ∈ b.trace) {id key : String}
    (hwrite : c = .mediaAsset (.setTrailerReady id key) ∨ c = .service (.queueAdd ⟨id, key⟩)) :
    ∃ asset : MediaAsset, asset.sourceObjectKey = key ∧
      (⟨.mediaAsset (.findById id), .ok (some asset)⟩ : Prog.Entry Sig) ∈ own tid b.trace := by
  obtain ⟨post, pre, htr⟩ := List.append_of_mem he
  have hrec := Machine.Run.emits (media_steps cfg) hr
  obtain ⟨q, hq⟩ := hrec.did_began he
  have hstep := hrec.at_split hq htr
  -- what the thread did before stands in the whole trace
  have past : ∀ {e : Prog.Entry Sig}, e ∈ own tid pre → e ∈ own tid b.trace := by
    intro e he
    rw [mem_own, htr]
    exact List.mem_append_right _ (List.mem_cons_of_mem _ (mem_own.mp he))
  rcases hwrite with rfl | rfl
  · obtain ⟨asset, hread, -, hkey⟩ := hstep
    exact ⟨asset, hkey, past hread⟩
  · obtain ⟨asset, hread, -, hkey⟩ := hstep
    exact ⟨asset, hkey, past hread⟩

/-! ## The invariant -/

/-- The job names a stored asset of kind `FULL`. -/
def NamesFull (s : Store) (job : TranscodeJobData) : Prop :=
  ∃ a ∈ s.mediaAssets, a.id = job.mediaAssetId ∧ a.kind = .FULL

theorem NamesFull.mono {s s' : Store} {job : TranscodeJobData} (h : NamesFull s job)
    (hkept : AssetsKept s s') : NamesFull s' job := by
  obtain ⟨a, ha, hid, hkind⟩ := h
  obtain ⟨a', ha', hsame⟩ := hkept a ha
  exact ⟨a', ha', hsame.id.trans hid, hsame.kind.trans hkind⟩

/-- Only the completion of an upload queues a job. -/
theorem exec_queue (o : Ambient) (c : Cmd) (s : Store) {job : TranscodeJobData}
    (hjob : job ∈ (exec o c s).2.transcodeQueue) :
    job ∈ s.transcodeQueue ∨ c = .service (.queueAdd job) := by
  cases c with
  | service c =>
      revert hjob
      apply exec_cases (P := fun out => job ∈ out.2.transcodeQueue →
        job ∈ s.transcodeQueue ∨ Cmd.service c = .service (.queueAdd job)) fun _ => .inl
      cases c with
      | queueAdd job' =>
          intro hjob
          rcases List.mem_append.mp hjob with hjob | hjob
          · exact .inl hjob
          · rw [List.mem_singleton.mp hjob]
            exact .inr rfl
      | _ => exact .inl
  | _ =>
      rw [(exec_frame o s _).transcodeQueue (by simp)] at hjob
      exact .inl hjob

/-- Jobs are for full videos, those in the queue and those begun. -/
structure JobsFull (s : Store) (tr : Trace) : Prop where
  queued : ∀ job ∈ s.transcodeQueue, NamesFull s job
  begun : ∀ tid job, Event.began tid (.transcode job) ∈ tr → NamesFull s job

namespace JobsFull

variable {s s' : Store} {tr : Trace}

theorem start (hqueue : s.transcodeQueue = []) : JobsFull s [] where
  queued := by simp [hqueue]
  begun := by simp

theorem began (h : JobsFull s tr) (tid : Nat) (q : Request)
    (hq : ∀ job ∈ q.job, job ∈ s.transcodeQueue) : JobsFull s (.began tid q :: tr) where
  queued := h.queued
  begun := by
    intro t job hmem
    rcases List.mem_cons.mp hmem with heq | hmem
    · cases heq
      exact h.queued job (hq job rfl)
    · exact h.begun t job hmem

theorem did {tid : Nat} {q : Request} {e : Prog.Entry Sig} (h : JobsFull s tr)
    (hkept : AssetsKept s s')
    (hqueue : ∀ job ∈ s'.transcodeQueue, job ∈ s.transcodeQueue ∨ e.1 = .service (.queueAdd job))
    (hans : ∀ e ∈ own tid tr, AssetAnswer s e) (hstep : MediaStep q (own tid tr) e) :
    JobsFull s' (.did tid e :: tr) where
  queued := by
    intro job hjob
    rcases hqueue job hjob with hjob | hadd
    · exact (h.queued job hjob).mono hkept
    · simp only [MediaStep, hadd] at hstep
      obtain ⟨asset, hread, hkind, -⟩ := hstep
      obtain ⟨⟨a, ha, hsame⟩, hasset⟩ := hans _ hread
      exact NamesFull.mono ⟨a, ha, hsame.id.trans hasset, hsame.kind.trans hkind⟩ hkept
  begun := by
    intro t job hmem
    rcases List.mem_cons.mp hmem with heq | hmem
    · cases heq
    · exact (h.begun t job hmem).mono hkept

end JobsFull

/-- What every state of such a run keeps: jobs are for full videos, and every
final status speaks about the current source. -/
structure SourceInv (s : Store) (tr : Trace) : Prop where
  queued : ∀ job ∈ s.transcodeQueue, NamesFull s job
  begun : ∀ tid job, Event.began tid (.transcode job) ∈ tr → NamesFull s job
  speaks : SpeaksOfSource s tr

namespace SourceInv

variable {s s' : Store} {tr : Trace}

theorem jobsFull (h : SourceInv s tr) : JobsFull s tr := ⟨h.queued, h.begun⟩

theorem start (hassets : s.mediaAssets = .empty) (hqueue : s.transcodeQueue = []) :
    SourceInv s [] where
  queued := (JobsFull.start hqueue).queued
  begun := (JobsFull.start hqueue).begun
  speaks := by
    intro a ha
    rw [hassets] at ha
    exact absurd ha (Table.not_mem_empty a)

theorem began (h : SourceInv s tr) (tid : Nat) (q : Request)
    (hq : ∀ job ∈ q.job, job ∈ s.transcodeQueue) : SourceInv s (.began tid q :: tr) where
  queued := h.queued
  begun := (h.jobsFull.began tid q hq).begun
  speaks := by
    intro a ha
    obtain ⟨htrailer, hfull⟩ := h.speaks a ha
    refine ⟨htrailer, fun hkind hst => ?_⟩
    obtain ⟨t, job, hlast, hbegan, hkey⟩ := hfull hkind hst
    exact ⟨t, job, hlast, List.mem_cons_of_mem _ hbegan, hkey⟩

variable {tid : Nat} {q : Request} {e : Prog.Entry Sig}

/-- The asset a handler has looked up has the kind it had. -/
theorem kind_of_read {id : String} {asset a : MediaAsset} {h : List (Prog.Entry Sig)}
    (hans : ∀ e ∈ h, AssetAnswer s e)
    (hread : ⟨.mediaAsset (.findById id), .ok (some asset)⟩ ∈ h) (ha : a ∈ s.mediaAssets)
    (hid : a.id = id) : a.kind = asset.kind := by
  obtain ⟨hstored, hasset⟩ := hans _ hread
  exact MediaAsset.StoredIn.kind_eq ⟨a, ha, .refl a⟩ hstored (hid.trans hasset.symm)

/-- **One statement keeps it**: the final writes are the cases with something
to prove. -/
theorem did (h : SourceInv s tr) (hkept : AssetsKept s s')
    (hassets : ∀ a' ∈ s'.mediaAssets, AssetStep s a' e)
    (hqueue : ∀ job ∈ s'.transcodeQueue, job ∈ s.transcodeQueue ∨ e.1 = .service (.queueAdd job))
    (hans : ∀ e ∈ own tid tr, AssetAnswer s e) (hq : Event.began tid q ∈ tr)
    (hstep : MediaStep q (own tid tr) e) (hmeets : MeetsSource q s e) :
    SourceInv s' (.did tid e :: tr) where
  queued := (h.jobsFull.did hkept hqueue hans hstep).queued
  begun := (h.jobsFull.did hkept hqueue hans hstep).begun
  speaks := by
    intro a' ha'
    cases hassets a' ha' with
    | kept ha hw =>
        obtain ⟨htrailer, hfull⟩ := h.speaks a' ha
        exact ⟨htrailer, fun hkind hst => (hfull hkind hst).kept hw⟩
    | uploaded hst => simp [hst]
    | reset ha heq => simp [heq]
    | @trailerReady a key ha heq =>
        subst heq
        obtain ⟨asset, hread, hkind, -⟩ := hstep
        have hsource : a.sourceObjectKey = key := hmeets _ rfl a ha rfl
        refine ⟨fun _ _ => by simp [hsource], fun hfull => ?_⟩
        have htrailer := kind_of_read hans hread ha rfl
        rw [hkind, hfull] at htrailer
        cases htrailer
    | @ready a key ha heq =>
        subst heq
        obtain ⟨job, rfl, hid⟩ := hstep
        have hsource : a.sourceObjectKey = job.sourceObjectKey := hmeets _ rfl a ha rfl
        obtain ⟨a₀, ha₀, hid₀, hkind₀⟩ := h.begun tid job hq
        have heq : a₀ = a := mediaAssets_eq_of_id ha₀ ha (hid₀.trans hid.symm)
        subst heq
        refine ⟨fun htrailer => ?_, fun _ _ => ?_⟩
        · rw [hkind₀] at htrailer
          cases htrailer
        · exact ⟨tid, job, lastWriter_wrote rfl, List.mem_cons_of_mem _ hq, hsource.symm⟩
    | @failed a reason ha heq =>
        subst heq
        obtain ⟨job, rfl, hid⟩ := hstep
        have hsource : a.sourceObjectKey = job.sourceObjectKey := hmeets _ rfl a ha rfl
        refine ⟨fun _ hst => (by cases hst), fun _ _ => ?_⟩
        exact ⟨tid, job, lastWriter_wrote rfl, List.mem_cons_of_mem _ hq, hsource.symm⟩

end SourceInv

/-! ## Every run -/

/-- **An asset's final status speaks about its current source** in every run
whose final writes meet the source key their writers carry. -/
theorem final_status_speaks_of_source {cfg : AppConfig} {s : Store} {b : AppState}
    (hassets : s.mediaAssets = .empty) (hqueue : s.transcodeQueue = [])
    (hr : (app cfg).Run (fun sys act => queuedJobs sys act ∧ writesCurrent sys act)
      (Machine.start s) b) : SpeaksOfSource b.store b.trace := by
  have hinv : SourceInv b.store b.trace := by
    refine Machine.Run.keeps_along (media_steps cfg) ?_ ?_ (.start hassets hqueue) hr
    · intro sys q _ h hok
      exact h.began _ q hok.1
    · intro sys tid o q c k hr h hok hth hstep
      have hpend : sys.pending tid = some c := by simp [Sys.pending, hth]
      refine h.did (exec_assetsKept o c sys.store) (fun _ => exec_assetStep o c sys.store)
        (fun _ => exec_queue o c sys.store) ?_
        ((Machine.Run.emits (media_steps cfg) hr).began tid _ hth) hstep (hok.2 c hpend _ hth)
      intro e he
      exact assetAnswers_run hr tid e (mem_own.mp he)
  exact hinv.speaks

/-- The admin creates a movie (thread 0), registers its full video and
completes the upload (threads 1 and 2); a worker takes the job (thread 3). -/
def sampleJob : List (Action Ambient Request) :=
  [.begin (.createTitle (some sampleAdmin) ⟨.MOVIE, "Film", "A film", "poster", []⟩),
    .step 0 ((Ambient.quiet 1).generating "title-1"),
    .begin (.registerMediaAsset (some sampleAdmin) ⟨.TITLE, "title-1", .FULL⟩),
    .step 1 (.quiet 2), .step 1 ((Ambient.quiet 3).generating "u-1"),
    .step 1 ((Ambient.quiet 4).generating "full-1"),
    .begin (.completeUpload (some sampleAdmin) "full-1"), .step 2 (.quiet 5), .step 2 (.quiet 6),
    .step 2 (.quiet 7), .begin (.transcode ⟨"full-1", "sources/title/title-1/full/u-1"⟩)]

/-- The job runs to its end. -/
theorem final_status_speaks_of_source_sample :
    ∃ b : AppState, (b.store.mediaAssets.rows.any fun a =>
      a.kind == .FULL && a.processingStatus == .READY) = true ∧
      SpeaksOfSource b.store b.trace := by
  obtain ⟨b, hr, hb⟩ := Machine.exists_run_of_replay (m := app sampleConfig)
    (a := Machine.start .empty) (fun sys act => queuedJobs sys act ∧ writesCurrent sys act)
    (sampleJob ++ List.replicate 15 (.step 3 (.quiet 8)))
    (fun b => b.store.mediaAssets.rows.any fun a =>
      a.kind == .FULL && a.processingStatus == .READY) (by decide +kernel)
  exact ⟨b, hb, final_status_speaks_of_source rfl rfl hr⟩

/-! ## A replaced upload -/

/-- A full video is `READY`, and the job that says so was for another source. -/
def readyForAnother (b : AppState) : Bool :=
  b.store.mediaAssets.rows.any fun a =>
    a.kind == .FULL && a.processingStatus == .READY && b.trace.all fun ev => match ev with
      | .began tid (.transcode job) =>
          lastWriter a.id b.trace != some (tid, .READY) || job.sourceObjectKey != a.sourceObjectKey
      | _ => true

theorem not_speaksOfSource {b : AppState} (h : readyForAnother b = true) :
    ¬ SpeaksOfSource b.store b.trace := by
  intro hspeaks
  simp only [readyForAnother, List.any_eq_true, Bool.and_eq_true, beq_iff_eq, List.all_eq_true] at h
  obtain ⟨a, ha, ⟨hkind, hst⟩, hother⟩ := h
  obtain ⟨tid, job, hlast, hbegan, hkey⟩ := (hspeaks a ha).2 hkind (.inl hst)
  have hmiss := hother _ hbegan
  simp [hlast, hst, hkey] at hmiss

/-- The video is uploaded anew while its job is at its last step: it ends
`READY`, with the HLS of the upload it replaced. -/
theorem replaced_upload_is_ready :
    ∃ b : AppState, (app sampleConfig).Run queuedJobs (Machine.start .empty) b ∧
      ¬ SpeaksOfSource b.store b.trace := by
  obtain ⟨b, hr, hb⟩ := Machine.exists_run_of_replay (m := app sampleConfig)
    (a := Machine.start .empty) queuedJobs
    (sampleJob ++ List.replicate 14 (.step 3 (.quiet 8)) ++
      [.begin (.registerMediaAsset (some sampleAdmin) ⟨.TITLE, "title-1", .FULL⟩),
        .step 4 (.quiet 9), .step 4 ((Ambient.quiet 10).generating "u-2"), .step 4 (.quiet 11),
        .step 3 (.quiet 12)]) readyForAnother (by decide +kernel)
  exact ⟨b, hr, not_speaksOfSource hb⟩

end StreamingService
