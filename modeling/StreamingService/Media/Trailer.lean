import StreamingService.Catalog.Structure
import StreamingService.Media.Playback
import StreamingService.Media.Upload

/-!
# Media — Trailer

What the free route can open. A trailer is signed for the key of a trailer's
upload: only the completion of a trailer's upload writes a trailer's manifest
key, jobs are for full videos, and the keys name the kind they were made for.
-/

namespace StreamingService

open Lib

/-! ## The keys -/

/-- The key of an upload of this kind, its suffix one segment. -/
def SourceKey (kind : MediaKind) (key : String) : Prop :=
  ∃ ownerType ownerId uuid, '/' ∉ uuid.toList ∧
    key = AdminMediaService.sourceObjectKey ⟨ownerType, ownerId, kind⟩ uuid

/-- The folder of an upload: owner and kind. -/
def sourceFolder (dto : AdminMediaService.RegisterMediaAssetDto) : String :=
  "sources/" ++ dto.ownerType.toLowerCase ++ "/" ++ dto.ownerId ++ "/" ++ dto.kind.toLowerCase

theorem sourceObjectKey_toList (dto : AdminMediaService.RegisterMediaAssetDto) (uuid : String) :
    (AdminMediaService.sourceObjectKey dto uuid).toList =
      (sourceFolder dto).toList ++ '/' :: uuid.toList := by
  simp [AdminMediaService.sourceObjectKey, sourceFolder, String.toList_append]

/-- The folder ends in the kind. -/
theorem sourceFolder_getLast (dto : AdminMediaService.RegisterMediaAssetDto) :
    (sourceFolder dto).toList.getLast? = dto.kind.toLowerCase.toList.getLast? := by
  rw [sourceFolder, String.toList_append, List.getLast?_append]
  cases dto.kind <;> rfl

/-- A text is split at its last separator in one way. -/
theorem eq_of_last_segment {sep : Char} {l l' u v : List Char} (hu : sep ∉ u) (hv : sep ∉ v)
    (h : l ++ sep :: u = l' ++ sep :: v) : l = l' := by
  rcases List.append_eq_append_iff.mp h with ⟨m, rfl, hm⟩ | ⟨m, rfl, hm⟩
  · cases m with
    | nil => simp
    | cons c m =>
        obtain ⟨-, rfl⟩ := List.cons.inj hm
        exact absurd (by simp) hu
  · cases m with
    | nil => simp
    | cons c m =>
        obtain ⟨-, rfl⟩ := List.cons.inj hm
        exact absurd (by simp) hv

/-- A key is of one kind, whoever the owners are. -/
theorem SourceKey.kind_eq {kind kind' : MediaKind} {key : String} (h : SourceKey kind key)
    (h' : SourceKey kind' key) : kind = kind' := by
  obtain ⟨ownerType, ownerId, uuid, hplain, rfl⟩ := h
  obtain ⟨ownerType', ownerId', uuid', hplain', hkey⟩ := h'
  have hchars := congrArg String.toList hkey
  rw [sourceObjectKey_toList, sourceObjectKey_toList] at hchars
  have hlast := congrArg List.getLast? (eq_of_last_segment hplain hplain' hchars)
  rw [sourceFolder_getLast, sourceFolder_getLast] at hlast
  dsimp only at hlast
  cases kind <;> cases kind' <;> first | rfl | exact absurd hlast (by decide)

/-- An upload is not stored among the outputs. -/
theorem SourceKey.not_output {kind : MediaKind} {key rest : String} (h : SourceKey kind key) :
    key ≠ "hls/" ++ rest := by
  obtain ⟨ownerType, ownerId, uuid, -, rfl⟩ := h
  intro hkey
  have hhead := congrArg (fun key : String => key.toList.head?) hkey
  simp [AdminMediaService.sourceObjectKey, String.toList_append] at hhead

/-! ## The path of the handlers -/

/-- What a job puts where: its outputs beneath its asset's id. -/
def OutputOf (job : TranscodeJobData) : Cmd → Prop
  | .service (.putObject _ key) => ∃ rest, key = "hls/" ++ job.mediaAssetId ++ "/" ++ rest
  | .mediaAsset (.setReady id key) => key = TranscodeProcessor.manifestKey id
  | _ => True

section

variable (job : TranscodeJobData)

theorem uploadEntries_outputs (localDir name : String) (entries : List String) :
    (TranscodeProcessor.uploadEntries localDir ("hls/" ++ job.mediaAssetId ++ "/" ++ name)
      entries).Calls (OutputOf job) := by
  induction entries with
  | nil => trivial
  | cons entry rest ih =>
      refine .perform_bind ⟨name ++ "/" ++ entry, ?_⟩ fun _ => ih
      simp [String.append_assoc]

theorem transcodeAll_outputs (workDir sourcePath : String)
    (renditions : List TranscodeProcessor.Rendition) :
    (TranscodeProcessor.transcodeAll job.mediaAssetId workDir sourcePath renditions).Calls
      (OutputOf job) := by
  induction renditions with
  | nil => trivial
  | cons rendition rest ih =>
      refine .bind ?_ fun _ => .bind ?_ fun _ => ih
      · exact .perform_bind trivial fun _ => ⟨trivial, fun _ => trivial⟩
      · exact .perform_bind trivial fun entries => uploadEntries_outputs job _ _ entries

theorem process_outputs : (TranscodeProcessor.process job).Calls (OutputOf job) := by
  have cleanup : ∀ workDir : String, Prog.Calls (OutputOf job)
      (stmt (.service (.removeDir workDir)) : App Unit) := fun _ => ⟨trivial, fun _ => trivial⟩
  refine .perform_bind trivial fun workDir => ?_
  refine .bind (.catchErr (.catchErr ?_ fun err => ⟨trivial, fun _ => trivial⟩) fun err => ?_)
    fun _ => .bind (cleanup workDir) fun _ => trivial
  · refine .bind (.perform_bind trivial fun body => ?_) fun _ => ?_
    · exact .ite (fun _ => trivial) fun _ => ⟨trivial, fun _ => trivial⟩
    · refine .bind (transcodeAll_outputs job _ _ _) fun _ => .perform_bind trivial fun _ => ?_
      refine .perform_bind ⟨"master.m3u8", ?_⟩ fun _ => ⟨rfl, fun _ => trivial⟩
      simp [TranscodeProcessor.manifestKey, String.append_assoc]
  · exact .bind (cleanup workDir) fun _ => trivial

end

/-- What a statement that writes a key owes to the ones before it. -/
def KeyStep (q : Request) (h : List (Prog.Entry Sig)) (e : Prog.Entry Sig) : Prop :=
  (∀ job, q = .transcode job → OutputOf job e.1) ∧
    ∀ id key, e.1 = .mediaAsset (.setTrailerReady id key) → ∃ asset : MediaAsset,
      ⟨.mediaAsset (.findById id), .ok (some asset)⟩ ∈ h ∧ asset.kind = .TRAILER ∧
        asset.sourceObjectKey = key

theorem completeUpload_keys (user : Option JwtAccessPayload) (assetId : String)
    (h : List (Prog.Entry Sig)) :
    (AdminMediaService.completeUpload assetId).Emits (KeyStep (.completeUpload user assetId))
      (fun _ _ => True) h := by
  have quiet : ∀ {h : List (Prog.Entry Sig)} {c : Cmd} {r : Except Exception c.Resp},
      (∀ id key, c ≠ .mediaAsset (.setTrailerReady id key)) →
        KeyStep (.completeUpload user assetId) h ⟨c, r⟩ := fun hne =>
    ⟨fun _ hq => (nomatch hq), fun id key hc => absurd hc (hne id key)⟩
  refine .perform_bind (fun found => ⟨quiet (by simp), ?_⟩) fun e => ⟨quiet (by simp), trivial⟩
  match found with
  | none => trivial
  | some asset =>
      refine .perform_bind (fun _ => ⟨quiet (by simp), ?_⟩) fun e => ⟨quiet (by simp), trivial⟩
      -- what follows depends on the kind the lookup showed
      cases hkind : asset.kind with
      | FULL =>
          exact .perform_bind (fun _ => ⟨quiet (by simp), trivial⟩)
            fun e => ⟨quiet (by simp), trivial⟩
      | TRAILER =>
          have hready : ∀ {h : List (Prog.Entry Sig)} {r : Except Exception Unit},
              ⟨.mediaAsset (.findById assetId), .ok (some asset)⟩ ∈ h →
              KeyStep (.completeUpload user assetId) h
                ⟨.mediaAsset (.setTrailerReady assetId asset.sourceObjectKey), r⟩ := by
            intro h r hread
            refine ⟨fun _ hq => (nomatch hq), fun id key hc => ?_⟩
            cases hc
            exact ⟨asset, hread, hkind, rfl⟩
          exact .perform_bind (fun _ => ⟨hready (by simp), trivial⟩)
            fun e => ⟨hready (by simp), trivial⟩

/-- The path of every request that writes a key. -/
theorem key_steps (cfg : AppConfig) (q : Request) :
    (handle cfg q).Emits (KeyStep q) (fun _ _ => True) [] := by
  by_cases hq : q.processes = true
  · cases q with
    | completeUpload user assetId =>
        refine .bind (.of_calls (A := fun _ => False) (adminGuard_calls user)
          (fun _ _ hc => hc.elim) fun _ _ => trivial) (fun _ h _ => ?_) fun _ _ _ => trivial
        exact .bind (completeUpload_keys user assetId h) (fun _ _ _ => trivial) fun _ _ _ => trivial
    | transcode job =>
        have hcalls : (handle cfg (.transcode job)).Calls fun c =>
            OutputOf job c ∧ Within (Cmd.ofJob job) c :=
          .and (.bind (process_outputs job) fun _ => trivial) (handle_within cfg (.transcode job))
        refine .of_calls hcalls (fun _ e he => ⟨?_, ?_⟩) fun _ _ => trivial
        · rintro job' ⟨⟩
          exact he.1
        · intro id key hc
          rw [hc] at he
          cases he.2
    | _ => cases hq
  · refine .of_calls (handle_within cfg q) (fun _ e he => ⟨?_, ?_⟩) fun _ _ => trivial
    · rintro job rfl
      exact absurd rfl hq
    · intro id key hc
      have hprocesses := Request.processes_of_bounds he (by simpa using hq)
      rw [hc] at hprocesses
      cases hprocesses

/-- How a trailer request ends: with the link to what it has read and signed. -/
theorem trailer_emits (cfg : AppConfig) (q : Request) :
    (handle cfg q).Emits (fun _ _ => True)
      (fun r h => ∀ assetId link, q = .trailerUrl assetId → r = .ok (.link link) →
        ∃ asset key, ⟨.mediaAsset (.findById assetId), .ok (some asset)⟩ ∈ h ∧
          asset.servableKey .TRAILER = some key ∧
          ⟨.service (.signUrl .GET key StorageService.PLAYBACK_URL_TTL_SECONDS),
            .ok link.url⟩ ∈ h) [] := by
  cases q with
  | trailerUrl assetId =>
      refine .bind (Q := fun r h => ∀ link, r = .ok link → ∃ asset key,
        ⟨.mediaAsset (.findById assetId), .ok (some asset)⟩ ∈ h ∧
          asset.servableKey .TRAILER = some key ∧
          ⟨.service (.signUrl .GET key StorageService.PLAYBACK_URL_TTL_SECONDS),
            .ok link.url⟩ ∈ h) ?_ ?_ fun _ _ _ _ _ _ hr => nomatch hr
      · refine .perform_bind (fun found => ⟨trivial, ?_⟩) fun e => ⟨trivial, fun _ hr => nomatch hr⟩
        cases hkey : found.bind fun a => a.servableKey .TRAILER with
        | none => exact fun _ hr => nomatch hr
        | some key =>
            obtain ⟨asset, rfl, hservable⟩ := Option.bind_eq_some_iff.mp hkey
            refine .perform_bind (fun url => ⟨trivial, ?_⟩) fun e => ⟨trivial, fun _ hr => nomatch hr⟩
            refine .perform_bind (fun instant => ⟨trivial, ?_⟩)
              fun e => ⟨trivial, fun _ hr => nomatch hr⟩
            rintro link ⟨⟩
            exact ⟨asset, key, by simp, hservable, by simp⟩
      · rintro link h hend _ _ ⟨⟩ ⟨⟩
        exact hend link rfl
  | _ => exact .of_calls (handle_calls cfg _) (fun _ _ _ => trivial) fun _ _ _ _ hq => nomatch hq

/-! ## The invariant -/

/-- The suffix an answer generates for an upload. -/
def suffix : Prog.Entry Sig → Option String
  | ⟨.service .uuid, .ok uuid⟩ => some uuid
  | _ => none

/-- A generated suffix is one segment. -/
def PlainSuffix (e : Prog.Entry Sig) : Prop := ∀ uuid ∈ suffix e, '/' ∉ uuid.toList

instance (e : Prog.Entry Sig) : Decidable (PlainSuffix e) :=
  inferInstanceAs (Decidable (∀ uuid ∈ suffix e, '/' ∉ uuid.toList))

/-- The keys of an asset are of its kind: a trailer is served from its source, a
full video from its outputs. -/
def WellKeyed (a : MediaAsset) : Prop :=
  SourceKey a.kind a.sourceObjectKey ∧ ∀ key ∈ a.hlsManifestKey, match a.kind with
    | .TRAILER => SourceKey .TRAILER key
    | .FULL => key = TranscodeProcessor.manifestKey a.id

/-- What holds of every stored asset and of every asset read holds of those read
by one more statement. -/
theorem assetsRead_did {P : MediaAsset → Prop} {s : Store} {tr : Trace} {tid : Nat} {o : Ambient}
    {c : Cmd} (hstored : ∀ a ∈ s.mediaAssets, P a)
    (hread : ∀ t id (a : MediaAsset),
      Event.did t ⟨Cmd.mediaAsset (.findById id), .ok (some a)⟩ ∈ tr → P a) (t : Nat) (id : String)
    (a : MediaAsset) (hmem : Event.did t ⟨Cmd.mediaAsset (.findById id), .ok (some a)⟩ ∈
      (.did tid ⟨c, (exec o c s).1⟩ :: tr : Trace)) : P a := by
  rcases List.mem_cons.mp hmem with heq | hmem
  · obtain ⟨-, he⟩ := Event.did.inj heq
    obtain ⟨rfl, hr⟩ := Sigma.mk.inj_iff.mp he
    obtain ⟨hfound, -⟩ := findAsset_store (Prod.ext (eq_of_heq hr).symm rfl)
    exact hstored a (Table.mem_of_find? hfound.symm).1
  · exact hread t id a hmem

/-- What every state of a run keeps about the keys. -/
structure KeysInv (s : Store) (tr : Trace) : Prop where
  jobs : JobsFull s tr
  suffixes : ∀ tid (uuid : String), Event.did tid ⟨Cmd.service .uuid, .ok uuid⟩ ∈ tr →
    '/' ∉ uuid.toList
  stored : ∀ a ∈ s.mediaAssets, WellKeyed a
  read : ∀ tid id (a : MediaAsset),
    Event.did tid ⟨Cmd.mediaAsset (.findById id), .ok (some a)⟩ ∈ tr → WellKeyed a

namespace KeysInv

variable {s : Store} {tr : Trace}

theorem start (hassets : s.mediaAssets = .empty) (hqueue : s.transcodeQueue = []) :
    KeysInv s [] where
  jobs := .start hqueue
  suffixes := by simp
  stored := by simp [hassets]
  read := by simp

theorem began (h : KeysInv s tr) (tid : Nat) (q : Request)
    (hq : ∀ job ∈ q.job, job ∈ s.transcodeQueue) : KeysInv s (.began tid q :: tr) where
  jobs := h.jobs.began tid q hq
  suffixes t uuid hmem := h.suffixes t uuid (by simpa using hmem)
  stored := h.stored
  read t id a hmem := h.read t id a (by simpa using hmem)

variable {tid : Nat} {q : Request} {o : Ambient} {c : Cmd}

/-- A key of a stored row comes with the statement that wrote it. -/
theorem stored_did (h : KeysInv s tr) (hans : ∀ e ∈ own tid tr, AssetAnswer s e)
    (hq : Event.began tid q ∈ tr) (hmedia : MediaStep q (own tid tr) ⟨c, (exec o c s).1⟩)
    (hregister : RegisterStep (own tid tr) ⟨c, (exec o c s).1⟩)
    (hkey : KeyStep q (own tid tr) ⟨c, (exec o c s).1⟩) {a' : MediaAsset}
    (ha' : a' ∈ (exec o c s).2.mediaAssets) : WellKeyed a' := by
  have hstep := exec_assetStep o c s ha'
  generalize he : (⟨c, (exec o c s).1⟩ : Prog.Entry Sig) = e at hstep hmedia hregister hkey
  cases hstep with
  | kept ha _ => exact h.stored a' ha
  | @uploaded ownerType ownerId key kind _ =>
      obtain ⟨rfl, hr⟩ := Sigma.mk.inj_iff.mp he
      obtain ⟨-, howned, rfl, hnone⟩ := upsert_ok (Prod.ext (eq_of_heq hr) rfl)
      simp only [MediaAsset.ownedBy, Bool.and_eq_true, beq_iff_eq] at howned
      obtain ⟨-, uuid, hread, hsource⟩ := hregister
      refine ⟨⟨ownerType, ownerId, uuid, h.suffixes tid uuid (mem_own.mp hread), ?_⟩, ?_⟩
      · rw [howned.2]
        exact hsource
      · simp [hnone]
  | reset ha heq =>
      have hold := h.stored _ ha
      rw [heq]
      exact hold
  | @trailerReady a key ha heq =>
      obtain ⟨asset, hread, hkind, rfl⟩ := hkey.2 _ _ rfl
      have hid : a.id = a'.id := by rw [heq]
      have htrailer : a.kind = .TRAILER := (SourceInv.kind_of_read hans hread ha hid).trans hkind
      have hsource := (h.read tid _ asset (mem_own.mp hread)).1
      rw [hkind] at hsource
      rw [heq]
      refine ⟨(h.stored a ha).1, ?_⟩
      rintro key ⟨⟩
      simpa only [htrailer] using hsource
  | @ready a key ha heq =>
      obtain ⟨job, rfl, hid⟩ := hmedia
      obtain ⟨a₀, ha₀, hid₀, hfull⟩ := h.jobs.begun tid job hq
      have hsame : a₀ = a := mediaAssets_eq_of_id ha₀ ha (by rw [hid₀, ← hid, heq])
      subst hsame
      have hmanifest : key = TranscodeProcessor.manifestKey a'.id := hkey.1 job rfl
      rw [heq]
      refine ⟨(h.stored a₀ ha).1, ?_⟩
      rintro key ⟨⟩
      rw [heq] at hmanifest
      simpa only [hfull] using hmanifest
  | failed ha heq =>
      have hold := h.stored _ ha
      rw [heq]
      exact hold

/-- **One statement keeps it.** -/
theorem did (h : KeysInv s tr) (hans : ∀ e ∈ own tid tr, AssetAnswer s e)
    (hq : Event.began tid q ∈ tr) (hmedia : MediaStep q (own tid tr) ⟨c, (exec o c s).1⟩)
    (hregister : RegisterStep (own tid tr) ⟨c, (exec o c s).1⟩)
    (hkey : KeyStep q (own tid tr) ⟨c, (exec o c s).1⟩)
    (hplain : PlainSuffix ⟨c, (exec o c s).1⟩) :
    KeysInv (exec o c s).2 (.did tid ⟨c, (exec o c s).1⟩ :: tr) where
  jobs := h.jobs.did (exec_assetsKept o c s) (fun _ => exec_queue o c s) hans hmedia
  suffixes := by
    intro t uuid hmem
    rcases List.mem_cons.mp hmem with heq | hmem
    · obtain ⟨-, he⟩ := Event.did.inj heq
      rw [← he] at hplain
      exact hplain uuid rfl
    · exact h.suffixes t uuid hmem
  stored _ ha' := h.stored_did hans hq hmedia hregister hkey ha'
  read := assetsRead_did h.stored h.read

end KeysInv

/-! ## The guarantee -/

/-- The worker takes its jobs from the queue, and generated suffixes are one
segment. -/
def plainlyQueued (sys : AppState) (act : Action Ambient Request) : Prop :=
  queuedJobs sys act ∧ stepsMeet (fun _ => PlainSuffix) sys act

instance (sys : AppState) (act : Action Ambient Request) : Decidable (plainlyQueued sys act) :=
  inferInstanceAs (Decidable (_ ∧ _))

theorem keysInv_run {cfg : AppConfig} {s : Store} {b : AppState} (hassets : s.mediaAssets = .empty)
    (hqueue : s.transcodeQueue = []) (hr : (app cfg).Run plainlyQueued (Machine.start s) b) :
    KeysInv b.store b.trace := by
  refine Machine.Run.keeps_along (media_steps cfg) ?_ ?_ (.start hassets hqueue) hr
  · intro sys q _ h hok
    exact h.began _ q hok.1
  · intro sys tid o q c k hr h hok hth hmedia
    have hpend : sys.pending tid = some c := by simp [Sys.pending, hth]
    refine h.did (fun e he => ?_) ((Machine.Run.emits (media_steps cfg) hr).began tid _ hth) hmedia
      (Machine.Run.owes (register_steps cfg) hr hth _) (Machine.Run.owes (key_steps cfg) hr hth _)
      (hok.2 c hpend)
    exact assetAnswers_run hr tid e (mem_own.mp he)

/-- The key opens nothing of a full video: it is not the source, the manifest or
an output of one stored in this state, nor has a job put an object there. -/
structure OpensNoFull (key : String) (a : AppState) : Prop where
  source : ∀ x ∈ a.store.mediaAssets, x.kind = .FULL → key ≠ x.sourceObjectKey
  manifest : ∀ x ∈ a.store.mediaAssets, x.kind = .FULL → x.hlsManifestKey ≠ some key
  output : ∀ x ∈ a.store.mediaAssets, x.kind = .FULL → ∀ rest, key ≠ "hls/" ++ x.id ++ "/" ++ rest
  uploaded : ∀ tid job path key' r, Event.began tid (.transcode job) ∈ a.trace →
    Event.did tid ⟨Cmd.service (.putObject path key'), r⟩ ∈ a.trace → key ≠ key'

/-- The key of a trailer's upload opens nothing of a full video. -/
theorem SourceKey.opensNoFull {cfg : AppConfig} {ok : AppState → Action Ambient Request → Prop}
    {s : Store} {a : AppState} {key : String} (h : SourceKey .TRAILER key)
    (hinv : KeysInv a.store a.trace) (hr : (app cfg).Run ok (Machine.start s) a) :
    OpensNoFull key a where
  source x hx hfull := by
    rintro rfl
    have hkind := (hinv.stored x hx).1.kind_eq h
    rw [hfull] at hkind
    cases hkind
  manifest x hx hfull hmanifest := by
    have hkey := (hinv.stored x hx).2 key hmanifest
    simp only [hfull] at hkey
    have heq : key = "hls/" ++ (x.id ++ "/master.m3u8") := by
      simp [hkey, TranscodeProcessor.manifestKey, String.append_assoc]
    exact h.not_output heq
  output x _ _ rest hkey := by
    have heq : key = "hls/" ++ (x.id ++ "/" ++ rest) := by simp [hkey, String.append_assoc]
    exact h.not_output heq
  uploaded tid job path key' r hq hdid := by
    rintro rfl
    obtain ⟨post, pre, htr⟩ := List.append_of_mem hdid
    obtain ⟨rest, hkey⟩ :=
      ((Machine.Run.emits (key_steps cfg) hr).at_split hq htr).1 job rfl
    have heq : key = "hls/" ++ (job.mediaAssetId ++ "/" ++ rest) := by
      simp [hkey, String.append_assoc]
    exact h.not_output heq

/-- **The trailer route opens no full video**: whatever link a trailer request is
answered, no full video has or had that key, in whichever state it is looked
for. -/
theorem trailer_opens_no_full_video {cfg : AppConfig} {s : Store} {a b : AppState}
    (hassets : s.mediaAssets = .empty) (hqueue : s.transcodeQueue = [])
    (hr : (app cfg).Run plainlyQueued (Machine.start s) b)
    (hra : (app cfg).Run plainlyQueued (Machine.start s) a) {tid : Nat} {assetId : String}
    {link : StorageService.SignedLink}
    (hth : b.threads[tid]? = some ⟨.trailerUrl assetId, .done (.ok (.link link))⟩) :
    OpensNoFull link.url.objectKey a := by
  obtain ⟨asset, key, hread, hservable, hsigned⟩ :=
    (Machine.Run.emits (trailer_emits cfg) hr).emits tid _ hth assetId link rfl rfl
  obtain ⟨hkind, -, hmanifest, -⟩ := MediaAsset.servableKey_eq_some hservable
  have hkey : SourceKey .TRAILER key := by
    have hkeyed := ((keysInv_run hassets hqueue hr).read tid _ asset (mem_own.mp hread)).2 key hmanifest
    simpa only [hkind] using hkeyed
  have hsign : link.url.objectKey = key := (playbackAnswers_run hr _ _ (mem_own.mp hsigned)).2.1
  rw [hsign]
  exact hkey.opensNoFull (keysInv_run hassets hqueue hra) hra

/-- The link a trailer request was answered. -/
def trailerAnswer (b : AppState) (tid : Nat) : Option (String × StorageService.SignedLink) :=
  match b.threads[tid]? with
  | some ⟨.trailerUrl assetId, .done (.ok (.link link))⟩ => some (assetId, link)
  | _ => none

theorem trailerAnswer_eq_some {b : AppState} {tid : Nat} {assetId : String}
    {link : StorageService.SignedLink} (h : trailerAnswer b tid = some (assetId, link)) :
    b.threads[tid]? = some ⟨.trailerUrl assetId, .done (.ok (.link link))⟩ := by
  unfold trailerAnswer at h
  split at h
  · rename_i heq
    cases h
    exact heq
  · cases h

/-- A movie with its full video transcoded and its trailer uploaded: the trailer
is signed for its own key. -/
theorem trailer_opens_no_full_video_sample :
    ∃ (b : AppState) (link : StorageService.SignedLink),
      link.url.objectKey = "sources/title/title-1/trailer/u-2" ∧
      (b.store.mediaAssets.rows.any fun a =>
        a.kind == .FULL && a.hlsManifestKey == some "hls/full-1/master.m3u8") = true ∧
      OpensNoFull link.url.objectKey b := by
  obtain ⟨b, hr, hb⟩ := Machine.exists_run_of_replay (m := app sampleConfig)
    (a := Machine.start .empty) plainlyQueued
    (sampleJob ++ List.replicate 15 (.step 3 (.quiet 8)) ++
      [.begin (.registerMediaAsset (some sampleAdmin) ⟨.TITLE, "title-1", .TRAILER⟩),
        .step 4 (.quiet 9), .step 4 ((Ambient.quiet 10).generating "u-2"),
        .step 4 ((Ambient.quiet 11).generating "trailer-1"),
        .begin (.completeUpload (some sampleAdmin) "trailer-1"), .step 5 (.quiet 12),
        .step 5 (.quiet 13), .step 5 (.quiet 14), .begin (.trailerUrl "trailer-1"),
        .step 6 (.quiet 15), .step 6 (.quiet 16), .step 6 (.quiet 17)])
    (fun b => ((trailerAnswer b 6).any fun answered =>
        answered.2.url.objectKey == "sources/title/title-1/trailer/u-2") &&
      b.store.mediaAssets.rows.any fun a =>
        a.kind == .FULL && a.hlsManifestKey == some "hls/full-1/master.m3u8") (by decide +kernel)
  simp only [Bool.and_eq_true, Option.any_eq_true, beq_iff_eq] at hb
  obtain ⟨⟨⟨assetId, link⟩, hanswer, hkey⟩, hfull⟩ := hb
  exact ⟨b, link, hkey, hfull,
    trailer_opens_no_full_video rfl rfl hr hr (trailerAnswer_eq_some hanswer)⟩

end StreamingService
