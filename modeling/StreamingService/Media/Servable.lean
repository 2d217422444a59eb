import StreamingService.Account
import StreamingService.Media.Trailer

/-!
# Media — Servable

Ready in the catalog and servable in the media service are one predicate.
The catalog looks at the status of an owner's asset, the media service at
the kind, the status and the manifest key of an id. Every write of the
status `READY` brings a key that is not empty, whichever uploads, jobs and
replacements it is interleaved with, so the two lookups agree in every
state of a run.
-/

namespace StreamingService

open Lib

/-! ## The two lookups at an instant -/

/-- The route that serves a kind. -/
def urlOf : MediaKind → String → App StorageService.SignedLink
  | .TRAILER => MediaService.getTrailerUrl
  | .FULL => MediaService.getPlaybackUrl

theorem urlOf_eq (kind : MediaKind) (assetId : String) :
    urlOf kind assetId = MediaService.getSignedUrlForReadyAsset assetId kind := by
  cases kind <;> rfl

/-- The link to a key, signed at an instant. -/
def signedLink (t : Millis) (key : String) : StorageService.SignedLink where
  url := { verb := .GET, objectKey := key, signedAt := t,
           expiresIn := StorageService.PLAYBACK_URL_TTL_SECONDS }
  expiresAt := t + StorageService.PLAYBACK_URL_TTL_SECONDS * 1000

/-- The key the media service signs for an id. -/
def Store.servableKey (s : Store) (kind : MediaKind) (assetId : String) : Option String :=
  (s.mediaAssets.find? fun a => a.id == assetId).bind fun a => a.servableKey kind

/-- The catalog's status of an owner's asset. -/
def Store.assetStatus (s : Store) (ownerType : MediaOwnerType) (ownerId : String)
    (kind : MediaKind) : Option MediaAssetStatus :=
  (s.mediaAssets.find? fun a => a.ownedBy ownerType ownerId kind).map fun asset =>
    { assetId := asset.id, ready := asset.processingStatus == .READY }

section

variable (t : Millis) (s : Store)

theorem status_reads (ownerType : MediaOwnerType) (ownerId : String) (kind : MediaKind) :
    ReadsAt t (getMediaAssetStatus ownerType ownerId kind) s
      (.ok (s.assetStatus ownerType ownerId kind)) :=
  .perform_bind (fun _ ho => ho.exec _ s) rfl

theorem url_reads (kind : MediaKind) (assetId : String) :
    ReadsAt t (urlOf kind assetId) s
      (match s.servableKey kind assetId with
        | none => .error (.notFound "Media asset not found or not ready")
        | some key => .ok (signedLink t key)) := by
  rw [urlOf_eq]
  refine .perform_bind (fun o ho => ho.exec _ s) ?_
  show ReadsAt t (match s.servableKey kind assetId with | none => _ | some key => _) s _
  cases s.servableKey kind assetId with
  | none => rfl
  | some key =>
      refine .perform_bind (v := (signedLink t key).url) (fun o ho => ?_) ?_
      · rw [ho.exec, ← ho.2]
        rfl
      · exact .perform_bind (v := t) (fun o ho => ho.exec_now s) rfl

/-- The catalog reports this asset id and readiness for the owner and kind. -/
def Reports (ownerType : MediaOwnerType) (ownerId : String) (kind : MediaKind)
    (status : MediaAssetStatus) : Prop :=
  AnswersAt t (getMediaAssetStatus ownerType ownerId kind) s (.ok (some status))

/-- The route of the kind answers a signed URL. -/
def Signs (kind : MediaKind) (assetId : String) : Prop :=
  ∃ link, AnswersAt t (urlOf kind assetId) s (.ok link)

/-- The route of the kind answers 404. -/
def SignsNot (kind : MediaKind) (assetId : String) : Prop :=
  AnswersAt t (urlOf kind assetId) s (.error (.notFound "Media asset not found or not ready"))

variable {t s}

theorem reports_iff {ownerType : MediaOwnerType} {ownerId : String} {kind : MediaKind}
    {status : MediaAssetStatus} :
    Reports t s ownerType ownerId kind status ↔
      s.assetStatus ownerType ownerId kind = some status := by
  have hreads := (status_reads t s ownerType ownerId kind).answersAt
  constructor
  · intro h
    exact Except.ok.inj (hreads.unique h)
  · intro h
    rw [h] at hreads
    exact hreads

theorem signs_iff {kind : MediaKind} {assetId : String} :
    Signs t s kind assetId ↔ (s.servableKey kind assetId).isSome = true := by
  have hreads := (url_reads t s kind assetId).answersAt
  cases hkey : s.servableKey kind assetId with
  | none =>
      rw [hkey] at hreads
      refine ⟨fun ⟨link, h⟩ => ?_, fun h => by cases h⟩
      cases hreads.unique h
  | some key =>
      rw [hkey] at hreads
      exact ⟨fun _ => rfl, fun _ => ⟨_, hreads⟩⟩

theorem signsNot_iff {kind : MediaKind} {assetId : String} :
    SignsNot t s kind assetId ↔ ¬ Signs t s kind assetId := by
  have hreads := (url_reads t s kind assetId).answersAt
  rw [signs_iff]
  cases hkey : s.servableKey kind assetId with
  | none =>
      rw [hkey] at hreads
      exact ⟨fun _ => by simp, fun _ => hreads⟩
  | some key =>
      rw [hkey] at hreads
      refine ⟨fun h => ?_, fun h => absurd rfl h⟩
      cases hreads.unique h

end

/-! ## The invariant -/

/-- The asset has a source, and a manifest once it is `READY`. -/
structure MediaAsset.Keyed (a : MediaAsset) : Prop where
  source : a.sourceObjectKey ≠ ""
  manifest : a.processingStatus = .READY → ∃ key, a.hlsManifestKey = some key ∧ key ≠ ""

theorem sourceObjectKey_ne (dto : AdminMediaService.RegisterMediaAssetDto) (uuid : String) :
    AdminMediaService.sourceObjectKey dto uuid ≠ "" := by
  intro h
  have hchars := congrArg String.toList h
  simp [AdminMediaService.sourceObjectKey, String.toList_append] at hchars

theorem manifestKey_ne (assetId : String) : TranscodeProcessor.manifestKey assetId ≠ "" := by
  intro h
  have hchars := congrArg String.toList h
  simp [TranscodeProcessor.manifestKey, String.toList_append] at hchars

/-- Of a keyed asset the manifest key decides nothing. -/
theorem MediaAsset.Keyed.servable_iff {a : MediaAsset} (h : a.Keyed) {kind : MediaKind} :
    (a.servableKey kind).isSome = true ↔ a.kind = kind ∧ a.processingStatus = .READY := by
  constructor
  · intro hsome
    obtain ⟨key, hkey⟩ := Option.isSome_iff_exists.mp hsome
    exact ⟨(servableKey_eq_some hkey).1, (servableKey_eq_some hkey).2.1⟩
  · rintro ⟨hkind, hready⟩
    obtain ⟨key, hkey, hne⟩ := h.manifest hready
    simp [MediaAsset.servableKey, hkind, hready, hkey, Option.filter, hne]

/-- What every state of a run keeps: each stored asset is keyed, and so was
each asset a handler has looked up. -/
structure KeyedInv (s : Store) (tr : Trace) : Prop where
  stored : ∀ a ∈ s.mediaAssets, a.Keyed
  read : ∀ tid id (a : MediaAsset),
    Event.did tid ⟨Cmd.mediaAsset (.findById id), .ok (some a)⟩ ∈ tr → a.Keyed

namespace KeyedInv

variable {s : Store} {tr : Trace}

theorem start (hassets : s.mediaAssets = .empty) : KeyedInv s [] where
  stored := by simp [hassets]
  read := by simp

theorem began (h : KeyedInv s tr) (tid : Nat) (q : Request) : KeyedInv s (.began tid q :: tr) where
  stored := h.stored
  read t id a hmem := h.read t id a (by simpa using hmem)

variable {tid : Nat} {q : Request} {o : Ambient} {c : Cmd}

/-- Of the five writes, two set `READY`: the completion of a trailer's upload
brings the source key it has read, a job its own manifest key. -/
theorem stored_did (h : KeyedInv s tr) (hmedia : MediaStep q (own tid tr) ⟨c, (exec o c s).1⟩)
    (hregister : RegisterStep (own tid tr) ⟨c, (exec o c s).1⟩)
    (hkey : KeyStep q (own tid tr) ⟨c, (exec o c s).1⟩) {a' : MediaAsset}
    (ha' : a' ∈ (exec o c s).2.mediaAssets) : a'.Keyed := by
  have hstep := exec_assetStep o c s ha'
  generalize he : (⟨c, (exec o c s).1⟩ : Prog.Entry Sig) = e at hstep hmedia hregister hkey
  cases hstep with
  | kept ha _ => exact h.stored a' ha
  | uploaded hpending =>
      obtain ⟨rfl, hr⟩ := Sigma.mk.inj_iff.mp he
      obtain ⟨-, -, hsource, -⟩ := upsert_ok (Prod.ext (eq_of_heq hr) rfl)
      obtain ⟨-, uuid, -, rfl⟩ := hregister
      exact ⟨hsource ▸ sourceObjectKey_ne _ uuid, fun hready => by rw [hpending] at hready; cases hready⟩
  | reset ha heq =>
      rw [heq]
      exact ⟨(h.stored _ ha).source, fun hready => by cases hready⟩
  | trailerReady ha heq =>
      obtain ⟨asset, hread, -, rfl⟩ := hkey.2 _ _ rfl
      rw [heq]
      exact ⟨(h.stored _ ha).source,
        fun _ => ⟨_, rfl, (h.read tid _ asset (mem_own.mp hread)).source⟩⟩
  | @ready a key ha heq =>
      obtain ⟨job, rfl, -⟩ := hmedia
      have hmanifest : key = TranscodeProcessor.manifestKey a'.id := hkey.1 job rfl
      rw [heq]
      exact ⟨(h.stored _ ha).source, fun _ => ⟨key, rfl, hmanifest ▸ manifestKey_ne _⟩⟩
  | failed ha heq =>
      rw [heq]
      exact ⟨(h.stored _ ha).source, fun hready => by cases hready⟩

/-- **One statement keeps it.** -/
theorem did (h : KeyedInv s tr) (hmedia : MediaStep q (own tid tr) ⟨c, (exec o c s).1⟩)
    (hregister : RegisterStep (own tid tr) ⟨c, (exec o c s).1⟩)
    (hkey : KeyStep q (own tid tr) ⟨c, (exec o c s).1⟩) :
    KeyedInv (exec o c s).2 (.did tid ⟨c, (exec o c s).1⟩ :: tr) where
  stored _ ha' := h.stored_did hmedia hregister hkey ha'
  read := assetsRead_did h.stored h.read

end KeyedInv

theorem keyedInv_run {cfg : AppConfig} {ok : AppState → Action Ambient Request → Prop} {s : Store}
    {b : AppState} (hassets : s.mediaAssets = .empty)
    (hr : (app cfg).Run ok (Machine.start s) b) : KeyedInv b.store b.trace := by
  refine Machine.Run.keeps_along (media_steps cfg) ?_ ?_ (.start hassets) hr
  · intro sys q _ h _
    exact h.began _ q
  · intro sys tid o q c k hr h _ hth hmedia
    exact h.did hmedia (Machine.Run.owes (register_steps cfg) hr hth _)
      (Machine.Run.owes (key_steps cfg) hr hth _)

/-! ## The guarantee -/

theorem mediaAssets_findOwned? {t : Table MediaAsset} {a : MediaAsset} (ha : a ∈ t) {kind : MediaKind}
    (hkind : a.kind = kind) :
    t.find? (fun x => x.ownedBy a.ownerType a.ownerId kind) = some a := by
  subst hkind
  cases hfind : t.find? fun x => x.ownedBy a.ownerType a.ownerId a.kind with
  | none =>
      have hnot := List.find?_eq_none.mp hfind a ha
      simp [MediaAsset.ownedBy] at hnot
  | some x =>
      -- the owner's index admits one row of the owner and kind
      obtain ⟨hx, howned⟩ := Table.mem_of_find? hfind
      simp only [MediaAsset.ownedBy, Bool.and_eq_true, beq_iff_eq] at howned
      rw [Table.eq_of_clash hx ha (by simp [Indexed.clash, howned])]

/-- In this state, at this instant, ready and servable are the same. -/
structure ReadyIsServable (t : Millis) (s : Store) : Prop where
  /-- Of the asset the catalog names for an owner and kind. -/
  named : ∀ ownerType ownerId kind assetId ready,
    Reports t s ownerType ownerId kind ⟨assetId, ready⟩ → (ready = true ↔ Signs t s kind assetId)
  /-- Of every asset id: it is served exactly when it is ready for some owner. -/
  owned : ∀ kind assetId,
    Signs t s kind assetId ↔ ∃ ownerType ownerId, Reports t s ownerType ownerId kind ⟨assetId, true⟩
  refused : ∀ kind assetId, ¬ Signs t s kind assetId ↔ SignsNot t s kind assetId

/-- Where every asset is keyed, the two lookups agree. -/
theorem ReadyIsServable.of_keyed {s : Store} (hkeyed : ∀ a ∈ s.mediaAssets, a.Keyed) (t : Millis) :
    ReadyIsServable t s where
  named := by
    intro ownerType ownerId kind assetId ready hreports
    obtain ⟨a, hfind, hstatus⟩ := Option.map_eq_some_iff.mp (reports_iff.mp hreports)
    obtain ⟨rfl, rfl⟩ := MediaAssetStatus.mk.inj hstatus
    obtain ⟨ha, howned⟩ := Table.mem_of_find? hfind
    simp only [MediaAsset.ownedBy, Bool.and_eq_true, beq_iff_eq] at howned
    rw [signs_iff, Store.servableKey, mediaAssets_find? ha rfl, Option.bind_some,
      (hkeyed a ha).servable_iff]
    simp [howned.2]
  owned := by
    intro kind assetId
    rw [signs_iff]
    constructor
    · intro hserved
      obtain ⟨key, hkey⟩ := Option.isSome_iff_exists.mp hserved
      obtain ⟨a, hfind, hservable⟩ := Option.bind_eq_some_iff.mp hkey
      obtain ⟨ha, hid⟩ := Table.mem_of_find? hfind
      obtain ⟨hkind, hready, -⟩ := MediaAsset.servableKey_eq_some hservable
      refine ⟨a.ownerType, a.ownerId, reports_iff.mpr ?_⟩
      rw [Store.assetStatus, mediaAssets_findOwned? ha hkind]
      simpa [hready] using hid
    · rintro ⟨ownerType, ownerId, hreports⟩
      obtain ⟨a, hfind, hstatus⟩ := Option.map_eq_some_iff.mp (reports_iff.mp hreports)
      obtain ⟨rfl, hready⟩ := MediaAssetStatus.mk.inj hstatus
      obtain ⟨ha, howned⟩ := Table.mem_of_find? hfind
      simp only [MediaAsset.ownedBy, Bool.and_eq_true, beq_iff_eq] at howned
      rw [Store.servableKey, mediaAssets_find? ha rfl, Option.bind_some, (hkeyed a ha).servable_iff]
      exact ⟨howned.2, by simpa using hready⟩
  refused _ _ := signsNot_iff.symm

/-- **Ready in the catalog is servable in the media service**, in every state a
run reaches. -/
theorem ready_is_servable {cfg : AppConfig} {s : Store} {b : AppState}
    (hassets : s.mediaAssets = .empty) (hr : (app cfg).Run anyAction (Machine.start s) b)
    (t : Millis) : ReadyIsServable t b.store :=
  .of_keyed (keyedInv_run hassets hr).stored t

/-- The full video is registered again after its job has ended, and a second job
writes its result over the replaced source. -/
theorem ready_is_servable_sample :
    ∃ b : AppState, (b.store.mediaAssets.rows.any fun a =>
      a.processingStatus == .READY && a.sourceObjectKey == "sources/title/title-1/full/u-2") = true ∧
      ReadyIsServable 100 b.store := by
  obtain ⟨b, hr, hb⟩ := Machine.exists_run_of_replay (m := app sampleConfig)
    (a := Machine.start .empty) anyAction
    (sampleJob ++ List.replicate 15 (.step 3 (.quiet 8)) ++
      [.begin (.transcode ⟨"full-1", "sources/title/title-1/full/u-1"⟩),
        .begin (.registerMediaAsset (some sampleAdmin) ⟨.TITLE, "title-1", .FULL⟩),
        .step 5 (.quiet 9), .step 5 ((Ambient.quiet 10).generating "u-2"),
        .step 5 ((Ambient.quiet 11).generating "full-2")] ++
      List.replicate 15 (.step 4 (.quiet 12)))
    (fun b => b.store.mediaAssets.rows.any fun a =>
      a.processingStatus == .READY && a.sourceObjectKey == "sources/title/title-1/full/u-2")
    (by decide +kernel)
  exact ⟨b, hb, ready_is_servable rfl hr 100⟩

end StreamingService
