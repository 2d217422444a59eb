import StreamingService.Payments.Provider

/-!
# Media — Service

`StorageService`, which mints every signed URL, `MediaService`, which does
so for `READY` assets only, and `AdminMediaService`, the upload lifecycle
up to the transcode queue.
-/

namespace StreamingService

open Lib

/-! ## Storage -/

namespace StorageService

def UPLOAD_URL_TTL_SECONDS : Int := 15 * 60

def PLAYBACK_URL_TTL_SECONDS : Int := 60 * 60

structure SignedLink where
  url : SignedUrl
  expiresAt : Millis
  deriving DecidableEq, Repr

def getUploadUrl (objectKey : String) : App SignedLink := do
  let url : SignedUrl ← stmt (.service (.signUrl .PUT objectKey UPLOAD_URL_TTL_SECONDS))
  let instant ← now
  return { url, expiresAt := instant + UPLOAD_URL_TTL_SECONDS * 1000 }

def getPlaybackUrl (objectKey : String) : App SignedLink := do
  let url : SignedUrl ← stmt (.service (.signUrl .GET objectKey PLAYBACK_URL_TTL_SECONDS))
  let instant ← now
  return { url, expiresAt := instant + PLAYBACK_URL_TTL_SECONDS * 1000 }

end StorageService

/-! ## Playback -/

/-- The manifest key `getSignedUrlForReadyAsset` may sign: the asset must be
of the expected kind, `READY`, and have a manifest key that is not empty. -/
def MediaAsset.servableKey (a : MediaAsset) (expectedKind : MediaKind) : Option String :=
  if a.kind == expectedKind && a.processingStatus == .READY then
    a.hlsManifestKey.filter fun key => key != ""
  else none

theorem MediaAsset.servableKey_eq_some {a : MediaAsset} {kind : MediaKind} {key : String}
    (h : a.servableKey kind = some key) :
    a.kind = kind ∧ a.processingStatus = .READY ∧ a.hlsManifestKey = some key ∧ key ≠ "" := by
  unfold MediaAsset.servableKey at h
  split at h
  · rename_i hready
    obtain ⟨hkey, hne⟩ := Option.filter_eq_some_iff.mp h
    simp only [Bool.and_eq_true, beq_iff_eq] at hready
    exact ⟨hready.1, hready.2, hkey, by simpa using hne⟩
  · cases h

namespace MediaService

def getSignedUrlForReadyAsset (assetId : String) (expectedKind : MediaKind) :
    App StorageService.SignedLink := do
  let asset : Option MediaAsset ← stmt (.mediaAsset (.findById assetId))
  match asset.bind fun a => a.servableKey expectedKind with
  | none => throw (.notFound "Media asset not found or not ready")
  | some key => StorageService.getPlaybackUrl key

def getTrailerUrl (assetId : String) : App StorageService.SignedLink :=
  getSignedUrlForReadyAsset assetId .TRAILER

def getPlaybackUrl (assetId : String) : App StorageService.SignedLink :=
  getSignedUrlForReadyAsset assetId .FULL

end MediaService

/-! ## Uploads -/

def MediaOwnerType.text : MediaOwnerType → String
  | .TITLE => "TITLE"
  | .EPISODE => "EPISODE"

def MediaOwnerType.toLowerCase : MediaOwnerType → String
  | .TITLE => "title"
  | .EPISODE => "episode"

def MediaKind.toLowerCase : MediaKind → String
  | .TRAILER => "trailer"
  | .FULL => "full"

namespace AdminMediaService

structure RegisterMediaAssetDto where
  ownerType : MediaOwnerType
  ownerId : String
  kind : MediaKind
  deriving DecidableEq, Repr

/-- The owner is a polymorphic reference without a foreign key. -/
def assertOwnerExists (ownerType : MediaOwnerType) (ownerId : String) : App Unit := do
  let owned ← match ownerType with
    | .TITLE => do
        let title : Option Title ← stmt (.catalog (.findTitle ownerId))
        pure title.isSome
    | .EPISODE => do
        let episode : Option Episode ← stmt (.catalog (.findEpisode ownerId))
        pure episode.isSome
  if !owned then
    throw (.unprocessable (ownerType.text ++ " " ++ ownerId ++ " does not exist"))

def sourceObjectKey (dto : RegisterMediaAssetDto) (uuid : String) : String :=
  "sources/" ++ dto.ownerType.toLowerCase ++ "/" ++ dto.ownerId ++ "/" ++
    dto.kind.toLowerCase ++ "/" ++ uuid

/-- Answers the asset's id and the URL to upload its source to. -/
def registerMediaAsset (dto : RegisterMediaAssetDto) : App (String × SignedUrl) := do
  assertOwnerExists dto.ownerType dto.ownerId
  let uuid : String ← stmt (.service .uuid)
  let key := sourceObjectKey dto uuid
  let asset : MediaAsset ← stmt (.mediaAsset (.upsert dto.ownerType dto.ownerId dto.kind key))
  let upload ← StorageService.getUploadUrl key
  return (asset.id, upload.url)

/-- Answers the asset's id, always with `processingStatus: 'PENDING'`. -/
def completeUpload (assetId : String) : App String := do
  let asset : Option MediaAsset ← stmt (.mediaAsset (.findById assetId))
  match asset with
  | none => throw (.notFound "Media asset not found")
  | some asset => do
      stmt (.mediaAsset (.resetToPending assetId))
      match asset.kind with
      | .FULL =>
          stmt (.service (.queueAdd
            { mediaAssetId := assetId, sourceObjectKey := asset.sourceObjectKey }))
      | .TRAILER => stmt (.mediaAsset (.setTrailerReady assetId asset.sourceObjectKey))
      return assetId

/-- The status, and the failure reason when there is one to show. -/
def getStatus (assetId : String) : App (String × ProcessingStatus × Option String) := do
  let asset : Option MediaAsset ← stmt (.mediaAsset (.findById assetId))
  match asset with
  | none => throw (.notFound "Media asset not found")
  | some asset =>
      return (asset.id, asset.processingStatus, asset.failureReason.filter fun r => r != "")

end AdminMediaService

end StreamingService
