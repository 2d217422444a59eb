import StreamingService.Media.Service

/-!
# Media — Transcode

The worker's `TranscodeProcessor`: one queued job fetches the source,
transcodes every rendition, uploads the output with a master playlist, and
marks the asset `READY`; any failure on the way marks it `FAILED`, and the
work directory is removed either way.
-/

namespace StreamingService

open Lib

/-- `err instanceof Error ? err.message : String(err)`. -/
def Exception.message : Exception → String
  | .conflict m | .notFound m | .forbidden m | .unauthorized m | .unprocessable m | .error m => m
  | .typeError => "TypeError"
  | .prisma _ => "PrismaClientKnownRequestError"

namespace TranscodeProcessor

structure Rendition where
  name : String
  width : Nat
  height : Nat
  videoBitrateKbps : Nat
  audioBitrateKbps : Nat
  deriving DecidableEq, Repr

def RENDITIONS : List Rendition :=
  [{ name := "360p", width := 640, height := 360, videoBitrateKbps := 800,
     audioBitrateKbps := 96 },
   { name := "720p", width := 1280, height := 720, videoBitrateKbps := 2800,
     audioBitrateKbps := 128 },
   { name := "1080p", width := 1920, height := 1080, videoBitrateKbps := 5000,
     audioBitrateKbps := 160 }]

/-- `path.join` of two relative parts. -/
def join (dir name : String) : String := dir ++ "/" ++ name

def manifestKey (mediaAssetId : String) : String := "hls/" ++ mediaAssetId ++ "/master.m3u8"

def renditionPrefix (mediaAssetId : String) (rendition : Rendition) : String :=
  "hls/" ++ mediaAssetId ++ "/" ++ rendition.name

def downloadSource (objectKey destPath : String) : App Unit := do
  let body : Bool ← stmt (.service (.getObject objectKey))
  if !body then
    throw (.error ("Source object " ++ objectKey ++ " has no body"))
  stmt (.service (.pipeToFile destPath))

def transcodeRendition (sourcePath outDir : String) (rendition : Rendition) : App Unit := do
  stmt (.service (.mkdir outDir))
  stmt (.service (.ffmpeg sourcePath outDir rendition.name))

/-- `readFile` and the upload, as one statement. -/
def uploadFile (localPath objectKey : String) : App Unit :=
  stmt (.service (.putObject localPath objectKey))

def uploadEntries (localDir keyPrefix : String) : List String → App Unit
  | [] => pure ()
  | entry :: rest => do
      uploadFile (join localDir entry) (keyPrefix ++ "/" ++ entry)
      uploadEntries localDir keyPrefix rest

def uploadDirectory (localDir keyPrefix : String) : App Unit := do
  let entries : List String ← stmt (.service (.readdir localDir))
  uploadEntries localDir keyPrefix entries

/-- The two lines a rendition adds to the master playlist. -/
def variantLines (rendition : Rendition) : List String :=
  ["#EXT-X-STREAM-INF:BANDWIDTH=" ++
      toString ((rendition.videoBitrateKbps + rendition.audioBitrateKbps) * 1000) ++
      ",RESOLUTION=" ++ toString rendition.width ++ "x" ++ toString rendition.height,
    rendition.name ++ "/playlist.m3u8"]

def transcodeAll (mediaAssetId workDir sourcePath : String) : List Rendition → App Unit
  | [] => pure ()
  | rendition :: rest => do
      let outDir := join workDir rendition.name
      transcodeRendition sourcePath outDir rendition
      uploadDirectory outDir (renditionPrefix mediaAssetId rendition)
      transcodeAll mediaAssetId workDir sourcePath rest

def masterPlaylist (renditions : List Rendition) : String :=
  "\n".intercalate ("#EXTM3U" :: "#EXT-X-VERSION:3" :: renditions.flatMap variantLines) ++ "\n"

/-- The body of the `try`. -/
def produce (renditions : List Rendition) (job : TranscodeJobData) (workDir : String) :
    App Unit := do
  let sourcePath := join workDir "source"
  downloadSource job.sourceObjectKey sourcePath
  transcodeAll job.mediaAssetId workDir sourcePath renditions
  let masterPlaylistPath := join workDir "master.m3u8"
  stmt (.service (.writeFile masterPlaylistPath (masterPlaylist renditions)))
  uploadFile masterPlaylistPath (manifestKey job.mediaAssetId)
  stmt (.mediaAsset (.setReady job.mediaAssetId (manifestKey job.mediaAssetId)))

/-- What a `finally` does with the outcome it interrupts: an error of its own
replaces it. -/
def andFinally {α : Type} (p : App α) (cleanup : App Unit) : App α := do
  let a ← tryCatch p fun err => do
    cleanup
    throw err
  cleanup
  return a

/-- `process`, for any list in place of `RENDITIONS`. -/
def processWith (renditions : List Rendition) (job : TranscodeJobData) : App Unit := do
  let workDir : String ← stmt (.service .mkdtemp)
  andFinally
    (tryCatch (produce renditions job workDir) fun err =>
      stmt (.mediaAsset (.setFailed job.mediaAssetId err.message)))
    (stmt (.service (.removeDir workDir)))

def process (job : TranscodeJobData) : App Unit := processWith RENDITIONS job

end TranscodeProcessor

end StreamingService
