import StreamingService.Lib.Uri
import StreamingService.Media.Source

/-!
# Media — Playlist

What a player fetches. The worker uploads a master playlist that names the
variant playlists by relative references, and one signature is made, for
the master's key. A relative reference resolves to a URL without the base's
query, and the query is where the signature stands: of all the URLs a
player reaches, the master's alone is signed.
-/

namespace StreamingService

open Lib

/-! ## What a job uploads -/

/-- The text of a file in the job's work directory: what the job wrote there
last; of a file `ffmpeg` produced, `out` gives the text. -/
def fileText (out : String → String) (path : String) : List (Prog.Entry Sig) → String
  | [] => out path
  | ⟨.service (.writeFile path' text), .ok _⟩ :: h =>
      if path' = path then text else fileText out path h
  | _ :: h => fileText out path h

/-- The object the job put last under a key. -/
def uploaded (out : String → String) (key : String) : List (Prog.Entry Sig) → Option String
  | [] => none
  | ⟨.service (.putObject path key'), .ok _⟩ :: h =>
      if key' = key then some (fileText out path h) else uploaded out key h
  | _ :: h => uploaded out key h

open TranscodeProcessor

/-- A job that marks an asset `READY` has uploaded the master playlist, last
of all, under the key it writes. -/
def ReadyStep (q : Request) (h : List (Prog.Entry Sig)) (e : Prog.Entry Sig) : Prop :=
  match e.1 with
  | .mediaAsset (.setReady _ key) => q.job.isSome →
      ∀ out, uploaded out key h = some (masterPlaylist RENDITIONS)
  | _ => True

theorem ReadyStep.of_files {q : Request} {h : List (Prog.Entry Sig)} {e : Prog.Entry Sig}
    (he : Within Cmd.ofFiles e.1) : ReadyStep q h e := by
  unfold ReadyStep
  split
  · rename_i heq
    rw [heq] at he
    cases he
  · trivial

theorem ReadyStep.of_not_job {q : Request} {h : List (Prog.Entry Sig)} {e : Prog.Entry Sig}
    (hq : q.job = none) : ReadyStep q h e := by
  unfold ReadyStep
  split
  · simp [hq]
  · trivial

/-- Any end of a program. -/
def anyEnd {α : Type} (_ : Except Exception α) (_ : List (Prog.Entry Sig)) : Prop := True

section

variable {q : Request} {h : List (Prog.Entry Sig)}

theorem ReadyStep.of_calls {α : Type} {p : App α} (hp : p.Calls (Within Cmd.ofFiles)) :
    p.Emits (ReadyStep q) anyEnd h :=
  .of_calls hp (fun _ _ => .of_files) fun _ _ => trivial

theorem produce_ready (job : TranscodeJobData) (workDir : String) :
    (produce RENDITIONS job workDir).Emits (ReadyStep q) anyEnd h := by
  refine .bind (ReadyStep.of_calls (downloadSource_calls _ _)) ?_ fun _ _ _ => trivial
  intro _ h₁ _
  refine .bind (ReadyStep.of_calls (transcodeAll_calls _ _ _ _)) ?_ fun _ _ _ => trivial
  intro _ h₂ _
  refine .perform_bind (fun _ => ⟨trivial, ?_⟩) fun e => ⟨trivial, trivial⟩
  refine .perform_bind (fun _ => ⟨trivial, ?_⟩) fun e => ⟨trivial, trivial⟩
  -- the file uploaded last is the one written just before
  refine fun r => ⟨fun _ out => ?_, trivial⟩
  simp [uploaded, fileText]

theorem process_ready (job : TranscodeJobData) :
    (process job).Emits (ReadyStep q) anyEnd h := by
  refine .perform_bind (fun workDir => ⟨trivial, ?_⟩) fun e => ⟨trivial, trivial⟩
  have cleanup {h : List (Prog.Entry Sig)} :
      Prog.Emits (ReadyStep q) anyEnd (stmt (.service (.removeDir workDir)) : App Unit) h :=
    fun _ => ⟨trivial, trivial⟩
  have body {h : List (Prog.Entry Sig)} : Prog.Emits (ReadyStep q) anyEnd
      (tryCatch (produce RENDITIONS job workDir) fun err =>
        stmt (.mediaAsset (.setFailed job.mediaAssetId err.message))) h :=
    .catchErr (produce_ready job workDir) (fun _ _ _ => trivial)
      fun err _ _ _ => ⟨trivial, trivial⟩
  refine .bind (.catchErr body (fun _ _ hend => hend) ?_) ?_ fun _ _ _ => trivial
  · exact fun err _ _ => .bind cleanup (fun _ _ _ => trivial) fun _ _ _ => trivial
  · exact fun _ _ _ => .bind cleanup (fun _ _ _ => trivial) fun _ _ _ => trivial

end

theorem ready_steps (cfg : AppConfig) (q : Request) :
    (handle cfg q).Emits (ReadyStep q) (fun _ _ => True) [] := by
  cases hjob : q.job with
  | none => exact .of_calls (handle_within cfg q) (fun _ _ _ => .of_not_job hjob) fun _ _ => trivial
  | some job =>
      cases q with
      | transcode job =>
          exact .bind (process_ready job) (fun _ _ _ => trivial) fun _ _ _ => trivial
      | _ => cases hjob

/-- A job made the asset `READY` and `FULL` as it is stored, and what the job
had uploaded by then is in the bucket. -/
structure ProducedBy (b : AppState) (out : String → String) (objects : String → Option String)
    (tid : Nat) (a : MediaAsset) : Prop where
  job : ∃ job, Event.began tid (.transcode job) ∈ b.trace
  stored : a ∈ b.store.mediaAssets
  kind : a.kind = .FULL
  status : a.processingStatus = .READY
  produced : ∃ post pre key,
    b.trace = post ++ .did tid ⟨.mediaAsset (.setReady a.id key), .ok ()⟩ :: pre ∧
      a.hlsManifestKey = some key ∧
      ∀ k text, uploaded out k (own tid pre) = some text → objects k = some text

/-- The bucket holds the master playlist under the asset's manifest key. -/
theorem ProducedBy.master {cfg : AppConfig} {s : Store}
    {ok : AppState → Action Ambient Request → Prop} {b : AppState} {out : String → String}
    {objects : String → Option String} {tid : Nat} {a : MediaAsset}
    (hr : (app cfg).Run ok (Machine.start s) b) (h : ProducedBy b out objects tid a) :
    ∃ key, a.hlsManifestKey = some key ∧ objects key = some (masterPlaylist RENDITIONS) := by
  obtain ⟨job, hbegan⟩ := h.job
  obtain ⟨post, pre, key, htr, hkey, hobjects⟩ := h.produced
  have hstep := (Machine.Run.emits (ready_steps cfg) hr).at_split hbegan htr
  exact ⟨key, hkey, hobjects _ _ (hstep rfl out)⟩

/-! ## What a player fetches -/

/-- How the presigner writes URLs: the endpoint, the path of an object key
(bucket included), and the query with the signature. -/
structure Presigner where
  scheme : List Char
  authority : List Char
  path : String → List Char
  query : SignedUrl → List Char

def Presigner.uri (P : Presigner) (u : SignedUrl) : Uri where
  scheme := P.scheme
  authority := some P.authority
  path := P.path u.objectKey
  query := some (P.query u)

/-- The URL carries a signature to read the object it names, unexpired at `t`. -/
def Signed (P : Presigner) (t : Millis) (uri : Uri) : Prop :=
  ∃ u : SignedUrl, u.verb = .GET ∧ uri.path = P.path u.objectKey ∧
    uri.query = some (P.query u) ∧ t < u.signedAt + u.expiresIn * 1000

/-- A line may end in a carriage return before its line feed. -/
def withoutReturn (line : List Char) : List Char :=
  if line.getLast? = some '\r' then line.dropLast else line

theorem withoutReturn_eq {line : List Char} (h : '\r' ∉ line) : withoutReturn line = line :=
  if_neg fun hlast => h (List.mem_of_getLast? hlast)

/-- The references of a playlist: its lines that are neither blank nor a tag
or a comment. -/
def references (text : String) : List (List Char) :=
  ((text.toList.splitOn '\n').map withoutReturn).filter
    fun line => line ≠ [] ∧ line.head? ≠ some '#'

/-- The URLs a player fetches, from the manifest's on. -/
inductive Reached (P : Presigner) (objects : String → Option String) (url : SignedUrl) :
    Uri → Prop
  | manifest : Reached P objects url (P.uri url)
  | follow {uri : Uri} {key text : String} {reference : List Char}
      (hfrom : Reached P objects url uri) (hpath : uri.path = P.path key)
      (hobject : objects key = some text) (href : reference ∈ references text) :
      Reached P objects url (uri.resolve (Uri.Ref.parse reference))

/-- Every URL fetched is signed, and unexpired at `t`. -/
def Covered (P : Presigner) (objects : String → Option String) (url : SignedUrl)
    (t : Millis) : Prop :=
  ∀ uri, Reached P objects url uri → Signed P t uri

theorem not_signed_of_query {P : Presigner} {t : Millis} {uri : Uri} (h : uri.query = none) :
    ¬ Signed P t uri := by
  rintro ⟨u, -, -, hquery, -⟩
  rw [h] at hquery
  cases hquery

/-- What is reached by a relative path is not signed. -/
theorem relative_unsigned {P : Presigner} {t : Millis} {reference : List Char}
    (h : Uri.IsRelative reference) (uri : Uri) :
    ¬ Signed P t (uri.resolve (Uri.Ref.parse reference)) :=
  not_signed_of_query (h.resolve_query uri)

/-- The references of a playlist written line by line. -/
theorem references_lines {lines : List String} (hne : lines ≠ [])
    (hlines : ∀ line ∈ lines, '\n' ∉ line.toList ∧ '\r' ∉ line.toList) :
    references ("\n".intercalate lines ++ "\n") =
      (lines.map String.toList).filter fun line => line ≠ [] ∧ line.head? ≠ some '#' := by
  have hsplit : ("\n".intercalate lines ++ "\n").toList.splitOn '\n' =
      lines.map String.toList ++ [[]] := by
    have htext : ("\n".intercalate lines ++ "\n").toList =
        ['\n'].intercalate (lines.map String.toList) ++ ['\n'] := by
      simp [String.toList_intercalate]
    rw [htext, List.splitOn_append_cons_self, List.splitOn_nil,
      List.splitOn_intercalate _ _ (by simpa using hne)]
    simpa using fun line hline => (hlines line hline).1
  have hkept : (lines.map String.toList).map withoutReturn = lines.map String.toList := by
    rw [List.map_map]
    exact List.map_congr_left fun line hline => withoutReturn_eq (hlines line hline).2
  rw [references, hsplit, List.map_append, hkept]
  -- the empty line after the last line feed is blank
  simp [withoutReturn]

/-- The references of the master playlist are its variants, one a rendition. -/
theorem references_master : references (masterPlaylist RENDITIONS) =
    RENDITIONS.map fun rendition => (rendition.name ++ "/playlist.m3u8").toList := by
  rw [masterPlaylist, references_lines (by simp) (by decide +kernel)]
  decide +kernel

theorem variant_relative {reference : List Char}
    (h : reference ∈ references (masterPlaylist RENDITIONS)) : Uri.IsRelative reference := by
  have hall : ∀ rendition ∈ RENDITIONS,
      Uri.IsRelative (rendition.name ++ "/playlist.m3u8").toList := by decide +kernel
  rw [references_master] at h
  obtain ⟨rendition, hrendition, rfl⟩ := List.mem_map.mp h
  exact hall rendition hrendition

/-- The variants of a master playlist are reached, and not signed. -/
theorem variant_reached {P : Presigner} {objects : String → Option String} {url : SignedUrl}
    (hmaster : objects url.objectKey = some (masterPlaylist RENDITIONS)) {rendition : Rendition}
    (hrendition : rendition ∈ RENDITIONS) :
    ∃ uri, Reached P objects url uri ∧ ∀ t, ¬ Signed P t uri := by
  have href : (rendition.name ++ "/playlist.m3u8").toList ∈
      references (masterPlaylist RENDITIONS) := by
    rw [references_master]
    exact List.mem_map_of_mem hrendition
  exact ⟨_, .follow .manifest rfl hmaster href, fun t => relative_unsigned (variant_relative href) _⟩

/-! ## Every asset -/

/-- What `getPlaybackUrl` signs: the asset's manifest key, for an hour. -/
theorem getPlaybackUrl_link {os : Nat → Ambient} {s : Store} {a : MediaAsset}
    {link : StorageService.SignedLink} (ha : a ∈ s.mediaAssets)
    (h : ((MediaService.getPlaybackUrl a.id).run exec os s).1 = .ok link) :
    a.hlsManifestKey = some link.url.objectKey ∧ link.url.verb = .GET ∧
      link.url.expiresIn = StorageService.PLAYBACK_URL_TTL_SECONDS := by
  obtain ⟨found, hfound, h⟩ := Prog.run_perform_bind h
  have hanswer := exec_of_ok hfound
  rw [hanswer] at hfound h
  cases hfound
  have hrow : (s.mediaAssets.find? fun x => x.id == a.id) = some a := mediaAssets_find? ha rfl
  rw [hrow] at h
  cases hkey : a.servableKey .FULL with
  | none =>
      simp only [Option.bind_some, hkey] at h
      cases h
  | some key =>
      simp only [Option.bind_some, hkey] at h
      obtain ⟨url, hurl, h⟩ := Prog.run_perform_bind h
      obtain ⟨instant, -, h⟩ := Prog.run_perform_bind h
      cases h
      rw [exec_of_ok hurl] at hurl
      cases hurl
      exact ⟨(MediaAsset.servableKey_eq_some hkey).2.2.1, rfl, rfl⟩

/-- **No video is covered by its signature**: for every asset a job made
`READY`, whatever files `ffmpeg` produced, the link to its manifest leads to
URLs that carry no signature, at any time. -/
theorem video_not_covered {cfg : AppConfig} {s : Store} {b : AppState}
    (hr : (app cfg).Run anyAction (Machine.start s) b) {out : String → String}
    {objects : String → Option String} {tid : Nat} {a : MediaAsset}
    (hproduced : ProducedBy b out objects tid a) {os : Nat → Ambient}
    {link : StorageService.SignedLink}
    (hlink : ((MediaService.getPlaybackUrl a.id).run exec os b.store).1 = .ok link)
    (P : Presigner) (t : Millis) : ¬ Covered P objects link.url t := by
  obtain ⟨key, hkey, hmaster⟩ := hproduced.master hr
  have hsigned := (getPlaybackUrl_link hproduced.stored hlink).1
  rw [hkey, Option.some.injEq] at hsigned
  subst hsigned
  intro hcovered
  obtain ⟨uri, hreached, hunsigned⟩ := variant_reached hmaster (P := P) List.mem_cons_self
  exact hunsigned t (hcovered uri hreached)

/-! ## A video that does not play -/

def samplePresigner : Presigner where
  scheme := "http".toList
  authority := "localhost:9000".toList
  path key := ("/streaming-media/" ++ key).toList
  query u := ("X-Amz-Expires=" ++ toString u.expiresIn ++ "&X-Amz-Signature=0a1b").toList

/-- The asset and the key of a job's last write. -/
def readied (tid : Nat) : Event Sig Request → Option (String × String)
  | .did t ⟨.mediaAsset (.setReady id key), .ok _⟩ => if t = tid then some (id, key) else none
  | _ => none

theorem readied_eq_some {tid : Nat} {ev : Event Sig Request} {id key : String}
    (h : readied tid ev = some (id, key)) :
    ev = .did tid ⟨.mediaAsset (.setReady id key), .ok ()⟩ := by
  unfold readied at h
  split at h
  · split at h
    · rename_i htid
      cases h
      rw [htid]
      rfl
    · cases h
  · cases h

/-- The beginning of a job. -/
def jobBegan (tid : Nat) : Event Sig Request → Option TranscodeJobData
  | .began t q => if t = tid then q.job else none
  | _ => none

theorem jobBegan_eq_some {tid : Nat} {ev : Event Sig Request} {job : TranscodeJobData}
    (h : jobBegan tid ev = some job) : ev = .began tid (.transcode job) := by
  unfold jobBegan at h
  split at h
  · rename_i t q
    split at h
    · rename_i htid
      rw [htid]
      cases q with
      | transcode job' =>
          cases h
          rfl
      | _ => cases h
    · cases h
  · cases h

/-- The sample job has run to its end, and its video has a link. -/
theorem sample_produced :
    ∃ (b : AppState) (a : MediaAsset) (objects : String → Option String)
      (link : StorageService.SignedLink),
      (app sampleConfig).Run anyAction (Machine.start .empty) b ∧
        ProducedBy b (fun _ => "") objects 3 a ∧
        ((MediaService.getPlaybackUrl a.id).run exec (fun _ => .quiet 9) b.store).1 = .ok link := by
  obtain ⟨b, hr, hb⟩ := Machine.exists_run_of_replay (m := app sampleConfig)
    (a := Machine.start .empty) anyAction (sampleJob ++ List.replicate 15 (.step 3 (.quiet 8)))
    (fun b => (b.trace.any fun ev => (jobBegan 3 ev).isSome) && b.store.mediaAssets.rows.any fun a =>
      a.kind == .FULL && a.processingStatus == .READY &&
      (a.hlsManifestKey.any fun key => b.trace.any fun ev => readied 3 ev == some (a.id, key)) &&
      ((MediaService.getPlaybackUrl a.id).run exec (fun _ => .quiet 9) b.store).1.isOk)
    (by decide +kernel)
  simp only [List.any_eq_true, Bool.and_eq_true, beq_iff_eq, Option.any_eq_true,
    Option.isSome_iff_exists] at hb
  obtain ⟨⟨began, hbegan, job, hjob⟩, a, ha, ⟨⟨hkind, hready⟩, key, hkey, wrote, hwrote, heq⟩,
    hanswered⟩ := hb
  obtain ⟨link, hlink⟩ := Except.exists_of_isOk hanswered
  rw [jobBegan_eq_some hjob] at hbegan
  rw [readied_eq_some heq] at hwrote
  obtain ⟨post, pre, htr⟩ := List.append_of_mem hwrote
  exact ⟨b, a, fun k => uploaded (fun _ => "") k (own 3 pre), link, hr,
    { job := ⟨job, hbegan⟩
      stored := ha
      kind := hkind
      status := hready
      produced := ⟨post, pre, key, htr, hkey, fun _ _ h => h⟩ }, hlink⟩

/-- The link of a video that has just become `READY`. -/
theorem video_not_covered_sample :
    ∃ (b : AppState) (a : MediaAsset) (objects : String → Option String)
      (link : StorageService.SignedLink), ProducedBy b (fun _ => "") objects 3 a ∧
        ¬ Covered samplePresigner objects link.url link.url.signedAt := by
  obtain ⟨b, a, objects, link, hr, hproduced, hlink⟩ := sample_produced
  exact ⟨b, a, objects, link, hproduced,
    video_not_covered hr hproduced hlink samplePresigner link.url.signedAt⟩

/-- The job has run to its end and the link has just been signed: the URL of
the `360p` variant carries no signature. -/
theorem variant_url_unsigned :
    ∃ (b : AppState) (a : MediaAsset) (objects : String → Option String)
      (link : StorageService.SignedLink) (uri : Uri),
      (app sampleConfig).Run anyAction (Machine.start .empty) b ∧
        ProducedBy b (fun _ => "") objects 3 a ∧
        ((MediaService.getPlaybackUrl a.id).run exec (fun _ => .quiet 9) b.store).1 = .ok link ∧
        Reached samplePresigner objects link.url uri ∧
        ¬ Signed samplePresigner link.url.signedAt uri := by
  obtain ⟨b, a, objects, link, hr, hproduced, hlink⟩ := sample_produced
  obtain ⟨key, hkey, hmaster⟩ := hproduced.master hr
  have hsigned := (getPlaybackUrl_link hproduced.stored hlink).1
  rw [hkey, Option.some.injEq] at hsigned
  subst hsigned
  obtain ⟨uri, hreached, hunsigned⟩ :=
    variant_reached hmaster (P := samplePresigner) List.mem_cons_self
  exact ⟨b, a, objects, link, uri, hr, hproduced, hlink, hreached, hunsigned _⟩

end StreamingService
