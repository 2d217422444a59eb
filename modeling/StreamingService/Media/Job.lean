import StreamingService.Lib.Stall
import StreamingService.Media.Playlist

/-!
# Media — Job

How a transcode job ends. Whatever fails between the creation of the work
directory and the last write is caught and makes the asset `FAILED`; but the
directory is created outside the `try`, and the promise around the source's
stream is settled by the write stream alone.
-/

namespace StreamingService

open Lib TranscodeProcessor

/-- What the environment contributes to one statement of a job: what it does
anywhere, and whether the stream the statement reads breaks off. -/
structure JobAmbient extends Ambient where
  breaks : Bool

def execJob : Prog.Exec Sig Store JobAmbient := fun o => exec o.toAmbient

/-- `pipe` hands an error of its source on to nobody and leaves its destination
open: the write stream then neither finishes nor fails. -/
def neverSettles (o : JobAmbient) : Cmd → Bool
  | .service (.pipeToFile _) => o.breaks && o.fault.isNone
  | _ => false

/-! ## How a job should end -/

/-- What a rendition performs when nothing fails: `names` are the files that
`ffmpeg` left in its directory. -/
def renditionLog (mediaAssetId workDir : String) (rendition : Rendition) (names : List String) :
    List (Prog.Entry Sig) :=
  let outDir := join workDir rendition.name
  ⟨.service (.mkdir outDir), .ok ()⟩ ::
  ⟨.service (.ffmpeg (join workDir "source") outDir rendition.name), .ok ()⟩ ::
  ⟨.service (.readdir outDir), .ok names⟩ ::
  names.map fun name =>
    ⟨.service (.putObject (join outDir name) (renditionPrefix mediaAssetId rendition ++ "/" ++ name)),
      .ok ()⟩

/-- The master playlist, written and uploaded. -/
def masterLog (renditions : List Rendition) (mediaAssetId workDir : String) :
    List (Prog.Entry Sig) :=
  let masterPlaylistPath := join workDir "master.m3u8"
  [⟨.service (.writeFile masterPlaylistPath (masterPlaylist renditions)), .ok ()⟩,
    ⟨.service (.putObject masterPlaylistPath (manifestKey mediaAssetId)), .ok ()⟩]

/-- An object has been put under the key. -/
def Put (key : String) (h : List (Prog.Entry Sig)) : Prop :=
  ∃ path, (⟨.service (.putObject path key), .ok ()⟩ : Prog.Entry Sig) ∈ h

/-- The line of the master playlist that names a rendition's playlist. -/
def variantLine (rendition : Rendition) : String := rendition.name ++ "/playlist.m3u8"

/-- The key a relative line of the object under `base` names. -/
def relativeTo (base line : String) : String :=
  String.ofList (Uri.directory base.toList ++ line.toList)

/-- All that a manifest promises has been uploaded. -/
structure Complete (renditions : List Rendition) (mediaAssetId : String)
    (h : List (Prog.Entry Sig)) : Prop where
  files : ∃ workDir,
    (∀ rendition ∈ renditions, ∃ names, renditionLog mediaAssetId workDir rendition names <:+: h) ∧
    masterLog renditions mediaAssetId workDir <:+: h
  variants : ∀ rendition ∈ renditions,
    Put (relativeTo (manifestKey mediaAssetId) (variantLine rendition)) h

/-- The asset is `READY` with a complete manifest, or `FAILED` with a reason. -/
inductive Resolved (renditions : List Rendition) (job : TranscodeJobData) (s : Store)
    (h : List (Prog.Entry Sig)) : Prop
  | ready {a : MediaAsset} {pre post : List (Prog.Entry Sig)} (ha : a ∈ s.mediaAssets)
      (hid : a.id = job.mediaAssetId) (hstatus : a.processingStatus = .READY)
      (hkey : a.hlsManifestKey = some (manifestKey job.mediaAssetId))
      (hh : h = pre ++
        ⟨.mediaAsset (.setReady job.mediaAssetId (manifestKey job.mediaAssetId)), .ok ()⟩ :: post)
      (hcomplete : Complete renditions job.mediaAssetId pre)
  | failed {a : MediaAsset} (ha : a ∈ s.mediaAssets) (hid : a.id = job.mediaAssetId)
      (hstatus : a.processingStatus = .FAILED) (hreason : a.failureReason ≠ none)

/-- The job ends, and its asset is resolved. -/
def JobResolves (renditions : List Rendition) (job : TranscodeJobData) (os : Nat → JobAmbient)
    (s : Store) : Prop :=
  ∃ r s', (processWith renditions job).await execJob neverSettles os s = some (r, s') ∧
    Resolved renditions job s' ((processWith renditions job).trail execJob neverSettles os s)

/-! ## What is assumed -/

/-- The database lets the job's updates through. -/
def updated : Prog.Entry Sig → Bool
  | ⟨.mediaAsset _, .error _⟩ => false
  | _ => true

/-- `ffmpeg` has written the playlist it was asked for. -/
def listsPlaylist : Prog.Entry Sig → Bool
  | ⟨.service (.readdir _), .ok names⟩ => (show List String from names).contains "playlist.m3u8"
  | _ => true

/-- A statement of a job in such an environment. -/
def Usual (_ : JobAmbient) (e : Prog.Entry Sig) : Prop := updated e = true ∧ listsPlaylist e = true

/-! ## The statements of a job -/

theorem Put.mono {key : String} {h h' : List (Prog.Entry Sig)} (hput : Put key h)
    (hsub : ∀ e ∈ h, e ∈ h') : Put key h' :=
  hput.imp fun _ he => hsub _ he

theorem directory_manifestKey (mediaAssetId : String) :
    Uri.directory (manifestKey mediaAssetId).toList = ("hls/" ++ mediaAssetId ++ "/").toList := by
  have hkey : (manifestKey mediaAssetId).toList =
      ("hls/" ++ mediaAssetId).toList ++ '/' :: "master.m3u8".toList := by
    simp [manifestKey]
  have hdrop : ("master.m3u8".toList.reverse ++ '/' :: ("hls/" ++ mediaAssetId).toList.reverse).dropWhile
      (· != '/') = '/' :: ("hls/" ++ mediaAssetId).toList.reverse := by
    have hname : ∀ c ∈ "master.m3u8".toList.reverse, (c != '/') = true := by simp
    rw [List.dropWhile_append_of_pos hname]
    rfl
  rw [Uri.directory, hkey, List.reverse_append, List.reverse_cons, List.append_assoc,
    List.singleton_append, hdrop]
  simp

/-- **A variant's line names the playlist in the rendition's directory.** -/
theorem relativeTo_variantLine (mediaAssetId : String) (rendition : Rendition) :
    relativeTo (manifestKey mediaAssetId) (variantLine rendition) =
      renditionPrefix mediaAssetId rendition ++ "/" ++ "playlist.m3u8" := by
  rw [relativeTo, directory_manifestKey]
  apply String.toList_injective
  simp [variantLine, renditionPrefix]

/-! ## Statement by statement -/

section

variable {s : Store} {h : List (Prog.Entry Sig)} {α : Type}

/-- Nothing of the store has changed, and a program that answers has performed
what `P` says. -/
def Worked (s : Store) (h : List (Prog.Entry Sig)) (P : List (Prog.Entry Sig) → Prop)
    (r : Except Exception α) (sh : Store × List (Prog.Entry Sig)) : Prop :=
  sh.1 = s ∧ ∀ a, r = .ok a → ∃ log, sh.2 = h ++ log ∧ P log

/-- A job's program in such an environment. -/
abbrev Works (s : Store) (h : List (Prog.Entry Sig)) (P : List (Prog.Entry Sig) → Prop)
    (p : App α) : Prop :=
  Prog.Safe (Prog.noting execJob) Usual (fun _ => True) (Worked s h P) p (s, h)

/-- A statement on files, and what follows it. -/
theorem works_bind {c : ServiceCall} {P : List (Prog.Entry Sig) → Prop}
    {f : (Cmd.service c).Resp → App α} (hc : ∀ job, c ≠ .queueAdd job)
    (hf : ∀ a, listsPlaylist ⟨.service c, .ok a⟩ = true →
      Works s (h ++ [⟨.service c, .ok a⟩]) (fun log => P (⟨.service c, .ok a⟩ :: log)) (f a)) :
    Works s h P (stmt (.service c) >>= f) := by
  refine Prog.Safe.noting_bind ?_ ?_
  · intro o a s' hG hex
    obtain rfl := service_store hex hc
    refine (hf a hG.2).mono (fun _ _ => trivial) ?_
    rintro r sh ⟨hs, hlog⟩
    refine ⟨hs, fun b hr => ?_⟩
    obtain ⟨log, hsh, hP⟩ := hlog b hr
    exact ⟨_, by rw [hsh, List.append_assoc, List.singleton_append], hP⟩
  · intro o e s' _ hex
    exact ⟨service_store hex hc, fun _ hr => by cases hr⟩

theorem works_done {P : List (Prog.Entry Sig) → Prop} (hP : P []) (a : α) :
    Works s h P (.done (.ok a)) :=
  ⟨trivial, rfl, fun _ _ => ⟨[], by simp, hP⟩⟩

/-- A last statement on files. -/
theorem works_perform {c : ServiceCall} {P : List (Prog.Entry Sig) → Prop}
    (hc : ∀ job, c ≠ .queueAdd job) (hP : ∀ a, P [⟨.service c, .ok a⟩]) :
    Works s h P (stmt (.service c)) := by
  refine Prog.Safe.noting_perform (S := Sig) (c := Cmd.service c) ?_
  intro o r s' _ hex
  refine ⟨service_store hex hc, ?_⟩
  rintro a rfl
  exact ⟨_, rfl, hP a⟩

/-- One program after the other. -/
theorem Prog.Safe.works_bind {β : Type} {P P' : List (Prog.Entry Sig) → Prop} {p : App α} {f : α → App β}
    (hp : Works s h P p)
    (hf : ∀ a log, P log → Works s (h ++ log) (fun log' => P' (log ++ log')) (f a)) :
    Works s h P' (p >>= f) := by
  refine Prog.Safe.bind hp ?_ ?_
  · rintro a ⟨s', h'⟩ ⟨hs, hlog⟩
    obtain ⟨log, hsh, hP⟩ := hlog a rfl
    subst hs hsh
    refine (hf a log hP).mono (fun _ _ => trivial) ?_
    rintro r sh ⟨hs, hlog'⟩
    refine ⟨hs, fun b hr => ?_⟩
    obtain ⟨log', hsh, hP'⟩ := hlog' b hr
    exact ⟨log ++ log', by rw [hsh, List.append_assoc], hP'⟩
  · rintro e ⟨s', h'⟩ ⟨hs, -⟩
    exact ⟨hs, fun _ hr => by cases hr⟩

end

section

variable {s : Store} {h : List (Prog.Entry Sig)} {workDir : String}

theorem downloadSource_works (objectKey destPath : String) :
    Works s h (fun _ => True) (downloadSource objectKey destPath) := by
  refine works_bind (by simp) fun body _ => ?_
  split
  · exact ⟨trivial, rfl, fun _ hr => by cases hr⟩
  · exact works_perform (by simp) fun _ => trivial

/-- What uploading these files performs. -/
def putLog (localDir keyPrefix : String) (entries : List String) : List (Prog.Entry Sig) :=
  entries.map fun entry =>
    ⟨.service (.putObject (join localDir entry) (keyPrefix ++ "/" ++ entry)), .ok ()⟩

/-- Every file is put, in order. -/
theorem uploadEntries_works (localDir keyPrefix : String) (entries : List String) :
    Works s h (fun log => log = putLog localDir keyPrefix entries)
      (uploadEntries localDir keyPrefix entries) := by
  induction entries generalizing h with
  | nil => exact works_done (P := fun log => log = []) rfl ()
  | cons entry rest ih =>
      refine works_bind (by simp) fun _ _ => (ih).mono (fun _ _ => trivial) ?_
      rintro r sh ⟨hs, hlog⟩
      refine ⟨hs, fun a hr => ?_⟩
      obtain ⟨log, hsh, rfl⟩ := hlog a hr
      exact ⟨_, hsh, rfl⟩

theorem transcodeRendition_works (outDir : String) (rendition : Rendition) :
    Works s h (fun log => log = [⟨.service (.mkdir outDir), .ok ()⟩,
        ⟨.service (.ffmpeg (join workDir "source") outDir rendition.name), .ok ()⟩])
      (transcodeRendition (join workDir "source") outDir rendition) :=
  works_bind (by simp) fun _ _ => works_perform (by simp) fun _ => rfl

theorem uploadDirectory_works (localDir keyPrefix : String) :
    Works s h (fun log => ∃ names, "playlist.m3u8" ∈ names ∧
        log = ⟨.service (.readdir localDir), .ok names⟩ :: putLog localDir keyPrefix names)
      (uploadDirectory localDir keyPrefix) := by
  refine works_bind (by simp) fun (names : List String) hnames => ?_
  refine (uploadEntries_works localDir keyPrefix names).mono (fun _ _ => trivial) ?_
  rintro r sh ⟨hs, hlog⟩
  refine ⟨hs, fun a hr => ?_⟩
  obtain ⟨log, hsh, rfl⟩ := hlog a hr
  exact ⟨_, hsh, names, List.contains_iff_mem.mp hnames, rfl⟩

/-- Every rendition is transcoded and uploaded, its playlist among its files. -/
def AllUploaded (mediaAssetId workDir : String) (renditions : List Rendition)
    (log : List (Prog.Entry Sig)) : Prop :=
  ∀ rendition ∈ renditions, ∃ names, "playlist.m3u8" ∈ names ∧
    renditionLog mediaAssetId workDir rendition names <:+: log

theorem AllUploaded.mono {mediaAssetId : String} {renditions : List Rendition}
    {log log' : List (Prog.Entry Sig)} (hall : AllUploaded mediaAssetId workDir renditions log)
    (hpart : log <:+: log') : AllUploaded mediaAssetId workDir renditions log' := by
  intro rendition hrendition
  obtain ⟨names, hnames, hlog⟩ := hall rendition hrendition
  exact ⟨names, hnames, hlog.trans hpart⟩

/-- The loop over the renditions. -/
theorem transcodeAll_works (mediaAssetId : String) (renditions : List Rendition) :
    Works s h (AllUploaded mediaAssetId workDir renditions)
      (transcodeAll mediaAssetId workDir (join workDir "source") renditions) := by
  induction renditions generalizing h with
  | nil => exact works_done (fun _ hr => by cases hr) ()
  | cons rendition rest ih =>
      refine Prog.Safe.works_bind (transcodeRendition_works _ rendition) fun _ log hlog => ?_
      refine Prog.Safe.works_bind (uploadDirectory_works _ _) fun _ log' hlog' => ?_
      refine (ih).mono (fun _ _ => trivial) ?_
      rintro r sh ⟨hs, hrest⟩
      refine ⟨hs, fun a hr => ?_⟩
      obtain ⟨log'', hsh, hall⟩ := hrest a hr
      refine ⟨log'', hsh, ?_⟩
      obtain ⟨names, hnames, rfl⟩ := hlog'
      subst hlog
      intro x hx
      rcases List.mem_cons.mp hx with rfl | hx
      · exact ⟨names, hnames, [], log'', by simp [renditionLog, putLog]⟩
      · refine hall.mono ?_ x hx
        exact ⟨_, [], by rw [List.append_nil, ← List.append_assoc]⟩

/-! ## The try block -/

theorem Put.of_rendition {mediaAssetId : String} {rendition : Rendition} {names : List String}
    {log : List (Prog.Entry Sig)} (hnames : "playlist.m3u8" ∈ names)
    (hlog : renditionLog mediaAssetId workDir rendition names <:+: log) :
    Put (relativeTo (manifestKey mediaAssetId) (variantLine rendition)) log := by
  refine ⟨join (join workDir rendition.name) "playlist.m3u8", hlog.subset ?_⟩
  rw [relativeTo_variantLine]
  have hput : (⟨.service (.putObject (join (join workDir rendition.name) "playlist.m3u8")
      (renditionPrefix mediaAssetId rendition ++ "/" ++ "playlist.m3u8")), .ok ()⟩ : Prog.Entry Sig) ∈
      putLog (join workDir rendition.name) (renditionPrefix mediaAssetId rendition) names :=
    List.mem_map_of_mem hnames
  exact List.mem_cons_of_mem _ (List.mem_cons_of_mem _ (List.mem_cons_of_mem _ hput))

/-- What the job has put before it writes `READY`. -/
theorem AllUploaded.complete {renditions : List Rendition} {mediaAssetId : String}
    {pre log : List (Prog.Entry Sig)} (hall : AllUploaded mediaAssetId workDir renditions log) :
    Complete renditions mediaAssetId (pre ++ log ++ masterLog renditions mediaAssetId workDir) := by
  have hpart : log <:+: pre ++ log ++ masterLog renditions mediaAssetId workDir := ⟨pre, _, rfl⟩
  refine ⟨⟨workDir, fun rendition hrendition => ?_, ⟨_, [], by rw [List.append_nil]⟩⟩, ?_⟩
  · obtain ⟨names, -, hlog⟩ := hall rendition hrendition
    exact ⟨names, hlog.trans hpart⟩
  · intro rendition hrendition
    obtain ⟨names, hnames, hlog⟩ := hall rendition hrendition
    exact Put.of_rendition hnames (hlog.trans hpart)

/-- An accepted status write leaves the row it wrote. -/
theorem status_written {s s' : Store} {id : String} {f : MediaAsset → MediaAsset}
    {hf : ∀ a b, Indexed.clash (f a) b = Indexed.clash a b} {a : MediaAsset} {u : Unit}
    (ha : a ∈ s.mediaAssets) (hid : a.id = id) (h : updateAsset s id f hf = (.ok u, s')) :
    f a ∈ s'.mediaAssets := by
  unfold updateAsset at h
  split at h
  · cases h
  · cases h
    refine List.mem_map.mpr ⟨a, ha, ?_⟩
    rw [if_pos (by simpa using hid)]

variable {renditions : List Rendition} {job : TranscodeJobData} {a : MediaAsset}

/-- The `try` ends with the asset `READY` and its manifest complete, or throws
and has written nothing. -/
def Tried (renditions : List Rendition) (job : TranscodeJobData) (s : Store)
    (r : Except Exception Unit) (sh : Store × List (Prog.Entry Sig)) : Prop :=
  match r with
  | .ok _ => Resolved renditions job sh.1 sh.2
  | .error _ => sh.1 = s

theorem produce_tried (ha : a ∈ s.mediaAssets) (hid : a.id = job.mediaAssetId) :
    Prog.Safe (Prog.noting execJob) Usual (fun _ => True) (Tried renditions job s)
      (produce renditions job workDir) (s, []) := by
  refine Prog.Safe.bind (downloadSource_works job.sourceObjectKey _) ?_ fun e sh hend => hend.1
  rintro _ ⟨s₁, h₁⟩ ⟨rfl, -⟩
  refine Prog.Safe.bind (transcodeAll_works job.mediaAssetId renditions) ?_ fun e sh hend => hend.1
  rintro _ ⟨s₂, h₂⟩ ⟨rfl, huploaded⟩
  obtain ⟨log, rfl, hall⟩ := huploaded _ rfl
  refine Prog.Safe.noting_bind ?_ fun o e s' _ hex => service_store hex (by simp)
  intro o _ s' _ hex
  obtain rfl := service_store hex (by simp)
  refine Prog.Safe.noting_bind ?_ fun o e s' _ hex => service_store hex (by simp)
  intro o _ s' _ hex
  obtain rfl := service_store hex (by simp)
  refine Prog.Safe.noting_perform (S := Sig) (c := Cmd.mediaAsset (.setReady _ _)) ?_
  intro o r s' hG hex
  match r with
  | .error e => exact absurd hG.1 Bool.false_ne_true
  | .ok _ =>
      have hrow := status_written ha hid (exec_ok hex)
      have hcomplete : Complete renditions job.mediaAssetId
          (h₁ ++ log ++ masterLog renditions job.mediaAssetId workDir) := hall.complete
      refine Resolved.ready hrow hid rfl rfl (?_ : _ = _ ++ _ :: []) hcomplete
      simp only [masterLog, List.append_assoc]
      rfl

theorem Complete.mono {mediaAssetId : String} {h' : List (Prog.Entry Sig)}
    (hcomplete : Complete renditions mediaAssetId h) (hpart : h <:+: h') :
    Complete renditions mediaAssetId h' := by
  obtain ⟨workDir, hrenditions, hmaster⟩ := hcomplete.files
  refine ⟨⟨workDir, fun rendition hrendition => ?_, hmaster.trans hpart⟩, fun rendition hrendition =>
    (hcomplete.variants rendition hrendition).mono fun _ he => hpart.subset he⟩
  obtain ⟨names, hlog⟩ := hrenditions rendition hrendition
  exact ⟨names, hlog.trans hpart⟩

/-- A statement before the others. -/
theorem Resolved.cons {s' : Store} (hres : Resolved renditions job s' h) (e : Prog.Entry Sig) :
    Resolved renditions job s' (e :: h) := by
  cases hres with
  | ready ha hid hstatus hkey hh hcomplete =>
      exact .ready ha hid hstatus hkey (by rw [hh, List.cons_append])
        (hcomplete.mono (List.suffix_cons e _).isInfix)
  | failed ha hid hstatus hreason => exact .failed ha hid hstatus hreason

theorem Resolved.mono {s' : Store} {log : List (Prog.Entry Sig)} (hres : Resolved renditions job s' h) :
    Resolved renditions job s' (h ++ log) := by
  cases hres with
  | ready ha hid hstatus hkey hh hcomplete =>
      exact .ready ha hid hstatus hkey (by rw [hh, List.append_assoc, List.cons_append]) hcomplete
  | failed ha hid hstatus hreason => exact .failed ha hid hstatus hreason

theorem cleanup_resolved {s' : Store} (hres : Resolved renditions job s' h) (r : Except Exception Unit) :
    Prog.Safe (Prog.noting execJob) Usual (fun _ => True)
      (fun _ sh => Resolved renditions job sh.1 sh.2)
      (stmt (.service (.removeDir workDir)) >>= fun _ => .done r) (s', h) := by
  refine Prog.Safe.noting_bind ?_ ?_
  · intro o _ s'' _ hex
    obtain rfl := service_store hex (by simp)
    exact ⟨trivial, hres.mono⟩
  · intro o e s'' _ hex
    obtain rfl := service_store hex (by simp)
    exact hres.mono

/-- What runs once there is a work directory. -/
def inWorkDir (renditions : List Rendition) (job : TranscodeJobData) (workDir : String) : App Unit :=
  andFinally
    (tryCatch (produce renditions job workDir) fun err =>
      stmt (.mediaAsset (.setFailed job.mediaAssetId err.message)))
    (stmt (.service (.removeDir workDir)))

/-- **Once there is a work directory, the asset is resolved.** -/
theorem inWorkDir_resolved (ha : a ∈ s.mediaAssets) (hid : a.id = job.mediaAssetId) :
    Prog.Safe (Prog.noting execJob) Usual (fun _ => True)
      (fun _ sh => Resolved renditions job sh.1 sh.2) (inWorkDir renditions job workDir) (s, []) := by
  have htried : Prog.Safe (Prog.noting execJob) Usual (fun _ => True)
      (fun _ sh => Resolved renditions job sh.1 sh.2)
      (tryCatch (produce renditions job workDir) fun err =>
        stmt (.mediaAsset (.setFailed job.mediaAssetId err.message))) (s, []) := by
    refine Prog.Safe.catchErr (produce_tried ha hid) (fun _ _ hend => hend) ?_
    rintro e ⟨s₁, h₁⟩ hsame
    have hsame : s₁ = s := hsame
    subst hsame
    refine Prog.Safe.noting_perform (S := Sig) (c := Cmd.mediaAsset (.setFailed _ _)) ?_
    intro o r s' hG hex
    match r with
    | .error e => exact absurd hG.1 Bool.false_ne_true
    | .ok _ => exact .failed (status_written ha hid (exec_ok hex)) hid rfl (by simp)
  refine Prog.Safe.bind (Q := fun _ sh => Resolved renditions job sh.1 sh.2)
    (Prog.Safe.catchErr htried (fun _ _ hend => hend) ?_) ?_ fun _ _ hend => hend
  · exact fun e sh hres => cleanup_resolved hres _
  · exact fun u sh hres => cleanup_resolved hres _

end

/-! ## The streams of a job -/

/-- Not the copy of a stream into a file. -/
def copies : Cmd → Bool
  | .service (.pipeToFile _) => true
  | _ => false

/-- The source stream has been opened and breaks off midway. -/
def SourceBreaks (os : Nat → JobAmbient) : Prop :=
  (os 1).fault = none ∧ (os 1).accepts = true ∧ (os 2).fault = none ∧ (os 2).breaks = true

section

variable {s : Store} {workDir : String} {renditions : List Rendition} {job : TranscodeJobData}
  {os : Nat → JobAmbient}

theorem neverSettles_of_copies (o : JobAmbient) (c : Cmd) (hc : copies c = false) :
    neverSettles o c = false := by
  unfold neverSettles
  split
  · cases hc
  · rfl

theorem uploadEntries_copies (localDir keyPrefix : String) (entries : List String) :
    (uploadEntries localDir keyPrefix entries).Calls fun c => copies c = false := by
  induction entries with
  | nil => trivial
  | cons entry rest ih => exact .perform_bind rfl fun _ => ih

theorem transcodeAll_copies (mediaAssetId sourcePath : String) (renditions : List Rendition) :
    (transcodeAll mediaAssetId workDir sourcePath renditions).Calls fun c => copies c = false := by
  induction renditions with
  | nil => trivial
  | cons rendition rest ih =>
      refine .bind ?_ fun _ => .bind ?_ fun _ => ih
      · exact .perform_bind rfl fun _ => ⟨rfl, fun _ => trivial⟩
      · exact .perform_bind rfl fun entries => uploadEntries_copies _ _ entries

/-- Only the source's stream can leave a job waiting. -/
theorem inWorkDir_answered :
    (inWorkDir renditions job workDir).Answered execJob neverSettles os s ↔
      (downloadSource job.sourceObjectKey (join workDir "source")).Answered execJob neverSettles
        os s := by
  have hA := neverSettles_of_copies
  refine ⟨fun h => Prog.answered_of_bind (Prog.answered_of_catchErr (Prog.answered_of_catchErr
    (Prog.answered_of_bind h))), fun h => ?_⟩
  refine .bind hA ?_ (.catchErr hA ?_ (.catchErr hA ?_ (.bind hA ?_ h)))
  · exact fun _ => .perform_bind rfl fun _ => trivial
  · exact fun _ => .perform_bind rfl fun _ => trivial
  · exact fun _ => ⟨rfl, fun _ => trivial⟩
  · intro _
    refine .bind (transcodeAll_copies _ _ _) fun _ => .perform_bind rfl fun _ => ?_
    exact .perform_bind rfl fun _ => ⟨rfl, fun _ => trivial⟩

/-- The job waits for ever exactly if that stream breaks off. -/
theorem downloadSource_answered :
    (downloadSource job.sourceObjectKey (join workDir "source")).Answered execJob neverSettles
      (fun n => os (n + 1)) s ↔ ¬ SourceBreaks os := by
  have hfirst : neverSettles (os 1) (.service (.getObject job.sourceObjectKey)) = false := rfl
  cases hfault : (os 1).fault with
  | some e =>
      have hex : execJob (os 1) (.service (.getObject job.sourceObjectKey)) s = (.error e, s) :=
        exec_fault hfault _ s (by simp)
      refine iff_of_true ((Prog.answered_error hex).mpr hfirst) fun hbreaks => ?_
      rw [hbreaks.1] at hfault
      cases hfault
  | none =>
      have hex : execJob (os 1) (.service (.getObject job.sourceObjectKey)) s =
          (.ok (os 1).accepts, s) := exec_answer hfault _ s
      have hpipe : neverSettles (os 2) (.service (.pipeToFile (join workDir "source"))) = false ↔
          ¬ ((os 2).fault = none ∧ (os 2).breaks = true) := by
        cases hpiped : (os 2).fault <;> simp [neverSettles, hpiped]
      refine (Prog.answered_ok hex).trans ?_
      rw [SourceBreaks, hfault]
      cases (os 1).accepts with
      | false => exact iff_of_true ⟨hfirst, trivial⟩ (by simp)
      | true =>
          refine ⟨fun h hbreaks => hpipe.mp h.2.1 hbreaks.2.2, fun h => ⟨hfirst, hpipe.mpr ?_, trivial⟩⟩
          exact fun hboth => h ⟨rfl, rfl, hboth⟩

end

/-! ## The exact condition -/

/-- The asset already was as a failed job leaves it. -/
def MediaAsset.HasFailed (a : MediaAsset) : Prop :=
  a.processingStatus = .FAILED ∧ a.failureReason ≠ none

instance (a : MediaAsset) : Decidable a.HasFailed :=
  inferInstanceAs (Decidable (_ ∧ _))

section

variable {s : Store} {renditions : List Rendition} {job : TranscodeJobData} {a : MediaAsset}
  {os : Nat → JobAmbient}

/-- Without a work directory the job does nothing at all. -/
theorem resolves_without_workDir {e : Exception} (ha : a ∈ s.mediaAssets)
    (hid : a.id = job.mediaAssetId) (hfault : (os 0).fault = some e) :
    JobResolves renditions job os s ↔ a.HasFailed := by
  have hex : execJob (os 0) (.service .mkdtemp) s = (.error e, s) := exec_fault hfault _ s (by simp)
  have hawait : (processWith renditions job).await execJob neverSettles os s = some (.error e, s) :=
    Prog.await_error (S := Sig) (c := Cmd.service .mkdtemp) rfl hex
  have htrail : (processWith renditions job).trail execJob neverSettles os s =
      [⟨.service .mkdtemp, .error e⟩] :=
    Prog.trail_error (S := Sig) (c := Cmd.service .mkdtemp) rfl hex
  constructor
  · rintro ⟨r, s', hend, hres⟩
    cases hawait.symm.trans hend
    cases hres with
    | ready _ _ _ _ hh _ =>
        have hready : (⟨.mediaAsset (.setReady job.mediaAssetId (manifestKey job.mediaAssetId)),
            .ok ()⟩ : Prog.Entry Sig) ∈ [⟨.service .mkdtemp, .error e⟩] := by
          rw [← htrail, hh]
          exact List.mem_append_right _ List.mem_cons_self
        cases List.mem_singleton.mp hready
    | failed ha' hid' hstatus hreason =>
        cases mediaAssets_eq_of_id ha ha' (hid.trans hid'.symm)
        exact ⟨hstatus, hreason⟩
  · exact fun h => ⟨_, _, hawait, .failed ha hid h.1 h.2⟩

/-- With a work directory the job resolves its asset unless it waits for ever. -/
theorem resolves_in_workDir (ha : a ∈ s.mediaAssets) (hid : a.id = job.mediaAssetId)
    (husual : ∀ e ∈ (processWith renditions job).trail execJob neverSettles os s,
      updated e = true ∧ listsPlaylist e = true) (hfault : (os 0).fault = none) :
    JobResolves renditions job os s ↔ ¬ SourceBreaks os := by
  have hex : execJob (os 0) (.service .mkdtemp) s = (.ok (os 0).fresh, s) := exec_answer hfault _ s
  have hawait : (processWith renditions job).await execJob neverSettles os s =
      (inWorkDir renditions job (os 0).fresh).await execJob neverSettles (fun n => os (n + 1)) s :=
    Prog.await_ok (S := Sig) (c := Cmd.service .mkdtemp) rfl hex
  have htrail : (processWith renditions job).trail execJob neverSettles os s =
      ⟨.service .mkdtemp, .ok (os 0).fresh⟩ ::
        (inWorkDir renditions job (os 0).fresh).trail execJob neverSettles (fun n => os (n + 1)) s :=
    Prog.trail_ok (S := Sig) (c := Cmd.service .mkdtemp) rfl hex
  have hanswered : (inWorkDir renditions job (os 0).fresh).Answered execJob neverSettles
      (fun n => os (n + 1)) s ↔ ¬ SourceBreaks os :=
    inWorkDir_answered.trans downloadSource_answered
  constructor
  · rintro ⟨r, s', hend, -⟩
    exact hanswered.mp (Prog.answered_of_await (hawait.symm.trans hend))
  · intro h
    have hrun := hanswered.mpr h
    rw [Prog.trail_eq hrun] at htrail
    have hgood : Prog.Along execJob Usual (inWorkDir renditions job (os 0).fresh)
        (fun n => os (n + 1)) s := by
      refine Prog.along_of_history (S := Sig)
        (G := fun e => updated e = true ∧ listsPlaylist e = true) fun e he => husual e ?_
      rw [htrail]
      exact List.mem_cons_of_mem _ he
    refine ⟨_, _, hawait.trans (Prog.await_eq hrun), ?_⟩
    rw [htrail]
    exact ((inWorkDir_resolved ha hid).history hgood).cons _

end

/-- A full video whose upload has just been completed. -/
def sampleUploaded : Store :=
  { Store.empty with
    mediaAssets := ⟨[⟨"full-1", .TITLE, "title-1", .FULL, .PENDING, "sources/title/title-1/full/u-1",
      none, none⟩], by decide⟩ }

def sampleTranscode : TranscodeJobData := ⟨"full-1", "sources/title/title-1/full/u-1"⟩

/-- Nothing fails. -/
def transcoding : JobAmbient :=
  { (Ambient.quiet 8).generating "/tmp/transcode-1" with
    accepts := true
    names := ["playlist.m3u8", "segment000.ts", "segment001.ts"]
    breaks := false }

end StreamingService
