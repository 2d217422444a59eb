import StreamingService.Media.Assets
import StreamingService.Media.Playback

/-!
# Catalog — PlayFull

The chain behind the 'Play full' button: the catalog's answer, the id the
title page picks from it, and the checks of the media service. The answer
names no asset but the trailer, so the id the button sends is a trailer's;
the media service signs `FULL` assets only. The chain never ends in a URL,
in any state.
-/

namespace StreamingService

open Lib

/-! ## The catalog's answers -/

/-- A playable unit of a catalog answer. -/
structure CatalogUnit where
  ownerType : MediaOwnerType
  ownerId : String
  media : UnitMedia
  deriving DecidableEq, Repr

def CatalogService.EpisodeShape.toUnit (e : CatalogService.EpisodeShape) : CatalogUnit :=
  ⟨.EPISODE, e.id, e.media⟩

/-- The movie, or the episodes, an answer tells about. -/
def Reply.units : Reply → List CatalogUnit
  | .title (.MOVIE head media) => [⟨.TITLE, head.id, media⟩]
  | .title (.SERIES _ seasons) => seasons.flatMap fun season => season.episodes.map (·.toUnit)
  | .episode shape => [shape.toUnit]
  | _ => []

/-- What thread `tid` answered to a request for a title or an episode. -/
def catalogAnswer (b : AppState) (tid : Nat) : Option Reply :=
  match b.threads[tid]? with
  | some ⟨.title _, .done (.ok reply)⟩ => some reply
  | some ⟨.episode _, .done (.ok reply)⟩ => some reply
  | _ => none

/-- 'Play full' works for a unit: the page offers the button, and the id it
sends is answered with a URL for the unit's `FULL` asset. -/
def PlaysFull (cfg : AppConfig) (s : Store) (os : Nat → Ambient) (user : JwtAccessPayload)
    (u : CatalogUnit) : Prop :=
  ∃ id link a, PlayControls.playFull u.media = some id ∧
    ((handle cfg (.playbackUrl (some user) id)).run exec os s).1 = .ok (.link link) ∧
    a ∈ s.mediaAssets ∧ a.ownedBy u.ownerType u.ownerId .FULL = true ∧
    a.hlsManifestKey = some link.url.objectKey

/-! ## Where the trailer of an answer comes from -/

/-- The handler looked the unit's trailer up, and tells what it found. -/
def TrailerLookedUp (h : List (Prog.Entry Sig)) (u : CatalogUnit) : Prop :=
  ∃ found : Option MediaAsset,
    ⟨.mediaAsset (.findByOwner u.ownerType u.ownerId .TRAILER), .ok found⟩ ∈ h ∧
      u.media.trailer.map (·.assetId) = found.map (·.id)

theorem TrailerLookedUp.mono {h h' : List (Prog.Entry Sig)} {u : CatalogUnit}
    (hu : TrailerLookedUp h u) (hsub : ∀ e ∈ h, e ∈ h') : TrailerLookedUp h' u := by
  obtain ⟨found, hmem, heq⟩ := hu
  exact ⟨found, hsub _ hmem, heq⟩

section

open CatalogService

variable {h : List (Prog.Entry Sig)}

/-- A program that answers units answers looked-up ones. -/
def LooksUp {α : Type} (units : α → List CatalogUnit) (r : Except Exception α)
    (h : List (Prog.Entry Sig)) : Prop :=
  ∀ a, r = .ok a → ∀ u ∈ units a, TrailerLookedUp h u

theorem LooksUp.error {α : Type} {units : α → List CatalogUnit} {e : Exception} :
    LooksUp units (.error e) h := by
  intro a ha
  cases ha

theorem unitMedia_emits {ownerType : MediaOwnerType} {ownerId : String} :
    (unitMedia ownerType ownerId).Emits (fun _ _ => True)
      (LooksUp fun media => [⟨ownerType, ownerId, media⟩]) h := by
  refine .bind (Q := fun r h => ∀ trailer, r = .ok trailer → ∃ found : Option MediaAsset,
    ⟨.mediaAsset (.findByOwner ownerType ownerId .TRAILER), .ok found⟩ ∈ h ∧
      trailer.map (·.assetId) = found.map (·.id)) ?_ ?_
    fun e h' _ => .error
  · refine .perform_bind (fun found => ⟨trivial, ?_⟩) fun e => ⟨trivial, fun _ hr => nomatch hr⟩
    intro trailer hr
    cases hr
    exact ⟨found, List.mem_cons_self, by cases found <;> rfl⟩
  · intro trailer h' hfound
    obtain ⟨found, hmem, heq⟩ := hfound trailer rfl
    refine .bind (Q := fun _ h'' => ∀ e ∈ h', e ∈ h'') ?_ ?_
      fun e h'' _ => .error
    · refine .perform_bind (fun found => ⟨trivial, ?_⟩) fun e => ⟨trivial, ?_⟩
      · exact fun e he => List.mem_cons_of_mem _ he
      · exact fun e he => List.mem_cons_of_mem _ he
    · intro full h'' hsub media hr u hu
      cases hr
      rw [List.mem_singleton.mp hu]
      exact ⟨found, hsub _ hmem, heq⟩

theorem toEpisodeShape_emits {episode : Episode} :
    (toEpisodeShape episode).Emits (fun _ _ => True) (LooksUp fun e => [e.toUnit]) h := by
  refine .bind unitMedia_emits ?_ fun e h' _ => .error
  intro media h' hmedia shape hr u hu
  cases hr
  exact hmedia media rfl u hu

theorem toEpisodeShapes_emits {episodes : List Episode} :
    (toEpisodeShapes episodes).Emits (fun _ _ => True)
      (LooksUp fun shapes => shapes.map (·.toUnit)) h := by
  induction episodes generalizing h with
  | nil =>
      intro shapes hr u hu
      cases hr
      cases hu
  | cons episode rest ih =>
      refine .bind toEpisodeShape_emits ?_ fun e h' _ => .error
      intro shape h' hshape
      refine .bind ih.grows ?_ fun e h'' _ => .error
      intro shapes h'' hshapes all hr u hu
      cases hr
      rcases List.mem_cons.mp hu with rfl | hu
      · exact (hshape shape rfl _ List.mem_cons_self).mono hshapes.2
      · exact hshapes.1 shapes rfl u hu

theorem toSeasonShapes_emits {seasons : List (Season × List Episode)} :
    (toSeasonShapes seasons).Emits (fun _ _ => True)
      (LooksUp fun shapes => shapes.flatMap fun season => season.episodes.map (·.toUnit)) h := by
  induction seasons generalizing h with
  | nil =>
      intro shapes hr u hu
      cases hr
      cases hu
  | cons season rest ih =>
      refine .bind toEpisodeShapes_emits ?_ fun e h' _ => .error
      intro episodes h' hepisodes
      refine .bind ih.grows ?_ fun e h'' _ => .error
      intro shapes h'' hshapes all hr u hu
      cases hr
      rcases List.mem_append.mp hu with hu | hu
      · exact (hepisodes episodes rfl u hu).mono hshapes.2
      · exact hshapes.1 shapes rfl u hu

theorem getTitleById_emits {titleId : String} :
    (getTitleById titleId).Emits (fun _ _ => True)
      (LooksUp fun shape => (Reply.title shape).units) h := by
  refine .perform_bind (fun found => ⟨trivial, ?_⟩) fun e => ⟨trivial, .error⟩
  cases found with
  | none => exact .error
  | some tree =>
      cases htype : tree.title.type with
      | MOVIE =>
          simp only [htype]
          refine .bind unitMedia_emits ?_ fun e h' _ => .error
          intro media h' hmedia shape hr u hu
          cases hr
          exact hmedia media rfl u hu
      | SERIES =>
          simp only [htype]
          refine .bind toSeasonShapes_emits ?_ fun e h' _ => .error
          intro seasons h' hseasons shape hr u hu
          cases hr
          exact hseasons seasons rfl u hu

theorem getEpisodeById_emits {episodeId : String} :
    (getEpisodeById episodeId).Emits (fun _ _ => True) (LooksUp fun e => [e.toUnit]) h := by
  refine .perform_bind (fun found => ⟨trivial, ?_⟩) fun e => ⟨trivial, .error⟩
  cases found with
  | none => exact .error
  | some episode => exact toEpisodeShape_emits

end

/-- How a catalog request ends. -/
def CatalogEnd (q : Request) (r : Except Exception Reply) (h : List (Prog.Entry Sig)) : Prop :=
  match q with
  | .title _ | .episode _ => LooksUp Reply.units r h
  | _ => True

theorem catalog_emits (cfg : AppConfig) (q : Request) :
    (handle cfg q).Emits (fun _ _ => True) (CatalogEnd q) [] := by
  have other : (∀ r h, CatalogEnd q r h) → (handle cfg q).Emits (fun _ _ => True) (CatalogEnd q) [] :=
    fun hend => .of_calls (handle_calls cfg q) (fun _ _ _ => trivial) hend
  cases q with
  | title titleId =>
      refine .bind getTitleById_emits ?_ fun e h' _ => LooksUp.error
      intro shape h' hshape reply hr u hu
      cases hr
      exact hshape shape rfl u hu
  | episode episodeId =>
      refine .bind getEpisodeById_emits ?_ fun e h' _ => LooksUp.error
      intro shape h' hshape reply hr u hu
      cases hr
      exact hshape shape rfl u hu
  | _ => exact other fun _ _ => trivial

variable {cfg : AppConfig} {ok : AppState → Action Ambient Request → Prop} {b : AppState}

/-! ## The id the button sends -/

/-- The id 'Play full' sends is the trailer's. -/
theorem playFull_trailer {media : UnitMedia} {id : String}
    (h : PlayControls.playFull media = some id) : media.trailer.map (·.assetId) = some id := by
  unfold PlayControls.playFull at h
  split at h
  · rename_i hfull htrailer
    rw [htrailer]
    exact h
  · cases h

/-- A unit of an answer had its trailer looked up in the answering thread. -/
theorem catalogAnswer_lookedUp {s : Store} (hr : (app cfg).Run ok (Machine.start s) b)
    {tid : Nat} {reply : Reply} (hanswer : catalogAnswer b tid = some reply) {u : CatalogUnit}
    (hu : u ∈ reply.units) : TrailerLookedUp (own tid b.trace) u := by
  have hrec := Machine.Run.emits (catalog_emits cfg) hr
  unfold catalogAnswer at hanswer
  split at hanswer
  · rename_i hth
    cases hanswer
    exact hrec.emits tid _ hth _ rfl u hu
  · rename_i hth
    cases hanswer
    exact hrec.emits tid _ hth _ rfl u hu
  · cases hanswer

/-! ## The chain -/

/-- **'Play full' never plays**: whatever the catalog has answered about a
unit, and whoever presses the button, the id it sends does not lead to the
unit's full video. -/
theorem play_full_never_plays {cfg : AppConfig} {s : Store} {b : AppState}
    (hr : (app cfg).Run anyAction (Machine.start s) b) {tid : Nat} {reply : Reply}
    (hanswer : catalogAnswer b tid = some reply) {u : CatalogUnit} (hu : u ∈ reply.units)
    (user : JwtAccessPayload) (os : Nat → Ambient) : ¬ PlaysFull cfg b.store os user u := by
  rintro ⟨id, link, -, hplay, hlink, -⟩
  obtain ⟨found, hlooked, htrailer⟩ := catalogAnswer_lookedUp hr hanswer hu
  rw [playFull_trailer hplay] at htrailer
  obtain ⟨trailer, rfl, hid⟩ := Option.map_eq_some_iff.mp htrailer.symm
  -- the request handled alone is one more thread of the run
  obtain ⟨b', hr', -, hth⟩ := Machine.run_alone (m := app cfg) b (.playbackUrl (some user) id) os
  rw [show ((app cfg).handle (.playbackUrl (some user) id)).run (app cfg).exec os b.store =
    (handle cfg (.playbackUrl (some user) id)).run exec os b.store from rfl, hlink] at hth
  have hrun := hr.trans hr'
  obtain ⟨instant, x, asset, key, hpath⟩ :=
    (Machine.Run.emits (playback_emits cfg) hrun).emits _ _ hth user id link rfl rfl
  have hanswers := assetAnswers_run hrun
  obtain ⟨hstored, howned⟩ := hanswers _ _ (hr'.past (mem_own.mp hlooked))
  obtain ⟨hstored', hid'⟩ := hanswers _ _ (mem_own.mp hpath.read)
  -- one asset would be of both kinds
  have hkind : trailer.kind = .TRAILER := by
    simp only [MediaAsset.ownedBy, Bool.and_eq_true, beq_iff_eq] at howned
    exact howned.2
  have hfull : asset.kind = .FULL := (MediaAsset.servableKey_eq_some hpath.servable).1
  have hsame := hstored.kind_eq hstored' (hid.trans hid'.symm)
  rw [hkind, hfull] at hsame
  cases hsame

/-! ## An available movie -/

/-- The admin (threads 3 to 8) creates a movie, uploads its trailer and its
full video, the worker (thread 7) transcodes the latter, and the movie is
published. -/
def samplePublication : List (Action Ambient Request) :=
  [.begin (.createTitle (some sampleAdmin) ⟨.MOVIE, "Film", "A film", "poster", []⟩),
    .step 3 ((Ambient.quiet 6000).generating "title-1"),
    .begin (.registerMediaAsset (some sampleAdmin) ⟨.TITLE, "title-1", .TRAILER⟩),
    .step 4 (.quiet 6001), .step 4 ((Ambient.quiet 6002).generating "u-1"),
    .step 4 ((Ambient.quiet 6003).generating "trailer-1"),
    .begin (.completeUpload (some sampleAdmin) "trailer-1"), .step 5 (.quiet 6004),
    .step 5 (.quiet 6005), .step 5 (.quiet 6006),
    .begin (.registerMediaAsset (some sampleAdmin) ⟨.TITLE, "title-1", .FULL⟩),
    .step 6 (.quiet 6007), .step 6 ((Ambient.quiet 6008).generating "u-2"),
    .step 6 ((Ambient.quiet 6009).generating "full-1"),
    .begin (.transcode ⟨"full-1", "sources/title/title-1/full/u-2"⟩)] ++
  (List.replicate 16 (.step 7 (.quiet 7000))) ++
  [.begin (.updateTitle (some sampleAdmin) "title-1" ⟨none, none, none, none, some true⟩),
    .step 8 (.quiet 8000), .step 8 (.quiet 8001), .step 8 (.quiet 8002)]

/-- Thread 9 asks for the published movie. -/
def sampleTitleRequest : List (Action Ambient Request) :=
  [.begin (.title "title-1"), .step 9 (.quiet 9000), .step 9 (.quiet 9001), .step 9 (.quiet 9002)]

/-- `sampleUser` has a Subscription that runs at instant `instant`. -/
def runsAt (s : Store) (user : JwtAccessPayload) (instant : Millis) : Bool :=
  s.subscriptions.rows.any fun x =>
    x.userId == user.sub && x.status == .ACTIVE && decide (instant < x.expiresAt)

/-- The available units of thread 9's answer. -/
def availableUnits (b : AppState) : List CatalogUnit :=
  match catalogAnswer b 9 with
  | none => []
  | some reply => reply.units.filter fun u => u.media.fullAvailable

theorem mem_availableUnits {b : AppState} {u : CatalogUnit} (h : u ∈ availableUnits b) :
    u.media.fullAvailable = true ∧ ∃ reply, catalogAnswer b 9 = some reply ∧ u ∈ reply.units := by
  unfold availableUnits at h
  split at h
  · cases h
  · rename_i reply hanswer
    obtain ⟨hu, havail⟩ := List.mem_filter.mp h
    exact ⟨havail, reply, hanswer, hu⟩

/-- The published movie is available, and 'Play full' does not play it. -/
theorem play_full_never_plays_sample :
    ∃ b : AppState, ∃ u ∈ availableUnits b, runsAt b.store sampleUser 10000 = true ∧
      ¬ PlaysFull sampleConfig b.store (fun _ => .quiet 10000) sampleUser u := by
  obtain ⟨b, hr, hb⟩ := Machine.exists_run_of_replay (m := app sampleConfig)
    (a := Machine.start .empty) anyAction (samplePurchase ++ samplePublication ++ sampleTitleRequest)
    (fun b => runsAt b.store sampleUser 10000 && (availableUnits b).any fun _ => true)
    (by decide +kernel)
  obtain ⟨hruns, hb⟩ := Bool.and_eq_true_iff.mp hb
  obtain ⟨u, hu, -⟩ := List.any_eq_true.mp hb
  obtain ⟨-, reply, hanswer, hmem⟩ := mem_availableUnits hu
  exact ⟨b, u, hu, hruns, play_full_never_plays hr hanswer hmem _ _⟩

/-- What `GET media/:assetId/playback-url` answers to `sampleUser`, alone. -/
def playbackReply (s : Store) (id : String) : Except Exception Reply :=
  ((handle sampleConfig (.playbackUrl (some sampleUser) id)).run exec (fun _ => .quiet 10000) s).1

def isLink : Except Exception Reply → Bool
  | .ok (.link _) => true
  | _ => false

/-- An available movie with a ready trailer, a user whose Subscription runs,
and a button that answers with an error. -/
theorem available_movie_does_not_play :
    ∃ b : AppState, (app sampleConfig).Run anyAction (Machine.start .empty) b ∧
      ∃ u ∈ availableUnits b, runsAt b.store sampleUser 10000 = true ∧
        (PlayControls.playFull u.media).isSome = true ∧
        ¬ PlaysFull sampleConfig b.store (fun _ => .quiet 10000) sampleUser u := by
  obtain ⟨b, hr, hb⟩ := Machine.exists_run_of_replay (m := app sampleConfig)
    (a := Machine.start .empty) anyAction (samplePurchase ++ samplePublication ++ sampleTitleRequest)
    (fun b => runsAt b.store sampleUser 10000 && (availableUnits b).any fun u =>
      (PlayControls.playFull u.media).any fun id => !isLink (playbackReply b.store id))
    (by decide +kernel)
  obtain ⟨hruns, hb⟩ := Bool.and_eq_true_iff.mp hb
  obtain ⟨u, hu, hany⟩ := List.any_eq_true.mp hb
  obtain ⟨id, hplay, hno⟩ := (Option.any_eq_true _ _).mp hany
  refine ⟨b, hr, u, hu, hruns, by rw [hplay]; rfl, ?_⟩
  rintro ⟨id', link, -, hplay', hlink, -⟩
  rw [hplay] at hplay'
  cases hplay'
  simp [playbackReply, hlink, isLink] at hno

end StreamingService
