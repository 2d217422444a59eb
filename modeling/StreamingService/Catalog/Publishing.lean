import StreamingService.Catalog.Contents
import StreamingService.Footprint
import StreamingService.Lib.Crash
import StreamingService.Media.Assets

/-!
# Catalog — Publishing

Published means playable, and what takes it back. The guard of `updateTitle`
and `updateEpisode` asks for a `READY` full video when it publishes, and
nobody asks again: a new upload, or an unpublished episode, leaves a
published title with nothing to play. Between such a statement and the next
one that gives the video back, and there only, the promise lapses.
-/

namespace StreamingService

open Lib

/-! ## The promise -/

/-- What an admin publishes. -/
inductive Publishable where
  | movie (titleId : String)
  | series (titleId : String)
  | episode (episodeId : String)
  deriving DecidableEq, Repr

/-- The owner has a `READY` full video. -/
def FullReady (s : Store) (ownerType : MediaOwnerType) (ownerId : String) : Prop :=
  ∃ a ∈ s.mediaAssets.rows, a.ownedBy ownerType ownerId .FULL = true ∧ a.processingStatus = .READY

/-- The episode is in one of the title's seasons. -/
def inTitle (s : Store) (titleId : String) (x : Episode) : Bool :=
  (s.seasons.find? fun season => season.id == x.seasonId && season.titleId == titleId).isSome

/-- A published episode of the title, with a `READY` full video. -/
def PlayableEpisode (s : Store) (titleId : String) (x : Episode) : Prop :=
  x.published = true ∧ inTitle s titleId x = true ∧ FullReady s .EPISODE x.id

def Published (s : Store) : Publishable → Prop
  | .movie id => ∃ t ∈ s.titles.rows, t.id = id ∧ t.type = .MOVIE ∧ t.published = true
  | .series id => ∃ t ∈ s.titles.rows, t.id = id ∧ t.type = .SERIES ∧ t.published = true
  | .episode id => ∃ x ∈ s.episodes.rows, x.id = id ∧ x.published = true

def Playable (s : Store) : Publishable → Prop
  | .movie id => FullReady s .TITLE id
  | .series id => ∃ x ∈ s.episodes.rows, PlayableEpisode s id x
  | .episode id => FullReady s .EPISODE id

/-! ## What takes it back, and what gives it back -/

/-- An accepted statement writes another status than `READY` to the owner's
full video. -/
def TakesBack (s : Store) (ownerType : MediaOwnerType) (ownerId : String)
    (e : Prog.Entry Sig) : Prop :=
  ∃ a ∈ s.mediaAssets.rows, a.ownedBy ownerType ownerId .FULL = true ∧
    ∃ w ∈ assetWrite e, w.1 = a.id ∧ w.2 ≠ .READY

/-- An accepted statement writes `READY` to the owner's full video. -/
def GivesBack (s : Store) (ownerType : MediaOwnerType) (ownerId : String)
    (e : Prog.Entry Sig) : Prop :=
  ∃ a ∈ s.mediaAssets.rows, a.ownedBy ownerType ownerId .FULL = true ∧
    ∃ w ∈ assetWrite e, w.1 = a.id ∧ w.2 = .READY

/-- A series is withdrawn with the only episode that could be played. -/
def Withdraws (s : Store) (e : Prog.Entry Sig) : Publishable → Prop
  | .movie id => TakesBack s .TITLE id e
  | .series id => ∃ x ∈ s.episodes.rows, PlayableEpisode s id x ∧
      (TakesBack s .EPISODE x.id e ∨ writesEpisodeFlag x.id false e = true) ∧
      ∀ x' ∈ s.episodes.rows, PlayableEpisode s id x' → x'.id = x.id
  | .episode id => TakesBack s .EPISODE id e

/-- A series is restored with any of its episodes. -/
def Restores (s : Store) (e : Prog.Entry Sig) : Publishable → Prop
  | .movie id => GivesBack s .TITLE id e
  | .series id => ∃ x ∈ s.episodes.rows, inTitle s id x = true ∧
      (x.published = true ∧ GivesBack s .EPISODE x.id e ∨
        FullReady s .EPISODE x.id ∧ writesEpisodeFlag x.id true e = true)
  | .episode id => GivesBack s .EPISODE id e

/-- An accepted edit publishes a title of this type, or this episode. -/
def Publishes (s : Store) (e : Prog.Entry Sig) : Publishable → Prop
  | .movie id => (∃ t ∈ s.titles.rows, t.id = id ∧ t.type = .MOVIE) ∧ writesTitleFlag id true e = true
  | .series id =>
      (∃ t ∈ s.titles.rows, t.id = id ∧ t.type = .SERIES) ∧ writesTitleFlag id true e = true
  | .episode id => writesEpisodeFlag id true e = true

section

variable (s : Store) (ownerType : MediaOwnerType) (ownerId titleId : String) (x : Episode)
  (e : Prog.Entry Sig)

instance : Decidable (FullReady s ownerType ownerId) :=
  inferInstanceAs (Decidable (∃ a ∈ s.mediaAssets.rows, _))

instance : Decidable (PlayableEpisode s titleId x) := inferInstanceAs (Decidable (_ ∧ _ ∧ _))

instance : (u : Publishable) → Decidable (Published s u)
  | .movie _ => inferInstanceAs (Decidable (∃ t ∈ s.titles.rows, _))
  | .series _ => inferInstanceAs (Decidable (∃ t ∈ s.titles.rows, _))
  | .episode _ => inferInstanceAs (Decidable (∃ x ∈ s.episodes.rows, _))

instance : (u : Publishable) → Decidable (Playable s u)
  | .movie id => inferInstanceAs (Decidable (FullReady s .TITLE id))
  | .series _ => inferInstanceAs (Decidable (∃ x ∈ s.episodes.rows, _))
  | .episode id => inferInstanceAs (Decidable (FullReady s .EPISODE id))

instance : Decidable (TakesBack s ownerType ownerId e) :=
  inferInstanceAs (Decidable (∃ a ∈ s.mediaAssets.rows, _ ∧ ∃ w ∈ assetWrite e, _))

instance : Decidable (GivesBack s ownerType ownerId e) :=
  inferInstanceAs (Decidable (∃ a ∈ s.mediaAssets.rows, _ ∧ ∃ w ∈ assetWrite e, _))

instance : (u : Publishable) → Decidable (Withdraws s e u)
  | .movie id => inferInstanceAs (Decidable (TakesBack s .TITLE id e))
  | .series _ => inferInstanceAs (Decidable (∃ x ∈ s.episodes.rows, _))
  | .episode id => inferInstanceAs (Decidable (TakesBack s .EPISODE id e))

instance : (u : Publishable) → Decidable (Restores s e u)
  | .movie id => inferInstanceAs (Decidable (GivesBack s .TITLE id e))
  | .series _ => inferInstanceAs (Decidable (∃ x ∈ s.episodes.rows, _))
  | .episode id => inferInstanceAs (Decidable (GivesBack s .EPISODE id e))

instance : (u : Publishable) → Decidable (Publishes s e u)
  | .movie _ => inferInstanceAs (Decidable ((∃ t ∈ s.titles.rows, _) ∧ _))
  | .series _ => inferInstanceAs (Decidable ((∃ t ∈ s.titles.rows, _) ∧ _))
  | .episode _ => inferInstanceAs (Decidable (_ = _))

end

/-- Whether the promise of `u` has lapsed, after one more statement. -/
def lapse (u : Publishable) (lapsed : Bool) (s : Store) (e : Prog.Entry Sig) : Bool :=
  if Withdraws s e u then true
  else if Restores s e u ∨ Publishes s e u then false
  else lapsed

/-! ## One statement -/

/-- What one statement did to the contents and to the assets. -/
structure LibraryStep (s s' : Store) (e : Prog.Entry Sig) : Prop where
  contents : ContentStep s s' e
  kept : AssetsKept s s'
  assets : ∀ a' ∈ s'.mediaAssets, AssetStep s a' e

theorem exec_library (o : Ambient) (c : Cmd) (s : Store) :
    LibraryStep s (exec o c s).2 ⟨c, (exec o c s).1⟩ where
  contents := exec_contents o c s
  kept := exec_assetsKept o c s
  assets := fun _ => exec_assetStep o c s

theorem MediaAsset.SameAs.ownedBy_eq {a a' : MediaAsset} (h : a.SameAs a')
    (ownerType : MediaOwnerType) (ownerId : String) (kind : MediaKind) :
    a'.ownedBy ownerType ownerId kind = a.ownedBy ownerType ownerId kind := by
  simp [MediaAsset.ownedBy, h.ownerType, h.ownerId, h.kind]

namespace LibraryStep

variable {s s' : Store} {e : Prog.Entry Sig} {ownerType : MediaOwnerType} {ownerId : String}

theorem fullReady (h : LibraryStep s s' e) (hready : FullReady s ownerType ownerId)
    (hno : ¬ TakesBack s ownerType ownerId e) : FullReady s' ownerType ownerId := by
  obtain ⟨a, ha, howned, hst⟩ := hready
  obtain ⟨a', ha', hsame⟩ := h.kept a ha
  refine ⟨a', ha', by rw [hsame.ownedBy_eq, howned], ?_⟩
  -- a write of another status would take the video back
  have hwrite : ∀ status, assetWrite e = some (a'.id, status) → status ≠ .READY → False := by
    intro status hw hne
    exact hno ⟨a, ha, howned, (a'.id, status), hw, hsame.id, hne⟩
  cases h.assets a' ha' with
  | kept hold _ => rw [mediaAssets_eq_of_id hold ha hsame.id, hst]
  | uploaded _ => exact (hwrite .PENDING rfl (by decide)).elim
  | reset _ _ => exact (hwrite .PENDING rfl (by decide)).elim
  | trailerReady _ heq => rw [heq]
  | ready _ heq => rw [heq]
  | failed _ _ => exact (hwrite .FAILED rfl (by decide)).elim

theorem gives_back (h : LibraryStep s s' e) (hgives : GivesBack s ownerType ownerId e) :
    FullReady s' ownerType ownerId := by
  obtain ⟨a, ha, howned, w, hw, hid, hst⟩ := hgives
  obtain ⟨a', ha', hsame⟩ := h.kept a ha
  refine ⟨a', ha', by rw [hsame.ownedBy_eq, howned], ?_⟩
  cases h.assets a' ha' with
  | kept _ hno => exact absurd (hid.trans hsame.id.symm) (hno w hw)
  | uploaded _ =>
      cases hw
      cases hst
  | reset _ _ =>
      cases hw
      cases hst
  | trailerReady _ heq => rw [heq]
  | ready _ heq => rw [heq]
  | failed _ _ =>
      cases hw
      cases hst

/-- Seasons are never deleted. -/
theorem inTitle_kept (h : LibraryStep s s' e) {titleId : String} {x x' : Episode}
    (hseason : x'.seasonId = x.seasonId) (hin : inTitle s titleId x = true) :
    inTitle s' titleId x' = true := by
  obtain ⟨season, hfind⟩ := Option.isSome_iff_exists.mp hin
  obtain ⟨hmem, hp⟩ := Table.mem_of_find? hfind
  obtain ⟨season', hfind'⟩ := Table.find?_isSome
    (p := fun season => season.id == x.seasonId && season.titleId == titleId)
    (h.contents.season_kept hmem) hp
  unfold inTitle
  rw [hseason, hfind']
  rfl

/-- An episode that no statement hits stays playable. -/
theorem playableEpisode (h : LibraryStep s s' e) {titleId : String} {x : Episode}
    (hx : x ∈ s.episodes) (hplay : PlayableEpisode s titleId x)
    (hno : ¬ TakesBack s .EPISODE x.id e) (hflag : writesEpisodeFlag x.id false e = false) :
    ∃ x' ∈ s'.episodes.rows, PlayableEpisode s' titleId x' := by
  obtain ⟨hp, hin, hready⟩ := hplay
  obtain ⟨x', hx', hid, hseason, hpub, -⟩ := h.contents.episode_kept hx
  exact ⟨x', hx', hpub hp hflag, h.inTitle_kept hseason hin, hid ▸ h.fullReady hready hno⟩

/-- A statement hits one episode: its flag, or its full video. -/
theorem hit_unique {x x' : Episode} (hhit : TakesBack s .EPISODE x.id e ∨
    writesEpisodeFlag x.id false e = true) (hhit' : TakesBack s .EPISODE x'.id e ∨
    writesEpisodeFlag x'.id false e = true) : x.id = x'.id := by
  rcases hhit with ⟨a, ha, howned, w, hw, hid, -⟩ | hflag
  · rcases hhit' with ⟨a', ha', howned', w', hw', hid', -⟩ | hflag'
    · have hsame : w = w' := Option.some.inj (hw.symm.trans hw')
      have heq : a = a' := mediaAssets_eq_of_id ha ha' (by rw [← hid, ← hid', hsame])
      subst heq
      simp only [MediaAsset.ownedBy, Bool.and_eq_true, beq_iff_eq] at howned howned'
      exact howned.1.2.symm.trans howned'.1.2
    · unfold writesEpisodeFlag at hflag'
      split at hflag'
      · cases hw
      · cases hflag'
  · unfold writesEpisodeFlag at hflag
    split at hflag
    · rcases hhit' with ⟨a, ha, howned, w, hw, -⟩ | hflag'
      · cases hw
      · simp only [writesEpisodeFlag, Bool.and_eq_true, beq_iff_eq] at hflag hflag'
        exact hflag.1.symm.trans hflag'.1
    · cases hflag

/-- **What is not withdrawn stays playable.** -/
theorem playable (h : LibraryStep s s' e) {u : Publishable} (hplay : Playable s u)
    (hno : ¬ Withdraws s e u) : Playable s' u := by
  cases u with
  | movie id => exact h.fullReady hplay hno
  | episode id => exact h.fullReady hplay hno
  | series id =>
      obtain ⟨x, hx, hxplay⟩ := hplay
      by_cases hhit : TakesBack s .EPISODE x.id e ∨ writesEpisodeFlag x.id false e = true
      · -- another playable episode is left, and the statement hits one only
        have hother : ∃ x' ∈ s.episodes.rows, PlayableEpisode s id x' ∧ x'.id ≠ x.id := by
          by_contra hnone
          refine hno ⟨x, hx, hxplay, hhit, ?_⟩
          intro x' hx' hplay'
          by_contra hne
          exact hnone ⟨x', hx', hplay', hne⟩
        obtain ⟨x', hx', hplay', hne⟩ := hother
        have hmiss : ¬ (TakesBack s .EPISODE x'.id e ∨ writesEpisodeFlag x'.id false e = true) :=
          fun hhit' => hne (hit_unique hhit' hhit)
        simp only [not_or, Bool.not_eq_true] at hmiss
        exact h.playableEpisode hx' hplay' hmiss.1 hmiss.2
      · simp only [not_or, Bool.not_eq_true] at hhit
        exact h.playableEpisode hx hxplay hhit.1 hhit.2

/-- **What is restored is playable.** -/
theorem restored (h : LibraryStep s s' e) {u : Publishable} (hback : Restores s e u) :
    Playable s' u := by
  cases u with
  | movie id => exact h.gives_back hback
  | episode id => exact h.gives_back hback
  | series id =>
      obtain ⟨x, hx, hin, hback⟩ := hback
      obtain ⟨x', hx', hid, hseason, hpub, hflag⟩ := h.contents.episode_kept hx
      refine ⟨x', hx', ?_, h.inTitle_kept hseason hin, ?_⟩
      · rcases hback with ⟨hp, a, -, -, w, hw, -⟩ | ⟨-, hwrites⟩
        · refine hpub hp ?_
          unfold writesEpisodeFlag
          split
          · cases hw
          · rfl
        · exact hflag hwrites
      · rw [hid]
        rcases hback with ⟨-, hgives⟩ | ⟨hready, hwrites⟩
        · exact h.gives_back hgives
        · refine h.fullReady hready ?_
          rintro ⟨a, -, -, w, hw, -⟩
          unfold writesEpisodeFlag at hwrites
          split at hwrites
          · cases hw
          · cases hwrites

/-- **Nothing is published but by publishing.** -/
theorem published (h : LibraryStep s s' e) {u : Publishable} (hp : Published s' u) :
    Published s u ∨ Publishes s e u := by
  cases u with
  | movie id =>
      obtain ⟨t', ht', rfl, htype, hp⟩ := hp
      obtain ⟨t, ht, hid, htype', hp | hw⟩ := h.contents.title_published ht' hp
      · exact .inl ⟨t, ht, hid, htype'.trans htype, hp⟩
      · exact .inr ⟨⟨t, ht, hid, htype'.trans htype⟩, hw⟩
  | series id =>
      obtain ⟨t', ht', rfl, htype, hp⟩ := hp
      obtain ⟨t, ht, hid, htype', hp | hw⟩ := h.contents.title_published ht' hp
      · exact .inl ⟨t, ht, hid, htype'.trans htype, hp⟩
      · exact .inr ⟨⟨t, ht, hid, htype'.trans htype⟩, hw⟩
  | episode id =>
      obtain ⟨x', hx', rfl, hp⟩ := hp
      rcases h.contents.episode_published hx' hp with ⟨x, hx, hid, hp⟩ | hw
      · exact .inl ⟨x, hx, hid, hp⟩
      · exact .inr hw

end LibraryStep

/-- The promise, with its lapses noted beside the store. -/
def Kept (u : Publishable) (sg : Store × Bool) : Prop :=
  Published sg.1 u → sg.2 = false → Playable sg.1 u

/-- **One statement keeps the promise**, if it publishes what is playable only. -/
theorem Kept.step {u : Publishable} {sg : Store × Bool} (h : Kept u sg) (o : Ambient) (c : Cmd)
    (hgate : Publishes sg.1 ⟨c, (exec o c sg.1).1⟩ u → Playable sg.1 u) :
    Kept u (Prog.watch exec (lapse u) o c sg).2 := by
  intro hp hlapsed
  have hstep := exec_library o c sg.1
  simp only [Prog.watch, lapse] at hp hlapsed ⊢
  by_cases hw : Withdraws sg.1 ⟨c, (exec o c sg.1).1⟩ u
  · simp [hw] at hlapsed
  · by_cases hr : Restores sg.1 ⟨c, (exec o c sg.1).1⟩ u
    · exact hstep.restored hr
    · by_cases hpub : Publishes sg.1 ⟨c, (exec o c sg.1).1⟩ u
      · exact hstep.playable (hgate hpub) hw
      · simp only [hw, hr, hpub, if_false, or_self] at hlapsed
        rcases hstep.published hp with hp | hpub'
        · exact hstep.playable (h hp hlapsed) hw
        · exact absurd hpub' hpub

/-! ## The publish guard -/

theorem Publishes.edits {s : Store} {e : Prog.Entry Sig} {u : Publishable}
    (h : Publishes s e u) : e.1.edits = true := by
  have htitle : ∀ id, writesTitleFlag id true e = true → e.1.edits = true := by
    intro id hw
    unfold writesTitleFlag at hw
    split at hw
    · rfl
    · cases hw
  cases u with
  | movie id => exact htitle id h.2
  | series id => exact htitle id h.2
  | episode id =>
      unfold Publishes writesEpisodeFlag at h
      dsimp only at h
      split at h
      · rfl
      · cases h

/-- The promise over a statement that edits nothing. -/
theorem Kept.stmt {u : Publishable} {sg sg' : Store × Bool} {o : Ambient} {c : Cmd}
    {r : Except Exception c.Resp} (h : Kept u sg) (hc : c.edits = false)
    (hex : Prog.watch exec (lapse u) o c sg = (r, sg')) : Kept u sg' := by
  have hkept := h.step o c fun hpub => by
    rw [show c.edits = true from hpub.edits] at hc
    cases hc
  rw [hex] at hkept
  exact hkept

/-- The contents and the assets of two stores are the same. -/
structure SameLibrary (s s' : Store) : Prop where
  titles : s'.titles = s.titles
  seasons : s'.seasons = s.seasons
  episodes : s'.episodes = s.episodes
  mediaAssets : s'.mediaAssets = s.mediaAssets

theorem SameLibrary.refl (s : Store) : SameLibrary s s := ⟨rfl, rfl, rfl, rfl⟩

theorem SameLibrary.trans {a b c : Store} (hab : SameLibrary a b) (hbc : SameLibrary b c) :
    SameLibrary a c :=
  ⟨hbc.titles.trans hab.titles, hbc.seasons.trans hab.seasons, hbc.episodes.trans hab.episodes,
    hbc.mediaAssets.trans hab.mediaAssets⟩

theorem SameLibrary.playable {s s' : Store} (h : SameLibrary s s') {u : Publishable}
    (hplay : Playable s u) : Playable s' u := by
  cases u with
  | movie id => simpa [Playable, FullReady, h.mediaAssets] using hplay
  | episode id => simpa [Playable, FullReady, h.mediaAssets] using hplay
  | series id =>
      simpa [Playable, PlayableEpisode, FullReady, inTitle, h.mediaAssets, h.episodes, h.seasons]
        using hplay

/-- What publishing a title of this type promises. -/
def Publishable.ofTitle : TitleType → String → Publishable
  | .MOVIE, id => .movie id
  | .SERIES, id => .series id

/-- The edit of a title publishes what its guard has found playable. -/
theorem updateTitle_gate {s : Store} {u : Publishable} {title : Title} {titleId : String}
    {data : TitleUpdate} {r : Except Exception Title} (ht : title ∈ s.titles)
    (hid : title.id = titleId)
    (hgate : data.published = some true → Playable s (.ofTitle title.type titleId))
    (hpub : Publishes s ⟨.catalog (.updateTitle titleId data), r⟩ u) : Playable s u := by
  have hflag : ∀ id, writesTitleFlag id true ⟨.catalog (.updateTitle titleId data), r⟩ = true →
      id = titleId ∧ data.published = some true := by
    intro id hw
    cases r with
    | error e => cases hw
    | ok t =>
        simp only [writesTitleFlag, Bool.and_eq_true, beq_iff_eq] at hw
        exact ⟨hw.1.symm, hw.2⟩
  have hplayable : ∀ type id, (∃ t ∈ s.titles, t.id = id ∧ t.type = type) →
      writesTitleFlag id true ⟨.catalog (.updateTitle titleId data), r⟩ = true →
      Playable s (.ofTitle type id) := by
    rintro type id ⟨t, hmem, hidt, htype⟩ hw
    obtain ⟨rfl, hp⟩ := hflag id hw
    have hplay := hgate hp
    rw [titles_eq_of_id ht hmem (hid.trans hidt.symm), htype] at hplay
    exact hplay
  cases u with
  | movie id => exact hplayable .MOVIE id hpub.1 hpub.2
  | series id => exact hplayable .SERIES id hpub.1 hpub.2
  | episode id => cases r <;> cases hpub

theorem updateEpisode_gate {s : Store} {u : Publishable} {episodeId : String}
    {data : EpisodeUpdate} {r : Except Exception Episode}
    (hgate : data.published = some true → Playable s (.episode episodeId))
    (hpub : Publishes s ⟨.catalog (.updateEpisode episodeId data), r⟩ u) : Playable s u := by
  cases r with
  | error e =>
      cases u with
      | episode id => cases hpub
      | movie id => cases hpub.2
      | series id => cases hpub.2
  | ok x =>
      cases u with
      | episode id =>
          simp only [Publishes, writesEpisodeFlag, Bool.and_eq_true, beq_iff_eq] at hpub
          rw [← hpub.1]
          exact hgate hpub.2
      | movie id => cases hpub.2
      | series id => cases hpub.2

/-! ## The reads of the guard -/

section

variable {o : Ambient} {s s' : Store}

theorem findTitle_exec {id : String} {r : Except Exception (Option Title)}
    (hex : exec o (.catalog (.findTitle id)) s = (r, s')) :
    s' = s ∧ ∀ t, r = .ok (some t) → t ∈ s.titles ∧ t.id = id := by
  have h := exec_cases (o := o) (c := .catalog (.findTitle id)) (s := s)
    (P := fun out => out.2 = s ∧ ∀ t, out.1 = .ok (some t) → t ∈ s.titles ∧ t.id = id)
    (fun e => ⟨rfl, by simp⟩) ⟨rfl, fun t ht => ?_⟩
  · rw [hex] at h
    exact h
  · obtain ⟨hmem, hid⟩ := Table.mem_of_find? (Except.ok.inj ht)
    exact ⟨hmem, by simpa using hid⟩

theorem findByOwner_exec {ownerType : MediaOwnerType} {ownerId : String} {kind : MediaKind}
    {r : Except Exception (Option MediaAsset)}
    (hex : exec o (.mediaAsset (.findByOwner ownerType ownerId kind)) s = (r, s')) :
    s' = s ∧ ∀ a, r = .ok (some a) → a ∈ s.mediaAssets ∧ a.ownedBy ownerType ownerId kind = true := by
  have h := exec_cases (o := o) (c := .mediaAsset (.findByOwner ownerType ownerId kind)) (s := s)
    (P := fun out => out.2 = s ∧ ∀ a, out.1 = .ok (some a) →
      a ∈ s.mediaAssets ∧ a.ownedBy ownerType ownerId kind = true)
    (fun e => ⟨rfl, by simp⟩) ⟨rfl, fun a ha => Table.mem_of_find? (Except.ok.inj ha)⟩
  rw [hex] at h
  exact h

theorem findPublishedEpisodesOf_exec {titleId : String} {r : Except Exception (List Episode)}
    (hex : exec o (.catalog (.findPublishedEpisodesOf titleId)) s = (r, s')) :
    s' = s ∧ ∀ xs, r = .ok xs → ∀ x ∈ xs, x ∈ s.episodes ∧ x.published = true ∧
      inTitle s titleId x = true := by
  have h := exec_cases (o := o) (c := .catalog (.findPublishedEpisodesOf titleId)) (s := s)
    (P := fun out => out.2 = s ∧ ∀ xs : List Episode, out.1 = .ok xs → ∀ x ∈ xs,
      x ∈ s.episodes ∧ x.published = true ∧ inTitle s titleId x = true)
    (fun e => ⟨rfl, by simp⟩) ⟨rfl, fun xs hxs x hx => ?_⟩
  · rw [hex] at h
    exact h
  · cases hxs
    obtain ⟨hmem, hp⟩ := Table.mem_filter.mp hx
    exact ⟨hmem, Bool.and_eq_true_iff.mp hp⟩

theorem upsertGenre_exec {name : String} {r : Except Exception Genre}
    (hex : exec o (.catalog (.upsertGenre name)) s = (r, s')) : SameLibrary s s' := by
  have h := exec_cases (o := o) (c := .catalog (.upsertGenre name)) (s := s)
    (P := fun out => SameLibrary s out.2) (fun e => .refl s) ?_
  · rw [hex] at h
    exact h
  · simp only [answer, CatalogStmt.answer]
    split
    · exact .refl s
    · split <;> exact ⟨rfl, rfl, rfl, rfl⟩

end

/-! ## The handlers -/

section

open AdminTitlesService

variable {u : Publishable} {sg : Store × Bool}

/-- The program keeps the promise all along, and ends as `Q` says. -/
abbrev Keeps {α : Type} (u : Publishable) (Q : Except Exception α → Store × Bool → Prop)
    (p : App α) (sg : Store × Bool) : Prop :=
  Prog.Safe (Prog.watch exec (lapse u)) (fun _ _ => True) (Kept u) Q p sg

/-- A part of a handler that only reads: the store is the one it began with,
and the answer `true` says `P`. -/
def Asked (u : Publishable) (s : Store) (P : Prop) (r : Except Exception Bool)
    (sg' : Store × Bool) : Prop :=
  Kept u sg' ∧ sg'.1 = s ∧ (r = .ok true → P)

theorem getMediaAssetStatus_keeps (h : Kept u sg) (ownerType : MediaOwnerType)
    (ownerId : String) :
    Keeps u (fun r sg' => Kept u sg' ∧ sg'.1 = sg.1 ∧
        ∀ status, r = .ok status → isReady status = true → FullReady sg.1 ownerType ownerId)
      (getMediaAssetStatus ownerType ownerId .FULL) sg := by
  refine .perform_bind h ?_ ?_
  · intro o found sg' _ hex
    have h' := h.stmt rfl hex
    obtain ⟨hs, hfound⟩ := findByOwner_exec (Prog.watch_exec hex)
    refine ⟨h', h', hs, ?_⟩
    intro status hstatus hready
    cases hstatus
    match found with
    | none => cases hready
    | some a =>
        obtain ⟨ha, howned⟩ := hfound a rfl
        exact ⟨a, ha, howned, by simpa [isReady] using hready⟩
  · intro o e sg' _ hex
    have h' := h.stmt rfl hex
    exact ⟨h', h', (findByOwner_exec (Prog.watch_exec hex)).1, by simp⟩

theorem anyEpisodeReady_keeps (h : Kept u sg) (episodes : List Episode) :
    Keeps u (Asked u sg.1 (∃ x ∈ episodes, FullReady sg.1 .EPISODE x.id))
      (anyEpisodeReady episodes) sg := by
  induction episodes generalizing sg with
  | nil => exact ⟨h, h, rfl, by simp⟩
  | cons x rest ih =>
      refine .bind (getMediaAssetStatus_keeps h .EPISODE x.id) ?_ ?_
      · intro full sg' ⟨h', hs, hfull⟩
        refine .ite (fun hready => ?_) fun _ => ?_
        · exact ⟨h', h', hs, fun _ => ⟨x, List.mem_cons_self, hfull full rfl hready⟩⟩
        · refine (ih h').mono (fun _ h => h) ?_
          rintro r sg'' ⟨h'', hs', hany⟩
          refine ⟨h'', hs'.trans hs, fun hr => ?_⟩
          obtain ⟨x', hx', hready⟩ := hany hr
          rw [hs] at hready
          exact ⟨x', List.mem_cons_of_mem _ hx', hready⟩
      · intro e sg' ⟨h', hs, _⟩
        exact ⟨h', hs, by simp⟩

/-- **The guard finds what it lets through playable.** -/
theorem canPublish_keeps (h : Kept u sg) (titleId : String) (type : TitleType) :
    Keeps u (Asked u sg.1 (Playable sg.1 (.ofTitle type titleId))) (canPublish titleId type)
      sg := by
  cases type with
  | MOVIE =>
      refine .bind (getMediaAssetStatus_keeps h .TITLE titleId) ?_ ?_
      · intro full sg' ⟨h', hs, hfull⟩
        exact ⟨h', h', hs, fun hr => hfull full rfl (Except.ok.inj hr)⟩
      · intro e sg' ⟨h', hs, _⟩
        exact ⟨h', hs, by simp⟩
  | SERIES =>
      refine .perform_bind h ?_ ?_
      · intro o (episodes : List Episode) sg' _ hex
        have h' := h.stmt rfl hex
        obtain ⟨hs, hepisodes⟩ := findPublishedEpisodesOf_exec (Prog.watch_exec hex)
        refine (anyEpisodeReady_keeps h' episodes).mono (fun _ h => h) ?_
        rintro r sg'' ⟨h'', hs', hany⟩
        refine ⟨h'', hs'.trans hs, fun hr => ?_⟩
        obtain ⟨x, hx, hready⟩ := hany hr
        obtain ⟨hmem, hp, hin⟩ := hepisodes episodes rfl x hx
        exact ⟨x, hmem, hp, hin, hs ▸ hready⟩
      · intro o e sg' _ hex
        have h' := h.stmt rfl hex
        exact ⟨h', h', (findPublishedEpisodesOf_exec (Prog.watch_exec hex)).1, by simp⟩

theorem resolveGenres_keeps (h : Kept u sg) (names : List String) :
    Keeps u (fun _ sg' => Kept u sg' ∧ SameLibrary sg.1 sg'.1) (resolveGenres names) sg := by
  induction names generalizing sg with
  | nil => exact ⟨h, h, .refl _⟩
  | cons name rest ih =>
      refine .perform_bind h ?_ ?_
      · intro o genre sg' _ hex
        have h' := h.stmt rfl hex
        have hsame := upsertGenre_exec (Prog.watch_exec hex)
        refine .bind (ih h') ?_ ?_
        · intro ids sg'' ⟨h'', hsame'⟩
          exact ⟨h'', h'', hsame.trans hsame'⟩
        · intro e sg'' ⟨h'', hsame'⟩
          exact ⟨h'', hsame.trans hsame'⟩
      · intro o e sg' _ hex
        have h' := h.stmt rfl hex
        exact ⟨h', h', upsertGenre_exec (Prog.watch_exec hex)⟩

theorem genreUpdate_keeps (h : Kept u sg) (genres : Option (List String)) :
    Keeps u (fun _ sg' => Kept u sg' ∧ SameLibrary sg.1 sg'.1) (genreUpdate genres) sg := by
  cases genres with
  | none => exact ⟨h, h, .refl _⟩
  | some genres =>
      refine .bind (resolveGenres_keeps h genres) ?_ fun _ _ hq => hq
      intro ids sg' hq
      exact ⟨hq.1, hq⟩

/-- The rest of `updateTitle`, after the guard. -/
theorem updateTitle_rest_keeps (h : Kept u sg) {title : Title} {titleId : String}
    {dto : UpdateTitleDto} (ht : title ∈ sg.1.titles) (hid : title.id = titleId)
    (hgate : dto.published = some true → Playable sg.1 (.ofTitle title.type titleId)) :
    Keeps u (fun _ => Kept u) (do
      let genreIds ← genreUpdate dto.genres
      stmt (.catalog (.updateTitle titleId
        { name := dto.name, description := dto.description, posterUrl := dto.posterUrl,
          published := dto.published, genreIds }))) sg := by
  refine .bind (genreUpdate_keeps h dto.genres) ?_ fun _ _ hq => hq.1
  intro genreIds sg' ⟨h', hsame⟩
  have hplay : dto.published = some true → Playable sg'.1 (.ofTitle title.type titleId) :=
    fun hp => hsame.playable (hgate hp)
  have ht' : title ∈ sg'.1.titles := hsame.titles ▸ ht
  exact ⟨h', fun o _ => ⟨h'.step o _ (updateTitle_gate ht' hid hplay),
    h'.step o _ (updateTitle_gate ht' hid hplay)⟩⟩

theorem updateTitle_keeps (h : Kept u sg) (titleId : String) (dto : UpdateTitleDto) :
    Keeps u (fun _ => Kept u) (updateTitle titleId dto) sg := by
  refine .perform_bind h ?_ fun o e sg' _ hex => ⟨h.stmt rfl hex, h.stmt rfl hex⟩
  intro o found sg₁ _ hex
  have h₁ := h.stmt rfl hex
  obtain ⟨hs, hfound⟩ := findTitle_exec (Prog.watch_exec hex)
  match found with
  | none => exact ⟨h₁, h₁⟩
  | some title =>
      obtain ⟨ht, hid⟩ := hfound title rfl
      rw [← hs] at ht
      refine .ite (fun _ => ?_) fun hp => ?_
      · refine .bind (canPublish_keeps h₁ titleId title.type) ?_ fun _ _ hq => hq.1
        intro publishable sg₂ ⟨h₂, hs₂, hplay⟩
        refine .ite (fun _ => ⟨h₂, h₂⟩) fun hyes => ?_
        rw [← hs₂] at ht hplay
        exact updateTitle_rest_keeps h₂ ht hid fun _ => hplay (by simpa using hyes)
      · exact updateTitle_rest_keeps h₁ ht hid fun hp' => absurd hp' (by simpa using hp)

theorem updateEpisode_keeps (h : Kept u sg) (episodeId : String) (dto : UpdateEpisodeDto) :
    Keeps u (fun _ => Kept u) (updateEpisode episodeId dto) sg := by
  have write : ∀ {sg' : Store × Bool}, Kept u sg' →
      (dto.published = some true → Playable sg'.1 (.episode episodeId)) →
      Keeps u (fun _ => Kept u) (stmt (.catalog (.updateEpisode episodeId
        { name := dto.name, description := dto.description, published := dto.published })) :
          App Episode) sg' := fun h' hgate =>
    ⟨h', fun o _ => ⟨h'.step o _ (updateEpisode_gate hgate), h'.step o _ (updateEpisode_gate hgate)⟩⟩
  refine .perform_bind h ?_ fun o e sg' _ hex => ⟨h.stmt rfl hex, h.stmt rfl hex⟩
  intro o found sg₁ _ hex
  have h₁ := h.stmt rfl hex
  match found with
  | none => exact ⟨h₁, h₁⟩
  | some x =>
      refine .ite (fun _ => ?_) fun hp => write h₁ fun hp' => absurd hp' (by simpa using hp)
      refine .bind (getMediaAssetStatus_keeps h₁ .EPISODE episodeId) ?_ fun _ _ hq => hq.1
      intro full sg₂ ⟨h₂, hs₂, hfull⟩
      refine .ite (fun _ => ⟨h₂, h₂⟩) fun hready => write h₂ fun _ => ?_
      have hplay := hfull full rfl (by simpa using hready)
      rw [← hs₂] at hplay
      exact hplay

/-- **Every request keeps the promise**, at each of its statements. -/
theorem handle_keeps (cfg : AppConfig) (q : Request) (h : Kept u sg) :
    Keeps u (fun _ => Kept u) (handle cfg q) sg := by
  have guarded : ∀ {α : Type} (user : Option JwtAccessPayload) {p : App α} {f : α → App Reply},
      Keeps u (fun _ => Kept u) p sg → (∀ a, ∃ reply, f a = pure reply) →
      Keeps u (fun _ => Kept u) (do
        adminGuard user
        let a ← p
        f a) sg := by
    intro α user p f hp hf
    unfold adminGuard jwtAuthGuard
    cases user with
    | none => exact ⟨h, h⟩
    | some user =>
        refine .bind (Q := fun _ sg' => sg' = sg) (.ite (fun _ => ⟨h, rfl⟩) fun _ => ⟨h, rfl⟩) ?_ ?_
        · rintro _ sg' rfl
          refine .bind hp ?_ fun _ _ hq => hq
          intro a sg'' hq
          obtain ⟨reply, hreply⟩ := hf a
          rw [hreply]
          exact ⟨hq, hq⟩
        · rintro _ sg' rfl
          exact h
  by_cases hq : q.edits = true
  · cases q with
    | updateTitle user titleId dto =>
        exact guarded user (updateTitle_keeps h titleId dto) fun t => ⟨_, rfl⟩
    | updateEpisode user episodeId dto =>
        exact guarded user (updateEpisode_keeps h episodeId dto) fun x => ⟨_, rfl⟩
    | _ => cases hq
  · refine .invariant (handle_within cfg q) ?_ h
    intro o c sg' hc _ h'
    have hedits := Request.edits_of_bounds hc (by simpa using hq)
    exact h'.stmt hedits rfl

end

/-! ## Every sequence -/

/-- A request handled alone, with the lapses of `u` noted. -/
def Op.watch (cfg : AppConfig) (u : Publishable) (op : Op) (sg : Store × Bool) : Store × Bool :=
  (handle cfg op.request).runStore (Prog.watch exec (lapse u)) op.env sg

def watchAll (cfg : AppConfig) (u : Publishable) (ops : List Op) (sg : Store × Bool) :
    Store × Bool :=
  ops.foldl (fun sg op => op.watch cfg u sg) sg

/-- The last statement of the sequence that withdrew, restored or published
`u` withdrew it. -/
def Lapsed (cfg : AppConfig) (u : Publishable) (ops : List Op) (s : Store) : Prop :=
  (watchAll cfg u ops (s, false)).2 = true

section

variable {cfg : AppConfig} {u : Publishable}

theorem watchAll_store (ops : List Op) (sg : Store × Bool) :
    (watchAll cfg u ops sg).1 = handleAll cfg ops sg.1 := by
  induction ops generalizing sg with
  | nil => rfl
  | cons op rest ih =>
      have hop : (op.watch cfg u sg).1 = op.run cfg sg.1 := Prog.watch_store _ _ _ _
      show (watchAll cfg u rest (op.watch cfg u sg)).1 = handleAll cfg rest (op.run cfg sg.1)
      rw [ih, hop]

theorem watchAll_kept (ops : List Op) {sg : Store × Bool} (h : Kept u sg) :
    Kept u (watchAll cfg u ops sg) := by
  induction ops generalizing sg with
  | nil => exact h
  | cons op rest ih =>
      exact ih ((handle_keeps cfg op.request h).run (Prog.along_true _ _ _))

end

/-- **Published means playable** after every sequence of requests handled one
at a time, but where the promise has lapsed. -/
theorem published_is_playable {cfg : AppConfig} {s : Store} {ops : List Op} {u : Publishable}
    (hs : ∀ u, Published s u → Playable s u) (hp : Published (handleAll cfg ops s) u)
    (hlapsed : ¬ Lapsed cfg u ops s) : Playable (handleAll cfg ops s) u := by
  have hkept : Kept u (watchAll cfg u ops (s, false)) := watchAll_kept ops fun hp _ => hs u hp
  unfold Kept at hkept
  rw [watchAll_store] at hkept
  exact hkept hp (by simpa [Lapsed] using hlapsed)

/-- An admin creates a movie, uploads its full video, which the worker
transcodes, and publishes it. -/
def sampleRelease : List Op :=
  [⟨.createTitle (some sampleAdmin) ⟨.MOVIE, "Film", "A film", "poster", []⟩,
      fun _ => (Ambient.quiet 1).generating "title-1"⟩,
    ⟨.registerMediaAsset (some sampleAdmin) ⟨.TITLE, "title-1", .FULL⟩,
      fun _ => (Ambient.quiet 2).generating "full-1"⟩,
    ⟨.completeUpload (some sampleAdmin) "full-1", fun _ => .quiet 3⟩,
    ⟨.transcode ⟨"full-1", "sources/title/title-1/full/full-1"⟩, fun _ => .quiet 4⟩,
    ⟨.updateTitle (some sampleAdmin) "title-1" ⟨none, none, none, none, some true⟩,
      fun _ => .quiet 5⟩]

theorem published_is_playable_sample :
    Published (handleAll sampleConfig sampleRelease .empty) (.movie "title-1") ∧
      Playable (handleAll sampleConfig sampleRelease .empty) (.movie "title-1") := by
  have hs : ∀ u, Published .empty u → Playable .empty u := by
    intro u hp
    cases u <;> obtain ⟨row, hrow, -⟩ := hp <;> cases hrow
  have hp : Published (handleAll sampleConfig sampleRelease .empty) (.movie "title-1") := by
    decide +kernel
  refine ⟨hp, published_is_playable hs hp ?_⟩
  unfold Lapsed
  decide +kernel

/-- The published movie's video is uploaded anew: nobody unpublishes the movie,
and there is nothing to play. -/
theorem published_movie_loses_its_video :
    Published (handleAll sampleConfig (sampleRelease ++
      [⟨.registerMediaAsset (some sampleAdmin) ⟨.TITLE, "title-1", .FULL⟩,
        fun _ => (Ambient.quiet 6).generating "u-2"⟩]) .empty) (.movie "title-1") ∧
    ¬ Playable (handleAll sampleConfig (sampleRelease ++
      [⟨.registerMediaAsset (some sampleAdmin) ⟨.TITLE, "title-1", .FULL⟩,
        fun _ => (Ambient.quiet 6).generating "u-2"⟩]) .empty) (.movie "title-1") := by
  decide +kernel

end StreamingService
