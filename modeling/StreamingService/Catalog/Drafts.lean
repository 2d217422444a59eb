import StreamingService.Frame
import StreamingService.Server
import StreamingService.Lib.Reads

/-!
# Catalog — Drafts

What the public can learn about drafts. Everything published, two levels
deep, is the public view of the database: the published titles with their
genres and seasons, the published episodes beneath them, and the media of
both. The title list and the title page are functions of that view. The
episode page looks at the episode's own flag alone, and the trailer URL at
no flag at all, so they are functions of the view for every id that is not
a published episode or a ready trailer beneath a draft.
-/

namespace StreamingService

open Lib

/-! ## The public view -/

def isPublicTitle (s : Store) (titleId : String) : Bool :=
  s.titles.rows.any fun t => t.id == titleId && t.published

def isPublicSeason (s : Store) (season : Season) : Bool := isPublicTitle s season.titleId

def isPublicEpisode (s : Store) (episode : Episode) : Bool :=
  episode.published &&
    s.seasons.rows.any fun x => x.id == episode.seasonId && isPublicSeason s x

/-- A published title, or a published episode beneath one. -/
def isPublicUnit (s : Store) (ownerType : MediaOwnerType) (ownerId : String) : Bool :=
  match ownerType with
  | .TITLE => isPublicTitle s ownerId
  | .EPISODE => s.episodes.rows.any fun e => e.id == ownerId && isPublicEpisode s e

def isPublicAsset (s : Store) (asset : MediaAsset) : Bool :=
  isPublicUnit s asset.ownerType asset.ownerId

/-- What is published, two levels deep. -/
structure PublicView where
  titles : List (Title × List String)
  seasons : List Season
  episodes : List Episode
  assets : List MediaAsset
  deriving DecidableEq

def Store.publicView (s : Store) : PublicView where
  titles := (s.titles.filter (·.published)).map fun t => (t, genreNames s t.id)
  seasons := s.seasons.filter (isPublicSeason s)
  episodes := s.episodes.filter (isPublicEpisode s)
  assets := s.mediaAssets.filter (isPublicAsset s)

/-! ## Shapes from rows -/

/-- `unitMedia`, of the given assets. -/
def mediaOf (assets : List MediaAsset) (ownerType : MediaOwnerType) (ownerId : String) :
    UnitMedia :=
  let status (kind : MediaKind) : Option MediaAssetStatus :=
    (assets.find? fun a => a.ownedBy ownerType ownerId kind).map fun asset =>
      { assetId := asset.id, ready := asset.processingStatus == .READY }
  { trailer := status .TRAILER, fullAvailable := isReady (status .FULL) }

def episodeShape (assets : List MediaAsset) (episode : Episode) : CatalogService.EpisodeShape :=
  { id := episode.id, number := episode.number, name := episode.name,
    description := episode.description, media := mediaOf assets .EPISODE episode.id }

def seasonShape (assets : List MediaAsset) (season : Season × List Episode) :
    CatalogService.SeasonShape :=
  { id := season.1.id, number := season.1.number,
    episodes := season.2.map (episodeShape assets) }

def titleShape (assets : List MediaAsset) (tree : TitleTree) : CatalogService.TitleShape :=
  let head : CatalogService.TitleHead :=
    { id := tree.title.id, name := tree.title.name, description := tree.title.description,
      posterUrl := tree.title.posterUrl, genres := tree.genres }
  match tree.title.type with
  | .MOVIE => .MOVIE head (mediaOf assets .TITLE tree.title.id)
  | .SERIES => .SERIES head (tree.seasons.map (seasonShape assets))

def titleItem (title : Title × List String) : CatalogService.TitleItem :=
  { id := title.1.id, type := title.1.type, name := title.1.name,
    posterUrl := title.1.posterUrl, genres := title.2 }

/-- `isListed`, of a title with its genres. -/
def matchesQuery (query : ListTitlesDto) (title : Title × List String) : Bool :=
  query.type.all (fun type => title.1.type == type) &&
    (query.genre.filter fun genre => genre != "").all fun genre => title.2.contains genre

/-- The rows of a page of the published titles. -/
def pageRows (tie : String → Int) (query : ListTitlesDto) (titles : List (Title × List String)) :
    List (Title × List String) :=
  (((titles.filter (matchesQuery query)).insertionSort fun a b =>
    newerFirst tie a.1 b.1 = true).drop ((query.page.getD 1 - 1) * query.pageSize.getD 20)).take
      (query.pageSize.getD 20)

def titlePage (tie : String → Int) (query : ListTitlesDto) (titles : List (Title × List String)) :
    CatalogService.TitlePage :=
  { items := (pageRows tie query titles).map titleItem
    page := query.page.getD 1
    pageSize := query.pageSize.getD 20
    total := (titles.filter (matchesQuery query)).length }

/-! ## The public requests -/

/-- The requests that need no account. -/
inductive PublicRequest where
  | titles (query : ListTitlesDto)
  | title (titleId : String)
  | episode (episodeId : String)
  | trailerUrl (assetId : String)

def PublicRequest.toRequest : PublicRequest → Request
  | .titles query => .titles query
  | .title titleId => .title titleId
  | .episode episodeId => .episode episodeId
  | .trailerUrl assetId => .trailerUrl assetId

/-- The reply without its signature's and its own time stamp. -/
def Reply.unstamped : Reply → Reply
  | .link signed => .link { url := { signed.url with signedAt := 0 }, expiresAt := 0 }
  | reply => reply

/-- Nothing fails, and the database orders what a query leaves open by `tie`. -/
def Calm (tie : String → Int) (o : Ambient) : Prop := o.fault = none ∧ o.tie = tie

/-- The program reads, and answers `r`. -/
abbrev CalmReads {α : Type} (tie : String → Int) (p : App α) (s : Store)
    (r : Except Exception α) : Prop :=
  Prog.Reads exec (Calm tie) (· = r) p s

theorem Calm.exec {tie : String → Int} {o : Ambient} (h : Calm tie o) (c : Cmd) (s : Store) :
    exec o c s = answer o c s := exec_answer h.1 c s

section Reads

variable {tie : String → Int} {s : Store}

theorem getMediaAssetStatus_reads (ownerType : MediaOwnerType) (ownerId : String)
    (kind : MediaKind) :
    CalmReads tie (getMediaAssetStatus ownerType ownerId kind) s
      (.ok ((s.mediaAssets.rows.find? fun a => a.ownedBy ownerType ownerId kind).map fun asset =>
        { assetId := asset.id, ready := asset.processingStatus == .READY })) :=
  .perform_bind (fun _ ho => ho.exec _ s) rfl

theorem unitMedia_reads (ownerType : MediaOwnerType) (ownerId : String) :
    CalmReads tie (CatalogService.unitMedia ownerType ownerId) s
      (.ok (mediaOf s.mediaAssets.rows ownerType ownerId)) := by
  refine .bind_eq (getMediaAssetStatus_reads ownerType ownerId .TRAILER) ?_
    (fun e he => by cases he)
  intro trailer htrailer
  cases htrailer
  refine .bind_eq (getMediaAssetStatus_reads ownerType ownerId .FULL) ?_ (fun e he => by cases he)
  intro full hfull
  cases hfull
  rfl

theorem toEpisodeShape_reads (episode : Episode) :
    CalmReads tie (CatalogService.toEpisodeShape episode) s
      (.ok (episodeShape s.mediaAssets.rows episode)) :=
  (unitMedia_reads .EPISODE episode.id).map_eq _

theorem toEpisodeShapes_reads (episodes : List Episode) :
    CalmReads tie (CatalogService.toEpisodeShapes episodes) s
      (.ok (episodes.map (episodeShape s.mediaAssets.rows))) := by
  induction episodes with
  | nil => rfl
  | cons episode rest ih =>
      refine .bind_eq (toEpisodeShape_reads episode) ?_ (fun e he => by cases he)
      intro shape hshape
      cases hshape
      exact ih.map_eq _

theorem toSeasonShapes_reads (seasons : List (Season × List Episode)) :
    CalmReads tie (CatalogService.toSeasonShapes seasons) s
      (.ok (seasons.map (seasonShape s.mediaAssets.rows))) := by
  induction seasons with
  | nil => rfl
  | cons season rest ih =>
      refine .bind_eq (toEpisodeShapes_reads season.2) ?_ (fun e he => by cases he)
      intro shapes hshapes
      cases hshapes
      exact ih.map_eq _

theorem getTitleById_reads (titleId : String) :
    CalmReads tie (CatalogService.getTitleById titleId) s
      (match s.titles.find? fun t => t.id == titleId && t.published with
        | none => .error (.notFound "Title not found")
        | some t => .ok (titleShape s.mediaAssets.rows (titleTree s (fun e => e.published) t))) := by
  refine .perform_bind (fun _ ho => ho.exec _ s) ?_
  cases s.titles.find? fun t => t.id == titleId && t.published with
  | none => rfl
  | some t =>
      show CalmReads tie (match t.type with
        | .MOVIE => _ | .SERIES => _) s (.ok (titleShape _ _))
      cases htype : t.type with
      | MOVIE =>
          have media : CalmReads tie (CatalogService.unitMedia .TITLE t.id) s _ :=
            unitMedia_reads .TITLE t.id
          have h := media.map_eq (CatalogService.TitleShape.MOVIE
            ⟨t.id, t.name, t.description, t.posterUrl, genreNames s t.id⟩)
          simp only [titleShape, titleTree, htype]
          exact h
      | SERIES =>
          have seasons : CalmReads tie (CatalogService.toSeasonShapes
              (titleTree s (fun e => e.published) t).seasons) s _ := toSeasonShapes_reads _
          have h := seasons.map_eq (CatalogService.TitleShape.SERIES
            ⟨t.id, t.name, t.description, t.posterUrl, genreNames s t.id⟩)
          simp only [titleShape, titleTree, htype]
          exact h

theorem getEpisodeById_reads (episodeId : String) :
    CalmReads tie (CatalogService.getEpisodeById episodeId) s
      (match s.episodes.find? fun e => e.id == episodeId && e.published with
        | none => .error (.notFound "Episode not found")
        | some e => .ok (episodeShape s.mediaAssets.rows e)) := by
  refine .perform_bind (fun _ ho => ho.exec _ s) ?_
  cases s.episodes.find? fun e => e.id == episodeId && e.published with
  | none => rfl
  | some e => exact toEpisodeShape_reads e

end Reads

/-! ## The answers are functions of the view -/

namespace PublicView

variable (v : PublicView)

/-- The published title with the published episodes beneath it. -/
def tree (title : Title × List String) : TitleTree where
  title := title.1
  genres := title.2
  seasons := ((v.seasons.filter fun x => x.titleId == title.1.id).insertionSort
      fun a b => a.number ≤ b.number).map fun season =>
    (season, (v.episodes.filter fun e => e.seasonId == season.id).insertionSort
      fun a b => a.number ≤ b.number)

/-- What the public is answered, time stamps aside. -/
def answer (tie : String → Int) : PublicRequest → Except Exception Reply
  | .titles query => .ok (.titles (titlePage tie query v.titles))
  | .title titleId =>
      match v.titles.find? fun t => t.1.id == titleId with
      | none => .error (.notFound "Title not found")
      | some title => .ok (.title (titleShape v.assets (v.tree title)))
  | .episode episodeId =>
      match v.episodes.find? fun e => e.id == episodeId with
      | none => .error (.notFound "Episode not found")
      | some episode => .ok (.episode (episodeShape v.assets episode))
  | .trailerUrl assetId =>
      match (v.assets.find? fun a => a.id == assetId).bind fun a => a.servableKey .TRAILER with
      | none => .error (.notFound "Media asset not found or not ready")
      | some key =>
          .ok (.link { url := ⟨.GET, key, 0, StorageService.PLAYBACK_URL_TTL_SECONDS⟩,
                       expiresAt := 0 })

end PublicView

section View

variable {s : Store}

theorem mem_publicTitle {t : Title} (ht : t ∈ s.titles) (hp : t.published = true) :
    isPublicTitle s t.id = true :=
  List.any_eq_true.mpr ⟨t, ht, by simp [hp]⟩

theorem isPublicEpisode_iff {e : Episode} :
    isPublicEpisode s e = true ↔ e.published = true ∧
      ∃ x ∈ s.seasons, x.id = e.seasonId ∧ isPublicSeason s x = true := by
  simp only [isPublicEpisode, Bool.and_eq_true, List.any_eq_true, beq_iff_eq]
  exact Iff.rfl

/-- Within a selection that implies it, a restriction changes nothing. -/
theorem filter_filter_of_imp {ρ : Type} {l : List ρ} {p q r : ρ → Bool}
    (h : ∀ x ∈ l, p x = (q x && r x)) : l.filter p = (l.filter r).filter q := by
  rw [List.filter_filter]
  apply List.filter_congr
  intro x hx
  exact h x hx

theorem find_filter_of_imp {ρ : Type} {l : List ρ} {p q r : ρ → Bool}
    (h : ∀ x ∈ l, p x = (q x && r x)) : l.find? p = (l.filter r).find? q := by
  rw [List.find?_filter]
  induction l with
  | nil => rfl
  | cons x rest ih =>
      have hx := h x List.mem_cons_self
      have ih := ih fun y hy => h y (List.mem_cons_of_mem _ hy)
      simp only [List.find?_cons, ih, hx]
      cases q x <;> cases r x <;> simp

/-- What the list's `where` selects is in the view. -/
theorem listed_publicView (query : ListTitlesDto) :
    (s.titles.filter (isListed s query.type (query.genre.filter fun genre => genre != ""))).map
        (fun t => (t, genreNames s t.id)) =
      s.publicView.titles.filter (matchesQuery query) := by
  have hfilter : s.titles.filter (isListed s query.type (query.genre.filter fun genre =>
      genre != "")) = (s.titles.filter (·.published)).filter fun t =>
        matchesQuery query (t, genreNames s t.id) := by
    refine filter_filter_of_imp fun t _ => ?_
    simp only [isListed, matchesQuery, Bool.and_assoc]
    rw [Bool.and_comm t.published, Bool.and_assoc]
  rw [hfilter]
  simp only [Store.publicView, List.filter_map]
  rfl

theorem listTitles_reads (tie : String → Int) (query : ListTitlesDto) :
    CalmReads tie (CatalogService.listTitles query) s
      (.ok (titlePage tie query s.publicView.titles)) := by
  refine .perform_bind (v := pageRows tie query s.publicView.titles) (fun o ho => ?_)
    (.perform_bind (v := (s.publicView.titles.filter (matchesQuery query)).length)
      (fun o ho => ?_) rfl)
  · rw [ho.exec]
    simp only [answer, CatalogStmt.answer, ho.2, pageRows, ← listed_publicView query,
      List.map_take, List.map_drop]
    rw [List.map_insertionSort _ (fun a b : Title × List String => newerFirst tie a.1 b.1 = true)
      _ _ fun a _ b _ => Iff.rfl]
    rfl
  · rw [ho.exec, ← listed_publicView, List.length_map]
    rfl

/-- The media of a public unit are in the view. -/
theorem mediaOf_publicView {ownerType : MediaOwnerType} {ownerId : String}
    (h : isPublicUnit s ownerType ownerId = true) :
    mediaOf s.mediaAssets.rows ownerType ownerId =
      mediaOf s.publicView.assets ownerType ownerId := by
  have hfind : ∀ kind, s.mediaAssets.rows.find? (fun a => a.ownedBy ownerType ownerId kind) =
      s.publicView.assets.find? fun a => a.ownedBy ownerType ownerId kind := by
    intro kind
    refine find_filter_of_imp fun a _ => ?_
    cases hown : a.ownedBy ownerType ownerId kind with
    | false => rfl
    | true =>
        simp only [MediaAsset.ownedBy, Bool.and_eq_true, beq_iff_eq] at hown
        obtain ⟨⟨rfl, rfl⟩, -⟩ := hown
        exact h.symm
  simp only [mediaOf, hfind]

theorem episodeShape_publicView {e : Episode} (he : e ∈ s.episodes)
    (h : isPublicEpisode s e = true) :
    episodeShape s.mediaAssets.rows e = episodeShape s.publicView.assets e := by
  have hunit : isPublicUnit s .EPISODE e.id = true :=
    List.any_eq_true.mpr ⟨e, he, by simp [h]⟩
  simp only [episodeShape, mediaOf_publicView hunit]

/-- The tree of a published title is in the view. -/
theorem titleTree_publicView {t : Title} (ht : t ∈ s.titles) (hp : t.published = true) :
    titleTree s (fun e => e.published) t = s.publicView.tree (t, genreNames s t.id) := by
  have hseasons : (s.seasons.filter fun x => x.titleId == t.id) =
      s.publicView.seasons.filter fun x => x.titleId == t.id := by
    refine filter_filter_of_imp fun x _ => ?_
    by_cases hx : x.titleId = t.id
    · simp [isPublicSeason, hx, mem_publicTitle ht hp]
    · simp [hx]
  simp only [titleTree, PublicView.tree, hseasons]
  congr 1
  apply List.map_congr_left
  intro x hx
  rw [List.mem_insertionSort] at hx
  obtain ⟨hx, hpublic⟩ := List.mem_filter.mp (List.mem_filter.mp hx).1
  have hepisodes : (s.episodes.filter fun e => e.seasonId == x.id && e.published) =
      s.publicView.episodes.filter fun e => e.seasonId == x.id := by
    refine filter_filter_of_imp fun e _ => ?_
    by_cases he : e.seasonId = x.id
    · have hany : (s.seasons.rows.any fun y => y.id == e.seasonId && isPublicSeason s y) = true :=
        List.any_eq_true.mpr ⟨x, hx, by simp [he, hpublic]⟩
      simp only [isPublicEpisode, hany, Bool.and_true]
    · have hne : (e.seasonId == x.id) = false := by simpa using he
      simp only [hne, Bool.false_and]
  rw [hepisodes]

theorem titleShape_publicView {t : Title} (ht : t ∈ s.titles) (hp : t.published = true) :
    titleShape s.mediaAssets.rows (titleTree s (fun e => e.published) t) =
      titleShape s.publicView.assets (s.publicView.tree (t, genreNames s t.id)) := by
  have hunit : isPublicUnit s .TITLE t.id = true := mem_publicTitle ht hp
  rw [titleTree_publicView ht hp]
  cases htype : t.type with
  | MOVIE => simp only [titleShape, PublicView.tree, htype, mediaOf_publicView hunit]
  | SERIES =>
      simp only [titleShape, PublicView.tree, htype]
      congr 1
      apply List.map_congr_left
      intro season hseason
      -- every episode in the tree is public
      obtain ⟨x, -, rfl⟩ := List.mem_map.mp hseason
      simp only [seasonShape]
      congr 1
      apply List.map_congr_left
      intro e he
      rw [List.mem_insertionSort] at he
      obtain ⟨he, hpublic⟩ := List.mem_filter.mp (List.mem_filter.mp he).1
      exact episodeShape_publicView he hpublic

theorem findTitle_publicView (titleId : String) :
    s.publicView.titles.find? (fun t => t.1.id == titleId) =
      (s.titles.find? fun t => t.id == titleId && t.published).map fun t =>
        (t, genreNames s t.id) := by
  have hfind : s.titles.find? (fun t => t.id == titleId && t.published) =
      (s.titles.filter (·.published)).find? fun t => t.id == titleId :=
    find_filter_of_imp fun _ _ => rfl
  rw [hfind]
  exact List.find?_map

end View

/-! ## Requests that name a draft -/

/-- The request names a published episode, or a ready trailer, that hangs
beneath a draft. -/
def NamesDraft (s : Store) : PublicRequest → Prop
  | .episode episodeId =>
      ∃ e ∈ s.episodes, e.id = episodeId ∧ e.published = true ∧ isPublicEpisode s e = false
  | .trailerUrl assetId =>
      ∃ a ∈ s.mediaAssets, a.id = assetId ∧ a.servableKey .TRAILER ≠ none ∧
        isPublicAsset s a = false
  | _ => False

section

variable {s : Store} {tie : String → Int} {cfg : AppConfig}

theorem findEpisode_publicView {episodeId : String} (h : ¬ NamesDraft s (.episode episodeId)) :
    s.episodes.find? (fun e => e.id == episodeId && e.published) =
      s.publicView.episodes.find? fun e => e.id == episodeId := by
  refine find_filter_of_imp fun e he => ?_
  by_cases hid : e.id = episodeId
  · cases hpublic : isPublicEpisode s e with
    | true => simp [(isPublicEpisode_iff.mp hpublic).1]
    | false =>
        cases hp : e.published with
        | false => rfl
        | true => exact absurd ⟨e, he, hid, hp, hpublic⟩ h
  · have hne : (e.id == episodeId) = false := by simpa using hid
    simp only [hne, Bool.false_and]

theorem findTrailer_publicView {assetId : String} (h : ¬ NamesDraft s (.trailerUrl assetId)) :
    ((s.mediaAssets.find? fun a => a.id == assetId).bind fun a => a.servableKey .TRAILER) =
      (s.publicView.assets.find? fun a => a.id == assetId).bind fun a =>
        a.servableKey .TRAILER := by
  have hid : ∀ a ∈ s.mediaAssets, ∀ b ∈ s.mediaAssets, (a.id == assetId) = true →
      (b.id == assetId) = true → a = b := by
    intro a ha b hb haid hbid
    simp only [beq_iff_eq] at haid hbid
    exact Table.eq_of_clash ha hb (by simp [Indexed.clash, haid, hbid])
  have hview : ∀ a, s.publicView.assets.find? (fun a => a.id == assetId) = some a →
      (a ∈ s.mediaAssets ∧ isPublicAsset s a = true) ∧ (a.id == assetId) = true := fun a ha =>
    ⟨List.mem_filter.mp (List.mem_of_find?_eq_some ha), by simpa using List.find?_some ha⟩
  cases hfind : s.mediaAssets.find? fun a => a.id == assetId with
  | none =>
      cases hv : s.publicView.assets.find? fun a => a.id == assetId with
      | none => rfl
      | some b =>
          obtain ⟨⟨hb, -⟩, hbid⟩ := hview b hv
          rw [Table.find?_eq_none.mp hfind b hb] at hbid
          cases hbid
  | some a =>
      obtain ⟨ha, haid⟩ := Table.mem_of_find? hfind
      cases hpublic : isPublicAsset s a with
      | true =>
          have heq : s.mediaAssets.find? (fun a => a.id == assetId) =
              s.publicView.assets.find? fun a => a.id == assetId := by
            refine find_filter_of_imp fun b hb => ?_
            cases hbid : b.id == assetId with
            | false => rfl
            | true => rw [hid b hb a ha hbid haid, hpublic]; rfl
          rw [← heq, hfind]
      | false =>
          -- a draft's asset that is not ready is as good as none
          have hnone : a.servableKey .TRAILER = none := by
            by_contra hsome
            exact h ⟨a, ha, by simpa using haid, hsome, hpublic⟩
          cases hv : s.publicView.assets.find? fun a => a.id == assetId with
          | none => exact hnone
          | some b =>
              obtain ⟨⟨hb, hbpublic⟩, hbid⟩ := hview b hv
              rw [hid b hb a ha hbid haid, hpublic] at hbpublic
              cases hbpublic

/-! ## The guarantee -/

theorem getTrailerUrl_reads (assetId : String) :
    Prog.Reads exec (Calm tie)
      (fun r : Except Exception StorageService.SignedLink =>
        r.map (fun link => (Reply.link link).unstamped) = match (s.mediaAssets.find? fun a => a.id == assetId).bind fun a =>
          a.servableKey .TRAILER with
        | none => .error (.notFound "Media asset not found or not ready")
        | some key => .ok (.link
            { url := ⟨.GET, key, 0, StorageService.PLAYBACK_URL_TTL_SECONDS⟩, expiresAt := 0 }))
      (MediaService.getTrailerUrl assetId) s := by
  refine .perform_bind (fun _ ho => ho.exec _ s) ?_
  cases (s.mediaAssets.find? fun a => a.id == assetId).bind fun a => a.servableKey .TRAILER with
  | none => rfl
  | some key =>
      refine .perform_bind_of (V := fun url => url.verb = .GET ∧ url.objectKey = key ∧
        url.expiresIn = StorageService.PLAYBACK_URL_TTL_SECONDS) ?_ ?_
      · intro o ho
        exact ⟨_, ho.exec _ s, rfl, rfl, rfl⟩
      · intro url hurl
        refine .perform_bind_of (V := fun _ => True) ?_ ?_
        · intro o ho
          exact ⟨_, ho.exec _ s, trivial⟩
        · intro instant _
          obtain ⟨hverb, hkey, hexp⟩ := hurl
          show Except.ok _ = Except.ok _
          simp [Reply.unstamped, hverb, hkey, hexp]

/-- What a public request is answered is a function of the public view. -/
theorem public_reads {q : PublicRequest} (h : ¬ NamesDraft s q) :
    Prog.Reads exec (Calm tie) (fun r => r.map Reply.unstamped = s.publicView.answer tie q)
      (handle cfg q.toRequest) s := by
  cases q with
  | titles query =>
      refine ((listTitles_reads tie query).map_eq Reply.titles).mono ?_
      intro r hr
      subst hr
      rfl
  | title titleId =>
      refine ((getTitleById_reads titleId).map_eq Reply.title).mono ?_
      intro r hr
      subst hr
      simp only [PublicView.answer, findTitle_publicView]
      cases hfind : s.titles.find? fun t => t.id == titleId && t.published with
      | none => rfl
      | some t =>
          obtain ⟨ht, hp⟩ := Table.mem_of_find? hfind
          simp only [Bool.and_eq_true] at hp
          simp only [Option.map_some, titleShape_publicView ht hp.2]
          rfl
  | episode episodeId =>
      refine ((getEpisodeById_reads episodeId).map_eq Reply.episode).mono ?_
      intro r hr
      subst hr
      simp only [PublicView.answer, ← findEpisode_publicView h]
      cases hfind : s.episodes.find? fun e => e.id == episodeId && e.published with
      | none => rfl
      | some e =>
          rw [findEpisode_publicView h] at hfind
          obtain ⟨he, hpublic⟩ := List.mem_filter.mp (List.mem_of_find?_eq_some hfind)
          simp only [episodeShape_publicView he hpublic]
          rfl
  | trailerUrl assetId =>
      refine .bind (getTrailerUrl_reads assetId) ?_ ?_
      · intro link hlink
        simp only [PublicView.answer, ← findTrailer_publicView h]
        exact hlink
      · intro e he
        simp only [PublicView.answer, ← findTrailer_publicView h]
        exact he

end

/-- The two databases answer a public request alike, time stamps aside,
whatever the clock reads and however the database orders rows of one
instant. -/
def SamePublicResponse (cfg : AppConfig) (q : PublicRequest) (s s' : Store) : Prop :=
  ∀ tie os os', (∀ n, Calm tie (os n)) → (∀ n, Calm tie (os' n)) →
    ((handle cfg q.toRequest).run exec os s).1.map Reply.unstamped =
      ((handle cfg q.toRequest).run exec os' s').1.map Reply.unstamped

/-- **Drafts are invisible** to every public request that does not name a
published episode or a ready trailer beneath one. -/
theorem drafts_invisible {cfg : AppConfig} {s s' : Store} (hview : s.publicView = s'.publicView)
    {q : PublicRequest} (hs : ¬ NamesDraft s q) (hs' : ¬ NamesDraft s' q) :
    SamePublicResponse cfg q s s' := by
  intro tie os os' hos hos'
  have reads : Prog.Reads exec (Calm tie) _ (handle cfg q.toRequest) s := public_reads hs
  have reads' : Prog.Reads exec (Calm tie) _ (handle cfg q.toRequest) s' := public_reads hs'
  rw [(reads.run hos).1, (reads'.run hos').1, hview]

/-! ## Two drafts -/

def sampleTitle : Title := ⟨"title-1", .SERIES, "Maisha", "", "", false, 0⟩

def sampleEpisode : Episode := ⟨"episode-1", "season-1", 1, "Mwanzo", "", true⟩

def sampleTrailer : MediaAsset :=
  ⟨"asset-1", .EPISODE, "episode-1", .TRAILER, .READY, "sources/trailer", some "sources/trailer",
    none⟩

/-- A published episode with its trailer in an unpublished series. -/
def sampleDraft : Store :=
  { Store.empty with
    titles := ⟨[sampleTitle], by decide⟩
    seasons := ⟨[⟨"season-1", "title-1", 1⟩], by decide⟩
    episodes := ⟨[sampleEpisode], by decide⟩
    mediaAssets := ⟨[sampleTrailer], by decide⟩ }

/-- The draft does not show in the title list. -/
theorem drafts_invisible_sample :
    SamePublicResponse sampleConfig (.titles ⟨none, none, none, none, by simp, by simp, by simp⟩)
      .empty sampleDraft :=
  drafts_invisible (by decide +kernel) id id

/-- One database answers, the other refuses. -/
theorem not_samePublicResponse {cfg : AppConfig} {q : PublicRequest} {s s' : Store}
    (h : ((handle cfg q.toRequest).run exec (fun _ => .quiet 0) s).1.isOk ≠
      ((handle cfg q.toRequest).run exec (fun _ => .quiet 0) s').1.isOk) :
    ¬ SamePublicResponse cfg q s s' := by
  intro hsame
  have hcalm : ∀ n : Nat, Calm (fun _ => 0) ((fun _ => Ambient.quiet 0) n) := fun _ => ⟨rfl, rfl⟩
  have heq := hsame _ _ _ hcalm hcalm
  generalize ((handle cfg q.toRequest).run exec (fun _ => .quiet 0) s).1 = r at h heq
  generalize ((handle cfg q.toRequest).run exec (fun _ => .quiet 0) s').1 = r' at h heq
  cases r <;> cases r' <;> simp_all [Except.map, Except.isOk, Except.toBool]

/-- The episode page and the trailer URL show the draft to whoever knows its ids. -/
theorem drafts_visible_by_id :
    Store.empty.publicView = sampleDraft.publicView ∧
      ¬ SamePublicResponse sampleConfig (.episode "episode-1") .empty sampleDraft ∧
      ¬ SamePublicResponse sampleConfig (.trailerUrl "asset-1") .empty sampleDraft :=
  ⟨by decide +kernel, not_samePublicResponse (by decide +kernel),
    not_samePublicResponse (by decide +kernel)⟩

end StreamingService
