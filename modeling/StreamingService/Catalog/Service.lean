import StreamingService.Payments.Provider

/-!
# Catalog — Service

`CatalogService`, whose answers are the public view of published titles and
episodes, and the `PlayControls` of the title page, which see nothing but
that answer. Statements the source issues through one `Promise.all` are
performed here in the order it lists them.
-/

namespace StreamingService

open Lib

/-- What the catalog says about one asset of an owner. -/
structure MediaAssetStatus where
  assetId : String
  ready : Bool
  deriving DecidableEq, Repr

def getMediaAssetStatus (ownerType : MediaOwnerType) (ownerId : String) (kind : MediaKind) :
    App (Option MediaAssetStatus) := do
  let asset : Option MediaAsset ← stmt (.mediaAsset (.findByOwner ownerType ownerId kind))
  return asset.map fun asset =>
    { assetId := asset.id, ready := asset.processingStatus == .READY }

/-- `full?.ready ?? false`. -/
def isReady (status : Option MediaAssetStatus) : Bool :=
  match status with
  | none => false
  | some status => status.ready

/-- What a playable unit (a movie or an episode) tells about its media. -/
structure UnitMedia where
  trailer : Option MediaAssetStatus
  fullAvailable : Bool
  deriving DecidableEq, Repr

/-- The query of the title list, as its validation lets it through. -/
structure ListTitlesDto where
  genre : Option String
  type : Option TitleType
  page : Option Nat
  pageSize : Option Nat
  page_min : ∀ n ∈ page, 1 ≤ n
  pageSize_min : ∀ n ∈ pageSize, 1 ≤ n
  pageSize_max : ∀ n ∈ pageSize, n ≤ 100

namespace CatalogService

/-- An entry of the title list. -/
structure TitleItem where
  id : String
  type : TitleType
  name : String
  posterUrl : String
  genres : List String
  deriving DecidableEq, Repr

structure TitlePage where
  items : List TitleItem
  page : Nat
  pageSize : Nat
  total : Nat
  deriving DecidableEq, Repr

def listTitles (query : ListTitlesDto) : App TitlePage := do
  let page := query.page.getD 1
  let pageSize := query.pageSize.getD 20
  -- an empty genre is falsy, and filters nothing
  let genre := query.genre.filter fun genre => genre != ""
  let rows : List (Title × List String) ←
    stmt (.catalog (.findPublishedTitles query.type genre ((page - 1) * pageSize) pageSize))
  let total : Nat ← stmt (.catalog (.countPublishedTitles query.type genre))
  return {
    items := rows.map fun (title, genres) =>
      { id := title.id, type := title.type, name := title.name,
        posterUrl := title.posterUrl, genres }
    page
    pageSize
    total }

structure EpisodeShape where
  id : String
  number : Int
  name : String
  description : String
  media : UnitMedia
  deriving DecidableEq, Repr

structure SeasonShape where
  id : String
  number : Int
  episodes : List EpisodeShape
  deriving DecidableEq, Repr

/-- The part of a title shape both types have. -/
structure TitleHead where
  id : String
  name : String
  description : String
  posterUrl : String
  genres : List String
  deriving DecidableEq, Repr

inductive TitleShape where
  | MOVIE (head : TitleHead) (media : UnitMedia)
  | SERIES (head : TitleHead) (seasons : List SeasonShape)
  deriving DecidableEq, Repr

/-- The two lookups of one unit. -/
def unitMedia (ownerType : MediaOwnerType) (ownerId : String) : App UnitMedia := do
  let trailer ← getMediaAssetStatus ownerType ownerId .TRAILER
  let full ← getMediaAssetStatus ownerType ownerId .FULL
  return { trailer, fullAvailable := isReady full }

def toEpisodeShape (episode : Episode) : App EpisodeShape := do
  let media ← unitMedia .EPISODE episode.id
  return { id := episode.id, number := episode.number, name := episode.name,
           description := episode.description, media }

def toEpisodeShapes : List Episode → App (List EpisodeShape)
  | [] => pure []
  | episode :: rest => do
      let shape ← toEpisodeShape episode
      let shapes ← toEpisodeShapes rest
      return shape :: shapes

def toSeasonShapes : List (Season × List Episode) → App (List SeasonShape)
  | [] => pure []
  | (season, episodes) :: rest => do
      let episodes ← toEpisodeShapes episodes
      let shapes ← toSeasonShapes rest
      return { id := season.id, number := season.number, episodes } :: shapes

def getTitleById (titleId : String) : App TitleShape := do
  let found : Option TitleTree ← stmt (.catalog (.findPublishedTitle titleId))
  match found with
  | none => throw (.notFound "Title not found")
  | some tree => do
      let title := tree.title
      let head : TitleHead :=
        { id := title.id, name := title.name, description := title.description,
          posterUrl := title.posterUrl, genres := tree.genres }
      match title.type with
      | .MOVIE => do
          let media ← unitMedia .TITLE title.id
          return .MOVIE head media
      | .SERIES => do
          let seasons ← toSeasonShapes tree.seasons
          return .SERIES head seasons

def getEpisodeById (episodeId : String) : App EpisodeShape := do
  let episode : Option Episode ← stmt (.catalog (.findPublishedEpisode episodeId))
  match episode with
  | none => throw (.notFound "Episode not found")
  | some episode => toEpisodeShape episode

end CatalogService

/-! ## The title page -/

namespace PlayControls

/-- The asset id the 'Play full' button sends to
`GET media/:assetId/playback-url`; `none` when the page shows no button. -/
def playFull (media : UnitMedia) : Option String :=
  match media.fullAvailable, media.trailer with
  | true, some trailer => some trailer.assetId
  | _, _ => none

end PlayControls

end StreamingService
