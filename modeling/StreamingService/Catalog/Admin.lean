import StreamingService.Catalog.Service

/-!
# Catalog — Admin

`AdminTitlesService`: drafts, seasons, episodes and the publish guard.
Publishing reads the media status first and writes the flag in a later
statement.

Left out: `listAllTitles`.
-/

namespace StreamingService.AdminTitlesService

open Lib

structure CreateTitleDto where
  type : TitleType
  name : String
  description : String
  posterUrl : String
  genres : List String
  deriving DecidableEq, Repr

/-- `none` is a field the request leaves out. -/
structure UpdateTitleDto where
  name : Option String
  description : Option String
  posterUrl : Option String
  genres : Option (List String)
  published : Option Bool
  deriving DecidableEq, Repr

structure CreateEpisodeDto where
  number : Int
  name : String
  description : String
  deriving DecidableEq, Repr

structure UpdateEpisodeDto where
  name : Option String
  description : Option String
  published : Option Bool
  deriving DecidableEq, Repr

def resolveGenres : List String → App (List String)
  | [] => pure []
  | name :: rest => do
      let genre : Genre ← stmt (.catalog (.upsertGenre name))
      let ids ← resolveGenres rest
      return genre.id :: ids

def getTitleForAdmin (titleId : String) : App TitleTree := do
  let tree : Option TitleTree ← stmt (.catalog (.findTitleTree titleId))
  match tree with
  | none => throw (.notFound "Title not found")
  | some tree => return tree

def createTitle (dto : CreateTitleDto) : App Title := do
  let genreConnections ← resolveGenres dto.genres
  stmt (.catalog (.createTitle dto.type dto.name dto.description dto.posterUrl genreConnections))

/-- The episodes of a series, until one has a ready `FULL` asset. -/
def anyEpisodeReady : List Episode → App Bool
  | [] => pure false
  | episode :: rest => do
      let full ← getMediaAssetStatus .EPISODE episode.id .FULL
      if isReady full then
        return true
      anyEpisodeReady rest

/-- A `MOVIE` needs its own `FULL` asset ready; a `SERIES` needs at least one
published, ready episode. -/
def canPublish (titleId : String) (type : TitleType) : App Bool :=
  match type with
  | .MOVIE => do
      let full ← getMediaAssetStatus .TITLE titleId .FULL
      return isReady full
  | .SERIES => do
      let episodes : List Episode ← stmt (.catalog (.findPublishedEpisodesOf titleId))
      anyEpisodeReady episodes

/-- The genre ids an update replaces the old ones by, if it gives any. -/
def genreUpdate (genres : Option (List String)) : App (Option (List String)) :=
  match genres with
  | none => pure none
  | some genres => do
      let ids ← resolveGenres genres
      return some ids

def updateTitle (titleId : String) (dto : UpdateTitleDto) : App Title := do
  let title : Option Title ← stmt (.catalog (.findTitle titleId))
  match title with
  | none => throw (.notFound "Title not found")
  | some title => do
      if dto.published == some true then
        let publishable ← canPublish titleId title.type
        if !publishable then
          throw (.unprocessable "Cannot publish a title with no ready playable content beneath it")
      let genreIds ← genreUpdate dto.genres
      stmt (.catalog (.updateTitle titleId
        { name := dto.name, description := dto.description, posterUrl := dto.posterUrl,
          published := dto.published, genreIds }))

def createSeason (titleId : String) (number : Int) : App Season := do
  let title : Option Title ← stmt (.catalog (.findTitle titleId))
  match title with
  | none => throw (.notFound "Title not found")
  | some title => do
      if title.type != .SERIES then
        throw (.unprocessable "Seasons can only be added to a SERIES title")
      stmt (.catalog (.createSeason titleId number))

def createEpisode (seasonId : String) (dto : CreateEpisodeDto) : App Episode := do
  let season : Option Season ← stmt (.catalog (.findSeason seasonId))
  match season with
  | none => throw (.notFound "Season not found")
  | some _ => stmt (.catalog (.createEpisode seasonId dto.number dto.name dto.description))

def updateEpisode (episodeId : String) (dto : UpdateEpisodeDto) : App Episode := do
  let episode : Option Episode ← stmt (.catalog (.findEpisode episodeId))
  match episode with
  | none => throw (.notFound "Episode not found")
  | some _ => do
      if dto.published == some true then
        let full ← getMediaAssetStatus .EPISODE episodeId .FULL
        if !isReady full then
          throw (.unprocessable "Cannot publish an episode whose FULL video is not ready")
      stmt (.catalog (.updateEpisode episodeId
        { name := dto.name, description := dto.description, published := dto.published }))

end StreamingService.AdminTitlesService
