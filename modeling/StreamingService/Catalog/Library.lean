import Mathlib.Data.Set.Basic
import StreamingService.Integrity
import StreamingService.Lib.Commits
import StreamingService.Lib.Lookup

/-!
# Catalog — Library

What the catalog is for: a library of works, seasons and chapters that
editors change by one edit at a time. The backend's tables, with genres under
ids of their own and handlers of several statements each, are this library:
each admin request performs its edit in the one statement that writes the
row, in whatever order requests overlap, or performs none at all.
-/

namespace StreamingService

open Lib AdminTitlesService

/-! ## The library -/

/-- A title with the names of its genres. -/
@[ext] structure Work where
  type : TitleType
  name : String
  description : String
  posterUrl : String
  published : Bool
  genres : Set String

/-- An episode, under its season. -/
structure Chapter where
  season : String
  number : Int
  name : String
  description : String
  published : Bool

/-- Everything that is in the catalog, by id. -/
@[ext] structure Library where
  works : String → Option Work
  seasons : String → Option (String × Int)
  chapters : String → Option Chapter

def Work.draft (dto : CreateTitleDto) : Work where
  type := dto.type
  name := dto.name
  description := dto.description
  posterUrl := dto.posterUrl
  published := false
  genres := { name | name ∈ dto.genres }

/-- The given fields replace the old ones. -/
def Work.revise (dto : UpdateTitleDto) (w : Work) : Work where
  type := w.type
  name := dto.name.getD w.name
  description := dto.description.getD w.description
  posterUrl := dto.posterUrl.getD w.posterUrl
  published := dto.published.getD w.published
  genres := (dto.genres.map fun names => { name | name ∈ names }).getD w.genres

def Chapter.draft (seasonId : String) (dto : CreateEpisodeDto) : Chapter where
  season := seasonId
  number := dto.number
  name := dto.name
  description := dto.description
  published := false

def Chapter.revise (dto : UpdateEpisodeDto) (c : Chapter) : Chapter where
  season := c.season
  number := c.number
  name := dto.name.getD c.name
  description := dto.description.getD c.description
  published := dto.published.getD c.published

/-- One change of the library. -/
inductive Edit where
  | create (id : String) (dto : CreateTitleDto)
  | revise (id : String) (dto : UpdateTitleDto)
  | addSeason (id titleId : String) (number : Int)
  | addChapter (id seasonId : String) (dto : CreateEpisodeDto)
  | reviseChapter (id : String) (dto : UpdateEpisodeDto)

def Edit.apply : Edit → Library → Library
  | .create id dto, L => { L with works := Function.update L.works id (some (.draft dto)) }
  | .revise id dto, L =>
      { L with works := Function.update L.works id ((L.works id).map (.revise dto)) }
  | .addSeason id titleId number, L =>
      { L with seasons := Function.update L.seasons id (some (titleId, number)) }
  | .addChapter id seasonId dto, L =>
      { L with chapters := Function.update L.chapters id (some (.draft seasonId dto)) }
  | .reviseChapter id dto, L =>
      { L with chapters := Function.update L.chapters id ((L.chapters id).map (.revise dto)) }

/-! ## The tables as a library -/

def Title.work (t : Title) (genres : List String) : Work where
  type := t.type
  name := t.name
  description := t.description
  posterUrl := t.posterUrl
  published := t.published
  genres := { name | name ∈ genres }

def Episode.chapter (e : Episode) : Chapter where
  season := e.seasonId
  number := e.number
  name := e.name
  description := e.description
  published := e.published

def Store.library (s : Store) : Library where
  works id := (s.titles.lookup Title.id id).map fun t => t.work (genreNames s id)
  seasons id := (s.seasons.lookup Season.id id).map fun x => (x.titleId, x.number)
  chapters id := (s.episodes.lookup Episode.id id).map Episode.chapter

/-- What the request edits when its statement is answered. -/
def Request.effect : Request → Prog.Entry Sig → Option Edit
  | .createTitle _ dto, ⟨.catalog (.createTitle _ _ _ _ _), .ok (row : Title)⟩ =>
      some (.create row.id dto)
  | .updateTitle _ titleId dto, ⟨.catalog (.updateTitle _ _), .ok _⟩ => some (.revise titleId dto)
  | .createSeason _ titleId number, ⟨.catalog (.createSeason _ _), .ok (row : Season)⟩ =>
      some (.addSeason row.id titleId number)
  | .createEpisode _ seasonId dto, ⟨.catalog (.createEpisode _ _ _ _), .ok (row : Episode)⟩ =>
      some (.addChapter row.id seasonId dto)
  | .updateEpisode _ episodeId dto, ⟨.catalog (.updateEpisode _ _), .ok _⟩ =>
      some (.reviseChapter episodeId dto)
  | _, _ => none

/-! ## One statement -/

section

variable {o : Ambient} {s s' : Store}

theorem titles_key (a b : Title) (h : a.id = b.id) : Indexed.clash a b = true := by
  simp [Indexed.clash, h]

theorem seasons_key (a b : Season) (h : a.id = b.id) : Indexed.clash a b = true := by
  simp [Indexed.clash, h]

theorem episodes_key (a b : Episode) (h : a.id = b.id) : Indexed.clash a b = true := by
  simp [Indexed.clash, h]

/-- Statements that leave the titles with their genres, the seasons and the
episodes leave the library. -/
theorem library_same (htitles : s'.titles = s.titles) (hseasons : s'.seasons = s.seasons)
    (hepisodes : s'.episodes = s.episodes) (hnames : ∀ id, genreNames s' id = genreNames s id) :
    s'.library = s.library := by
  ext1
  · funext id
    simp only [Store.library, htitles, hnames]
  · simp only [Store.library, hseasons]
  · simp only [Store.library, hepisodes]

/-- New connections of one title are no other title's. -/
theorem filter_connect {links links' : Table TitleGenre} {ids : List String} {id id' : String}
    (hid : id' ≠ id) (h : connectGenres links id ids = some links') :
    links'.filter (fun g => g.titleId == id') = links.filter fun g => g.titleId == id' := by
  have hnew : (ids.map fun genreId => (⟨id, genreId⟩ : TitleGenre)).filter
      (fun g => g.titleId == id') = [] := by
    refine List.filter_eq_nil_iff.mpr fun g hg => ?_
    obtain ⟨genreId, -, rfl⟩ := List.mem_map.mp hg
    simp [Ne.symm hid]
  rw [Table.filter, Table.insertMany?_eq_some h, List.filter_append, hnew, List.append_nil]
  rfl

theorem library_create (hlinks : GenresLinked s) {dto : CreateTitleDto} {ids : List String}
    (hids : List.Forall₂ (fun name id => (⟨id, name⟩ : Genre) ∈ s.genres) dto.genres ids)
    {title : Title} (h : CatalogStmt.answer o
      (.createTitle dto.type dto.name dto.description dto.posterUrl ids) s = (.ok title, s')) :
    s'.library = (Edit.create title.id dto).apply s.library := by
  simp only [CatalogStmt.answer] at h
  split at h
  · cases h
  · rename_i ts hins
    split at h
    · cases h
    · rename_i links hlinked
      cases h
      have hnew : ∀ t ∈ s.titles, t.id ≠ o.fresh := by
        intro t ht hid
        have hfresh := Table.insert?_fresh hins ht
        simp [Indexed.clash, hid] at hfresh
      have hnames := genreNames_connected
        (s := { s with titles := ts, titleGenres := links }) (Table.insertMany?_eq_some hlinked)
        (hlinks.unconnected hnew) hids
      have hothers : ∀ id, id ≠ o.fresh →
          genreNames { s with titles := ts, titleGenres := links } id = genreNames s id :=
        fun id hid => genreNames_same hlinks (fun _ hg => hg) (filter_connect hid hlinked)
      ext1
      · funext id
        simp only [Store.library, Edit.apply, Table.lookup_insert titles_key hins]
        by_cases hid : id = o.fresh
        · subst hid
          rw [Function.update_self, Function.update_self, Option.map_some, hnames]
          rfl
        · rw [Function.update_of_ne hid, Function.update_of_ne hid, hothers id hid]
      · rfl
      · rfl

/-- An update of the title's columns. -/
theorem work_edit (dto : UpdateTitleDto) (t : Title) {names names' : List String}
    (hnames : ({ name | name ∈ names' } : Set String) =
      (dto.genres.map fun names => { name | name ∈ names }).getD { name | name ∈ names }) :
    (dto.edit t).work names' = (t.work names).revise dto := by
  ext1
  case genres => exact hnames
  all_goals rfl

theorem library_revise {t : Title} (ht : t ∈ s.titles) {dto : UpdateTitleDto}
    (h : UpdatedExactly s s' t dto) : s'.library = (Edit.revise t.id dto).apply s.library := by
  have hclash : ∀ a b : Title, Indexed.clash (dto.edit a) b = Indexed.clash a b := fun _ _ => rfl
  have htitles : s'.titles = s.titles.update (fun u => u.id == t.id) dto.edit hclash :=
    Table.ext h.titles
  have hfound : s.titles.lookup Title.id t.id = some t := (Table.lookup_eq_some titles_key).mpr ⟨ht, rfl⟩
  have hseasons : s'.seasons = s.seasons := by
    have hrest := congrArg Store.seasons h.rest
    exact hrest
  have hepisodes : s'.episodes = s.episodes := by
    have hrest := congrArg Store.episodes h.rest
    exact hrest
  ext1
  · funext id
    simp only [Store.library, Edit.apply, htitles,
      Table.lookup_update s.titles t.id hclash (fun u => (rfl : (dto.edit u).id = u.id))]
    by_cases hid : id = t.id
    · subst hid
      rw [Function.update_self, Function.update_self, hfound]
      simp only [Option.map_some]
      rw [work_edit]
      cases hgenres : dto.genres with
      | none => rw [h.kept hgenres]; rfl
      | some names => exact Set.ext (h.replaced names hgenres).2
    · rw [Function.update_of_ne hid, Function.update_of_ne hid, h.others id hid]
  · simp only [Store.library, Edit.apply, hseasons]
  · simp only [Store.library, Edit.apply, hepisodes]

theorem library_addSeason {titleId : String} {number : Int} {season : Season}
    (h : CatalogStmt.answer o (.createSeason titleId number) s = (.ok season, s')) :
    s'.library = (Edit.addSeason season.id titleId number).apply s.library := by
  simp only [CatalogStmt.answer] at h
  split at h
  · cases h
  · split at h
    · cases h
    · rename_i ss hins
      cases h
      ext1
      · rfl
      · funext id
        simp only [Store.library, Edit.apply, Table.lookup_insert seasons_key hins]
        by_cases hid : id = o.fresh
        · subst hid
          rw [Function.update_self, Function.update_self]
          rfl
        · rw [Function.update_of_ne hid, Function.update_of_ne hid]
      · rfl

theorem library_addChapter {seasonId : String} {dto : CreateEpisodeDto} {episode : Episode}
    (h : CatalogStmt.answer o (.createEpisode seasonId dto.number dto.name dto.description) s =
      (.ok episode, s')) :
    s'.library = (Edit.addChapter episode.id seasonId dto).apply s.library := by
  simp only [CatalogStmt.answer] at h
  split at h
  · cases h
  · split at h
    · cases h
    · rename_i es hins
      cases h
      ext1
      · rfl
      · rfl
      · funext id
        simp only [Store.library, Edit.apply, Table.lookup_insert episodes_key hins]
        by_cases hid : id = o.fresh
        · subst hid
          rw [Function.update_self, Function.update_self]
          rfl
        · rw [Function.update_of_ne hid, Function.update_of_ne hid]

/-- What an update of an episode writes. -/
def chapterUpdate (dto : UpdateEpisodeDto) : EpisodeUpdate where
  name := dto.name
  description := dto.description
  published := dto.published

theorem library_reviseChapter {id : String} {dto : UpdateEpisodeDto} {episode : Episode}
    (h : CatalogStmt.answer o (.updateEpisode id (chapterUpdate dto)) s = (.ok episode, s')) :
    s'.library = (Edit.reviseChapter id dto).apply s.library := by
  simp only [CatalogStmt.answer] at h
  split at h
  · cases h
  · cases h
    have hclash : ∀ a b : Episode, Indexed.clash (a.apply (chapterUpdate dto)) b =
      Indexed.clash a b := fun _ _ => rfl
    have hkey : ∀ e : Episode, (e.apply (chapterUpdate dto)).id = e.id := fun _ => rfl
    ext1
    · rfl
    · rfl
    · funext id'
      simp only [Store.library, Edit.apply, Table.lookup_update s.episodes id hclash hkey]
      by_cases hid : id' = id
      · subst hid
        rw [Function.update_self, Function.update_self, Option.map_map, Option.map_map]
        rfl
      · rw [Function.update_of_ne hid, Function.update_of_ne hid]

end

/-! ## What the handlers commit -/

/-- The five statements that edit the catalog. -/
def Cmd.writesCatalog : Cmd → Bool
  | .catalog (.createTitle _ _ _ _ _) | .catalog (.updateTitle _ _) => true
  | .catalog (.createSeason _ _) | .catalog (.createEpisode _ _ _ _) => true
  | .catalog (.updateEpisode _ _) => true
  | _ => false

/-- The edit a request's answer reports. -/
def Request.edit : Request → Reply → Option Edit
  | .createTitle _ dto, .titleRow row => some (.create row.id dto)
  | .updateTitle _ titleId dto, .titleRow _ => some (.revise titleId dto)
  | .createSeason _ titleId number, .seasonRow row => some (.addSeason row.id titleId number)
  | .createEpisode _ seasonId dto, .episodeRow row => some (.addChapter row.id seasonId dto)
  | .updateEpisode _ episodeId dto, .episodeRow _ => some (.reviseChapter episodeId dto)
  | _, _ => none

/-- A statement of a request, against the ones before it: it edits nothing, or
writes what the request has asked for, with the genres it has resolved. -/
inductive EditStep (h : List (Prog.Entry Sig)) : Request → Cmd → Prop
  | quiet {q : Request} {c : Cmd} (hc : c.writesCatalog = false) : EditStep h q c
  | create {user : Option JwtAccessPayload} {dto : CreateTitleDto} {ids : List String}
      (hids : GenresNamed h dto.genres ids) :
      EditStep h (.createTitle user dto)
        (.catalog (.createTitle dto.type dto.name dto.description dto.posterUrl ids))
  | revise {user : Option JwtAccessPayload} {titleId : String} {dto : UpdateTitleDto}
      {genreIds : Option (List String)} (hids : Option.Rel (GenresNamed h) dto.genres genreIds) :
      EditStep h (.updateTitle user titleId dto)
        (.catalog (.updateTitle titleId (updateOf dto genreIds)))
  | addSeason {user : Option JwtAccessPayload} {titleId : String} {number : Int} :
      EditStep h (.createSeason user titleId number) (.catalog (.createSeason titleId number))
  | addChapter {user : Option JwtAccessPayload} {seasonId : String} {dto : CreateEpisodeDto} :
      EditStep h (.createEpisode user seasonId dto)
        (.catalog (.createEpisode seasonId dto.number dto.name dto.description))
  | reviseChapter {user : Option JwtAccessPayload} {episodeId : String} {dto : UpdateEpisodeDto} :
      EditStep h (.updateEpisode user episodeId dto)
        (.catalog (.updateEpisode episodeId (chapterUpdate dto)))

/-- The request's own history commits the edit of its answer, and none if it
fails. -/
def Committed {α : Type} (q : Request) (edit : α → Option Edit) (r : Except Exception α)
    (h : List (Prog.Entry Sig)) : Prop :=
  h.filterMap q.effect = (r.toOption.bind edit).toList

/-- None of the statements edits the catalog. -/
def Unedited (h : List (Prog.Entry Sig)) : Prop := ∀ e ∈ h, e.1.writesCatalog = false

section

variable {q : Request} {h : List (Prog.Entry Sig)}

theorem effect_quiet {e : Prog.Entry Sig} (he : e.1.writesCatalog = false) : q.effect e = none := by
  unfold Request.effect
  split
  all_goals first
    | rfl
    | (simp only [Cmd.writesCatalog] at he; cases he)

theorem effect_error {c : Cmd} {e : Exception} : q.effect ⟨c, .error e⟩ = none := by
  unfold Request.effect
  split
  all_goals first
    | rfl
    | (rename_i heq; cases heq)

theorem Unedited.committed {α : Type} {edit : α → Option Edit} {r : Except Exception α}
    (hh : Unedited h) (hr : r.toOption.bind edit = none) : Committed q edit r h := by
  rw [Committed, hr, List.filterMap_eq_nil_iff.mpr fun e he => effect_quiet (hh e he)]
  rfl

theorem Unedited.cons {e : Prog.Entry Sig} (hh : Unedited h) (he : e.1.writesCatalog = false) :
    Unedited (e :: h) := by
  intro e' he'
  rcases List.mem_cons.mp he' with rfl | he'
  · exact he
  · exact hh e' he'

/-- The statements of the request with the edit of its answer. -/
abbrev CommitsEdit {α : Type} (q : Request) (edit : α → Option Edit) (p : App α)
    (h : List (Prog.Entry Sig)) : Prop :=
  p.Emits (fun h e => EditStep h q e.1) (Committed q edit) h

namespace CommitsEdit

variable {α β : Type} {edit : α → Option Edit}

/-- A part that edits nothing comes first. -/
theorem after {p : App β} {f : β → App α} (hp : p.Calls fun c : Cmd => c.writesCatalog = false)
    (hh : Unedited h) (hf : ∀ b h', Unedited h' → CommitsEdit q edit (f b) h') :
    CommitsEdit q edit (p >>= f) h :=
  .bind ((Prog.Emits.of_calls_past hp hh).mono (fun _ _ hc => .quiet hc.1) fun _ _ hend => hend)
    (fun b h' hh' => hf b h' hh') fun _ _ hh' => Unedited.committed hh' rfl

/-- A lookup comes first. -/
theorem look {c : Cmd} {f : c.Resp → App α} (hc : c.writesCatalog = false) (hh : Unedited h)
    (hf : ∀ b h', Unedited h' → CommitsEdit q edit (f b) h') :
    CommitsEdit q edit (stmt c >>= f) h :=
  after (p := stmt c) ⟨hc, fun _ => trivial⟩ hh hf

/-- The answer is wrapped. -/
theorem wrap {edit' : β → Option Edit} {p : App α} {f : α → β} (hp : CommitsEdit q edit p h)
    (hedit : ∀ a, edit' (f a) = edit a) :
    CommitsEdit q edit' (p >>= fun a => pure (f a)) h := by
  refine Prog.Emits.bind hp (fun a h' hend => ?_) fun _ _ hend => hend
  show h'.filterMap q.effect = (edit' (f a)).toList
  rw [hedit]
  exact hend

/-- The statement that edits comes last. -/
theorem last {c : Cmd} {edit : c.Resp → Option Edit} (hh : Unedited h) (hc : EditStep h q c)
    (heffect : ∀ a, q.effect ⟨c, .ok a⟩ = edit a) : CommitsEdit q edit (stmt c) h := by
  intro r
  refine ⟨hc, ?_⟩
  have hnone : h.filterMap q.effect = [] :=
    List.filterMap_eq_nil_iff.mpr fun e he => effect_quiet (hh e he)
  cases r with
  | ok a =>
      show List.filterMap q.effect (⟨c, .ok a⟩ :: h) = (edit a).toList
      rw [← heffect]
      cases heq : q.effect ⟨c, .ok a⟩ with
      | none => rw [List.filterMap_cons_none heq, hnone]; rfl
      | some e => rw [List.filterMap_cons_some heq, hnone]; rfl
  | error e =>
      show List.filterMap q.effect (⟨c, .error e⟩ :: h) = []
      rw [List.filterMap_cons_none effect_error, hnone]

end CommitsEdit

theorem adminGuard_unedited (user : Option JwtAccessPayload) :
    (adminGuard user).Calls fun c : Cmd => c.writesCatalog = false :=
  Prog.Calls.mono (A := fun _ => False) (fun _ hc => hc.elim) (adminGuard_calls user)

/-- Asking for the status of media edits nothing. -/
theorem status_unedited : Admitted Cmd.asksStatus fun c => c.writesCatalog = false :=
  asks_admitted fun _ _ _ => rfl

/-- Resolved genres, from a history that edits nothing. -/
theorem resolveGenres_commits (hh : Unedited h) (names : List String) :
    (resolveGenres names).Emits (fun h e => EditStep h q e.1)
      (fun r h' => Unedited h' ∧ ∀ ids, r = .ok ids → GenresNamed h' names ids) h := by
  have calls : (resolveGenres names).Calls fun c : Cmd => c.writesCatalog = false :=
    resolveGenres_admitted (fun _ => rfl) names
  have named := resolveGenres_names (P := fun h e => EditStep h q e.1) (h := h)
    (fun _ _ _ => .quiet rfl) names
  exact (named.and (.of_calls_past calls hh)).mono (fun _ _ hstep => hstep.1)
    fun _ _ hend => ⟨hend.2, hend.1⟩

theorem createTitle_commits (user : Option JwtAccessPayload) (dto : CreateTitleDto)
    (hh : Unedited h) :
    CommitsEdit (.createTitle user dto) (fun title : Title => some (.create title.id dto))
      (createTitle dto) h := by
  refine .bind (resolveGenres_commits hh dto.genres) (fun ids h' hend => ?_)
    fun _ _ hend => hend.1.committed rfl
  exact CommitsEdit.last hend.1 (.create (hend.2 ids rfl)) fun title => rfl

theorem writeUpdate_commits (user : Option JwtAccessPayload) (titleId : String)
    (dto : UpdateTitleDto) (hh : Unedited h) :
    CommitsEdit (.updateTitle user titleId dto) (fun _ : Title => some (.revise titleId dto))
      (writeUpdate titleId dto) h := by
  refine .bind (Q := fun r h' => Unedited h' ∧
    ∀ genreIds, r = .ok genreIds → Option.Rel (GenresNamed h') dto.genres genreIds) ?_
    (fun genreIds h' hend => ?_) fun _ _ hend => hend.1.committed rfl
  · cases dto.genres with
    | none =>
        refine ⟨hh, fun genreIds hr => ?_⟩
        cases hr
        exact .none
    | some names =>
        refine .bind (resolveGenres_commits hh names) (fun ids h' hend => ?_)
          fun e h' hend => ⟨hend.1, fun _ hr => by cases hr⟩
        refine ⟨hend.1, fun genreIds hr => ?_⟩
        cases hr
        exact .some (hend.2 ids rfl)
  · exact CommitsEdit.last hend.1 (.revise (hend.2 genreIds rfl)) fun title => rfl

theorem updateTitle_commits (user : Option JwtAccessPayload) (titleId : String)
    (dto : UpdateTitleDto) (hh : Unedited h) :
    CommitsEdit (.updateTitle user titleId dto) (fun _ : Title => some (.revise titleId dto))
      (updateTitle titleId dto) h := by
  refine CommitsEdit.look rfl hh fun title h' hh' => ?_
  cases title with
  | none => exact hh'.committed rfl
  | some title =>
      refine .ite (fun _ => ?_) fun _ => writeUpdate_commits user titleId dto hh'
      refine CommitsEdit.after (canPublish_admitted status_unedited rfl title.type) hh'
        fun publishable h'' hh'' => ?_
      exact .ite (fun _ => hh''.committed rfl) fun _ => writeUpdate_commits user titleId dto hh''

theorem createSeason_commits (user : Option JwtAccessPayload) (titleId : String) (number : Int)
    (hh : Unedited h) :
    CommitsEdit (.createSeason user titleId number)
      (fun season : Season => some (.addSeason season.id titleId number))
      (createSeason titleId number) h := by
  refine CommitsEdit.look rfl hh fun title h' hh' => ?_
  cases title with
  | none => exact hh'.committed rfl
  | some title =>
      refine .ite (fun _ => hh'.committed rfl) fun _ => ?_
      exact CommitsEdit.last hh' .addSeason fun season => rfl

theorem createEpisode_commits (user : Option JwtAccessPayload) (seasonId : String)
    (dto : CreateEpisodeDto) (hh : Unedited h) :
    CommitsEdit (.createEpisode user seasonId dto)
      (fun episode : Episode => some (.addChapter episode.id seasonId dto))
      (createEpisode seasonId dto) h := by
  refine CommitsEdit.look rfl hh fun season h' hh' => ?_
  cases season with
  | none => exact hh'.committed rfl
  | some season => exact CommitsEdit.last hh' .addChapter fun episode => rfl

theorem updateEpisode_commits (user : Option JwtAccessPayload) (episodeId : String)
    (dto : UpdateEpisodeDto) (hh : Unedited h) :
    CommitsEdit (.updateEpisode user episodeId dto)
      (fun _ : Episode => some (.reviseChapter episodeId dto)) (updateEpisode episodeId dto) h := by
  have written : ∀ h, Unedited h → CommitsEdit (.updateEpisode user episodeId dto)
      (fun _ : Episode => some (.reviseChapter episodeId dto))
      (stmt (.catalog (.updateEpisode episodeId (chapterUpdate dto)))) h :=
    fun h hh => CommitsEdit.last hh .reviseChapter fun episode => rfl
  refine CommitsEdit.look rfl hh fun episode h' hh' => ?_
  cases episode with
  | none => exact hh'.committed rfl
  | some episode =>
      refine .ite (fun _ => ?_) fun _ => written h' hh'
      refine CommitsEdit.after (getMediaAssetStatus_admitted status_unedited _ _ _) hh'
        fun full h'' hh'' => ?_
      exact .ite (fun _ => hh''.committed rfl) fun _ => written h'' hh''

end

/-- **A request edits the catalog in one statement**, and its answer says by what. -/
theorem edit_steps (cfg : AppConfig) (q : Request) :
    (handle cfg q).Emits (fun h e => EditStep h q e.1) (Committed q q.edit) [] := by
  have start : Unedited [] := fun _ he => absurd he List.not_mem_nil
  have guarded : ∀ user {p : App Reply}, (∀ h, Unedited h → CommitsEdit q q.edit p h) →
      CommitsEdit q q.edit (adminGuard user >>= fun _ => p) [] := fun user _ hp =>
    .after (adminGuard_unedited user) start fun _ h hh => hp h hh
  -- the endpoints whose capability has none of the five
  have other (hq : ∀ c : Cmd, Reaches q c → c.writesCatalog = false) (hedit : ∀ reply, q.edit reply = none) :
      (handle cfg q).Emits (fun h e => EditStep h q e.1) (Committed q q.edit) [] := by
    have quiet : (handle cfg q).Calls fun c : Cmd => c.writesCatalog = false :=
      (handle_reaches cfg q).mono hq
    refine (Prog.Emits.of_calls_past quiet start).mono (fun _ _ hc => .quiet hc.1) fun r h hh => Unedited.committed hh ?_
    cases r with
    | ok reply => exact hedit reply
    | error e => rfl
  cases q with
  | createTitle user dto =>
      exact guarded user fun h hh => (createTitle_commits user dto hh).wrap fun _ => rfl
  | updateTitle user titleId dto =>
      exact guarded user fun h hh => (updateTitle_commits user titleId dto hh).wrap fun _ => rfl
  | createSeason user titleId number =>
      exact guarded user fun h hh => (createSeason_commits user titleId number hh).wrap fun _ => rfl
  | createEpisode user seasonId dto =>
      exact guarded user fun h hh => (createEpisode_commits user seasonId dto hh).wrap fun _ => rfl
  | updateEpisode user episodeId dto =>
      exact guarded user fun h hh => (updateEpisode_commits user episodeId dto hh).wrap fun _ => rfl
  | _ =>
      refine other (fun c hc => ?_) fun reply => rfl
      unfold Cmd.writesCatalog
      split
      all_goals first
        | rfl
        | cases hc
        | cases (Bool.and_eq_true_iff.mp hc).2

/-! ## What a read shows -/

/-- The tree is what the library has of the title, with the chapters `shown`,
in order of their numbers. -/
structure Library.Shows (L : Library) (titleId : String) (shown : Chapter → Prop)
    (tree : TitleTree) : Prop where
  id : tree.title.id = titleId
  work : L.works titleId = some (tree.title.work tree.genres)
  seasons : ∀ id number, L.seasons id = some (titleId, number) ↔
    ∃ x ∈ tree.seasons, x.1.id = id ∧ x.1.number = number
  chapters : ∀ x ∈ tree.seasons, ∀ id c, (L.chapters id = some c ∧ c.season = x.1.id ∧ shown c) ↔
    ∃ e ∈ x.2, e.id = id ∧ e.chapter = c
  ordered : tree.seasons.Pairwise fun x y => x.1.number ≤ y.1.number
  episodes : ∀ x ∈ tree.seasons, x.2.Pairwise fun e f => e.number ≤ f.number

section

variable {s : Store}

theorem byNumber_sorted {ρ : Type} (number : ρ → Int) (rows : List ρ) :
    (rows.insertionSort fun a b => number a ≤ number b).Pairwise fun a b => number a ≤ number b := by
  have : Std.Total fun a b : ρ => number a ≤ number b := ⟨fun a b => Int.le_total _ _⟩
  have : IsTrans ρ fun a b => number a ≤ number b := ⟨fun a b c => Int.le_trans⟩
  exact List.pairwise_insertionSort _ _

/-- **The query of a title's tree** shows the library, with the episodes it
selects. -/
theorem titleTree_shows {t : Title} (ht : t ∈ s.titles) {select : Episode → Bool}
    {shown : Chapter → Prop} (hshown : ∀ e : Episode, select e = true ↔ shown e.chapter) :
    s.library.Shows t.id shown (titleTree s select t) where
  id := rfl
  work := by
    have hfound : s.titles.lookup Title.id t.id = some t :=
      (Table.lookup_eq_some titles_key).mpr ⟨ht, rfl⟩
    show (s.titles.lookup Title.id t.id).map _ = _
    rw [hfound]
    rfl
  seasons := by
    intro id number
    have hlookup : s.library.seasons id = some (t.id, number) ↔
        ∃ x, (x ∈ s.seasons ∧ x.id = id) ∧ (x.titleId, x.number) = (t.id, number) := by
      show (s.seasons.lookup Season.id id).map _ = _ ↔ _
      simp only [Option.map_eq_some_iff, Table.lookup_eq_some seasons_key]
    rw [hlookup]
    simp only [titleTree, List.mem_map, List.mem_insertionSort, Table.mem_filter, beq_iff_eq,
      Prod.mk.injEq]
    constructor
    · rintro ⟨x, ⟨hx, hid⟩, htitle, hnumber⟩
      exact ⟨_, ⟨x, ⟨hx, htitle⟩, rfl⟩, hid, hnumber⟩
    · rintro ⟨_, ⟨x, ⟨hx, htitle⟩, rfl⟩, hid, hnumber⟩
      exact ⟨x, ⟨hx, hid⟩, htitle, hnumber⟩
  chapters := by
    intro x hx id c
    obtain ⟨season, -, rfl⟩ := List.mem_map.mp hx
    have hlookup : s.library.chapters id = some c ↔
        ∃ e, (e ∈ s.episodes ∧ e.id = id) ∧ e.chapter = c := by
      show (s.episodes.lookup Episode.id id).map _ = _ ↔ _
      simp only [Option.map_eq_some_iff, Table.lookup_eq_some episodes_key]
    rw [hlookup]
    simp only [List.mem_insertionSort, Table.mem_filter, Bool.and_eq_true, beq_iff_eq]
    constructor
    · rintro ⟨⟨e, ⟨he, hid⟩, rfl⟩, hseason, hc⟩
      exact ⟨e, ⟨he, hseason, (hshown e).mpr hc⟩, hid, rfl⟩
    · rintro ⟨e, ⟨he, hseason, hc⟩, hid, rfl⟩
      exact ⟨⟨e, ⟨he, hid⟩, rfl⟩, hseason, (hshown e).mp hc⟩
  ordered := by
    show List.Pairwise _ (List.map _ _)
    rw [List.pairwise_map]
    exact byNumber_sorted Season.number _
  episodes := by
    intro x hx
    obtain ⟨season, -, rfl⟩ := List.mem_map.mp hx
    exact byNumber_sorted Episode.number _

end

/-- A public shape against the rows it was made of, the state of their media aside. -/
def PresentsEpisode (e : Episode) (shape : CatalogService.EpisodeShape) : Prop :=
  shape.id = e.id ∧ shape.number = e.number ∧ shape.name = e.name ∧
    shape.description = e.description

def PresentsSeason (x : Season × List Episode) (shape : CatalogService.SeasonShape) : Prop :=
  shape.id = x.1.id ∧ shape.number = x.1.number ∧
    List.Forall₂ PresentsEpisode x.2 shape.episodes

open CatalogService in
def Presents (tree : TitleTree) (shape : TitleShape) : Prop :=
  let head : TitleHead := ⟨tree.title.id, tree.title.name, tree.title.description,
    tree.title.posterUrl, tree.genres⟩
  match shape with
  | .MOVIE head' _ => tree.title.type = .MOVIE ∧ head' = head
  | .SERIES head' seasons => tree.title.type = .SERIES ∧ head' = head ∧
      List.Forall₂ PresentsSeason tree.seasons seasons

section

open CatalogService

variable {h : List (Prog.Entry Sig)}

theorem toEpisodeShapes_presents (episodes : List Episode) :
    (toEpisodeShapes episodes).Emits (fun _ _ => True)
      (fun r _ => ∀ shapes, r = .ok shapes → List.Forall₂ PresentsEpisode episodes shapes) h := by
  induction episodes generalizing h with
  | nil =>
      intro shapes hr
      cases hr
      exact .nil
  | cons episode rest ih =>
      have hshape : ∀ h : List (Prog.Entry Sig), (toEpisodeShape episode).Emits (fun _ _ => True)
          (fun r _ => ∀ shape, r = .ok shape → PresentsEpisode episode shape) h := by
        intro h
        refine .bind (Prog.Emits.always _ _) (fun media h' _ shape hr => ?_) fun _ _ _ _ hr => by
          cases hr
        cases hr
        exact ⟨rfl, rfl, rfl, rfl⟩
      refine .bind (hshape h) (fun shape h' hone => ?_) fun _ _ _ _ hr => by cases hr
      refine .bind ih (fun shapes h'' hrest => ?_) fun _ _ _ _ hr => by cases hr
      intro shapes' hr
      cases hr
      exact .cons (hone shape rfl) (hrest shapes rfl)

theorem toSeasonShapes_presents (seasons : List (Season × List Episode)) :
    (toSeasonShapes seasons).Emits (fun _ _ => True)
      (fun r _ => ∀ shapes, r = .ok shapes → List.Forall₂ PresentsSeason seasons shapes) h := by
  induction seasons generalizing h with
  | nil =>
      intro shapes hr
      cases hr
      exact .nil
  | cons season rest ih =>
      refine .bind (toEpisodeShapes_presents season.2) (fun episodes h' hepisodes => ?_)
        fun _ _ _ _ hr => by cases hr
      refine .bind ih (fun shapes h'' hrest => ?_) fun _ _ _ _ hr => by cases hr
      intro shapes' hr
      cases hr
      exact .cons ⟨rfl, rfl, hepisodes episodes rfl⟩ (hrest shapes rfl)

/-- A title that is answered is the one the lookup found. -/
theorem getTitleById_presents (titleId : String) :
    (getTitleById titleId).Emits (fun _ _ => True) (fun r h' => ∀ shape, r = .ok shape →
      ∃ tree : TitleTree, (⟨.catalog (.findPublishedTitle titleId), .ok (some tree)⟩ :
        Prog.Entry Sig) ∈ h' ∧ Presents tree shape) h := by
  refine .perform_bind (fun found => ⟨trivial, ?_⟩) fun e => ⟨trivial, fun _ hr => by cases hr⟩
  cases found with
  | none =>
      intro shape hr
      cases hr
  | some tree =>
      cases htype : tree.title.type with
      | MOVIE =>
          simp only [htype]
          refine .bind (Prog.Emits.always _ _).grows (fun media h' hgrown => ?_)
            fun _ _ _ _ hr => by cases hr
          intro shape hr
          cases hr
          exact ⟨tree, hgrown.2 _ List.mem_cons_self, htype, rfl⟩
      | SERIES =>
          simp only [htype]
          refine .bind (toSeasonShapes_presents tree.seasons).grows (fun seasons h' hgrown => ?_)
            fun _ _ _ _ hr => by cases hr
          intro shape hr
          cases hr
          exact ⟨tree, hgrown.2 _ List.mem_cons_self, htype, rfl, hgrown.1 seasons rfl⟩

end

/-- The lookup an answer about a title goes back to. -/
def Viewed (q : Request) (r : Except Exception Reply) (h : List (Prog.Entry Sig)) : Prop :=
  match q, r with
  | .adminTitle _ titleId, .ok (.titleTree tree) =>
      (⟨.catalog (.findTitleTree titleId), .ok (some tree)⟩ : Prog.Entry Sig) ∈ h
  | .title titleId, .ok (.title shape) => ∃ tree : TitleTree,
      (⟨.catalog (.findPublishedTitle titleId), .ok (some tree)⟩ : Prog.Entry Sig) ∈ h ∧
        Presents tree shape
  | _, _ => True

theorem view_steps (cfg : AppConfig) (q : Request) :
    (handle cfg q).Emits (fun _ _ => True) (Viewed q) [] := by
  cases q with
  | adminTitle user titleId =>
      refine .bind (Prog.Emits.always _ _) (fun _ h _ => ?_) fun _ _ _ => trivial
      refine .bind (Q := fun r h' => ∀ tree, r = .ok tree →
        (⟨.catalog (.findTitleTree titleId), .ok (some tree)⟩ : Prog.Entry Sig) ∈ h') ?_
        (fun tree h' hread => hread tree rfl) fun _ _ _ => trivial
      refine .perform_bind (fun found => ⟨trivial, ?_⟩) fun e => ⟨trivial, fun _ hr => by cases hr⟩
      cases found with
      | none =>
          intro tree hr
          cases hr
      | some tree =>
          intro tree' hr
          cases hr
          exact List.mem_cons_self
  | title titleId =>
      exact .bind (getTitleById_presents titleId) (fun shape h' hread => hread shape rfl)
        fun _ _ _ => trivial
  | _ => exact (Prog.Emits.always _ _).mono (fun _ _ _ => trivial) fun _ _ _ => trivial

/-! ## Over a run -/

/-- Statements beside the five leave the library. -/
theorem library_quiet {s : Store} (hlinks : GenresLinked s) (o : Ambient) {c : Cmd}
    (hc : c.writesCatalog = false) : (exec o c s).2.library = s.library := by
  have frame := exec_frame o s c
  have beside := genres_beside o c s
  cases c with
  | catalog c =>
      refine exec_cases (P := fun out => out.2.library = s.library) (fun _ => rfl) ?_
      cases c with
      | upsertGenre name =>
          simp only [answer, CatalogStmt.answer]
          split
          · rfl
          · split
            · rfl
            · rename_i gs hins
              exact library_same rfl rfl rfl fun id => genreNames_same hlinks
                (fun g hg => (Table.mem_insert? hins).mpr (.inl hg)) rfl
      | _ => first
        | rfl
        | cases hc
  | _ =>
      obtain ⟨htitles, hseasons, hepisodes⟩ := frame.catalog (by simp)
      obtain ⟨hgenres, hrows⟩ := beside (by simp)
      refine library_same htitles hseasons hepisodes fun id => ?_
      rw [genreNames, genreNames, hgenres, hrows]

section

variable {cfg : AppConfig} {ok : AppState → Action Ambient Request → Prop} {s : Store}
  {a b : AppState}

theorem Store.Intact.linked {s : Store} (hs : s.Intact) : GenresLinked s where
  title := hs.linkTitle
  genre := hs.linkGenre

/-- The genres a request has resolved are stored under their names. -/
theorem GenresNamed.stored (hr : (app cfg).Run ok (Machine.start s) a) {tid : Nat}
    {names ids : List String} (h : GenresNamed (own tid a.trace) names ids) :
    List.Forall₂ (fun name id => (⟨id, name⟩ : Genre) ∈ a.store.genres) names ids := by
  refine List.Forall₂.imp (fun name id hnamed => ?_) h
  obtain ⟨g, hg, rfl⟩ := hnamed
  have hanswer := Machine.Run.answers (m := app cfg) exec_linkAnswer
    (fun o c s e h => LinkAnswer.mono h o c) hr tid _ (mem_own.mp hg)
  obtain ⟨hstored, rfl⟩ := hanswer
  exact hstored

theorem genreUpdate_stored (hr : (app cfg).Run ok (Machine.start s) a) {tid : Nat}
    {genres genreIds : Option (List String)}
    (h : Option.Rel (GenresNamed (own tid a.trace)) genres genreIds) :
    Option.Rel (List.Forall₂ fun name id => (⟨id, name⟩ : Genre) ∈ a.store.genres) genres
      genreIds := by
  cases h with
  | none => exact .none
  | some hnamed => exact .some (hnamed.stored hr)

/-- An update that is answered has changed what it was given. -/
theorem updateTitle_updates {s : Store} (hlinks : GenresLinked s) {o : Ambient} {id : String}
    {dto : UpdateTitleDto} {genreIds : Option (List String)} {title : Title}
    (hids : Option.Rel (List.Forall₂ fun name id => (⟨id, name⟩ : Genre) ∈ s.genres) dto.genres
      genreIds)
    (h : (exec o (.catalog (.updateTitle id (updateOf dto genreIds))) s).1 = .ok title) :
    ∃ t ∈ s.titles, t.id = id ∧
      UpdatedExactly s (exec o (.catalog (.updateTitle id (updateOf dto genreIds))) s).2 t dto := by
  have hfault : o.fault = none := ((exec_ok_iff (by simp)).mp (Prod.ext h rfl)).1
  have hfound : ∃ t ∈ s.titles, t.id = id := by
    have hanswer := h
    rw [exec_of_ok h] at hanswer
    change (CatalogStmt.answer o (.updateTitle id _) s).1 = _ at hanswer
    simp only [CatalogStmt.answer] at hanswer
    split at hanswer
    · cases hanswer
    · exact holds_of_find ‹_›
  obtain ⟨t, ht, rfl⟩ := hfound
  refine ⟨t, ht, rfl, ?_⟩
  cases hgenres : dto.genres with
  | none =>
      rw [hgenres] at hids
      cases hids
      obtain ⟨s', hexec, hupdated⟩ := updateTitle_columns hfault ht hgenres
      rw [hexec]
      exact hupdated
  | some names =>
      rw [hgenres] at hids
      cases hids with
      | some hnamed =>
          rename_i ids
          have hnodup : ids.Nodup := by
            by_contra hrepeated
            exact updateTitle_refused hrepeated h
          have hresolved : GenresResolved s.genres s.genres names ids :=
            ⟨hnamed, fun _ hg => hg, fun _ hg => .inl hg⟩
          obtain ⟨s', hexec, hupdated⟩ := updateTitle_accepted hlinks hfault ht hgenres hresolved
            hnodup
          have hexec : exec o (.catalog (.updateTitle t.id (updateOf dto (some ids)))) s =
            (.ok (dto.edit t), s') := hexec
          rw [hexec]
          exact hupdated

/-- **One statement of a run** moves the library by the edit it commits. -/
theorem library_did (hs : s.Intact) (hr : (app cfg).Run ok (Machine.start s) a) {tid : Nat}
    {q : Request} {c : Cmd} {k : Except Exception c.Resp → App Reply}
    (hth : a.threads[tid]? = some ⟨q, .call c k⟩) (o : Ambient) :
    (exec o c a.store).2.library =
      (q.effect ⟨c, (exec o c a.store).1⟩).elim a.store.library (·.apply a.store.library) := by
  have hlinks := (intact_run hs hr).linked
  have hstep := Machine.Run.owes (fun q => edit_steps cfg q) hr hth (exec o c a.store).1
  cases hanswer : (exec o c a.store).1 with
  | error e =>
      have hpair : exec o c a.store = (.error e, (exec o c a.store).2) := Prod.ext hanswer rfl
      rw [effect_error]
      exact congrArg Store.library (exec_refused hpair)
  | ok answered =>
      have hpair : exec o c a.store = (.ok answered, (exec o c a.store).2) := Prod.ext hanswer rfl
      cases hstep with
      | quiet hc =>
          rw [effect_quiet (e := ⟨c, .ok answered⟩) hc]
          exact library_quiet hlinks o hc
      | create hids => exact library_create hlinks (hids.stored hr) (exec_ok hpair)
      | revise hids =>
          obtain ⟨t, ht, rfl, hupdated⟩ := updateTitle_updates hlinks (genreUpdate_stored hr hids)
            hanswer
          exact library_revise ht hupdated
      | addSeason => exact library_addSeason (exec_ok hpair)
      | addChapter => exact library_addChapter (exec_ok hpair)
      | reviseChapter => exact library_reviseChapter (o := o) (exec_ok hpair)

/-- The library after the edits of a trace, one at a time. -/
def Store.edited (s : Store) (tr : Trace) : Library :=
  (commits Request.effect tr).foldr Edit.apply s.library

theorem library_edited (hs : s.Intact) (hr : (app cfg).Run ok (Machine.start s) b) :
    b.store.library = s.edited b.trace :=
  Machine.Run.linearizes (m := app cfg) (fun _ _ o _ _ _ hsys hth => library_did hs hsys hth o) hr

/-- What a lookup answered, the library had at that point of the run. -/
theorem lookup_shows (hs : s.Intact) (hr : (app cfg).Run ok (Machine.start s) b) {tid : Nat}
    {c : Cmd} {found : c.Resp} (h : Event.did tid (⟨c, .ok found⟩ : Prog.Entry Sig) ∈ b.trace)
    {P : Library → Prop} (hanswer : ∀ o s, (answer o c s).1 = .ok found → P s.library) :
    ∃ post pre, b.trace = post ++ .did tid ⟨c, .ok found⟩ :: pre ∧ P (s.edited pre) := by
  obtain ⟨post, pre, htr⟩ := List.append_of_mem h
  obtain ⟨a, o, c', a', ha, rfl, -, -, he, -⟩ := hr.cut htr
  obtain ⟨rfl, hfound⟩ := Sigma.mk.inj_iff.mp he
  refine ⟨post, a.trace, htr, ?_⟩
  rw [← library_edited hs ha]
  exact hanswer o a.store (by rw [← exec_of_ok (eq_of_heq hfound).symm]; exact (eq_of_heq hfound).symm)

end

/-- **The catalog is the library**: in every run, whatever requests overlap and
fail, its tables are the committed edits applied one at a time to what it
held; a request has committed the edit its answer reports when it is answered
and none when it fails; and what a title's page is answered, the admin's with
every chapter and the public's with the published ones, the library showed at
a point between the request and its answer. -/
theorem catalog_linearizes {cfg : AppConfig} {ok : AppState → Action Ambient Request → Prop}
    {s : Store} {b : AppState} (hs : s.Intact) (hr : (app cfg).Run ok (Machine.start s) b) :
    b.store.library = s.edited b.trace ∧
    (∀ (tid : Nat) (q : Request) (r : Except Exception Reply),
      b.threads[tid]? = some ⟨q, .done r⟩ → Committed q q.edit r (own tid b.trace)) ∧
    (∀ (tid : Nat) (user : Option JwtAccessPayload) (titleId : String) (tree : TitleTree),
      b.threads[tid]? = some ⟨.adminTitle user titleId, .done (.ok (.titleTree tree))⟩ →
      ∃ post pre e, b.trace = post ++ .did tid e :: pre ∧
        (s.edited pre).Shows titleId (fun _ => True) tree) ∧
    ∀ (tid : Nat) (titleId : String) (shape : CatalogService.TitleShape),
      b.threads[tid]? = some ⟨.title titleId, .done (.ok (.title shape))⟩ →
      ∃ post pre e tree, b.trace = post ++ .did tid e :: pre ∧ tree.title.published = true ∧
        (s.edited pre).Shows titleId (fun c => c.published = true) tree ∧ Presents tree shape := by
  have committed := Machine.Run.emits (fun q => edit_steps cfg q) hr
  have viewed := Machine.Run.emits (fun q => view_steps cfg q) hr
  refine ⟨library_edited hs hr, fun tid q r hth => committed.emits tid _ hth, ?_, ?_⟩
  · intro tid user titleId tree hth
    obtain ⟨post, pre, htr, hshows⟩ := lookup_shows hs hr (mem_own.mp (viewed.emits tid _ hth))
      (P := fun L => L.Shows titleId (fun _ => True) tree) fun o s hanswer => by
        obtain ⟨t, hfind, rfl⟩ := Option.map_eq_some_iff.mp (Except.ok.inj hanswer)
        obtain ⟨ht, hid⟩ := Table.mem_of_find? hfind
        cases beq_iff_eq.mp hid
        exact titleTree_shows ht fun _ => by simp
    exact ⟨post, pre, _, htr, hshows⟩
  · intro tid titleId shape hth
    obtain ⟨tree, hread, hpresents⟩ := viewed.emits tid _ hth
    obtain ⟨post, pre, htr, hpublished, hshows⟩ := lookup_shows hs hr (mem_own.mp hread)
      (P := fun L => tree.title.published = true ∧
        L.Shows titleId (fun c => c.published = true) tree) fun o s hanswer => by
        obtain ⟨t, hfind, rfl⟩ := Option.map_eq_some_iff.mp (Except.ok.inj hanswer)
        obtain ⟨ht, hsel⟩ := Table.mem_of_find? hfind
        obtain ⟨hid, hpublished⟩ := Bool.and_eq_true_iff.mp hsel
        cases beq_iff_eq.mp hid
        exact ⟨hpublished, titleTree_shows ht fun _ => Iff.rfl⟩
    exact ⟨post, pre, _, tree, htr, hpublished, hshows, hpresents⟩

/-- The tree a thread was answered, and the title it asked for. -/
def answeredTree (b : AppState) (tid : Nat) : Option (String × TitleTree) :=
  match b.threads[tid]? with
  | some ⟨.adminTitle _ titleId, .done (.ok (.titleTree tree))⟩ => some (titleId, tree)
  | _ => none

theorem answeredTree_thread {b : AppState} {tid : Nat} {titleId : String} {tree : TitleTree}
    (h : answeredTree b tid = some (titleId, tree)) : ∃ user,
      b.threads[tid]? = some ⟨.adminTitle user titleId, .done (.ok (.titleTree tree))⟩ := by
  unfold answeredTree at h
  split at h
  · rename_i user titleId' tree' hth
    cases h
    exact ⟨user, hth⟩
  · cases h

/-- A series is created; while one request renames it, another adds a season and
a third asks for its tree. -/
theorem catalog_linearizes_sample : ∃ b : AppState,
    (commits Request.effect b.trace).length = 3 ∧
    b.store.library = Store.empty.edited b.trace ∧
    ∃ (post pre : Trace) (e : Prog.Entry Sig) (tree : TitleTree),
      b.trace = post ++ .did 3 e :: pre ∧
        (Store.empty.edited pre).Shows "title-1" (fun _ => True) tree := by
  obtain ⟨b, hr, hb⟩ := Machine.exists_run_of_replay (m := app sampleConfig)
    (a := Machine.start Store.empty) anyAction
    [.begin (.createTitle (some sampleAdmin) ⟨.SERIES, "Maisha", "A series", "poster", ["Drama"]⟩),
      .step 0 ((Ambient.quiet 1).generating "genre-1"),
      .step 0 ((Ambient.quiet 2).generating "title-1"),
      .begin (.updateTitle (some sampleAdmin) "title-1" ⟨some "Maisha 2", none, none, none, none⟩),
      .begin (.createSeason (some sampleAdmin) "title-1" 1),
      .begin (.adminTitle (some sampleAdmin) "title-1"),
      .step 1 (.quiet 3), .step 2 (.quiet 4), .step 2 ((Ambient.quiet 5).generating "season-1"),
      .step 3 (.quiet 6), .step 1 (.quiet 7)]
    (fun b => (commits Request.effect b.trace).length == 3 &&
      (answeredTree b 3).any fun answered => answered.1 == "title-1") (by decide +kernel)
  simp only [Bool.and_eq_true, beq_iff_eq] at hb
  obtain ⟨hcommits, hanswered⟩ := hb
  obtain ⟨⟨titleId, tree⟩, htree, hid⟩ := (Option.any_eq_true _ _).mp hanswered
  cases beq_iff_eq.mp hid
  obtain ⟨user, hth⟩ := answeredTree_thread htree
  obtain ⟨hlibrary, -, hviewed, -⟩ := catalog_linearizes Store.Intact.empty hr
  obtain ⟨post, pre, e, htr, hshows⟩ := hviewed 3 user "title-1" tree hth
  exact ⟨b, hcommits, hlibrary, post, pre, e, tree, htr, hshows⟩

end StreamingService
