import Mathlib.Data.List.Forall2
import Mathlib.Data.List.Nodup
import StreamingService.Catalog.Drafts
import StreamingService.Catalog.Publishing
import StreamingService.Lib.Reads

/-!
# Catalog — Genres

Genres by name. `createTitle` and `updateTitle` resolve each given name to the
id of a genre, stored or new, and connect the title to the ids under the
composite key of `title_genres`. Equal names resolve to one id, and the key
refuses its second connection, so that the whole statement is rolled back.
A list without a repetition comes back as it was given, and an update touches
nothing else.

The upserts of one call run side by side. As long as no name is repeated they
meet different rows, so one order of them stands for every order.
-/

namespace StreamingService

open Lib AdminTitlesService

/-! ## Before a call -/

/-- Nothing fails, and the generated ids are new to the catalog. -/
structure NewIds (os : Nat → Ambient) (s : Store) : Prop where
  fault : ∀ n, (os n).fault = none
  distinct : ∀ m n, (os m).fresh = (os n).fresh → m = n
  genre : ∀ n, ∀ g ∈ s.genres, g.id ≠ (os n).fresh
  title : ∀ n, ∀ t ∈ s.titles, t.id ≠ (os n).fresh

/-- The foreign keys of `title_genres`. -/
structure GenresLinked (s : Store) : Prop where
  title : ∀ g ∈ s.titleGenres, ∃ t ∈ s.titles, t.id = g.titleId
  genre : ∀ g ∈ s.titleGenres, ∃ x ∈ s.genres, x.id = g.genreId

variable {os : Nat → Ambient} {s s' : Store} {gs gs' : Table Genre} {names ids : List String}
  {id : String}

theorem NewIds.shift (h : NewIds os s) (k : Nat) : NewIds (fun n => os (n + k)) s where
  fault n := h.fault (n + k)
  distinct _ _ heq := Nat.add_right_cancel (h.distinct _ _ heq)
  genre n := h.genre (n + k)
  title n := h.title (n + k)

/-! ## Names and ids -/

/-- The ids of the names, in a table of genres that has grown by some of the
names. -/
structure GenresResolved (gs gs' : Table Genre) (names ids : List String) : Prop where
  ids : List.Forall₂ (fun name id => (⟨id, name⟩ : Genre) ∈ gs') names ids
  kept : ∀ g ∈ gs, g ∈ gs'
  new : ∀ g ∈ gs', g ∈ gs ∨ g.name ∈ names

/-- A genre's name and id determine each other. -/
theorem biUnique_genre (gs : Table Genre) :
    Relator.BiUnique fun name id => (⟨id, name⟩ : Genre) ∈ gs := by
  refine ⟨fun a b id ha hb => ?_, fun name a b ha hb => ?_⟩
  · exact congrArg Genre.name (Table.eq_of_clash ha hb (by simp [Indexed.clash]))
  · exact congrArg Genre.id (Table.eq_of_clash ha hb (by simp [Indexed.clash]))

theorem GenresResolved.nodup_iff (h : GenresResolved gs gs' names ids) : ids.Nodup ↔ names.Nodup :=
  (List.rel_nodup (biUnique_genre gs') h.ids).symm

/-- One upsert answers the genre of the name, and stores it if it was not. -/
theorem upsertGenre_run (h : NewIds os s) (name : String) :
    ∃ g gs, exec (os 0) (.catalog (.upsertGenre name)) s = (.ok g, { s with genres := gs }) ∧
      g.name = name ∧ (∀ x, x ∈ gs ↔ x ∈ s.genres ∨ x = g) ∧
      NewIds (fun n => os (n + 1)) { s with genres := gs } := by
  rw [exec_answer (h.fault 0)]
  show ∃ g gs, CatalogStmt.answer (os 0) (.upsertGenre name) s = _ ∧ _
  cases hfind : s.genres.find? fun g => g.name == name with
  | some g =>
      obtain ⟨hg, hname⟩ := Table.mem_of_find? hfind
      refine ⟨g, s.genres, ?_, beq_iff_eq.mp hname, fun x => ?_, h.shift 1⟩
      · simp only [CatalogStmt.answer, hfind]
        rfl
      · exact ⟨.inl, fun hx => hx.elim (fun hx => hx) fun hx => hx ▸ hg⟩
  | none =>
      have hfresh : s.genres.Admits ⟨(os 0).fresh, name⟩ := by
        intro x hx
        have hname : x.name ≠ name := by simpa using Table.find?_eq_none.mp hfind x hx
        simp [Indexed.clash, h.genre 0 x hx, hname]
      obtain ⟨gs, hgs⟩ := Table.insert?_of_fresh hfresh
      refine ⟨⟨(os 0).fresh, name⟩, gs, ?_, rfl, fun x => Table.mem_insert? hgs, ?_⟩
      · simp only [CatalogStmt.answer, hfind, hgs]
        rfl
      · refine { h.shift 1 with genre := fun n x hx => ?_ }
        rcases (Table.mem_insert? hgs).mp hx with hx | rfl
        · exact h.genre (n + 1) x hx
        · -- the id this upsert has used is not generated again
          intro heq
          exact absurd (h.distinct 0 (n + 1) heq) (Nat.succ_ne_zero n).symm

/-- **Resolution**: the ids of all names, and no other genre added. -/
theorem resolveGenres_run (h : NewIds os s) (names : List String) :
    ∃ gs ids, (resolveGenres names).run exec os s =
        (.ok ids, { s with genres := gs }, fun n => os (n + names.length)) ∧
      GenresResolved s.genres gs names ids := by
  induction names generalizing os s with
  | nil => exact ⟨s.genres, [], rfl, .nil, fun _ hg => hg, fun _ hg => .inl hg⟩
  | cons name rest ih =>
      obtain ⟨g, gs₁, hexec, hname, hmem, h₁⟩ := upsertGenre_run h name
      obtain ⟨gs, ids, hrun, hres⟩ := ih h₁
      refine ⟨gs, g.id :: ids, ?_, ?_, fun x hx => ?_, fun x hx => ?_⟩
      · exact (Prog.run_perform_ok hexec).trans (Prog.run_bind_ok hrun)
      · refine .cons (hres.kept _ ((hmem _).mpr (.inr ?_))) hres.ids
        rw [← hname]
        rfl
      · exact hres.kept x ((hmem x).mpr (.inl hx))
      · rcases hres.new x hx with hx | hx
        · rcases (hmem x).mp hx with hx | rfl
          · exact .inl hx
          · exact .inr (hname ▸ List.mem_cons_self)
        · exact .inr (List.mem_cons_of_mem _ hx)

/-! ## Connections -/

/-- A title without genres is connected to a list of ids exactly when none is
repeated. -/
theorem connectGenres_iff {links : Table TitleGenre} (h : ∀ g ∈ links, g.titleId ≠ id) :
    (∃ links', connectGenres links id ids = some links') ↔ ids.Nodup := by
  rw [connectGenres, Table.insertMany?_iff, Table.distinct_iff, List.pairwise_append,
    List.pairwise_map]
  constructor
  · rintro ⟨-, hids, -⟩
    refine hids.imp fun {a b} hclash heq => ?_
    simp [Indexed.clash, heq] at hclash
  · intro hids
    refine ⟨Table.distinct_iff.mp links.unique, hids.imp fun {a b} hne => ?_, fun g hg x hx => ?_⟩
    · simp [Indexed.clash, hne]
    · obtain ⟨genreId, -, rfl⟩ := List.mem_map.mp hx
      simp [Indexed.clash, h g hg]

/-- The names of the ids a title is connected to. -/
theorem genreNames_connected {rest : List TitleGenre}
    (hrows : s.titleGenres.rows = rest ++ ids.map fun genreId => ⟨id, genreId⟩)
    (hrest : ∀ g ∈ rest, g.titleId ≠ id)
    (hids : List.Forall₂ (fun name id => (⟨id, name⟩ : Genre) ∈ s.genres) names ids) :
    genreNames s id = names := by
  have hfilter : s.titleGenres.filter (fun g => g.titleId == id) =
      ids.map fun genreId => ⟨id, genreId⟩ := by
    rw [Table.filter, hrows, List.filter_append, List.filter_eq_nil_iff.mpr, List.nil_append,
      List.filter_eq_self.mpr]
    · intro g hg
      obtain ⟨genreId, -, rfl⟩ := List.mem_map.mp hg
      exact beq_self_eq_true id
    · intro g hg
      simp [hrest g hg]
  rw [genreNames, hfilter, List.filterMap_map]
  clear hfilter hrows
  induction hids with
  | nil => rfl
  | cons hmem _ ih =>
      rw [List.filterMap_cons, ih]
      simp [genres_find? hmem rfl]

/-- The names of a title whose connections stay as they were. -/
theorem genreNames_same (hlinks : GenresLinked s) (hkept : ∀ g ∈ s.genres, g ∈ s'.genres)
    (hrows : s'.titleGenres.filter (fun g => g.titleId == id) =
      s.titleGenres.filter fun g => g.titleId == id) : genreNames s' id = genreNames s id := by
  rw [genreNames, genreNames, hrows]
  refine List.filterMap_congr fun g hg => ?_
  obtain ⟨x, hx, hid⟩ := hlinks.genre g (Table.mem_filter.mp hg).1
  rw [genres_find? hx hid, genres_find? (hkept x hx) hid]

/-! ## createTitle -/

/-- The title `createTitle` is to store. -/
def createdTitle (o : Ambient) (dto : CreateTitleDto) : Title where
  id := o.fresh
  type := dto.type
  name := dto.name
  description := dto.description
  posterUrl := dto.posterUrl
  published := false
  createdAt := o.now

/-- The genres of a new title come back from `getTitleForAdmin`. -/
def RoundTrips (os : Nat → Ambient) (s : Store) (dto : CreateTitleDto) : Prop :=
  ∃ tree, ((createTitle dto >>= fun title => getTitleForAdmin title.id).run exec os s).1 =
      .ok tree ∧
    tree.genres.Nodup ∧ ∀ name, name ∈ tree.genres ↔ name ∈ dto.genres

section

variable {o : Ambient} {dto : CreateTitleDto}

/-- Nothing is connected to a title that is not stored. -/
theorem GenresLinked.unconnected (hlinks : GenresLinked s) (hnew : ∀ t ∈ s.titles, t.id ≠ id) :
    ∀ g ∈ s.titleGenres, g.titleId ≠ id := by
  intro g hg hid
  obtain ⟨t, ht, htid⟩ := hlinks.title g hg
  exact hnew t ht (htid.trans hid)

/-- The insert of a title, when no id is repeated. -/
theorem createTitle_accepted (dto : CreateTitleDto) (hlinks : GenresLinked s) (ho : o.fault = none)
    (hnew : ∀ t ∈ s.titles, t.id ≠ o.fresh) (hres : GenresResolved s.genres gs names ids)
    (hids : ids.Nodup) :
    ∃ s', exec o (.catalog (.createTitle dto.type dto.name dto.description dto.posterUrl ids))
        { s with genres := gs } = (.ok (createdTitle o dto), s') ∧
      createdTitle o dto ∈ s'.titles ∧ genreNames s' o.fresh = names := by
  have hunconnected := hlinks.unconnected hnew
  obtain ⟨ts, hts⟩ : ∃ ts, s.titles.insert? (createdTitle o dto) = some ts :=
    Table.insert?_of_fresh fun t ht => by simp [Indexed.clash, createdTitle, hnew t ht]
  obtain ⟨links, hlinked⟩ := (connectGenres_iff hunconnected).mpr hids
  refine ⟨{ s with genres := gs, titles := ts, titleGenres := links }, ?_, ?_, ?_⟩
  · rw [exec_answer ho]
    simp only [createdTitle] at hts
    show CatalogStmt.answer o (.createTitle _ _ _ _ _) _ = _
    simp only [CatalogStmt.answer, hts, hlinked]
    rfl
  · exact (Table.mem_insert? hts).mpr (.inr rfl)
  · exact genreNames_connected (Table.insertMany?_eq_some hlinked) hunconnected hres.ids

/-- The composite key refuses a repeated id. -/
theorem createTitle_refused (hlinks : GenresLinked s)
    (hnew : ∀ t ∈ s.titles, t.id ≠ o.fresh) (hids : ¬ ids.Nodup) {title : Title} :
    (exec o (.catalog (.createTitle dto.type dto.name dto.description dto.posterUrl ids))
      { s with genres := gs }).1 ≠ .ok title := by
  intro hok
  rw [exec_of_ok hok] at hok
  change (CatalogStmt.answer o (.createTitle _ _ _ _ _) _).1 = _ at hok
  simp only [CatalogStmt.answer] at hok
  split at hok
  · cases hok
  · split at hok
    · cases hok
    · rename_i links hlinked
      exact hids ((connectGenres_iff (hlinks.unconnected hnew)).mp ⟨links, hlinked⟩)

/-- The one statement `createTitle` ends with. -/
theorem createTitle_run (h : NewIds os s) (dto : CreateTitleDto) :
    ∃ gs ids, GenresResolved s.genres gs dto.genres ids ∧
      (createTitle dto).run exec os s = Prog.run exec (Prog.perform (S := Sig)
        (.catalog (.createTitle dto.type dto.name dto.description dto.posterUrl ids)))
        (fun n => os (n + dto.genres.length)) { s with genres := gs } := by
  obtain ⟨gs, ids, hrun, hres⟩ := resolveGenres_run h dto.genres
  exact ⟨gs, ids, hres, Prog.run_bind_ok hrun⟩

/-- An admin who asks for a stored title is shown its genres. -/
theorem getTitleForAdmin_run {title : Title} (hfault : (os 0).fault = none)
    (htitle : title ∈ s.titles) :
    ((getTitleForAdmin title.id).run exec os s).1 = .ok (titleTree s (fun _ => true) title) := by
  have hexec : exec (os 0) (.catalog (.findTitleTree title.id)) s =
      (.ok (some (titleTree s (fun _ => true) title)), s) := by
    rw [exec_answer hfault]
    show CatalogStmt.answer (os 0) (.findTitleTree title.id) s = _
    simp only [CatalogStmt.answer, titles_find? htitle rfl]
    rfl
  rw [show (getTitleForAdmin title.id).run exec os s = _ from Prog.run_perform_ok hexec]
  rfl

/-- **Genres round-trip exactly when no name is repeated.** -/
theorem roundTrips_iff (h : NewIds os s) (hlinks : GenresLinked s) :
    RoundTrips os s dto ↔ dto.genres.Nodup := by
  obtain ⟨gs, ids, hres, hrun⟩ := createTitle_run h dto
  have hlater := h.shift dto.genres.length
  constructor
  · rintro ⟨tree, htree, -⟩
    obtain ⟨title, htitle⟩ := Prog.run_ok_of_bind htree
    rw [hrun] at htitle
    by_contra hrepeated
    exact createTitle_refused hlinks (hlater.title 0) (hres.nodup_iff.not.mpr hrepeated) htitle
  · intro hnodup
    obtain ⟨s', hexec, hmem, hnames⟩ := createTitle_accepted dto hlinks (hlater.fault 0)
      (hlater.title 0) hres (hres.nodup_iff.mpr hnodup)
    have hread := (Prog.run_bind_ok (f := fun title : Title => getTitleForAdmin title.id)
      (hrun.trans (Prog.run_perform hexec)))
    refine ⟨titleTree s' (fun _ => true) (createdTitle (os (0 + dto.genres.length)) dto), ?_, ?_⟩
    · rw [hread]
      exact getTitleForAdmin_run (hlater.fault 1) hmem
    · have hgenres : (titleTree s' (fun _ => true)
          (createdTitle (os (0 + dto.genres.length)) dto)).genres = dto.genres := hnames
      rw [hgenres]
      exact ⟨hnodup, fun _ => Iff.rfl⟩

end

/-! ## The publish guard -/

theorem isReady_iff {ownerType : MediaOwnerType} {ownerId : String} :
    isReady ((s.mediaAssets.find? fun a => a.ownedBy ownerType ownerId .FULL).map fun asset =>
      { assetId := asset.id, ready := asset.processingStatus == .READY }) =
      decide (FullReady s ownerType ownerId) := by
  have hkey : ∀ a b : MediaAsset, a.ownedBy ownerType ownerId .FULL = true →
      b.ownedBy ownerType ownerId .FULL = true → Indexed.clash a b = true := by
    intro a b ha hb
    simp only [MediaAsset.ownedBy, Bool.and_eq_true, beq_iff_eq] at ha hb
    simp [Indexed.clash, ha, hb]
  rw [Bool.eq_iff_iff, decide_eq_true_iff]
  cases hfind : s.mediaAssets.find? fun a => a.ownedBy ownerType ownerId .FULL with
  | none =>
      constructor
      · intro h
        cases h
      · rintro ⟨a, ha, howned, -⟩
        rw [Table.find?_eq_none.mp hfind a ha] at howned
        cases howned
  | some a =>
      obtain ⟨ha, howned⟩ := Table.mem_of_find? hfind
      refine ⟨fun h => ⟨a, ha, howned, beq_iff_eq.mp h⟩, ?_⟩
      rintro ⟨b, hb, hbowned, hready⟩
      rw [Table.eq_of_clash hb ha (hkey b a hbowned howned)] at hready
      exact beq_iff_eq.mpr hready

/-- The environment lets every statement through. -/
def Faultless (o : Ambient) : Prop := o.fault = none

theorem anyEpisodeReady_reads (episodes : List Episode) :
    Prog.Reads exec Faultless (· = .ok (episodes.any fun x => decide (FullReady s .EPISODE x.id)))
      (anyEpisodeReady episodes) s := by
  induction episodes with
  | nil => rfl
  | cons x rest ih =>
      refine .bind_eq (.perform_bind (fun o ho => exec_answer ho _ s) rfl) ?_ fun e he => nomatch he
      intro full hfull
      cases hfull
      rw [List.any_cons]
      refine .ite (fun hready => ?_) fun hready => ?_
      · rw [isReady_iff] at hready
        rw [hready]
        rfl
      · rw [isReady_iff, Bool.not_eq_true] at hready
        rw [hready]
        exact ih

/-- **The guard** answers whether what a title promises can be played. -/
theorem canPublish_reads (type : TitleType) :
    Prog.Reads exec Faultless (· = .ok (decide (Playable s (.ofTitle type id))))
      (canPublish id type) s := by
  cases type with
  | MOVIE =>
      refine .bind_eq (.perform_bind (fun o ho => exec_answer ho _ s) rfl) ?_ fun e he => nomatch he
      intro full hfull
      cases hfull
      exact congrArg Except.ok isReady_iff
  | SERIES =>
      refine .perform_bind (fun o ho => exec_answer ho _ s) ?_
      refine (anyEpisodeReady_reads _).mono fun r hr => hr.trans (congrArg Except.ok ?_)
      rw [Bool.eq_iff_iff, decide_eq_true_iff, List.any_eq_true]
      constructor
      · rintro ⟨x, hx, hready⟩
        obtain ⟨hmem, hsel⟩ := Table.mem_filter.mp hx
        rw [Bool.and_eq_true] at hsel
        exact ⟨x, hmem, hsel.1, hsel.2, of_decide_eq_true hready⟩
      · rintro ⟨x, hmem, hpublished, hin, hready⟩
        refine ⟨x, Table.mem_filter.mpr ⟨hmem, ?_⟩, decide_eq_true hready⟩
        rw [Bool.and_eq_true]
        exact ⟨hpublished, hin⟩

/-! ## updateTitle -/

/-- The title with the given fields, the others as they are. -/
def AdminTitlesService.UpdateTitleDto.edit (dto : UpdateTitleDto) (t : Title) : Title :=
  { t with
    name := dto.name.getD t.name
    description := dto.description.getD t.description
    posterUrl := dto.posterUrl.getD t.posterUrl
    published := dto.published.getD t.published }

/-- From `s` to `s'` the given fields of `t` have changed, and its genres, if
given, are those names; nothing else has, but for new genres of those names. -/
structure UpdatedExactly (s s' : Store) (t : Title) (dto : UpdateTitleDto) : Prop where
  titles : s'.titles.rows = s.titles.rows.map fun u => if u.id == t.id then dto.edit u else u
  replaced : ∀ names, dto.genres = some names →
    (genreNames s' t.id).Nodup ∧ ∀ name, name ∈ genreNames s' t.id ↔ name ∈ names
  kept : dto.genres = none → genreNames s' t.id = genreNames s t.id
  others : ∀ id, id ≠ t.id → genreNames s' id = genreNames s id
  known : ∀ g ∈ s.genres, g ∈ s'.genres
  added : ∀ g ∈ s'.genres, g ∈ s.genres ∨ ∃ names, dto.genres = some names ∧ g.name ∈ names
  rest : { s' with titles := s.titles, titleGenres := s.titleGenres, genres := s.genres } = s

/-- The update succeeds and changes exactly what it is given. -/
def UpdatesExactly (os : Nat → Ambient) (s : Store) (t : Title) (dto : UpdateTitleDto) : Prop :=
  ((updateTitle t.id dto).run exec os s).1 = .ok (dto.edit t) ∧
    UpdatedExactly s ((updateTitle t.id dto).runStore exec os s) t dto

section

variable {o : Ambient} {t : Title} {dto : UpdateTitleDto}

/-- What an update writes, with the ids of its genres. -/
def updateOf (dto : UpdateTitleDto) (genreIds : Option (List String)) : TitleUpdate where
  name := dto.name
  description := dto.description
  posterUrl := dto.posterUrl
  published := dto.published
  genreIds := genreIds

/-- The update of a stored title that gives no genres. -/
theorem updateTitle_columns (ho : o.fault = none) (ht : t ∈ s.titles) (hnone : dto.genres = none) :
    ∃ s', exec o (.catalog (.updateTitle t.id (updateOf dto none))) s = (.ok (dto.edit t), s') ∧
      UpdatedExactly s s' t dto := by
  refine ⟨{ s with
    titles := s.titles.update (fun u => u.id == t.id) (.apply (updateOf dto none)) fun _ _ => rfl },
    ?_, ?_⟩
  · rw [exec_answer ho]
    show CatalogStmt.answer o (.updateTitle t.id (updateOf dto none)) s = _
    simp only [CatalogStmt.answer, titles_find? ht rfl, updateOf]
    rfl
  · exact
      { titles := rfl
        replaced := fun names hnames => by rw [hnone] at hnames; cases hnames
        kept := fun _ => rfl
        others := fun _ _ => rfl
        known := fun _ hg => hg
        added := fun _ hg => .inl hg
        rest := rfl }

/-- The connections of the other titles. -/
theorem unlinked_ne (s : Store) (id : String) :
    ∀ g ∈ s.titleGenres.remove fun g => g.titleId == id, g.titleId ≠ id := by
  intro g hg
  have hsel := (List.mem_filter.mp hg).2
  simpa using hsel

/-- New connections of one title leave the others' alone. -/
theorem filter_connected {links : Table TitleGenre} {titleId : String} (hid : id ≠ titleId)
    (hlinked : connectGenres (s.titleGenres.remove fun g => g.titleId == titleId) titleId ids =
      some links) :
    links.filter (fun g => g.titleId == id) = s.titleGenres.filter fun g => g.titleId == id := by
  have hnew : (ids.map fun genreId => (⟨titleId, genreId⟩ : TitleGenre)).filter
      (fun g => g.titleId == id) = [] := by
    refine List.filter_eq_nil_iff.mpr fun g hg => ?_
    obtain ⟨genreId, -, rfl⟩ := List.mem_map.mp hg
    simpa using hid.symm
  rw [Table.filter, Table.insertMany?_eq_some hlinked, List.filter_append, hnew, List.append_nil]
  show (s.titleGenres.rows.filter _).filter _ = s.titleGenres.rows.filter _
  rw [List.filter_filter]
  refine List.filter_congr fun g _ => ?_
  by_cases hg : g.titleId = id
  · simp [hg, hid]
  · simp [hg]

/-- The update of a stored title to genres of which none is repeated. -/
theorem updateTitle_accepted (hlinks : GenresLinked s) (ho : o.fault = none) (ht : t ∈ s.titles)
    (hgenres : dto.genres = some names) (hres : GenresResolved s.genres gs names ids)
    (hids : ids.Nodup) :
    ∃ s', exec o (.catalog (.updateTitle t.id (updateOf dto (some ids)))) { s with genres := gs } =
        (.ok (dto.edit t), s') ∧ UpdatedExactly s s' t dto := by
  obtain ⟨links, hlinked⟩ := (connectGenres_iff (unlinked_ne s t.id)).mpr hids
  have hrows := Table.insertMany?_eq_some hlinked
  refine ⟨{ s with
    genres := gs
    titles := s.titles.update (fun u => u.id == t.id) (.apply (updateOf dto (some ids)))
      fun _ _ => rfl
    titleGenres := links }, ?_, ?_⟩
  · rw [exec_answer ho]
    show CatalogStmt.answer o (.updateTitle t.id (updateOf dto (some ids))) _ = _
    simp only [CatalogStmt.answer, titles_find? ht rfl, updateOf, hlinked]
    rfl
  · have hnames := genreNames_connected (s := { s with genres := gs, titleGenres := links })
      hrows (unlinked_ne s t.id) hres.ids
    exact
      { titles := rfl
        replaced := fun names' hnames' => by
          cases hgenres.symm.trans hnames'
          show (genreNames { s with genres := gs, titleGenres := links } t.id).Nodup ∧
            ∀ name, name ∈ genreNames { s with genres := gs, titleGenres := links } t.id ↔ _
          rw [hnames]
          exact ⟨hres.nodup_iff.mp hids, fun _ => Iff.rfl⟩
        kept := fun hnone => by rw [hgenres] at hnone; cases hnone
        others := fun id hid => genreNames_same hlinks hres.kept (filter_connected hid hlinked)
        known := hres.kept
        added := fun g hg => (hres.new g hg).imp_right fun hname => ⟨names, hgenres, hname⟩
        rest := rfl }

/-- The composite key refuses a repeated id. -/
theorem updateTitle_refused (hids : ¬ ids.Nodup) {title : Title} :
    (exec o (.catalog (.updateTitle t.id (updateOf dto (some ids)))) s).1 ≠ .ok title := by
  intro hok
  rw [exec_of_ok hok] at hok
  change (CatalogStmt.answer o (.updateTitle _ _) s).1 = _ at hok
  simp only [CatalogStmt.answer, updateOf] at hok
  split at hok
  · cases hok
  · split at hok
    · cases hok
    · rename_i links hlinked
      exact hids ((connectGenres_iff (unlinked_ne s t.id)).mp ⟨links, hlinked⟩)

/-- `updateTitle` after its guard. -/
def writeUpdate (titleId : String) (dto : UpdateTitleDto) : App Title := do
  let genreIds ← genreUpdate dto.genres
  stmt (.catalog (.updateTitle titleId (updateOf dto genreIds)))

theorem writeUpdate_none (hgenres : dto.genres = none) :
    writeUpdate id dto =
      Prog.perform (S := Sig) (.catalog (.updateTitle id (updateOf dto none))) := by
  rw [writeUpdate, hgenres]
  rfl

theorem writeUpdate_some (id : String) (h : NewIds os s) (hgenres : dto.genres = some names) :
    ∃ gs ids, GenresResolved s.genres gs names ids ∧ (writeUpdate id dto).run exec os s =
      Prog.run exec
        (Prog.perform (S := Sig) (.catalog (.updateTitle id (updateOf dto (some ids)))))
        (fun n => os (n + names.length)) { s with genres := gs } := by
  obtain ⟨gs, ids, hrun, hres⟩ := resolveGenres_run h names
  have hgenreIds : (genreUpdate (some names)).run exec os s =
      (.ok (some ids), { s with genres := gs }, fun n => os (n + names.length)) :=
    Prog.run_bind_ok hrun
  refine ⟨gs, ids, hres, ?_⟩
  rw [writeUpdate, hgenres]
  exact Prog.run_bind_ok hgenreIds

/-- An update the guard admits goes on to write. -/
theorem updateTitle_run (hfault : ∀ n, (os n).fault = none) (ht : t ∈ s.titles)
    (hguard : dto.published = some true → Playable s (.ofTitle t.type t.id)) :
    ∃ k, (updateTitle t.id dto).run exec os s =
      (writeUpdate t.id dto).run exec (fun n => os (n + k)) s := by
  have hfind : exec (os 0) (.catalog (.findTitle t.id)) s = (.ok (some t), s) := by
    rw [exec_answer (hfault 0)]
    show CatalogStmt.answer (os 0) (.findTitle t.id) s = _
    simp only [CatalogStmt.answer, titles_find? ht rfl]
    rfl
  by_cases hp : dto.published = some true
  · obtain ⟨k, hk⟩ := (canPublish_reads t.type).run_eq fun n => hfault (n + 1)
    refine ⟨k + 1, (Prog.run_perform_ok hfind).trans ?_⟩
    show Prog.run exec (if (dto.published == some true) = true then (_ : App Title) else _) _ s = _
    rw [if_pos (beq_iff_eq.mpr hp)]
    refine (Prog.run_bind_ok hk).trans ?_
    show Prog.run exec (if (!decide (Playable s (.ofTitle t.type t.id))) = true then
      (_ : App Title) else _) _ s = _
    rw [if_neg (by simp [hguard hp])]
    rfl
  · refine ⟨1, (Prog.run_perform_ok hfind).trans ?_⟩
    show Prog.run exec (if (dto.published == some true) = true then (_ : App Title) else _) _ s = _
    rw [if_neg (by simpa using hp)]
    rfl

/-- **An admitted update changes exactly what it is given when no genre is
repeated**, and fails otherwise. -/
theorem updatesExactly_iff (h : NewIds os s) (hlinks : GenresLinked s) (ht : t ∈ s.titles)
    (hguard : dto.published = some true → Playable s (.ofTitle t.type t.id)) :
    UpdatesExactly os s t dto ↔ ∀ names, dto.genres = some names → names.Nodup := by
  obtain ⟨k, hrun⟩ := updateTitle_run h.fault ht hguard
  have hlater := h.shift k
  rw [UpdatesExactly, Prog.runStore, hrun]
  cases hgenres : dto.genres with
  | none =>
      obtain ⟨s', hexec, hupdated⟩ := updateTitle_columns (hlater.fault 0) ht hgenres
      have hdone : (writeUpdate t.id dto).run exec (fun n => os (n + k)) s =
          (.ok (dto.edit t), s', fun n => os (n + 1 + k)) := by
        rw [writeUpdate_none hgenres]
        exact Prog.run_perform hexec
      rw [hdone]
      refine iff_of_true ⟨rfl, hupdated⟩ ?_
      intro names hnames
      cases hnames
  | some names =>
      obtain ⟨gs, ids, hres, hwrite⟩ := writeUpdate_some t.id hlater hgenres
      have hfault := (hlater.shift names.length).fault 0
      constructor
      · rintro ⟨hok, -⟩ names' hnames
        cases hnames
        by_contra hrepeated
        rw [hwrite] at hok
        exact updateTitle_refused (hres.nodup_iff.not.mpr hrepeated) hok
      · intro hnodup
        obtain ⟨s', hexec, hupdated⟩ := updateTitle_accepted hlinks hfault ht hgenres hres
          (hres.nodup_iff.mpr (hnodup names rfl))
        have hdone : (writeUpdate t.id dto).run exec (fun n => os (n + k)) s =
            (.ok (dto.edit t), s', fun n => os (n + 1 + names.length + k)) :=
          hwrite.trans (Prog.run_perform hexec)
        rw [hdone]
        exact ⟨rfl, hupdated⟩

end

/-! ## Both -/

/-- **Genres round-trip and edits are partial exactly as long as no name is
repeated**: for every title given to `createTitle`, and every update of a
stored title that the guard admits. -/
theorem genres_round_trip_iff {os : Nat → Ambient} {s : Store} (h : NewIds os s)
    (hlinks : GenresLinked s) :
    (∀ dto : CreateTitleDto, RoundTrips os s dto ↔ dto.genres.Nodup) ∧
      ∀ t ∈ s.titles, ∀ dto : UpdateTitleDto,
        (dto.published = some true → Playable s (.ofTitle t.type t.id)) →
        (UpdatesExactly os s t dto ↔ ∀ names, dto.genres = some names → names.Nodup) :=
  ⟨fun _ => roundTrips_iff h hlinks, fun _ ht _ hguard => updatesExactly_iff h hlinks ht hguard⟩

/-- An environment that generates a longer id with every statement. -/
def longerIds (n : Nat) : Ambient := (Ambient.quiet 0).generating (String.ofList (List.replicate n 'x'))

theorem longerIds_new : NewIds longerIds sampleDraft where
  fault _ := rfl
  distinct m n h := by
    have hlist := String.ofList_injective h
    simpa using congrArg List.length hlist
  genre _ g hg := nomatch hg
  title n t ht h := by
    obtain rfl : t = sampleTitle := List.mem_singleton.mp ht
    have hlist : "title-1".toList = List.replicate n 'x' := by
      rw [show "title-1" = _ from h]
      exact String.toList_ofList
    have hfirst : 't' ∈ List.replicate n 'x' := hlist ▸ List.mem_cons_self
    cases (List.mem_replicate.mp hfirst).2

theorem sampleDraft_linked : GenresLinked sampleDraft where
  title _ hg := nomatch hg
  genre _ hg := nomatch hg

/-- A draft that is to become a drama, and nothing else. -/
def toDrama : UpdateTitleDto where
  name := none
  description := none
  posterUrl := none
  genres := some ["Drama"]
  published := none

/-- A movie tagged with these genres. -/
def taggedMovie (genres : List String) : CreateTitleDto where
  type := .MOVIE
  name := "Nairobi"
  description := ""
  posterUrl := "https://posters/nairobi"
  genres := genres

theorem genres_round_trip_sample :
    RoundTrips longerIds sampleDraft (taggedMovie ["Drama", "Comedy"]) ∧
      UpdatesExactly longerIds sampleDraft sampleTitle toDrama := by
  obtain ⟨hcreate, hupdate⟩ := genres_round_trip_iff longerIds_new sampleDraft_linked
  refine ⟨(hcreate _).mpr (by decide), (hupdate sampleTitle List.mem_cons_self toDrama ?_).mpr ?_⟩
  · exact fun hp => nomatch hp
  · intro names hnames
    cases hnames
    decide

/-- A genre given twice: the title is not created. -/
theorem repeated_genre_is_refused :
    ¬ RoundTrips longerIds sampleDraft (taggedMovie ["Drama", "Drama"]) := by
  intro h
  exact absurd ((roundTrips_iff longerIds_new sampleDraft_linked).mp h) (by decide)

end StreamingService
