import StreamingService.Catalog.Library
import StreamingService.Catalog.Paging
import StreamingService.Lib.Turning

/-!
# Catalog — Browsing

Turning the pages of the title list while the catalog is at work. Each page is
a query of its own, so titles that are published between two of them move the
rest of the list. As long as no request takes a title off the list, a reader
who turns the pages until one is not full has seen every title that was listed
at the beginning, but for titles of one instant, whose order no query fixes.
-/

namespace StreamingService

open Lib

variable {cfg : AppConfig} {query : ListTitlesDto}

/-! ## Requests that take no title off the list -/

/-- The genre of the query; an empty one filters nothing. -/
def ListTitlesDto.wanted (query : ListTitlesDto) : Option String :=
  query.genre.filter fun genre => genre != ""

/-- What takes a title off the list: it is unpublished or, in the list of a genre,
given other genres. -/
def offList (query : ListTitlesDto) (published : Option Bool) (newGenres : Bool) : Bool :=
  published == some false || (query.wanted.isSome && newGenres)

def Request.withdraws (query : ListTitlesDto) : Request → Bool
  | .updateTitle _ _ dto => offList query dto.published dto.genres.isSome
  | _ => false

def Cmd.withdraws (query : ListTitlesDto) : Cmd → Bool
  | .catalog (.updateTitle _ data) => offList query data.published data.genreIds.isSome
  | _ => false

/-- No request is begun that takes a title off the list. -/
def growing (query : ListTitlesDto) (_ : AppState) : Action Ambient Request → Prop
  | .begin q => q.withdraws query = false
  | .step _ _ => True

instance (sys : AppState) : (act : Action Ambient Request) → Decidable (growing query sys act)
  | .begin q => inferInstanceAs (Decidable (q.withdraws query = false))
  | .step _ _ => inferInstanceAs (Decidable True)

/-- The statements of such requests do not either. -/
theorem EditStep.withdraws {h : List (Prog.Entry Sig)} {q : Request} {c : Cmd}
    (hstep : EditStep h q c) (hq : q.withdraws query = false) : c.withdraws query = false := by
  cases hstep with
  | quiet hc =>
      unfold Cmd.withdraws
      split
      · cases hc
      · rfl
  | @revise user titleId dto genreIds hids =>
      have hsome : genreIds.isSome = dto.genres.isSome := by
        generalize dto.genres = genres at hids ⊢
        cases hids <;> rfl
      show offList query dto.published genreIds.isSome = false
      rw [hsome]
      exact hq
  | create hids => rfl
  | addSeason => rfl
  | addChapter => rfl
  | reviseChapter => rfl

/-! ## What stays listed -/

section

variable {s s' : Store}

theorem genreNames_mono {id name : String} (hlinks : ∀ g ∈ s.titleGenres, g ∈ s'.titleGenres)
    (hgenres : ∀ g ∈ s.genres, g ∈ s'.genres) (h : name ∈ genreNames s id) :
    name ∈ genreNames s' id := by
  obtain ⟨link, hlink, hname⟩ := List.mem_filterMap.mp h
  obtain ⟨hmem, hid⟩ := Table.mem_filter.mp hlink
  obtain ⟨g, hfind, rfl⟩ := Option.map_eq_some_iff.mp hname
  obtain ⟨hg, hgid⟩ := Table.mem_of_find? hfind
  refine List.mem_filterMap.mpr ⟨link, Table.mem_filter.mpr ⟨hlinks link hmem, hid⟩, ?_⟩
  rw [genres_find? (hgenres g hg) (beq_iff_eq.mp hgid)]
  rfl

/-- The list after a statement, when published titles stay published and, in the
list of a genre, keep their genres. -/
theorem listed_added
    (htitles : ∀ t ∈ s.titles, t.published = true →
      ∃ t' ∈ s'.titles, t.SameAs t' ∧ t'.published = true)
    (hnames : query.wanted.isSome = true → ∀ id name, name ∈ genreNames s id →
      name ∈ genreNames s' id) :
    Added Title.id Title.createdAt (listed s query) (listed s' query) := by
  intro t ht
  obtain ⟨hmem, hsel⟩ := Table.mem_filter.mp ht
  simp only [isListed, Bool.and_eq_true] at hsel
  obtain ⟨⟨hpublished, htype⟩, hgenre⟩ := hsel
  obtain ⟨t', ht', hsame, hpublished'⟩ := htitles t hmem hpublished
  refine ⟨t', Table.mem_filter.mpr ⟨ht', ?_⟩, hsame.id, hsame.createdAt⟩
  simp only [isListed, Bool.and_eq_true]
  refine ⟨⟨hpublished', by rw [hsame.type]; exact htype⟩, ?_⟩
  change query.wanted.all _ = true at hgenre
  change query.wanted.all _ = true
  rw [hsame.id]
  cases hwanted : query.wanted with
  | none => rfl
  | some genre =>
      rw [hwanted] at hgenre hnames
      exact List.contains_iff_mem.mpr (hnames rfl t.id genre (List.contains_iff_mem.mp hgenre))

/-- Published titles stay published under an update that unpublishes none. -/
theorem update_published {id : String} {data : TitleUpdate} (hdata : data.published ≠ some false)
    {t : Title} (ht : t ∈ s.titles) (hpublished : t.published = true) :
    ∃ t' ∈ s.titles.update (fun t => t.id == id) (.apply data) (fun _ _ => rfl),
      t.SameAs t' ∧ t'.published = true := by
  refine ⟨_, List.mem_map.mpr ⟨t, ht, rfl⟩, ?_⟩
  split
  · refine ⟨⟨rfl, rfl, rfl⟩, ?_⟩
    show data.published.getD t.published = true
    cases hshown : data.published with
    | none => exact hpublished
    | some shown =>
        cases shown with
        | true => rfl
        | false => exact absurd hshown hdata
  · exact ⟨.refl t, hpublished⟩

theorem createTitle_added (o : Ambient) (s : Store) (type : TitleType)
    (name description posterUrl : String) (genreIds : List String) :
    Added Title.id Title.createdAt (listed s query) (listed
      (CatalogStmt.answer o (.createTitle type name description posterUrl genreIds) s).2 query) := by
  simp only [CatalogStmt.answer]
  split
  · exact .refl _
  · rename_i ts hins
    split
    · exact .refl _
    · rename_i links hlinked
      refine listed_added (fun t ht hpublished => ?_) fun _ id name =>
        genreNames_mono (fun g hg => ?_) fun g hg => hg
      · exact ⟨t, (Table.mem_insert? hins).mpr (.inl ht), .refl t, hpublished⟩
      · show g ∈ links.rows
        rw [Table.insertMany?_eq_some hlinked]
        exact List.mem_append_left _ hg

theorem updateTitle_added (o : Ambient) (s : Store) (id : String) {data : TitleUpdate}
    (hc : offList query data.published data.genreIds.isSome = false) :
    Added Title.id Title.createdAt (listed s query)
      (listed (CatalogStmt.answer o (.updateTitle id data) s).2 query) := by
  obtain ⟨hshown, hgenres⟩ : data.published ≠ some false ∧
      (query.wanted.isSome = true → data.genreIds = none) := by
    simpa [offList] using hc
  simp only [CatalogStmt.answer]
  split
  · exact .refl _
  · split
    · exact listed_added (fun t => update_published hshown) fun _ _ _ hname => hname
    · rename_i ids hids
      split
      · exact .refl _
      · -- the genres change, so the list is not one of a genre
        refine listed_added (fun t => update_published hshown) fun hwanted => ?_
        cases (hgenres hwanted).symm.trans hids

theorem upsertGenre_added (o : Ambient) (s : Store) (name : String) :
    Added Title.id Title.createdAt (listed s query)
      (listed (CatalogStmt.answer o (.upsertGenre name) s).2 query) := by
  simp only [CatalogStmt.answer]
  split
  · exact .refl _
  · split
    · exact .refl _
    · rename_i gs hins
      refine listed_added (fun t ht hpublished => ⟨t, ht, .refl t, hpublished⟩) fun _ id name =>
        genreNames_mono (fun g hg => hg) fun g hg => ?_
      exact (Table.mem_insert? hins).mpr (.inl hg)

/-- **One statement** leaves every title listed. -/
theorem exec_added (o : Ambient) {c : Cmd} (s : Store) (hc : c.withdraws query = false) :
    Added Title.id Title.createdAt (listed s query) (listed (exec o c s).2 query) := by
  have frame := exec_frame o s c
  have beside := genres_beside o c s
  cases c with
  | catalog c =>
      refine exec_cases (P := fun out =>
        Added Title.id Title.createdAt (listed s query) (listed out.2 query))
        (fun _ => .refl _) ?_
      simp only [answer]
      cases c with
      | createTitle type name description posterUrl genreIds =>
          exact createTitle_added o s type name description posterUrl genreIds
      | updateTitle id data => exact updateTitle_added o s id hc
      | upsertGenre name => exact upsertGenre_added o s name
      | createSeason titleId number =>
          simp only [CatalogStmt.answer]
          split
          · exact .refl _
          · split <;> exact .refl _
      | createEpisode seasonId number name description =>
          simp only [CatalogStmt.answer]
          split
          · exact .refl _
          · split <;> exact .refl _
      | updateEpisode id data =>
          simp only [CatalogStmt.answer]
          split <;> exact .refl _
      | _ => exact .refl _
  | _ =>
      obtain ⟨htitles, -, -⟩ := frame.catalog (by simp)
      obtain ⟨hgenres, hlinks⟩ := beside (by simp)
      refine listed_added (fun t ht hpublished => ⟨t, htitles ▸ ht, .refl t, hpublished⟩)
        fun _ id name => genreNames_mono (fun g hg => hlinks ▸ hg) fun g hg => hgenres ▸ hg

end

/-- **A run** leaves every title listed. -/
theorem added_run {s : Store} {a b : AppState}
    (ha : (app cfg).Run (growing query) (Machine.start s) a)
    (hr : (app cfg).Run (growing query) a b) :
    Added Title.id Title.createdAt (listed a.store query) (listed b.store query) := by
  induction hr with
  | refl => exact .refl _
  | @step b c act hr hok hn ih =>
      refine ih.trans ?_
      rcases (app cfg).next_cases hn with ⟨q, rfl, rfl⟩ | ⟨tid, o, q, c, k, rfl, hth, rfl⟩
      · exact .refl _
      · have hrun := ha.trans hr
        have hbegan := (Machine.Run.emits (fun q => edit_steps cfg q) hrun).began tid _ hth
        have hq : q.withdraws query = false :=
          Machine.Run.began_of_ok (J := fun q => q.withdraws query = false) (fun _ _ hok => hok)
            hrun hbegan
        have hstep := Machine.Run.owes (fun q => edit_steps cfg q) hrun hth (exec o c b.store).1
        exact exec_added o b.store (hstep.withdraws hq)

/-! ## What a page shows -/

/-- A page that is answered shows the rows of its query. -/
def ShowsRows (q : Request) (r : Except Exception Reply) (h : List (Prog.Entry Sig)) : Prop :=
  match q, r with
  | .titles query, .ok (.titles answer) => ∃ rows : List (Title × List String),
      (⟨.catalog (.findPublishedTitles query.type query.wanted
        ((query.page.getD 1 - 1) * query.size) query.size), .ok rows⟩ : Prog.Entry Sig) ∈ h ∧
      answer.items = rows.map titleItem
  | _, _ => True

theorem page_steps (cfg : AppConfig) (q : Request) :
    (handle cfg q).Emits (fun _ _ => True) (ShowsRows q) [] := by
  cases q with
  | titles query =>
      apply Prog.Emits.call_cases (fun _ => trivial)
      · intro e
        trivial
      intro rows
      apply Prog.Emits.call_cases (fun _ => trivial)
      · intro e
        trivial
      intro total
      exact ⟨rows, List.mem_cons_of_mem _ List.mem_cons_self, rfl⟩
  | _ => exact (Prog.Emits.always _ _).mono (fun _ _ _ => trivial) fun _ _ _ => trivial

/-- A page that is asked for after `a` and answered by `b` is a page of the list at a
point between them. -/
theorem page_read {s : Store} {a b : AppState}
    (ha : (app cfg).Run (growing query) (Machine.start s) a)
    (hr : (app cfg).Run (growing query) a b) {i tid : Nat} {answer : CatalogService.TitlePage}
    (hnew : a.threads.length ≤ tid)
    (hth : b.threads[tid]? =
      some ⟨.titles (query.atPage i), .done (.ok (.titles answer))⟩) :
    ∃ (c : AppState) (tie : String → Int),
      (app cfg).Run (growing query) a c ∧ (app cfg).Run (growing query) c b ∧
        answer.items = (page query.size i (arranged c.store query tie)).map (itemOf c.store) := by
  obtain ⟨rows, hread, hitems⟩ :=
    (Machine.Run.emits (fun q => page_steps cfg q) (ha.trans hr)).emits tid _ hth
  have hfresh := ((Machine.Run.emits (fun q => page_steps cfg q) ha).fresh tid hnew).1
  obtain ⟨c, o, cmd, hac, he, hcb⟩ := hr.did_since (mem_own.mp hread) fun hdid => by
    have hown := mem_own.mpr hdid
    rw [hfresh] at hown
    cases hown
  obtain ⟨rfl, heq⟩ := Sigma.mk.inj_iff.mp he
  have hexec : (exec o (.catalog (.findPublishedTitles query.type query.wanted (i * query.size)
      query.size)) c.store).1 = .ok rows := (eq_of_heq heq).symm
  rw [exec_of_ok hexec] at hexec
  refine ⟨c, o.tie, hac, hcb, ?_⟩
  rw [hitems, ← Except.ok.inj hexec, List.map_map]
  rfl

/-- What a page shows, by the titles on it. -/
theorem mem_items {items : List CatalogService.TitleItem} {s : Store} {titles : List Title}
    {id : String} (hitems : items = titles.map (itemOf s)) :
    (∃ item ∈ items, item.id = id) ↔ ∃ t ∈ titles, t.id = id := by
  rw [hitems]
  constructor
  · rintro ⟨item, hitem, hid⟩
    obtain ⟨t, ht, rfl⟩ := List.mem_map.mp hitem
    exact ⟨t, ht, hid⟩
  · rintro ⟨t, ht, hid⟩
    exact ⟨itemOf s t, List.mem_map_of_mem ht, hid⟩

theorem listed_ids_nodup (s : Store) (query : ListTitlesDto) :
    ((listed s query).map Title.id).Nodup :=
  List.Nodup.map_on (fun _ ha _ hb hid => listed_eq_of_id ha hb hid) (listed_nodup s query)

/-! ## The guarantee -/

/-- A reader turns the pages `0` to `P`: page `i` is asked for after `states i` and
answered by `states (i + 1)`, and meanwhile no title is taken off the list. -/
structure Browses (cfg : AppConfig) (query : ListTitlesDto) (P : Nat) (states : Nat → AppState)
    (answers : Nat → CatalogService.TitlePage) : Prop where
  runs : ∀ i ≤ P, (app cfg).Run (growing query) (states i) (states (i + 1))
  reads : ∀ i ≤ P, ∃ tid, (states i).threads.length ≤ tid ∧ (states (i + 1)).threads[tid]? =
    some ⟨.titles (query.atPage i), .done (.ok (.titles (answers i)))⟩

/-- The list each page was cut from. -/
theorem Browses.lists {P : Nat} {states : Nat → AppState}
    {answers : Nat → CatalogService.TitlePage} {s : Store} (h : Browses cfg query P states answers)
    (hstart : (app cfg).Run (growing query) (Machine.start s) (states 0)) :
    ∃ (store : Nat → Store) (tie : Nat → String → Int),
      (∀ i ≤ P, Added Title.id Title.createdAt (listed (states i).store query)
          (listed (store i) query) ∧
        Added Title.id Title.createdAt (listed (store i) query)
          (listed (states (i + 1)).store query)) ∧
      ∀ i ≤ P, (answers i).items =
        (page query.size i (arranged (store i) query (tie i))).map (itemOf (store i)) := by
  have reached : ∀ i ≤ P, (app cfg).Run (growing query) (Machine.start s) (states i) := by
    intro i
    induction i with
    | zero => exact fun _ => hstart
    | succ i ih => exact fun hi => (ih (by omega)).trans (h.runs i (by omega))
  have reading : ∀ i, ∃ (c : AppState) (tie : String → Int), i ≤ P →
      Added Title.id Title.createdAt (listed (states i).store query) (listed c.store query) ∧
      Added Title.id Title.createdAt (listed c.store query)
        (listed (states (i + 1)).store query) ∧
      (answers i).items = (page query.size i (arranged c.store query tie)).map (itemOf c.store) := by
    intro i
    by_cases hi : i ≤ P
    · obtain ⟨tid, hnew, hth⟩ := h.reads i hi
      obtain ⟨c, tie, hac, hcb, hitems⟩ := page_read (reached i hi) (h.runs i hi) hnew hth
      exact ⟨c, tie, fun _ => ⟨added_run (reached i hi) hac,
        added_run ((reached i hi).trans hac) hcb, hitems⟩⟩
    · exact ⟨states i, fun _ => 0, fun hle => absurd hle hi⟩
  choose c tie hread using reading
  exact ⟨fun i => (c i).store, tie, fun i hi => ⟨(hread i hi).1, (hread i hi).2.1⟩,
    fun i hi => (hread i hi).2.2⟩

/-- **Browsing a growing catalog misses no title**: a title that is listed when the
reader begins, and that shares its `createdAt` with no other, is on one of the
pages turned when the last of them is not full; and it is on two of them only
where newer titles have been listed meanwhile. -/
theorem browsing_misses_nothing {cfg : AppConfig} {query : ListTitlesDto} {s : Store} {P : Nat}
    {states : Nat → AppState} {answers : Nat → CatalogService.TitlePage}
    (hstart : (app cfg).Run (growing query) (Machine.start s) (states 0))
    (h : Browses cfg query P states answers) {x : Title}
    (hx : x ∈ listed (states 0).store query)
    (halone : AloneAt Title.id Title.createdAt (listed (states (P + 1)).store query) x) :
    ((answers P).items.length < query.size →
      ∃ i ≤ P, ∃ item ∈ (answers i).items, item.id = x.id) ∧
    ∀ i j, i < j → j ≤ P → (∃ item ∈ (answers i).items, item.id = x.id) →
      (∃ item ∈ (answers j).items, item.id = x.id) →
      newer Title.createdAt (listed (states i).store query) x <
        newer Title.createdAt (listed (states (j + 1)).store query) x := by
  obtain ⟨store, tie, hadded, hitems⟩ := h.lists hstart
  have hadd : ∀ i < P, Added Title.id Title.createdAt (listed (store i) query)
      (listed (store (i + 1)) query) := fun i hi =>
    (hadded i (Nat.le_of_lt hi)).2.trans (hadded (i + 1) hi).1
  have hdistinct : ∀ i ≤ P, ((listed (store i) query).map Title.id).Nodup :=
    fun i _ => listed_ids_nodup (store i) query
  have harranges : ∀ i ≤ P, Arranges Title.createdAt (listed (store i) query)
      (arranged (store i) query (tie i)) := fun i _ => arranged_arranges _ _ _
  have hfirst : ∃ y ∈ listed (store 0) query, y.id = x.id ∧ y.createdAt = x.createdAt :=
    (hadded 0 (Nat.zero_le P)).1.still ⟨x, hx, rfl, rfl⟩
  have hlone := (hadded P (Nat.le_refl P)).2.alone halone
  constructor
  · intro hlast
    rw [hitems P (Nat.le_refl P), List.length_map] at hlast
    obtain ⟨i, hi, hmet⟩ := exists_turned hadd hdistinct harranges hfirst hlone query.size_pos hlast
    exact ⟨i, hi, (mem_items (hitems i hi)).mpr hmet⟩
  · intro i j hij hj hshown hagain
    have hi : i ≤ P := Nat.le_trans (Nat.le_of_lt hij) hj
    have hlt := newer_lt_of_turned hadd hdistinct harranges hfirst hlone query.size_pos hij hj
      ((mem_items (hitems i hi)).mp hshown) ((mem_items (hitems j hj)).mp hagain)
    have hbefore := (hadded i hi).1.newer_le (listed_ids_nodup _ _) x
    have hafter := (hadded j hj).2.newer_le (listed_ids_nodup _ _) x
    omega

/-- Two published movies, and a third that only waits to be published. -/
def sampleShelf : Store :=
  { Store.empty with
    titles := ⟨[⟨"t-1", .MOVIE, "First", "", "", true, 0⟩, ⟨"t-2", .MOVIE, "Second", "", "", true, 1⟩,
      ⟨"t-3", .MOVIE, "Third", "", "", false, 2⟩], by decide⟩
    mediaAssets := ⟨[⟨"full-3", .TITLE, "t-3", .FULL, .READY, "source",
      some "hls/full-3/master.m3u8", none⟩], by decide⟩ }

/-- The title list, two entries a page. -/
def twoAPage : ListTitlesDto :=
  { oneAPage with
    pageSize := some 2
    pageSize_min := by
      rintro n ⟨⟩
      exact Nat.le_of_ble_eq_true rfl
    pageSize_max := by
      rintro n ⟨⟩
      exact Nat.le_of_ble_eq_true rfl }

deriving instance DecidableEq for ListTitlesDto

/-- The page a thread was answered, and its query. -/
def answeredPage (b : AppState) (tid : Nat) : Option (ListTitlesDto × CatalogService.TitlePage) :=
  match b.threads[tid]? with
  | some ⟨.titles query, .done (.ok (.titles answer))⟩ => some (query, answer)
  | _ => none

theorem answeredPage_thread {b : AppState} {tid : Nat} {query : ListTitlesDto}
    (h : (answeredPage b tid).any (fun answered => answered.1 == query) = true) : ∃ answer,
      answeredPage b tid = some (query, answer) ∧
        b.threads[tid]? = some ⟨.titles query, .done (.ok (.titles answer))⟩ := by
  obtain ⟨⟨query', answer⟩, hanswer, heq⟩ := (Option.any_eq_true _ _).mp h
  cases beq_iff_eq.mp heq
  refine ⟨answer, hanswer, ?_⟩
  unfold answeredPage at hanswer
  split at hanswer
  · rename_i hth
    cases hanswer
    exact hth
  · cases hanswer

/-- The title a browsing of the sample is about. -/
def sampleMet : Title := ⟨"t-1", .MOVIE, "First", "", "", true, 0⟩

/-- The title is among the items the thread was answered. -/
def onAnsweredPage (b : AppState) (tid : Nat) (id : String) : Bool :=
  (answeredPage b tid).all fun answered => answered.2.items.any fun item => item.id == id

theorem onAnsweredPage_iff {b : AppState} {tid : Nat} {query : ListTitlesDto}
    {answer : CatalogService.TitlePage} {id : String}
    (h : answeredPage b tid = some (query, answer)) :
    onAnsweredPage b tid id = true ↔ ∃ item ∈ answer.items, item.id = id := by
  simp [onAnsweredPage, h]

/-- The third movie is published between two pages: the first movie is on both. -/
theorem browsing_misses_nothing_sample :
    ∃ (states : Nat → AppState) (answers : Nat → CatalogService.TitlePage),
      Browses sampleConfig twoAPage 1 states answers ∧
      (∃ i ≤ 1, ∃ item ∈ (answers i).items, item.id = sampleMet.id) ∧
      newer Title.createdAt (listed (states 0).store twoAPage) sampleMet <
        newer Title.createdAt (listed (states 2).store twoAPage) sampleMet := by
  obtain ⟨a, b, ha, hb, hp⟩ := Machine.exists_runs_of_replay (m := app sampleConfig)
    (s := Machine.start sampleShelf) (growing twoAPage)
    [.begin (.titles (twoAPage.atPage 0)), .step 0 (.quiet 3), .step 0 (.quiet 4)]
    [.begin (.updateTitle (some sampleAdmin) "t-3" ⟨none, none, none, none, some true⟩),
      .step 1 (.quiet 5), .step 1 (.quiet 6), .step 1 (.quiet 7),
      .begin (.titles (twoAPage.atPage 1)), .step 2 (.quiet 8), .step 2 (.quiet 9)]
    (fun a b => (answeredPage a 0).any (fun answered => answered.1 == twoAPage.atPage 0) &&
      (answeredPage b 2).any (fun answered => answered.1 == twoAPage.atPage 1) &&
      (answeredPage b 2).all (fun answered => answered.2.items.length < twoAPage.size) &&
      onAnsweredPage a 0 sampleMet.id && onAnsweredPage b 2 sampleMet.id &&
      decide (a.threads.length ≤ 2) &&
      (listed b.store twoAPage).all fun y => y.createdAt != 0 || y.id == sampleMet.id)
    (by decide +kernel)
  simp only [Bool.and_eq_true, decide_eq_true_eq] at hp
  obtain ⟨⟨⟨⟨⟨⟨hfirst, hsecond⟩, hshort⟩, hon⟩, hon'⟩, hthreads⟩, halone⟩ := hp
  obtain ⟨first, hanswer, hth⟩ := answeredPage_thread hfirst
  obtain ⟨second, hanswer', hth'⟩ := answeredPage_thread hsecond
  have hlast : second.items.length < twoAPage.size := by
    rw [hanswer'] at hshort
    exact of_decide_eq_true hshort
  let states : Nat → AppState
    | 0 => Machine.start sampleShelf
    | 1 => a
    | _ => b
  let answers : Nat → CatalogService.TitlePage
    | 0 => first
    | _ => second
  have hbrowses : Browses sampleConfig twoAPage 1 states answers := by
    constructor
    · intro i hi
      match i, hi with
      | 0, _ => exact ha
      | 1, _ => exact hb
    · intro i hi
      match i, hi with
      | 0, _ => exact ⟨0, Nat.le_refl 0, hth⟩
      | 1, _ => exact ⟨2, hthreads, hth'⟩
  have hx : sampleMet ∈ listed sampleShelf twoAPage := by decide +kernel
  have hlone : AloneAt Title.id Title.createdAt (listed (states 2).store twoAPage) sampleMet := by
    intro y hy hkey
    have hcheck := List.all_eq_true.mp halone y hy
    simpa [show y.createdAt = 0 from hkey] using hcheck
  obtain ⟨hmet, hagain⟩ := browsing_misses_nothing .refl hbrowses hx hlone
  exact ⟨states, answers, hbrowses, hmet hlast,
    hagain 0 1 (by omega) (by omega) ((onAnsweredPage_iff hanswer).mp hon)
      ((onAnsweredPage_iff hanswer').mp hon')⟩

end StreamingService
