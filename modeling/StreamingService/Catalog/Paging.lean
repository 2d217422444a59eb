import StreamingService.Catalog.Drafts
import StreamingService.Lib.Paging

/-!
# Catalog — Paging

Paging through the title list. The list is ordered by `createdAt` alone, so
each page is cut out of an order of its own among titles of one instant. A
title at a page boundary can then be shown twice or not at all; without one
the pages show every listed title once.
-/

namespace StreamingService

open Lib

/-! ## The page queries -/

/-- The `pageSize` of the query, with its default. -/
def ListTitlesDto.size (query : ListTitlesDto) : Nat := query.pageSize.getD 20

theorem ListTitlesDto.size_pos (query : ListTitlesDto) : 0 < query.size := by
  unfold ListTitlesDto.size
  cases hsize : query.pageSize with
  | none => decide
  | some n => exact query.pageSize_min n hsize

/-- The query for the page of index `i`, counted from 0. -/
def ListTitlesDto.atPage (query : ListTitlesDto) (i : Nat) : ListTitlesDto :=
  { query with
    page := some (i + 1)
    page_min := by
      rintro n ⟨⟩
      omega }

/-- The titles the query's filters select. -/
def listed (s : Store) (query : ListTitlesDto) : List Title :=
  s.titles.filter (isListed s query.type (query.genre.filter fun genre => genre != ""))

/-- `ceil(total / pageSize)`. -/
def pageCount (s : Store) (query : ListTitlesDto) : Nat :=
  ((listed s query).length + query.size - 1) / query.size

/-- The order one query sees. -/
def arranged (s : Store) (query : ListTitlesDto) (tie : String → Int) : List Title :=
  (listed s query).insertionSort fun a b => newerFirst tie a b = true

/-- The entry of a listed title. -/
def itemOf (s : Store) (t : Title) : CatalogService.TitleItem := titleItem (t, genreNames s t.id)

section

variable {s : Store} {query : ListTitlesDto} {tie : String → Int}

theorem newerFirst_iff {a b : Title} :
    newerFirst tie a b = true ↔ b.createdAt < a.createdAt ∨
      (a.createdAt = b.createdAt ∧ tie a.id ≤ tie b.id) := by
  simp [newerFirst]

/-- Newest first, then by the tie: every two are comparable. -/
theorem newer_total (a b p q : Int) :
    (b < a ∨ (a = b ∧ p ≤ q)) ∨ (a < b ∨ (b = a ∧ q ≤ p)) := by
  omega

theorem newer_trans {a b c p q r : Int} (hab : b < a ∨ (a = b ∧ p ≤ q))
    (hbc : c < b ∨ (b = c ∧ q ≤ r)) : c < a ∨ (a = c ∧ p ≤ r) := by
  omega

theorem arranged_sorted (s : Store) (query : ListTitlesDto) (tie : String → Int) :
    (arranged s query tie).Pairwise fun a b => newerFirst tie a b = true := by
  have : Std.Total fun a b : Title => newerFirst tie a b = true := ⟨fun a b => by
    simp only [newerFirst_iff]
    exact newer_total _ _ _ _⟩
  have : IsTrans Title fun a b => newerFirst tie a b = true := ⟨fun a b c => by
    simp only [newerFirst_iff]
    exact newer_trans⟩
  exact List.pairwise_insertionSort _ _

theorem arranged_arranges (s : Store) (query : ListTitlesDto) (tie : String → Int) :
    Arranges Title.createdAt (listed s query) (arranged s query tie) where
  perm := List.perm_insertionSort _ _
  sorted := (arranged_sorted s query tie).imp fun {a b} hab => by
    rcases newerFirst_iff.mp hab with hlt | ⟨heq, -⟩
    · exact Int.le_of_lt hlt
    · exact Int.le_of_eq heq.symm

/-- What a page query answers. -/
theorem listTitles_run (i : Nat) {os : Nat → Ambient} (hos : ∀ n, (os n).fault = none) :
    ((CatalogService.listTitles (query.atPage i)).run exec os s).1 = .ok
      { items := (page query.size i (arranged s query (os 0).tie)).map (itemOf s)
        page := i + 1
        pageSize := query.size
        total := (listed s query).length } := by
  have hrows : exec (os 0) (.catalog (.findPublishedTitles (query.atPage i).type
      ((query.atPage i).genre.filter fun genre => genre != "")
      (((query.atPage i).page.getD 1 - 1) * (query.atPage i).pageSize.getD 20)
      ((query.atPage i).pageSize.getD 20))) s =
        (.ok ((page query.size i (arranged s query (os 0).tie)).map fun t =>
          (t, genreNames s t.id)), s) := by
    rw [exec_answer (hos 0)]
    rfl
  have hcount : exec (os 1) (.catalog (.countPublishedTitles (query.atPage i).type
      ((query.atPage i).genre.filter fun genre => genre != ""))) s =
        (.ok (listed s query).length, s) := by
    rw [exec_answer (hos 1)]
    rfl
  show ((_ : App CatalogService.TitlePage).run exec (fun n => os (n + 1)) _).1 = _
  rw [hrows]
  show ((_ : App CatalogService.TitlePage).run exec (fun n => os (n + 1 + 1)) _).1 = _
  rw [hcount]
  simp only [List.map_map]
  rfl

/-! ## One title at a page boundary -/

theorem listed_nodup (s : Store) (query : ListTitlesDto) : (listed s query).Nodup := by
  have hrows : s.titles.rows.Nodup := (Table.distinct_iff.mp s.titles.unique).imp fun {a b} hab heq => by
    rw [heq, Indexed.clash_self] at hab
    cases hab
  exact hrows.filter _

theorem listed_eq_of_id {a b : Title} (ha : a ∈ listed s query) (hb : b ∈ listed s query)
    (h : a.id = b.id) : a = b :=
  Table.eq_of_clash (Table.mem_filter.mp ha).1 (Table.mem_filter.mp hb).1 (by simp [Indexed.clash, h])

/-- The title comes before the others of its instant. -/
def firstTie (x : Title) (id : String) : Int := if id = x.id then 0 else 1

/-- The title comes after the others of its instant. -/
def lastTie (x : Title) (id : String) : Int := if id = x.id then 1 else 0

/-- Where a listed title stands in the order of a query, and who stands before and
after it. -/
theorem arranged_split (tie : String → Int) {x : Title} (hx : x ∈ listed s query) :
    ∃ m, (arranged s query tie)[m]? = some x ∧
      (∀ a ∈ (arranged s query tie).take m, a.id ≠ x.id ∧ newerFirst tie a x = true) ∧
      ∀ b ∈ (arranged s query tie).drop (m + 1), b.id ≠ x.id ∧ newerFirst tie x b = true := by
  have harr := arranged_arranges s query tie
  obtain ⟨m, hm⟩ := List.mem_iff_getElem?.mp (harr.perm.mem_iff.mpr hx)
  have hsplit := (split_at_getElem? hm).1
  have hnodup := harr.perm.nodup_iff.mpr (listed_nodup s query)
  have hsorted := arranged_sorted s query tie
  have hmem : ∀ a ∈ arranged s query tie, a.id = x.id → a = x := fun a ha hid =>
    listed_eq_of_id (harr.perm.mem_iff.mp ha) hx hid
  rw [hsplit, List.nodup_append] at hnodup
  rw [hsplit, List.pairwise_append] at hsorted
  refine ⟨m, hm, fun a ha => ⟨fun hid => ?_, ?_⟩, fun b hb => ⟨fun hid => ?_, ?_⟩⟩
  · rw [hmem a (List.mem_of_mem_take ha) hid] at ha
    exact hnodup.2.2 x ha x List.mem_cons_self rfl
  · exact hsorted.2.2 a ha x List.mem_cons_self
  · rw [hmem b (List.mem_of_mem_drop hb) hid] at hb
    exact (List.nodup_cons.mp hnodup.2.1).1 hb
  · exact (List.pairwise_cons.mp hsorted.2.1).1 b hb

theorem mem_first_page {x : Title} (hx : x ∈ listed s query) :
    x ∈ page query.size (newer Title.createdAt (listed s query) x / query.size)
      (arranged s query (firstTie x)) := by
  obtain ⟨m, hm, hbefore, -⟩ := arranged_split (firstTie x) hx
  have hfirst := (arranged_arranges s query (firstTie x)).position_first hm fun a ha heq => by
    obtain ⟨hid, hnewer⟩ := hbefore a ha
    rw [newerFirst_iff] at hnewer
    simp [heq, firstTie, hid] at hnewer
  rw [mem_page_iff query.size_pos, hfirst]
  exact ⟨m, hm, rfl⟩

theorem mem_last_page {x : Title} (hx : x ∈ listed s query) :
    x ∈ page query.size ((notOlder Title.createdAt (listed s query) x - 1) / query.size)
      (arranged s query (lastTie x)) := by
  obtain ⟨m, hm, -, hafter⟩ := arranged_split (lastTie x) hx
  have hlast := (arranged_arranges s query (lastTie x)).position_last hm fun b hb heq => by
    obtain ⟨hid, hnewer⟩ := hafter b hb
    rw [newerFirst_iff] at hnewer
    simp [heq, lastTie, hid] at hnewer
  rw [mem_page_iff query.size_pos, hlast]
  exact ⟨m, hm, rfl⟩

/-! ## The guarantee -/

end

/-- **Paging shows every listed title once**, whatever order each query sees among
titles of one instant: the pages up to the last list them newest first, and later
pages are empty. -/
def PagesOnce (s : Store) (query : ListTitlesDto) : Prop :=
  ∀ envs : Nat → Nat → Ambient, (∀ i n, (envs i n).fault = none) →
    ∃ answers : Nat → CatalogService.TitlePage,
      (∀ i, ((CatalogService.listTitles (query.atPage i)).run exec (envs i) s).1 = .ok (answers i)) ∧
      (∀ i, (answers i).total = (listed s query).length) ∧
      (∃ titles, Arranges Title.createdAt (listed s query) titles ∧
        ((List.range (pageCount s query)).flatMap fun i => (answers i).items) =
          titles.map (itemOf s)) ∧
      ∀ i, pageCount s query ≤ i → (answers i).items = []

/-- The pages of the answers are pages of the orders the queries saw. -/
theorem items_eq (s : Store) (query : ListTitlesDto) (ties : Nat → String → Int) :
    ((List.range (pageCount s query)).flatMap fun i =>
      (page query.size i (arranged s query (ties i))).map (itemOf s)) =
        (pages query.size (pageCount s query) fun i => arranged s query (ties i)).map (itemOf s) := by
  rw [pages, List.map_flatMap]

theorem length_le_pageCount (s : Store) (query : ListTitlesDto) :
    (listed s query).length ≤ pageCount s query * query.size := by
  have hdiv := Nat.div_add_mod ((listed s query).length + query.size - 1) query.size
  have hmod := Nat.mod_lt ((listed s query).length + query.size - 1) query.size_pos
  rw [pageCount, Nat.mul_comm]
  omega

/-- The page of a position of the list is one of them. -/
theorem div_lt_pageCount {s : Store} {query : ListTitlesDto} {m : Nat}
    (hm : m < (listed s query).length) : m / query.size < pageCount s query := by
  refine Nat.div_lt_of_lt_mul ?_
  rw [Nat.mul_comm]
  exact Nat.lt_of_lt_of_le hm (length_le_pageCount s query)

/-- No instant is split: the pages are as they should be. -/
theorem pagesOnce_of_onOnePage {s : Store} {query : ListTitlesDto}
    (hone : OnOnePage Title.createdAt query.size (listed s query)) : PagesOnce s query := by
  intro envs hos
  have harr := fun i => arranged_arranges s query (envs i 0).tie
  refine ⟨_, fun i => listTitles_run i (hos i), fun _ => rfl, ⟨_, ?_, items_eq s query _⟩, ?_⟩
  · exact pages_arranges query.size_pos (listed_nodup s query) hone harr (length_le_pageCount s query)
  · intro i hi
    have hend : (listed s query).length ≤ i * query.size :=
      Nat.le_trans (length_le_pageCount s query) (Nat.mul_le_mul_right _ hi)
    show (page query.size i _).map (itemOf s) = []
    rw [page_eq_nil (harr i) hend]
    rfl

/-- An instant is split: two queries show one of its titles twice. -/
theorem onOnePage_of_pagesOnce {s : Store} {query : ListTitlesDto} (h : PagesOnce s query) :
    OnOnePage Title.createdAt query.size (listed s query) := by
  intro x hx
  by_contra hne
  -- the query of the first page sees `x` first of its instant, every other sees it last
  let tie (i : Nat) : String → Int :=
    if i = newer Title.createdAt (listed s query) x / query.size then firstTie x else lastTie x
  obtain ⟨answers, hanswers, -, ⟨titles, harr, hitems⟩, -⟩ :=
    h (fun i _ => { Ambient.quiet 0 with tie := tie i }) fun _ _ => rfl
  have hshown : (pages query.size (pageCount s query) fun i => arranged s query (tie i)).map
      (itemOf s) = titles.map (itemOf s) := by
    rw [← hitems, ← items_eq]
    refine congrArg List.flatten (List.map_congr_left fun i _ => ?_)
    rw [Except.ok.inj ((hanswers i).symm.trans (listTitles_run i fun _ => rfl))]
  have hids : (titles.map (itemOf s)).Nodup := by
    refine List.Nodup.of_map CatalogService.TitleItem.id ?_
    rw [List.map_map]
    refine List.Nodup.map_on (fun a ha b hb hid => ?_)
      (harr.perm.nodup_iff.mpr (listed_nodup s query))
    exact listed_eq_of_id (harr.perm.mem_iff.mp ha) (harr.perm.mem_iff.mp hb) hid
  rw [← hshown] at hids
  refine not_nodup_pages (x := x) hne (div_lt_pageCount (newer_lt_length hx)) (div_lt_pageCount ?_)
    ?_ ?_ (List.Nodup.of_map _ hids)
  · have hle : notOlder Title.createdAt (listed s query) x ≤ (listed s query).length :=
      List.countP_le_length
    have hpos := List.length_pos_of_mem hx
    omega
  · simp only [tie, if_pos]
    exact mem_first_page hx
  · simp only [tie, if_neg (Ne.symm hne)]
    exact mem_last_page hx

/-- **Paging shows every listed title once exactly when no page boundary falls
between titles of one instant.** -/
theorem pages_once_iff (s : Store) (query : ListTitlesDto) :
    PagesOnce s query ↔ OnOnePage Title.createdAt query.size (listed s query) :=
  ⟨onOnePage_of_pagesOnce, pagesOnce_of_onOnePage⟩

/-- Two published movies created at one instant. -/
def tiedStore : Store :=
  { Store.empty with
    titles := ⟨[⟨"t-1", .MOVIE, "First", "", "", true, 0⟩, ⟨"t-2", .MOVIE, "Second", "", "", true, 0⟩],
      by decide⟩ }

/-- The title list, one entry a page. -/
def oneAPage : ListTitlesDto where
  genre := none
  type := none
  page := none
  pageSize := some 1
  page_min := by simp
  pageSize_min := by simp
  pageSize_max := by simp

/-- One of the two can be on both pages, and the other on none. -/
theorem tied_titles_break_paging : ¬ PagesOnce tiedStore oneAPage := by
  intro h
  exact absurd (onOnePage_of_pagesOnce h) (by decide +kernel)

end StreamingService
