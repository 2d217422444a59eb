import StreamingService.Catalog.Contents
import StreamingService.Media.Source
import StreamingService.Payments.Ledger

/-!
# Catalog — Structure

The shape of the catalog. Seasons hang beneath series by a check before the
insert; an asset's owner is a reference without a foreign key, and the check
before the upsert asks whether the owner exists, not whether it is a movie.
-/

namespace StreamingService

open Lib

/-! ## The invariant -/

/-- A title is stored, and of this type. -/
def StoredTitle (s : Store) (id : String) (type : TitleType) : Prop :=
  ∃ t ∈ s.titles, t.id = id ∧ t.type = type

def StoredEpisode (s : Store) (id : String) : Prop := ∃ x ∈ s.episodes, x.id = id

/-- The reference names a row of the type it says. -/
def StoredOwner (s : Store) : MediaOwnerType → String → Prop
  | .TITLE, id => ∃ t ∈ s.titles, t.id = id
  | .EPISODE, id => StoredEpisode s id

/-- **The structure of the catalog.** -/
structure CatalogStructure (s : Store) : Prop where
  movie : ∀ t ∈ s.titles, t.type = .MOVIE → ∀ x ∈ s.seasons, x.titleId ≠ t.id
  series : ∀ t ∈ s.titles, t.type = .SERIES →
    ∀ a ∈ s.mediaAssets, a.ownerType = .TITLE → a.ownerId ≠ t.id
  owner : ∀ a ∈ s.mediaAssets, StoredOwner s a.ownerType a.ownerId
  assetPerKind : ∀ ownerType ownerId kind,
    (s.mediaAssets.filter fun a => a.ownedBy ownerType ownerId kind).length ≤ 1
  seasonPerNumber : ∀ titleId number,
    (s.seasons.filter fun x => x.titleId == titleId && x.number == number).length ≤ 1
  episodePerNumber : ∀ seasonId number,
    (s.episodes.filter fun x => x.seasonId == seasonId && x.number == number).length ≤ 1

/-- The part of it that makes the rest inductive: what each season and each
asset hangs beneath. -/
structure Hangs (s : Store) : Prop where
  season : ∀ x ∈ s.seasons, StoredTitle s x.titleId .SERIES
  owner : ∀ a ∈ s.mediaAssets, StoredOwner s a.ownerType a.ownerId
  movie : ∀ a ∈ s.mediaAssets, a.ownerType = .TITLE → StoredTitle s a.ownerId .MOVIE

/-- One title is of one type. -/
theorem StoredTitle.type_eq {s : Store} {id : String} {type type' : TitleType}
    (h : StoredTitle s id type) (h' : StoredTitle s id type') : type = type' := by
  obtain ⟨t, ht, hid, rfl⟩ := h
  obtain ⟨t', ht', hid', rfl⟩ := h'
  rw [titles_eq_of_id ht ht' (hid.trans hid'.symm)]

theorem Hangs.structured {s : Store} (h : Hangs s) : CatalogStructure s where
  movie := by
    intro t ht htype x hx hid
    cases (h.season x hx).type_eq ⟨t, ht, hid.symm, htype⟩
  series := by
    intro t ht htype a ha howner hid
    cases (h.movie a ha howner).type_eq ⟨t, ht, hid.symm, htype⟩
  owner := h.owner
  assetPerKind ownerType ownerId kind := by
    refine Table.length_filter_le_one fun a b ha hb => ?_
    simp only [MediaAsset.ownedBy, Bool.and_eq_true, beq_iff_eq] at ha hb
    simp [Indexed.clash, ha, hb]
  seasonPerNumber titleId number := by
    refine Table.length_filter_le_one fun a b ha hb => ?_
    simp only [Bool.and_eq_true, beq_iff_eq] at ha hb
    simp [Indexed.clash, ha, hb]
  episodePerNumber seasonId number := by
    refine Table.length_filter_le_one fun a b ha hb => ?_
    simp only [Bool.and_eq_true, beq_iff_eq] at ha hb
    simp [Indexed.clash, ha, hb]

theorem Hangs.start {s : Store} (hseasons : s.seasons = .empty) (hassets : s.mediaAssets = .empty) :
    Hangs s where
  season := by simp [hseasons]
  owner := by simp [hassets]
  movie := by simp [hassets]

/-! ## What the handlers have looked up -/

section

variable {s s' : Store} {e : Prog.Entry Sig}

theorem StoredTitle.mono {id : String} {type : TitleType} (h : StoredTitle s id type)
    (hstep : ContentStep s s' e) : StoredTitle s' id type := by
  obtain ⟨t, ht, rfl, rfl⟩ := h
  exact hstep.title_kept ht

theorem StoredEpisode.mono {id : String} (h : StoredEpisode s id) (hstep : ContentStep s s' e) :
    StoredEpisode s' id := by
  obtain ⟨x, hx, rfl⟩ := h
  obtain ⟨x', hx', hid, -⟩ := hstep.episode_kept hx
  exact ⟨x', hx', hid⟩

theorem StoredOwner.mono {ownerType : MediaOwnerType} {id : String}
    (h : StoredOwner s ownerType id) (hstep : ContentStep s s' e) : StoredOwner s' ownerType id := by
  cases ownerType with
  | TITLE =>
      obtain ⟨t, ht, rfl⟩ := h
      obtain ⟨t', ht', hid, -⟩ := hstep.title_kept ht
      exact ⟨t', ht', hid⟩
  | EPISODE => exact StoredEpisode.mono h hstep

/-- A lookup that answers a row says that it is stored. -/
def ContentAnswer (s : Store) : Prog.Entry Sig → Prop
  | ⟨.catalog (.findTitle id), .ok (some t)⟩ => StoredTitle s id t.type
  | ⟨.catalog (.findEpisode id), .ok (some _)⟩ => StoredEpisode s id
  | _ => True

theorem ContentAnswer.mono {e' : Prog.Entry Sig} (h : ContentAnswer s e')
    (hstep : ContentStep s s' e) : ContentAnswer s' e' := by
  unfold ContentAnswer at h ⊢
  split at h
  · exact h.mono hstep
  · exact h.mono hstep
  · trivial

end

theorem contentAnswer_error (s : Store) (c : Cmd) (e : Exception) :
    ContentAnswer s ⟨c, .error e⟩ := by
  cases c with
  | catalog c => cases c <;> trivial
  | _ => trivial

theorem exec_contentAnswer (o : Ambient) (c : Cmd) (s : Store) :
    ContentAnswer (exec o c s).2 ⟨c, (exec o c s).1⟩ := by
  apply exec_cases (P := fun out => ContentAnswer out.2 ⟨c, out.1⟩) (contentAnswer_error s c)
  cases c with
  | catalog c =>
      cases c with
      | findTitle id =>
          simp only [answer, CatalogStmt.answer]
          cases hfind : s.titles.find? fun t => t.id == id with
          | none => trivial
          | some t =>
              obtain ⟨ht, hid⟩ := Table.mem_of_find? hfind
              exact ⟨t, ht, by simpa using hid, rfl⟩
      | findEpisode id =>
          simp only [answer, CatalogStmt.answer]
          cases hfind : s.episodes.find? fun x => x.id == id with
          | none => trivial
          | some x =>
              obtain ⟨hx, hid⟩ := Table.mem_of_find? hfind
              exact ⟨x, hx, by simpa using hid⟩
      | _ => trivial
  | _ => trivial

/-- Every answer of a run still says what is stored. -/
theorem contentAnswers_run {cfg : AppConfig} {ok : AppState → Action Ambient Request → Prop}
    {s : Store} {b : AppState} (hr : (app cfg).Run ok (Machine.start s) b) :
    ∀ tid e, Event.did tid e ∈ b.trace → ContentAnswer b.store e :=
  Machine.Run.answers exec_contentAnswer (fun o c s _ h => h.mono (exec_contents o c s)) hr

/-- The earlier lookup of the owner that an upsert rests on. -/
def ownerRead (h : List (Prog.Entry Sig)) : MediaOwnerType → String → Prop
  | .TITLE, id => ∃ t : Title, ⟨.catalog (.findTitle id), .ok (some t)⟩ ∈ h
  | .EPISODE, id => ∃ x : Episode, ⟨.catalog (.findEpisode id), .ok (some x)⟩ ∈ h

/-- What a statement that adds to the structure owes to the ones before it: the
parent has been looked up, and the key of an upload ends in a generated suffix. -/
def RegisterStep (h : List (Prog.Entry Sig)) (e : Prog.Entry Sig) : Prop :=
  match e.1 with
  | .catalog (.createSeason titleId _) => ∃ t : Title,
      ⟨.catalog (.findTitle titleId), .ok (some t)⟩ ∈ h ∧ t.type = .SERIES
  | .mediaAsset (.upsert ownerType ownerId kind key) => ownerRead h ownerType ownerId ∧
      ∃ uuid : String, ⟨.service .uuid, .ok uuid⟩ ∈ h ∧
        key = AdminMediaService.sourceObjectKey ⟨ownerType, ownerId, kind⟩ uuid
  | _ => True

theorem RegisterStep.of_not_registers {h : List (Prog.Entry Sig)} {e : Prog.Entry Sig}
    (he : e.1.registers = false) : RegisterStep h e := by
  unfold RegisterStep
  split <;> first | trivial | (rename_i heq; rw [heq] at he; cases he)

theorem assertOwnerExists_reads (ownerType : MediaOwnerType) (ownerId : String)
    (h : List (Prog.Entry Sig)) :
    (AdminMediaService.assertOwnerExists ownerType ownerId).Emits RegisterStep
      (fun r h' => ∀ a, r = .ok a → ownerRead h' ownerType ownerId) h := by
  cases ownerType with
  | TITLE =>
      refine .perform_bind (fun found => ⟨trivial, ?_⟩) fun e => ⟨trivial, fun _ hr => by cases hr⟩
      cases found with
      | none => exact fun _ hr => by cases hr
      | some t => exact fun _ _ => ⟨t, by simp⟩
  | EPISODE =>
      refine .perform_bind (fun found => ⟨trivial, ?_⟩) fun e => ⟨trivial, fun _ hr => by cases hr⟩
      cases found with
      | none => exact fun _ hr => by cases hr
      | some x => exact fun _ _ => ⟨x, by simp⟩

theorem ownerRead.cons {h : List (Prog.Entry Sig)} {ownerType : MediaOwnerType} {id : String}
    (hread : ownerRead h ownerType id) (e : Prog.Entry Sig) : ownerRead (e :: h) ownerType id := by
  cases ownerType with
  | TITLE =>
      obtain ⟨t, ht⟩ := hread
      exact ⟨t, List.mem_cons_of_mem _ ht⟩
  | EPISODE =>
      obtain ⟨x, hx⟩ := hread
      exact ⟨x, List.mem_cons_of_mem _ hx⟩

theorem registerMediaAsset_reads (dto : AdminMediaService.RegisterMediaAssetDto)
    (h : List (Prog.Entry Sig)) :
    (AdminMediaService.registerMediaAsset dto).Emits RegisterStep (fun _ _ => True) h := by
  refine .bind (assertOwnerExists_reads dto.ownerType dto.ownerId h) ?_ fun _ _ _ => trivial
  intro _ h hread
  have hread := hread () rfl
  refine .perform_bind (fun uuid => ⟨trivial, ?_⟩) fun e => ⟨trivial, trivial⟩
  have hupsert : ∀ r, RegisterStep (⟨.service .uuid, .ok uuid⟩ :: h)
      ⟨.mediaAsset (.upsert dto.ownerType dto.ownerId dto.kind
        (AdminMediaService.sourceObjectKey dto uuid)), r⟩ :=
    fun _ => ⟨hread.cons _, uuid, by simp, rfl⟩
  refine .perform_bind (fun asset => ⟨hupsert _, ?_⟩) fun e => ⟨hupsert _, trivial⟩
  refine .bind (Q := fun _ _ => True) ?_ (fun _ _ _ => trivial) fun _ _ _ => trivial
  refine .perform_bind (fun url => ⟨trivial, ?_⟩) fun e => ⟨trivial, trivial⟩
  exact .perform_bind (fun instant => ⟨trivial, trivial⟩) fun e => ⟨trivial, trivial⟩

theorem createSeason_reads (titleId : String) (number : Int) (h : List (Prog.Entry Sig)) :
    (AdminTitlesService.createSeason titleId number).Emits RegisterStep (fun _ _ => True) h := by
  refine .perform_bind (fun found => ⟨trivial, ?_⟩) fun e => ⟨trivial, trivial⟩
  match found with
  | none => trivial
  | some t =>
      refine .ite (fun _ => trivial) fun htype => ?_
      have hseries : t.type = .SERIES := by simpa using htype
      exact fun _ => ⟨⟨t, by simp, hseries⟩, trivial⟩

/-- The path of every request that adds to the structure. -/
theorem register_steps (cfg : AppConfig) (q : Request) :
    (handle cfg q).Emits RegisterStep (fun _ _ => True) [] := by
  have guard : ∀ user, (adminGuard user).Emits RegisterStep (fun _ _ => True) [] := fun user =>
    .of_calls (A := fun _ => False) (adminGuard_calls user) (fun _ _ hc => hc.elim) fun _ _ => trivial
  by_cases hq : q.registers = true
  · cases q with
    | createSeason user titleId number =>
        refine .bind (guard user) (fun _ h _ => ?_) fun _ _ _ => trivial
        exact .bind (createSeason_reads titleId number h) (fun _ _ _ => trivial) fun _ _ _ => trivial
    | registerMediaAsset user dto =>
        refine .bind (guard user) (fun _ h _ => ?_) fun _ _ _ => trivial
        exact .bind (registerMediaAsset_reads dto h) (fun _ _ _ => trivial) fun _ _ _ => trivial
    | _ => cases hq
  · exact .of_calls (handle_registers cfg (by simpa using hq))
      (fun _ _ hc => .of_not_registers hc) fun _ _ => trivial

/-! ## The condition -/

/-- The title that an accepted registration names as the owner. -/
def titleOwner : Prog.Entry Sig → Option String
  | ⟨.mediaAsset (.upsert .TITLE ownerId _ _), .ok _⟩ => some ownerId
  | _ => none

/-- An accepted registration whose owner is a title names a movie. -/
def OwnsMovie (s : Store) (e : Prog.Entry Sig) : Prop :=
  ∀ ownerId ∈ titleOwner e, ∀ t ∈ s.titles.rows, t.id = ownerId → t.type = .MOVIE

theorem titleOwner_upsert {ownerType : MediaOwnerType} {ownerId key : String} {kind : MediaKind}
    {a : MediaAsset} (h : ownerType = .TITLE) :
    titleOwner ⟨.mediaAsset (.upsert ownerType ownerId kind key), .ok a⟩ = some ownerId := by
  subst h
  rfl

instance (s : Store) (e : Prog.Entry Sig) : Decidable (OwnsMovie s e) :=
  inferInstanceAs (Decidable (∀ ownerId ∈ titleOwner e, _))

/-! ## Every run -/

/-- What a statement finds stored, from what its thread has looked up. -/
def FoundStored (s : Store) (e : Prog.Entry Sig) : Prop :=
  match e.1 with
  | .catalog (.createSeason titleId _) => StoredTitle s titleId .SERIES
  | .mediaAsset (.upsert ownerType ownerId _ _) => StoredOwner s ownerType ownerId
  | _ => True

theorem RegisterStep.stored {s : Store} {h : List (Prog.Entry Sig)} {e : Prog.Entry Sig}
    (hstep : RegisterStep h e) (hans : ∀ e ∈ h, ContentAnswer s e) : FoundStored s e := by
  unfold RegisterStep at hstep
  unfold FoundStored
  split at hstep
  · obtain ⟨t, hread, htype⟩ := hstep
    rw [← htype]
    exact hans _ hread
  · rename_i ownerType ownerId kind key _
    obtain ⟨hread, -⟩ := hstep
    cases ownerType with
    | TITLE =>
        obtain ⟨t, ht⟩ := hread
        obtain ⟨t', ht', hid, -⟩ := hans _ ht
        exact ⟨t', ht', hid⟩
    | EPISODE =>
        obtain ⟨x, hx⟩ := hread
        exact hans _ hx
  · trivial

/-- An asset that was not there with this owner is the one an accepted upsert
answers. -/
theorem exec_assetOwner (o : Ambient) (c : Cmd) (s : Store) {a' : MediaAsset}
    (ha' : a' ∈ (exec o c s).2.mediaAssets) :
    (∃ a ∈ s.mediaAssets, a.SameAs a') ∨ ∃ key, (⟨c, (exec o c s).1⟩ : Prog.Entry Sig) =
      ⟨.mediaAsset (.upsert a'.ownerType a'.ownerId a'.kind key), .ok a'⟩ := by
  have hstep := exec_assetStep o c s ha'
  generalize he : (⟨c, (exec o c s).1⟩ : Prog.Entry Sig) = e at hstep ⊢
  cases hstep with
  | kept ha _ => exact .inl ⟨a', ha, .refl a'⟩
  | uploaded _ =>
      obtain ⟨rfl, hr⟩ := Sigma.mk.inj_iff.mp he
      obtain ⟨-, howned, -⟩ := upsert_ok (Prod.ext (eq_of_heq hr) rfl)
      simp only [MediaAsset.ownedBy, Bool.and_eq_true, beq_iff_eq] at howned
      obtain ⟨⟨rfl, rfl⟩, rfl⟩ := howned
      exact .inr ⟨_, rfl⟩
  | reset ha heq => exact .inl ⟨_, ha, by rw [heq]; exact ⟨rfl, rfl, rfl, rfl⟩⟩
  | trailerReady ha heq => exact .inl ⟨_, ha, by rw [heq]; exact ⟨rfl, rfl, rfl, rfl⟩⟩
  | ready ha heq => exact .inl ⟨_, ha, by rw [heq]; exact ⟨rfl, rfl, rfl, rfl⟩⟩
  | failed ha heq => exact .inl ⟨_, ha, by rw [heq]; exact ⟨rfl, rfl, rfl, rfl⟩⟩

/-- **One statement keeps it**: only a new season and a new asset have
something to prove. -/
theorem Hangs.did {o : Ambient} {c : Cmd} {s : Store} (h : Hangs s)
    (hfound : FoundStored s ⟨c, (exec o c s).1⟩) (howns : OwnsMovie s ⟨c, (exec o c s).1⟩) :
    Hangs (exec o c s).2 := by
  have hstep := exec_contents o c s
  refine ⟨?_, ?_, ?_⟩
  · intro x hx
    rcases exec_season o c s hx with hx | rfl
    · exact (h.season x hx).mono hstep
    · exact StoredTitle.mono hfound hstep
  · intro a' ha'
    rcases exec_assetOwner o c s ha' with ⟨a, ha, hsame⟩ | ⟨key, he⟩
    · rw [hsame.ownerType, hsame.ownerId]
      exact (h.owner a ha).mono hstep
    · rw [he] at hfound
      exact StoredOwner.mono hfound hstep
  · intro a' ha' htitle
    rcases exec_assetOwner o c s ha' with ⟨a, ha, hsame⟩ | ⟨key, he⟩
    · rw [hsame.ownerId]
      exact (h.movie a ha (hsame.ownerType.symm.trans htitle)).mono hstep
    · rw [he] at hfound howns
      have hstored : StoredOwner s a'.ownerType a'.ownerId := hfound
      rw [htitle] at hstored
      obtain ⟨t, ht, hid⟩ := hstored
      have htype : t.type = .MOVIE := howns _ (titleOwner_upsert htitle) t ht hid
      exact StoredTitle.mono ⟨t, ht, hid, htype⟩ hstep

/-- A registration under a series breaks the structure. -/
theorem CatalogStructure.owns {o : Ambient} {c : Cmd} {s : Store}
    (h : CatalogStructure (exec o c s).2) : OwnsMovie s ⟨c, (exec o c s).1⟩ := by
  intro ownerId howner t ht hid
  obtain ⟨t', ht', hid', htype⟩ := (exec_contents o c s).title_kept ht
  by_contra hne
  have hseries : t'.type = .SERIES := by
    cases hst : t.type with
    | MOVIE => exact absurd hst hne
    | SERIES => rw [htype, hst]
  unfold titleOwner at howner
  split at howner
  · rename_i id kind key a heq
    cases howner
    obtain ⟨rfl, hr⟩ := Sigma.mk.inj_iff.mp heq
    obtain ⟨ha, howned, -⟩ := upsert_ok (Prod.ext (eq_of_heq hr) rfl)
    simp only [MediaAsset.ownedBy, Bool.and_eq_true, beq_iff_eq] at howned
    refine h.series t' ht' hseries a ha howned.1.1 ?_
    rw [hid', hid, howned.1.2]
  · cases howner

/-- **The structure of the catalog holds in every run whose registrations name
movies**, and the first registration under a series ends it. -/
theorem catalog_structure {cfg : AppConfig} {s : Store} (hseasons : s.seasons = .empty)
    (hassets : s.mediaAssets = .empty) :
    (∀ b, (app cfg).Run (stepsMeet OwnsMovie) (Machine.start s) b → CatalogStructure b.store) ∧
    ∀ b act c, (app cfg).Run (stepsMeet OwnsMovie) (Machine.start s) b →
      (app cfg).next b act = some c → (CatalogStructure c.store ↔ stepsMeet OwnsMovie b act) := by
  have hinv : ∀ b, (app cfg).Run (stepsMeet OwnsMovie) (Machine.start s) b → Hangs b.store := by
    intro b hr
    refine Machine.Run.keeps_along (I := fun s _ => Hangs s) (register_steps cfg)
      (fun _ _ _ h _ => h) ?_ (.start hseasons hassets) hr
    intro sys tid o q c k hr h hok hth hstep
    have hpend : sys.pending tid = some c := by simp [Sys.pending, hth]
    refine h.did (hstep.stored ?_) (hok c hpend)
    intro e he
    exact contentAnswers_run hr tid e (mem_own.mp he)
  refine ⟨fun b hr => (hinv b hr).structured, ?_⟩
  intro b act c hr hnext
  refine ⟨fun h => ?_, fun hok => (hinv c (hr.step hok hnext)).structured⟩
  rcases (app cfg).next_cases hnext with ⟨q, rfl, rfl⟩ | ⟨tid, o, q, c, k, rfl, hth, rfl⟩
  · trivial
  · intro c' hc'
    simp only [Sys.pending, hth, Option.some.injEq] at hc'
    subst hc'
    exact CatalogStructure.owns h

/-- A season, an episode and their assets, all in order. -/
theorem catalog_structure_sample :
    ∃ b : AppState, (app sampleConfig).Run (stepsMeet OwnsMovie) (Machine.start .empty) b ∧
      b.store.mediaAssets.rows.length = 2 ∧ b.store.seasons.rows.length = 1 ∧
      CatalogStructure b.store := by
  obtain ⟨b, hr, hb⟩ := Machine.exists_run_of_replay (m := app sampleConfig)
    (a := Machine.start .empty) (stepsMeet OwnsMovie)
    [.begin (.createTitle (some sampleAdmin) ⟨.MOVIE, "Film", "A film", "poster", []⟩),
      .step 0 ((Ambient.quiet 1).generating "title-1"),
      .begin (.registerMediaAsset (some sampleAdmin) ⟨.TITLE, "title-1", .FULL⟩),
      .step 1 (.quiet 2), .step 1 ((Ambient.quiet 3).generating "u-1"),
      .step 1 ((Ambient.quiet 4).generating "full-1"),
      .begin (.createTitle (some sampleAdmin) ⟨.SERIES, "Maisha", "A series", "poster", []⟩),
      .step 2 ((Ambient.quiet 5).generating "title-2"),
      .begin (.createSeason (some sampleAdmin) "title-2" 1), .step 3 (.quiet 6),
      .step 3 ((Ambient.quiet 7).generating "season-1"),
      .begin (.createEpisode (some sampleAdmin) "season-1" ⟨1, "Mwanzo", ""⟩), .step 4 (.quiet 8),
      .step 4 ((Ambient.quiet 9).generating "episode-1"),
      .begin (.registerMediaAsset (some sampleAdmin) ⟨.EPISODE, "episode-1", .TRAILER⟩),
      .step 5 (.quiet 10), .step 5 ((Ambient.quiet 11).generating "u-2"),
      .step 5 ((Ambient.quiet 12).generating "trailer-1")]
    (fun b => b.store.mediaAssets.rows.length == 2 && b.store.seasons.rows.length == 1)
    (by decide +kernel)
  simp only [Bool.and_eq_true, beq_iff_eq] at hb
  exact ⟨b, hr, hb.1, hb.2, (catalog_structure rfl rfl).1 b hr⟩

/-- A series owns an asset. -/
def ownsUnderSeries (s : Store) : Bool :=
  s.titles.rows.any fun t => t.type == .SERIES && s.mediaAssets.rows.any fun a =>
    a.ownerType == .TITLE && a.ownerId == t.id

theorem not_catalogStructure {s : Store} (h : ownsUnderSeries s = true) : ¬ CatalogStructure s := by
  intro hstruct
  simp only [ownsUnderSeries, List.any_eq_true, Bool.and_eq_true, beq_iff_eq] at h
  obtain ⟨t, ht, htype, a, ha, howner, hid⟩ := h
  exact hstruct.series t ht htype a ha howner hid

/-- The admin creates a series and registers a full video for the title itself. -/
theorem series_owns_an_asset :
    ∃ b : AppState, (app sampleConfig).Run anyAction (Machine.start .empty) b ∧
      ¬ CatalogStructure b.store := by
  obtain ⟨b, hr, hb⟩ := Machine.exists_run_of_replay (m := app sampleConfig)
    (a := Machine.start .empty) anyAction
    [.begin (.createTitle (some sampleAdmin) ⟨.SERIES, "Maisha", "A series", "poster", []⟩),
      .step 0 ((Ambient.quiet 1).generating "title-1"),
      .begin (.registerMediaAsset (some sampleAdmin) ⟨.TITLE, "title-1", .FULL⟩),
      .step 1 (.quiet 2), .step 1 ((Ambient.quiet 3).generating "u-1"),
      .step 1 ((Ambient.quiet 4).generating "full-1")]
    (fun b => ownsUnderSeries b.store) (by decide +kernel)
  exact ⟨b, hr, not_catalogStructure hb⟩

end StreamingService
