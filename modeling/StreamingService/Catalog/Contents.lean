import StreamingService.Frame

/-!
# Catalog — Contents

What one statement can do to titles, seasons and episodes. Rows are never
deleted; a title and an episode begin unpublished, and only an edit changes
the flag.
-/

namespace StreamingService

open Lib

theorem titles_eq_of_id {s : Store} {t t' : Title} (ht : t ∈ s.titles) (ht' : t' ∈ s.titles)
    (h : t.id = t'.id) : t = t' :=
  Table.eq_of_clash ht ht' (by simp [Indexed.clash, h])

/-- An accepted edit of a title or an episode. -/
def isEdit : Prog.Entry Sig → Bool
  | ⟨.catalog (.updateTitle _ _), .ok _⟩ => true
  | ⟨.catalog (.updateEpisode _ _), .ok _⟩ => true
  | _ => false

theorem isEdit_error (c : Cmd) (e : Exception) : isEdit ⟨c, .error e⟩ = false := by
  cases c with
  | catalog c => cases c <;> rfl
  | _ => rfl

/-- The rows of the three tables, before and after one statement. -/
inductive ContentStep (s s' : Store) : Prog.Entry Sig → Prop
  | quiet {e : Prog.Entry Sig} (hquiet : isEdit e = false) (ht : s'.titles = s.titles) (hx : s'.seasons = s.seasons)
      (he : s'.episodes = s.episodes) : ContentStep s s' e
  | title {e : Prog.Entry Sig} {row : Title} (hquiet : isEdit e = false) (hdraft : row.published = false)
      (ht : s.titles.insert? row = some s'.titles) (hx : s'.seasons = s.seasons)
      (he : s'.episodes = s.episodes) : ContentStep s s' e
  | season {e : Prog.Entry Sig} {row : Season} (hquiet : isEdit e = false) (ht : s'.titles = s.titles)
      (hx : s.seasons.insert? row = some s'.seasons) (he : s'.episodes = s.episodes) :
      ContentStep s s' e
  | episode {e : Prog.Entry Sig} {row : Episode} (hquiet : isEdit e = false) (hdraft : row.published = false)
      (ht : s'.titles = s.titles) (hx : s'.seasons = s.seasons)
      (he : s.episodes.insert? row = some s'.episodes) : ContentStep s s' e
  | updateTitle {id : String} {data : TitleUpdate} {t : Title}
      (hrows : s'.titles.rows = s.titles.rows.map fun t => if t.id == id then t.apply data else t)
      (hx : s'.seasons = s.seasons) (he : s'.episodes = s.episodes) :
      ContentStep s s' ⟨.catalog (.updateTitle id data), .ok t⟩
  | updateEpisode {id : String} {data : EpisodeUpdate} {x : Episode}
      (ht : s'.titles = s.titles) (hx : s'.seasons = s.seasons)
      (hrows : s'.episodes.rows =
        s.episodes.rows.map fun x => if x.id == id then x.apply data else x) :
      ContentStep s s' ⟨.catalog (.updateEpisode id data), .ok x⟩

theorem catalog_contents (o : Ambient) (c : CatalogStmt) (s : Store) :
    ContentStep s (c.answer o s).2 ⟨.catalog c, (c.answer o s).1⟩ := by
  cases c with
  | createTitle type name description posterUrl genreIds =>
      simp only [CatalogStmt.answer]
      split
      · exact .quiet rfl rfl rfl rfl
      · rename_i ts hins
        split
        · exact .quiet rfl rfl rfl rfl
        · exact .title rfl rfl hins rfl rfl
  | updateTitle id data =>
      simp only [CatalogStmt.answer]
      split
      · exact .quiet rfl rfl rfl rfl
      · split
        · exact .updateTitle rfl rfl rfl
        · split
          · exact .quiet rfl rfl rfl rfl
          · exact .updateTitle rfl rfl rfl
  | createSeason titleId number =>
      simp only [CatalogStmt.answer]
      split
      · exact .quiet rfl rfl rfl rfl
      · split
        · exact .quiet rfl rfl rfl rfl
        · rename_i xs hins
          exact .season rfl rfl hins rfl
  | createEpisode seasonId number name description =>
      simp only [CatalogStmt.answer]
      split
      · exact .quiet rfl rfl rfl rfl
      · split
        · exact .quiet rfl rfl rfl rfl
        · rename_i es hins
          exact .episode rfl rfl rfl rfl hins
  | updateEpisode id data =>
      simp only [CatalogStmt.answer]
      split
      · exact .quiet rfl rfl rfl rfl
      · exact .updateEpisode rfl rfl rfl
  | upsertGenre name =>
      simp only [CatalogStmt.answer]
      split
      · exact .quiet rfl rfl rfl rfl
      · split
        · exact .quiet rfl rfl rfl rfl
        · exact .quiet rfl rfl rfl rfl
  | _ => exact .quiet rfl rfl rfl rfl

/-- **The inversion lemma of the contents**: one statement, whatever it is. -/
theorem exec_contents (o : Ambient) (c : Cmd) (s : Store) :
    ContentStep s (exec o c s).2 ⟨c, (exec o c s).1⟩ := by
  have frame := exec_frame o s c
  cases c with
  | catalog c =>
      exact exec_cases (P := fun out => ContentStep s out.2 ⟨_, out.1⟩)
        (fun e => .quiet (isEdit_error _ e) rfl rfl rfl) (catalog_contents o c s)
  | _ =>
      obtain ⟨ht, hx, he⟩ := frame.catalog (by simp)
      exact .quiet rfl ht hx he

/-! ## Rows over one statement -/

/-- An accepted edit writes the flag of the title. -/
def writesTitleFlag (id : String) (flag : Bool) : Prog.Entry Sig → Bool
  | ⟨.catalog (.updateTitle id' data), .ok _⟩ => id' == id && data.published == some flag
  | _ => false

/-- An accepted edit writes the flag of the episode. -/
def writesEpisodeFlag (id : String) (flag : Bool) : Prog.Entry Sig → Bool
  | ⟨.catalog (.updateEpisode id' data), .ok _⟩ => id' == id && data.published == some flag
  | _ => false

theorem not_writesEpisodeFlag {id : String} {flag : Bool} {e : Prog.Entry Sig}
    (h : isEdit e = false) : writesEpisodeFlag id flag e = false := by
  unfold writesEpisodeFlag
  split
  · cases h
  · rfl

namespace ContentStep

variable {s s' : Store} {e : Prog.Entry Sig}

theorem season_kept (h : ContentStep s s' e) {x : Season} (hx : x ∈ s.seasons) :
    x ∈ s'.seasons := by
  cases h with
  | quiet _ _ hs _ => exact hs ▸ hx
  | title _ _ _ hs _ => exact hs ▸ hx
  | season _ _ hs _ => exact (Table.mem_insert? hs).mpr (.inl hx)
  | episode _ _ _ hs _ => exact hs ▸ hx
  | updateTitle _ hs _ => exact hs ▸ hx
  | updateEpisode _ hs _ => exact hs ▸ hx

/-- A title keeps its id and its type. -/
theorem title_kept (h : ContentStep s s' e) {t : Title} (ht : t ∈ s.titles) :
    ∃ t' ∈ s'.titles, t'.id = t.id ∧ t'.type = t.type := by
  cases h with
  | quiet _ hs _ _ => exact ⟨t, hs ▸ ht, rfl, rfl⟩
  | title _ _ hs _ _ => exact ⟨t, (Table.mem_insert? hs).mpr (.inl ht), rfl, rfl⟩
  | season _ hs _ _ => exact ⟨t, hs ▸ ht, rfl, rfl⟩
  | episode _ _ hs _ _ => exact ⟨t, hs ▸ ht, rfl, rfl⟩
  | @updateTitle id data _ hrows _ _ =>
      refine ⟨if t.id == id then t.apply data else t, ?_, ?_⟩
      · rw [← Table.mem_rows, hrows]
        exact List.mem_map.mpr ⟨t, ht, rfl⟩
      · split <;> exact ⟨rfl, rfl⟩
  | updateEpisode hs _ _ => exact ⟨t, hs ▸ ht, rfl, rfl⟩

/-- An episode keeps its id and its season, and shows what the last edit made
of its flag. -/
theorem episode_kept (h : ContentStep s s' e) {x : Episode} (hx : x ∈ s.episodes) :
    ∃ x' ∈ s'.episodes, x'.id = x.id ∧ x'.seasonId = x.seasonId ∧
      (x.published = true → writesEpisodeFlag x.id false e = false → x'.published = true) ∧
      (writesEpisodeFlag x.id true e = true → x'.published = true) := by
  -- what no edit touches is as it was
  have kept : x ∈ s'.episodes → isEdit e = false → ∃ x' ∈ s'.episodes, x'.id = x.id ∧
      x'.seasonId = x.seasonId ∧
      (x.published = true → writesEpisodeFlag x.id false e = false → x'.published = true) ∧
      (writesEpisodeFlag x.id true e = true → x'.published = true) := fun hx' hquiet =>
    ⟨x, hx', rfl, rfl, fun hp _ => hp, fun hw => by simp [not_writesEpisodeFlag hquiet] at hw⟩
  cases h with
  | quiet hquiet _ _ he => exact kept (he ▸ hx) hquiet
  | title hquiet _ _ _ he => exact kept (he ▸ hx) hquiet
  | season hquiet _ _ he => exact kept (he ▸ hx) hquiet
  | episode hquiet _ _ _ he => exact kept ((Table.mem_insert? he).mpr (.inl hx)) hquiet
  | updateTitle _ _ he => exact ⟨x, he ▸ hx, rfl, rfl, fun hp _ => hp, fun hw => by cases hw⟩
  | @updateEpisode id data _ _ _ hrows =>
      refine ⟨if x.id == id then x.apply data else x, ?_, ?_⟩
      · rw [← Table.mem_rows, hrows]
        exact List.mem_map.mpr ⟨x, hx, rfl⟩
      · by_cases hid : x.id = id
        · subst hid
          cases hflag : data.published with
          | none => simp [Episode.apply, writesEpisodeFlag, hflag]
          | some flag => cases flag <;> simp [Episode.apply, writesEpisodeFlag, hflag]
        · have hne : id ≠ x.id := fun heq => hid heq.symm
          simp [hid, hne, writesEpisodeFlag]

/-- Where a published episode comes from. -/
theorem episode_published (h : ContentStep s s' e) {x' : Episode} (hx' : x' ∈ s'.episodes)
    (hp : x'.published = true) :
    (∃ x ∈ s.episodes, x.id = x'.id ∧ x.published = true) ∨
      writesEpisodeFlag x'.id true e = true := by
  cases h with
  | quiet _ _ _ he => exact .inl ⟨x', he ▸ hx', rfl, hp⟩
  | title _ _ _ _ he => exact .inl ⟨x', he ▸ hx', rfl, hp⟩
  | season _ _ _ he => exact .inl ⟨x', he ▸ hx', rfl, hp⟩
  | episode _ hdraft _ _ he =>
      rcases (Table.mem_insert? he).mp hx' with hx | rfl
      · exact .inl ⟨x', hx, rfl, hp⟩
      · rw [hdraft] at hp
        cases hp
  | updateTitle _ _ he => exact .inl ⟨x', he ▸ hx', rfl, hp⟩
  | @updateEpisode id data _ _ _ hrows =>
      rw [← Table.mem_rows, hrows] at hx'
      obtain ⟨x, hx, rfl⟩ := List.mem_map.mp hx'
      by_cases hid : x.id = id
      · subst hid
        cases hflag : data.published with
        | none => exact .inl ⟨x, hx, by simp [Episode.apply], by simpa [Episode.apply, hflag] using hp⟩
        | some flag =>
            refine .inr ?_
            cases flag <;> simp_all [Episode.apply, writesEpisodeFlag]
      · exact .inl ⟨x, hx, by simp [hid], by simpa [hid] using hp⟩

/-- Where a published title comes from: it was published, or the flag is
written on a title of its type. -/
theorem title_published (h : ContentStep s s' e) {t' : Title} (ht' : t' ∈ s'.titles)
    (hp : t'.published = true) :
    ∃ t ∈ s.titles, t.id = t'.id ∧ t.type = t'.type ∧
      (t.published = true ∨ writesTitleFlag t'.id true e = true) := by
  cases h with
  | quiet _ ht _ _ => exact ⟨t', ht ▸ ht', rfl, rfl, .inl hp⟩
  | title _ hdraft ht _ _ =>
      rcases (Table.mem_insert? ht).mp ht' with ht | rfl
      · exact ⟨t', ht, rfl, rfl, .inl hp⟩
      · rw [hdraft] at hp
        cases hp
  | season _ ht _ _ => exact ⟨t', ht ▸ ht', rfl, rfl, .inl hp⟩
  | episode _ _ ht _ _ => exact ⟨t', ht ▸ ht', rfl, rfl, .inl hp⟩
  | @updateTitle id data _ hrows _ _ =>
      rw [← Table.mem_rows, hrows] at ht'
      obtain ⟨t, ht, rfl⟩ := List.mem_map.mp ht'
      by_cases hid : t.id = id
      · subst hid
        refine ⟨t, ht, by simp [Title.apply], by simp [Title.apply], ?_⟩
        cases hflag : data.published with
        | none => exact .inl (by simpa [Title.apply, hflag] using hp)
        | some flag => exact .inr (by cases flag <;> simp_all [Title.apply, writesTitleFlag])
      · exact ⟨t, ht, by simp [hid], by simp [hid], .inl (by simpa [hid] using hp)⟩
  | updateEpisode ht _ _ => exact ⟨t', ht ▸ ht', rfl, rfl, .inl hp⟩

end ContentStep

/-- A season that was not there is the one the statement creates. -/
theorem exec_season (o : Ambient) (c : Cmd) (s : Store) {x : Season}
    (hx : x ∈ (exec o c s).2.seasons) :
    x ∈ s.seasons ∨ c = .catalog (.createSeason x.titleId x.number) := by
  cases c with
  | catalog c =>
      revert hx
      apply exec_cases (P := fun out => x ∈ out.2.seasons →
        x ∈ s.seasons ∨ Cmd.catalog c = .catalog (.createSeason x.titleId x.number)) fun _ => .inl
      cases c with
      | createSeason titleId number =>
          simp only [answer, CatalogStmt.answer]
          split
          · exact .inl
          · split
            · exact .inl
            · rename_i xs hins
              intro hx
              rcases (Table.mem_insert? hins).mp hx with hx | rfl
              · exact .inl hx
              · exact .inr rfl
      | createTitle type name description posterUrl genreIds =>
          simp only [answer, CatalogStmt.answer]
          repeat' split
          all_goals exact .inl
      | updateTitle id data =>
          simp only [answer, CatalogStmt.answer]
          repeat' split
          all_goals exact .inl
      | createEpisode seasonId number name description =>
          simp only [answer, CatalogStmt.answer]
          repeat' split
          all_goals exact .inl
      | updateEpisode id data =>
          simp only [answer, CatalogStmt.answer]
          split
          all_goals exact .inl
      | upsertGenre name =>
          simp only [answer, CatalogStmt.answer]
          repeat' split
          all_goals exact .inl
      | _ => exact .inl
  | _ =>
      rw [((exec_frame o s _).catalog (by simp)).2.1] at hx
      exact .inl hx

end StreamingService
