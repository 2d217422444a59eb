import StreamingService.Retention

/-!
# Journal

The trace of a run is a journal of the database. What an accepted statement does to the
rows can be read off the statement and its answer, and a refused one does nothing:
so replaying the trace on the rows a run has found gives the rows it leaves. The
clock readings, generated ids and constraints that were met on the way are in the
answers already.
-/

namespace StreamingService

open Lib

/-! ## The rows of a database -/

/-- Everything that is stored, and the queue. -/
structure Rows where
  users : List User
  refreshTokens : List RefreshToken
  genres : List Genre
  titles : List Title
  titleGenres : List TitleGenre
  seasons : List Season
  episodes : List Episode
  mediaAssets : List MediaAsset
  subscriptions : List Subscription
  transactions : List Transaction
  transcodeQueue : List TranscodeJobData

def Store.rows (s : Store) : Rows where
  users := s.users.rows
  refreshTokens := s.refreshTokens.rows
  genres := s.genres.rows
  titles := s.titles.rows
  titleGenres := s.titleGenres.rows
  seasons := s.seasons.rows
  episodes := s.episodes.rows
  mediaAssets := s.mediaAssets.rows
  subscriptions := s.subscriptions.rows
  transactions := s.transactions.rows
  transcodeQueue := s.transcodeQueue

/-! ## What an accepted statement writes -/

def withRow {ρ : Type} (rows : List ρ) (row : ρ) : List ρ := rows ++ [row]

/-- The selected rows, rewritten. -/
def rewrite {ρ : Type} (p : ρ → Bool) (f : ρ → ρ) (rows : List ρ) : List ρ :=
  rows.map fun r => if p r then f r else r

def Rows.revoke (d : Rows) (p : RefreshToken → Bool) (revokedAt : Millis) : Rows :=
  { d with refreshTokens := rewrite p (.revoke revokedAt) d.refreshTokens }

def Rows.settle (d : Rows) (id : String) (f : Transaction → Transaction) : Rows :=
  { d with transactions := rewrite (fun t => t.id == id) f d.transactions }

def Rows.process (d : Rows) (id : String) (f : MediaAsset → MediaAsset) : Rows :=
  { d with mediaAssets := rewrite (fun a => a.id == id) f d.mediaAssets }

/-- The update half of an upsert, or else its insert. -/
def upserted {ρ : Type} (p : ρ → Bool) (f : ρ → ρ) (row : ρ) (rows : List ρ) : List ρ :=
  if rows.any p then rewrite p f rows else withRow rows row

def AccountStmt.write (d : Rows) : (c : AccountStmt) → c.Resp → Rows
  | .createUser _ _, row => { d with users := withRow d.users row }
  | .createToken _ _ _, row => { d with refreshTokens := withRow d.refreshTokens row }
  | .revokeAllOfUser userId revokedAt, _ =>
      d.revoke (fun r => r.userId == userId && r.revokedAt.isNone) revokedAt
  | .revokeToken id revokedAt, _ => d.revoke (fun r => r.id == id) revokedAt
  | .revokeByHash tokenHash revokedAt, _ =>
      d.revoke (fun r => r.tokenHash == tokenHash && r.revokedAt.isNone) revokedAt
  | _, _ => d

def TransactionStmt.write (d : Rows) : (c : TransactionStmt) → c.Resp → Rows
  | .create _ _ _, row => { d with transactions := withRow d.transactions row }
  | .setProviderReference id ref, _ =>
      match textUpdate ref with
      | none => d
      | some f => d.settle id (.refer f)
  | .markFailed id resolvedAt reason, _ =>
      match textUpdate reason with
      | none => d
      | some f => d.settle id (.fail resolvedAt f)
  | .markTimedOut id resolvedAt, _ => d.settle id (.timeOut resolvedAt)
  | _, _ => d

def SubscriptionStmt.write (d : Rows) : (c : SubscriptionStmt) → c.Resp → Rows
  | .commitActivation transactionId _ resolvedAt _ _, row =>
      { d.settle transactionId (.succeed resolvedAt) with
        subscriptions := withRow d.subscriptions row }
  | _, _ => d

/-- The rows of a title with these genres. -/
def titleGenreRows (titleId : String) (genreIds : List String) : List TitleGenre :=
  genreIds.map fun genreId => ⟨titleId, genreId⟩

def CatalogStmt.write (d : Rows) : (c : CatalogStmt) → c.Resp → Rows
  | .createTitle _ _ _ _ genreIds, row =>
      { d with
        titles := withRow d.titles row
        titleGenres := d.titleGenres ++ titleGenreRows (Title.id row) genreIds }
  | .updateTitle id data, _ =>
      { d with
        titles := rewrite (fun t => t.id == id) (.apply data) d.titles
        titleGenres :=
          match data.genreIds with
          | none => d.titleGenres
          | some genreIds =>
              d.titleGenres.filter (fun g => !(g.titleId == id)) ++ titleGenreRows id genreIds }
  | .createSeason _ _, row => { d with seasons := withRow d.seasons row }
  | .createEpisode _ _ _ _, row => { d with episodes := withRow d.episodes row }
  | .updateEpisode id data, _ =>
      { d with episodes := rewrite (fun e => e.id == id) (.apply data) d.episodes }
  | .upsertGenre name, row =>
      { d with genres := upserted (fun g : Genre => g.name == name) (fun g => g) row d.genres }
  | _, _ => d

def MediaAssetStmt.write (d : Rows) : (c : MediaAssetStmt) → c.Resp → Rows
  | .upsert ownerType ownerId kind sourceObjectKey, row =>
      { d with
        mediaAssets := upserted (fun a => a.ownedBy ownerType ownerId kind)
          (.replaceSource sourceObjectKey) row d.mediaAssets }
  | .resetToPending id, _ =>
      d.process id fun a => { a with processingStatus := .PENDING, failureReason := none }
  | .setTrailerReady id key, _ =>
      d.process id fun a => { a with processingStatus := .READY, hlsManifestKey := some key }
  | .setReady id key, _ =>
      d.process id fun a =>
        { a with processingStatus := .READY, hlsManifestKey := some key, failureReason := none }
  | .setFailed id reason, _ =>
      d.process id fun a => { a with processingStatus := .FAILED, failureReason := some reason }
  | _, _ => d

def ServiceCall.write (d : Rows) : (c : ServiceCall) → c.Resp → Rows
  | .queueAdd job, _ => { d with transcodeQueue := d.transcodeQueue ++ [job] }
  | _, _ => d

/-- **One entry of the journal.** -/
def Rows.write : Prog.Entry Sig → Rows → Rows
  | ⟨_, .error _⟩, d => d
  | ⟨.now, .ok _⟩, d => d
  | ⟨.transaction c, .ok row⟩, d => c.write d row
  | ⟨.subscription c, .ok row⟩, d => c.write d row
  | ⟨.account c, .ok row⟩, d => c.write d row
  | ⟨.catalog c, .ok row⟩, d => c.write d row
  | ⟨.mediaAsset c, .ok row⟩, d => c.write d row
  | ⟨.service c, .ok row⟩, d => c.write d row

/-! ## Every statement is journalled -/

section

variable {o : Ambient} {s s' : Store}

theorem withRow_insert? {ρ : Type} [Indexed ρ] {t t' : Table ρ} {row : ρ}
    (h : t.insert? row = some t') : t'.rows = withRow t.rows row := Table.insert?_eq_some h

/-- The first match decides an upsert. -/
theorem upserted_some {ρ : Type} [Indexed ρ] {t : Table ρ} {p : ρ → Bool} {x : ρ}
    (h : t.find? p = some x) (f : ρ → ρ) (row : ρ) :
    upserted p f row t.rows = rewrite p f t.rows := by
  obtain ⟨hx, hp⟩ := Table.mem_of_find? h
  exact if_pos (List.any_eq_true.mpr ⟨x, hx, hp⟩)

theorem upserted_none {ρ : Type} [Indexed ρ] {t : Table ρ} {p : ρ → Bool}
    (h : t.find? p = none) (f : ρ → ρ) (row : ρ) :
    upserted p f row t.rows = withRow t.rows row := by
  refine if_neg fun hany => ?_
  obtain ⟨x, hx, hp⟩ := List.any_eq_true.mp hany
  rw [Table.find?_eq_none.mp h x hx] at hp
  cases hp

theorem rewrite_self {ρ : Type} (p : ρ → Bool) (rows : List ρ) :
    rewrite p (fun r => r) rows = rows := by
  simp [rewrite]

theorem account_write {c : AccountStmt} {row : c.Resp} (h : c.answer o s = (.ok row, s')) :
    s'.rows = c.write s.rows row := by
  cases c with
  | createUser email passwordHash =>
      simp only [AccountStmt.answer] at h
      split at h
      · cases h
      · rename_i us hins
        cases h
        simp only [Store.rows, AccountStmt.write, withRow_insert? hins]
  | createToken userId tokenHash expiresAt =>
      simp only [AccountStmt.answer] at h
      split at h
      · cases h
      · split at h
        · cases h
        · split at h
          · cases h
          · rename_i rs hins
            cases h
            simp only [Store.rows, AccountStmt.write, withRow_insert? hins]
  | revokeToken id revokedAt =>
      simp only [AccountStmt.answer] at h
      split at h
      · cases h
      · cases h
        rfl
  | findToken tokenHash =>
      simp only [AccountStmt.answer] at h
      split at h <;> cases h <;> rfl
  | _ =>
      cases h
      rfl

theorem transaction_write {c : TransactionStmt} {row : c.Resp}
    (h : c.answer o s = (.ok row, s')) : s'.rows = c.write s.rows row := by
  have found : ∀ {id : String} {f : Transaction → Transaction} {hf} {t : Transaction},
      updateTransaction s id f hf = (.ok t, s') → s'.rows = s.rows.settle id f := by
    intro id f hf t h
    simp only [updateTransaction] at h
    split at h
    · cases h
    · cases h
      rfl
  cases c with
  | create userId method amount =>
      simp only [TransactionStmt.answer] at h
      split at h
      · cases h
      · split at h
        · cases h
        · split at h
          · cases h
          · rename_i ts hins
            cases h
            simp only [Store.rows, TransactionStmt.write, withRow_insert? hins]
  | setProviderReference id ref =>
      simp only [TransactionStmt.answer, TransactionStmt.write] at h ⊢
      cases href : textUpdate ref with
      | none =>
          rw [href] at h
          cases h
      | some f =>
          rw [href] at h
          dsimp only at h ⊢
          split at h
          · cases h
          · split at h
            · cases h
            · rename_i ts hup
              cases h
              simp only [Store.rows, Rows.settle, rewrite, Table.update?_eq_some hup]
  | markFailed id resolvedAt reason =>
      simp only [TransactionStmt.answer, TransactionStmt.write] at h ⊢
      cases hreason : textUpdate reason with
      | none =>
          rw [hreason] at h
          cases h
      | some f =>
          rw [hreason] at h
          exact found h
  | markTimedOut id resolvedAt => exact found h
  | findById id =>
      simp only [TransactionStmt.answer] at h
      split at h <;> cases h
      rfl
  | findByReference ref =>
      simp only [TransactionStmt.answer] at h
      split at h <;> cases h
      rfl
  | findStale cutoff =>
      simp only [TransactionStmt.answer] at h
      split at h <;> cases h
      rfl
  | _ =>
      cases h
      rfl

theorem subscription_write {c : SubscriptionStmt} {row : c.Resp}
    (h : c.answer o s = (.ok row, s')) : s'.rows = c.write s.rows row := by
  cases c with
  | commitActivation transactionId userId resolvedAt startAt expiresAt =>
      simp only [SubscriptionStmt.answer] at h
      split at h
      · cases h
      · split at h
        · cases h
        · split at h
          · cases h
          · split at h
            · cases h
            · rename_i subs hins
              cases h
              simp only [Store.rows, SubscriptionStmt.write, withRow_insert? hins]
              rfl
  | _ =>
      cases h
      rfl

theorem mediaAsset_write {c : MediaAssetStmt} {row : c.Resp} (h : c.answer o s = (.ok row, s')) :
    s'.rows = c.write s.rows row := by
  have found : ∀ {id : String} {f : MediaAsset → MediaAsset} {hf} {u : Unit},
      updateAsset s id f hf = (.ok u, s') → s'.rows = s.rows.process id f := by
    intro id f hf u h
    simp only [updateAsset] at h
    split at h
    · cases h
    · cases h
      rfl
  cases c with
  | upsert ownerType ownerId kind sourceObjectKey =>
      simp only [MediaAssetStmt.answer] at h
      split at h
      · rename_i a hfind
        cases h
        simp only [Store.rows, MediaAssetStmt.write, upserted_some hfind]
        rfl
      · rename_i hfind
        split at h
        · cases h
        · rename_i as hins
          cases h
          simp only [Store.rows, MediaAssetStmt.write, upserted_none hfind, withRow_insert? hins]
  | resetToPending id => exact found h
  | setTrailerReady id key => exact found h
  | setReady id key => exact found h
  | setFailed id reason => exact found h
  | _ =>
      cases h
      rfl

/-- The genres a title is connected with. -/
theorem connectGenres_rows {titleGenres titleGenres' : Table TitleGenre} {titleId : String}
    {genreIds : List String} (h : connectGenres titleGenres titleId genreIds = some titleGenres') :
    titleGenres'.rows = titleGenres.rows ++ titleGenreRows titleId genreIds :=
  Table.insertMany?_eq_some h

theorem catalog_write {c : CatalogStmt} {row : c.Resp} (h : c.answer o s = (.ok row, s')) :
    s'.rows = c.write s.rows row := by
  cases c with
  | createTitle type name description posterUrl genreIds =>
      simp only [CatalogStmt.answer] at h
      split at h
      · cases h
      · rename_i ts hins
        split at h
        · cases h
        · rename_i gs hconnected
          cases h
          simp only [Store.rows, CatalogStmt.write, withRow_insert? hins,
            connectGenres_rows hconnected]
  | updateTitle id data =>
      simp only [CatalogStmt.answer, CatalogStmt.write] at h ⊢
      split at h
      · cases h
      · cases hgenres : data.genreIds with
        | none =>
            rw [hgenres] at h
            cases h
            rfl
        | some genreIds =>
            rw [hgenres] at h
            dsimp only at h ⊢
            split at h
            · cases h
            · rename_i gs hconnected
              cases h
              simp only [Store.rows, connectGenres_rows hconnected]
              rfl
  | createSeason titleId number =>
      simp only [CatalogStmt.answer] at h
      split at h
      · cases h
      · split at h
        · cases h
        · rename_i ss hins
          cases h
          simp only [Store.rows, CatalogStmt.write, withRow_insert? hins]
  | createEpisode seasonId number name description =>
      simp only [CatalogStmt.answer] at h
      split at h
      · cases h
      · split at h
        · cases h
        · rename_i es hins
          cases h
          simp only [Store.rows, CatalogStmt.write, withRow_insert? hins]
  | updateEpisode id data =>
      simp only [CatalogStmt.answer] at h
      split at h <;> cases h
      rfl
  | upsertGenre name =>
      simp only [CatalogStmt.answer] at h
      split at h
      · rename_i g hfind
        cases h
        have hgenres : upserted (fun g : Genre => g.name == name) (fun g => g) row s.genres.rows =
            s.genres.rows := (upserted_some hfind _ _).trans (rewrite_self _ _)
        exact (congrArg (fun genres => { s.rows with genres }) hgenres).symm
      · rename_i hfind
        split at h
        · cases h
        · rename_i gs hins
          cases h
          simp only [Store.rows, CatalogStmt.write, upserted_none hfind, withRow_insert? hins]
  | _ =>
      cases h
      rfl

theorem service_write {c : ServiceCall} {row : c.Resp} (h : c.answer o s = (.ok row, s')) :
    s'.rows = c.write s.rows row := by
  cases c <;> cases h <;> rfl

end

/-- **Every statement is journalled**: its entry says what it does to the rows. -/
theorem exec_write (o : Ambient) (c : Cmd) (s : Store) :
    (exec o c s).2.rows = Rows.write ⟨c, (exec o c s).1⟩ s.rows := by
  cases hout : exec o c s with
  | mk r s' =>
      cases r with
      | error e =>
          rw [exec_refused hout]
          cases c <;> rfl
      | ok row =>
          cases c with
          | now =>
              cases hout
              rfl
          | transaction c => exact transaction_write (exec_ok hout)
          | subscription c => exact subscription_write (exec_ok hout)
          | account c => exact account_write (exec_ok hout)
          | catalog c => exact catalog_write (exec_ok hout)
          | mediaAsset c => exact mediaAsset_write (exec_ok hout)
          | service c => exact service_write (exec_ok hout)

/-! ## Genres of a title -/

/-- An edit that gives the title other genres. -/
def replacesGenres (titleId : String) : Prog.Entry Sig → Bool
  | ⟨.catalog (.updateTitle id data), .ok _⟩ => id == titleId && data.genreIds.isSome
  | _ => false

/-- A title was created with the genre, or given it by an edit. -/
def connectsGenre (g : TitleGenre) : Prog.Entry Sig → Bool
  | ⟨.catalog (.createTitle _ _ _ _ genreIds), .ok row⟩ =>
      Title.id row == g.titleId && genreIds.contains g.genreId
  | ⟨.catalog (.updateTitle id data), .ok _⟩ =>
      id == g.titleId && data.genreIds.any fun genreIds => genreIds.contains g.genreId
  | _ => false

/-- A statement that writes `title_genres`. -/
def Cmd.writesTitleGenres : Cmd → Bool
  | .catalog (.createTitle _ _ _ _ _) | .catalog (.updateTitle _ _) => true
  | _ => false

theorem write_titleGenres {c : Cmd} (hc : c.writesTitleGenres = false)
    (r : Except Exception c.Resp) (d : Rows) :
    (Rows.write ⟨c, r⟩ d).titleGenres = d.titleGenres := by
  cases r with
  | error e => cases c <;> rfl
  | ok row =>
      cases c with
      | now => rfl
      | account c => cases c <;> rfl
      | subscription c => cases c <;> rfl
      | mediaAsset c => cases c <;> rfl
      | service c => cases c <;> rfl
      | catalog c => cases c <;> first | rfl | cases hc
      | transaction c =>
          cases c with
          | setProviderReference id ref =>
              simp only [Rows.write, TransactionStmt.write]
              split <;> rfl
          | markFailed id resolvedAt reason =>
              simp only [Rows.write, TransactionStmt.write]
              split <;> rfl
          | _ => rfl

theorem mem_titleGenreRows {g : TitleGenre} {titleId : String} {genreIds : List String} :
    g ∈ titleGenreRows titleId genreIds ↔ titleId = g.titleId ∧ g.genreId ∈ genreIds := by
  simp only [titleGenreRows, List.mem_map]
  constructor
  · rintro ⟨genreId, hmem, rfl⟩
    exact ⟨rfl, hmem⟩
  · rintro ⟨rfl, hmem⟩
    exact ⟨g.genreId, hmem, rfl⟩

section

variable {g : TitleGenre}

/-- A row goes only where an edit replaces the genres of its title. -/
theorem write_keeps_genre (e : Prog.Entry Sig) (d : Rows) (hg : g ∈ d.titleGenres) :
    g ∈ (Rows.write e d).titleGenres ∨ replacesGenres g.titleId e = true := by
  obtain ⟨c, r⟩ := e
  by_cases hc : c.writesTitleGenres = true
  · cases r with
    | error e => exact .inl (by cases c <;> exact hg)
    | ok row =>
        unfold Cmd.writesTitleGenres at hc
        split at hc
        · exact .inl (List.mem_append_left _ hg)
        · rename_i id data
          by_cases hreplaces : (id == g.titleId && data.genreIds.isSome) = true
          · exact .inr hreplaces
          · refine .inl ?_
            simp only [Rows.write, CatalogStmt.write]
            split
            · exact hg
            · rename_i genreIds hgenres
              have hother : id ≠ g.titleId := fun heq => hreplaces (by simp [heq, hgenres])
              exact List.mem_append_left _ (List.mem_filter.mpr ⟨hg, by simpa using hother.symm⟩)
        · cases hc
  · refine .inl ?_
    rw [write_titleGenres (by simpa using hc)]
    exact hg

/-- And comes only where a title is connected with the genre. -/
theorem write_adds_genre (e : Prog.Entry Sig) (d : Rows) (hg : ¬ g ∈ d.titleGenres) :
    ¬ g ∈ (Rows.write e d).titleGenres ∨ connectsGenre g e = true := by
  obtain ⟨c, r⟩ := e
  by_cases hc : c.writesTitleGenres = true
  · cases r with
    | error e => exact .inl (by cases c <;> exact hg)
    | ok row =>
        unfold Cmd.writesTitleGenres at hc
        split at hc
        · rename_i type name description posterUrl genreIds
          by_cases hconnects : connectsGenre g ⟨_, .ok row⟩ = true
          · exact .inr hconnects
          · refine .inl fun hmem => hconnects ?_
            obtain ⟨hid, hgenre⟩ :=
              mem_titleGenreRows.mp ((List.mem_append.mp hmem).resolve_left hg)
            simp [connectsGenre, hid, hgenre]
        · rename_i id data
          by_cases hconnects : connectsGenre g ⟨_, .ok row⟩ = true
          · exact .inr hconnects
          · refine .inl ?_
            simp only [Rows.write, CatalogStmt.write]
            split
            · exact hg
            · rename_i genreIds hgenres
              intro hmem
              rcases List.mem_append.mp hmem with hmem | hmem
              · exact hg (List.mem_filter.mp hmem).1
              · obtain ⟨rfl, hgenre⟩ := mem_titleGenreRows.mp hmem
                exact hconnects (by simp [connectsGenre, hgenres, hgenre])
        · cases hc
  · refine .inl ?_
    rw [write_titleGenres (by simpa using hc)]
    exact hg

end

/-! ## The guarantee -/

/-- The trace accounts for the database. -/
structure AccountsFor (tr : Trace) (s s' : Store) : Prop where
  /-- Every change of a row is one that an entry of the trace makes. -/
  replayed : s'.rows = replayed Rows.write tr s.rows
  /-- The rows found, and then the ones that accepted inserts answered, each in a later
  version. -/
  users : s'.users.rows = s.users.rows ++ rowsOf insertedUser tr
  refreshTokens : Table.Grows RefreshToken.Later (rowsOf created tr) s.refreshTokens s'.refreshTokens
  transactions :
    Table.Grows Transaction.Onward (rowsOf insertedTransaction tr) s.transactions s'.transactions
  subscriptions :
    s'.subscriptions.rows = s.subscriptions.rows ++ rowsOf insertedSubscription tr
  titles : Table.Grows Title.SameAs (rowsOf insertedTitle tr) s.titles s'.titles
  seasons : s'.seasons.rows = s.seasons.rows ++ rowsOf insertedSeason tr
  episodes : Table.Grows Episode.SameAs (rowsOf insertedEpisode tr) s.episodes s'.episodes
  /-- An upsert answers a row whether or not it is new. -/
  genres : ∃ new, new.Sublist (rowsOf upsertedGenre tr) ∧ s'.genres.rows = s.genres.rows ++ new
  mediaAssets : ∃ new, new.Sublist (rowsOf upsertedAsset tr) ∧
    Table.Grows MediaAsset.SameAs new s.mediaAssets s'.mediaAssets
  transcodeQueue : s'.transcodeQueue = s.transcodeQueue ++ rowsOf queuedJob tr
  genreKept : ∀ g ∈ s.titleGenres, g ∈ s'.titleGenres ∨
    ∃ tid e, Event.did tid e ∈ tr ∧ replacesGenres g.titleId e = true
  genreConnected : ∀ g ∈ s'.titleGenres, g ∈ s.titleGenres ∨
    ∃ tid e, Event.did tid e ∈ tr ∧ connectsGenre g e = true

/-- **The trace of every run accounts for the database**: replaying it gives the
database. Beside the genres of a title, which an edit may replace, nothing is deleted;
nothing is rewritten beyond what a later version may be, and nothing is there that
no accepted insert of the trace answered. -/
theorem trace_accounts_for_database {cfg : AppConfig} {a b : AppState}
    (hr : (app cfg).Run anyAction a b) :
    ∃ post, b.trace = post ++ a.trace ∧ AccountsFor post a.store b.store := by
  obtain ⟨post, htr, hrows⟩ := hr.journal Store.rows exec_write
  have same : ∀ post', b.trace = post' ++ a.trace → post' = post := fun post' h =>
    List.append_cancel_right (h.symm.trans htr)
  have run : ∀ {ρ : Type} [Indexed ρ] (T : Retained ρ),
      Table.Grows T.later (rowsOf T.inserted post) (T.table a.store) (T.table b.store) := by
    intro ρ _ T
    obtain ⟨post', htr', hgrows⟩ := T.run hr
    rwa [same post' htr'] at hgrows
  obtain ⟨post₁, htr₁, hqueue⟩ := queue_run hr
  obtain ⟨post₂, htr₂, genres, hgenres, hgrows⟩ := upserts_run Store.genres Eq.refl
    (fun _ _ _ => Eq.trans) (fun o c s => (exec_contentGrows o c s).genres) hr
  obtain ⟨post₃, htr₃, hassets⟩ := upserts_run Store.mediaAssets MediaAsset.SameAs.refl
    (fun _ _ _ => .trans) mediaAssets_grow hr
  rw [same post₁ htr₁] at hqueue
  rw [same post₂ htr₂] at hgenres
  rw [same post₃ htr₃] at hassets
  -- the genres of the titles, read off the replayed rows
  have htitleGenres : b.store.titleGenres.rows =
      (Lib.replayed Rows.write post a.store.rows).titleGenres := congrArg Rows.titleGenres hrows
  refine ⟨post, htr, ?_⟩
  exact {
    replayed := hrows
    users := Table.grows_eq_iff.mp (run retainedUsers)
    refreshTokens := run retainedTokens
    transactions := run retainedTransactions
    subscriptions := Table.grows_eq_iff.mp (run retainedSubscriptions)
    titles := run retainedTitles
    seasons := Table.grows_eq_iff.mp (run retainedSeasons)
    episodes := run retainedEpisodes
    genres := ⟨genres, hgenres, Table.grows_eq_iff.mp hgrows⟩
    mediaAssets := hassets
    transcodeQueue := hqueue
    genreKept := by
      intro g hg
      rw [← Table.mem_rows, htitleGenres]
      exact replayed_since (P := fun d : Rows => g ∈ d.titleGenres) write_keeps_genre hg post
    genreConnected := by
      intro g hg
      rw [← Table.mem_rows, htitleGenres] at hg
      by_contra hnone
      obtain ⟨hnew, hnone⟩ := not_or.mp hnone
      rcases replayed_since (s := a.store.rows) (P := fun d : Rows => ¬ g ∈ d.titleGenres)
        write_adds_genre hnew post with hgone | hconnected
      · exact hgone hg
      · exact hnone hconnected }

/-- A registration and an initiation: one user, one payment. -/
theorem trace_accounts_for_database_sample : ∃ b : AppState,
    AccountsFor b.trace .empty b.store ∧ b.store.users.rows.length = 1 ∧
      b.store.transactions.rows.length = 1 := by
  obtain ⟨b, hr, hb⟩ := Machine.exists_run_of_replay (m := app sampleConfig)
    (a := Machine.start .empty) anyAction (sampleRegistration ++ samplePush)
    (fun b => b.store.users.rows.length == 1 && b.store.transactions.rows.length == 1)
    (by decide +kernel)
  rw [Bool.and_eq_true, beq_iff_eq, beq_iff_eq] at hb
  obtain ⟨post, htr, h⟩ := trace_accounts_for_database hr
  refine ⟨b, ?_, hb⟩
  rw [show b.trace = post from htr.trans (List.append_nil _)]
  exact h

end StreamingService
