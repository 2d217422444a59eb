import StreamingService.Auth.Rotation
import StreamingService.Catalog.Contents
import StreamingService.Media.Assets
import StreamingService.Payments.Ledger
import StreamingService.Lib.Growth
import StreamingService.Lib.Journal

/-!
# Retention

What the backend keeps for good. No statement deletes a row of a user, a
token, a payment, a subscription or the catalog, and each of them has
columns nothing rewrites. So after a run these tables are those the run
found, followed by the rows its accepted inserts answered, in order and
each in a later version. `title_genres` is not one of them: an edit of a
title replaces its rows.
-/

namespace StreamingService

open Lib

/-! ## Versions of a row -/

/-- A later version of a payment: what it was created with stays, and what is
settled stays settled. -/
structure Transaction.Onward (t t' : Transaction) : Prop where
  same : t.SameAs t'
  settled : t.status ≠ .PENDING → t'.status ≠ .PENDING
  resolved : t.resolvedAt.isSome = true → t'.resolvedAt.isSome = true

theorem Transaction.Onward.refl (t : Transaction) : t.Onward t := ⟨.refl t, fun h => h, fun h => h⟩

theorem Transaction.Onward.trans {a b c : Transaction} (hab : a.Onward b) (hbc : b.Onward c) :
    a.Onward c :=
  ⟨hab.same.trans hbc.same, fun h => hbc.settled (hab.settled h),
    fun h => hbc.resolved (hab.resolved h)⟩

theorem Transaction.onward_refer (t : Transaction) (f : Option String → Option String) :
    t.Onward (t.refer f) := ⟨⟨rfl, rfl, rfl, rfl, rfl⟩, fun h => h, fun h => h⟩

theorem Transaction.onward_fail (t : Transaction) (resolvedAt : Millis)
    (f : Option String → Option String) : t.Onward (t.fail resolvedAt f) :=
  ⟨⟨rfl, rfl, rfl, rfl, rfl⟩, fun _ => by simp [Transaction.fail], fun _ => rfl⟩

theorem Transaction.onward_timeOut (t : Transaction) (resolvedAt : Millis) :
    t.Onward (t.timeOut resolvedAt) :=
  ⟨⟨rfl, rfl, rfl, rfl, rfl⟩, fun _ => by simp [Transaction.timeOut], fun _ => rfl⟩

theorem Transaction.onward_succeed (t : Transaction) (resolvedAt : Millis) :
    t.Onward (t.succeed resolvedAt) :=
  ⟨⟨rfl, rfl, rfl, rfl, rfl⟩, fun _ => by simp [Transaction.succeed], fun _ => rfl⟩

/-- What no statement changes about a title. -/
structure Title.SameAs (t t' : Title) : Prop where
  id : t'.id = t.id
  type : t'.type = t.type
  createdAt : t'.createdAt = t.createdAt

theorem Title.SameAs.refl (t : Title) : t.SameAs t := ⟨rfl, rfl, rfl⟩

theorem Title.SameAs.trans {a b c : Title} (hab : a.SameAs b) (hbc : b.SameAs c) : a.SameAs c :=
  ⟨hbc.id.trans hab.id, hbc.type.trans hab.type, hbc.createdAt.trans hab.createdAt⟩

/-- What no statement changes about an episode. -/
structure Episode.SameAs (x x' : Episode) : Prop where
  id : x'.id = x.id
  seasonId : x'.seasonId = x.seasonId
  number : x'.number = x.number

theorem Episode.SameAs.refl (x : Episode) : x.SameAs x := ⟨rfl, rfl, rfl⟩

theorem Episode.SameAs.trans {a b c : Episode} (hab : a.SameAs b) (hbc : b.SameAs c) :
    a.SameAs c :=
  ⟨hbc.id.trans hab.id, hbc.seasonId.trans hab.seasonId, hbc.number.trans hab.number⟩

/-! ## Tables that keep their rows -/

/-- A table no statement deletes from: every statement leaves its rows, each
in a later version, and adds the row it answers as inserted. -/
structure Retained (ρ : Type) [Indexed ρ] where
  table : Store → Table ρ
  inserted : Prog.Entry Sig → Option ρ
  later : ρ → ρ → Prop
  refl : ∀ r, later r r
  trans : ∀ a b c, later a b → later b c → later a c
  step : ∀ o c s, Table.Grows later (inserted ⟨c, (exec o c s).1⟩).toList (table s)
    (table (exec o c s).2)

/-- **A run** leaves the rows it found and the ones its trace has inserted. -/
theorem Retained.run {ρ : Type} [Indexed ρ] (T : Retained ρ) {cfg : AppConfig}
    {ok : AppState → Action Ambient Request → Prop} {a b : AppState} (hr : (app cfg).Run ok a b) :
    ∃ post, b.trace = post ++ a.trace ∧
      Table.Grows T.later (rowsOf T.inserted post) (T.table a.store) (T.table b.store) := by
  refine Machine.Run.keeps (I := fun s tr => ∃ post, tr = post ++ a.trace ∧
    Table.Grows T.later (rowsOf T.inserted post) (T.table a.store) (T.table s)) ?_ ?_
    ⟨[], rfl, .refl T.refl _⟩ hr
  · rintro s _ tid q ⟨post, rfl, h⟩
    exact ⟨.began tid q :: post, rfl, h⟩
  · rintro sys tid o c ⟨post, htr, h⟩ - -
    rw [htr]
    exact ⟨_ :: post, rfl, h.trans T.refl T.trans (T.step o c sys.store)⟩

/-! ## What one statement adds -/

def insertedUser : Prog.Entry Sig → Option User
  | ⟨.account (.createUser _ _), .ok row⟩ => some row
  | _ => none

def insertedTitle : Prog.Entry Sig → Option Title
  | ⟨.catalog (.createTitle _ _ _ _ _), .ok row⟩ => some row
  | _ => none

def insertedSeason : Prog.Entry Sig → Option Season
  | ⟨.catalog (.createSeason _ _), .ok row⟩ => some row
  | _ => none

def insertedEpisode : Prog.Entry Sig → Option Episode
  | ⟨.catalog (.createEpisode _ _ _ _), .ok row⟩ => some row
  | _ => none

def insertedTransaction : Prog.Entry Sig → Option Transaction
  | ⟨.transaction (.create _ _ _), .ok row⟩ => some row
  | _ => none

def insertedSubscription : Prog.Entry Sig → Option Subscription
  | ⟨.subscription (.commitActivation _ _ _ _ _), .ok row⟩ => some row
  | _ => none

/-- The genre an `upsert` has answered, new or not. -/
def upsertedGenre : Prog.Entry Sig → Option Genre
  | ⟨.catalog (.upsertGenre _), .ok row⟩ => some row
  | _ => none

/-- The asset an `upsert` has answered, new or not. -/
def upsertedAsset : Prog.Entry Sig → Option MediaAsset
  | ⟨.mediaAsset (.upsert _ _ _ _), .ok row⟩ => some row
  | _ => none

/-- The job an accepted `add` has queued. -/
def queuedJob : Prog.Entry Sig → Option TranscodeJobData
  | ⟨.service (.queueAdd job), .ok _⟩ => some job
  | _ => none

section

variable {o : Ambient} {c : Cmd} {s : Store}

/-- A statement grows a table when its answer does. -/
theorem grows_of_answer {ρ : Type} [Indexed ρ] {later : ρ → ρ → Prop} (table : Store → Table ρ)
    {inserted : Prog.Entry Sig → Option ρ} (hrefl : ∀ r, later r r)
    (hrefused : ∀ e, inserted ⟨c, .error e⟩ = none)
    (h : Table.Grows later (inserted ⟨c, (answer o c s).1⟩).toList (table s)
      (table (answer o c s).2)) :
    Table.Grows later (inserted ⟨c, (exec o c s).1⟩).toList (table s) (table (exec o c s).2) := by
  refine exec_cases (P := fun out => Table.Grows later (inserted ⟨c, out.1⟩).toList (table s)
    (table out.2)) (fun e => ?_) h
  rw [hrefused]
  exact .refl hrefl _

end

section

variable (o : Ambient) (c : Cmd) (s : Store)

theorem users_grow :
    Table.Grows Eq (insertedUser ⟨c, (exec o c s).1⟩).toList s.users (exec o c s).2.users := by
  have frame := exec_frame o s c
  cases c with
  | account c =>
      refine grows_of_answer Store.users Eq.refl (fun e => by cases c <;> rfl) ?_
      cases c with
      | createUser email passwordHash =>
          simp only [answer, AccountStmt.answer]
          split
          · exact .refl Eq.refl _
          · rename_i us hins
            exact .insert Eq.refl hins
      | revokeToken id revokedAt =>
          simp only [answer, AccountStmt.answer]
          split <;> exact .refl Eq.refl _
      | createToken userId tokenHash expiresAt =>
          simp only [answer, AccountStmt.answer]
          repeat' split
          all_goals exact .refl Eq.refl _
      | findToken tokenHash =>
          simp only [answer, AccountStmt.answer]
          split <;> exact .refl Eq.refl _
      | _ => exact .refl Eq.refl _
  | _ => exact .of_eq Eq.refl (frame.accounts (by simp)).1

theorem refreshTokens_grow :
    Table.Grows RefreshToken.Later (created ⟨c, (exec o c s).1⟩).toList s.refreshTokens
      (exec o c s).2.refreshTokens := by
  have frame := exec_frame o s c
  have quiet : Table.Grows RefreshToken.Later [] s.refreshTokens s.refreshTokens :=
    .refl RefreshToken.Later.refl _
  cases c with
  | account c =>
      refine grows_of_answer Store.refreshTokens RefreshToken.Later.refl
        (fun e => by cases c <;> rfl) ?_
      cases c with
      | createToken userId tokenHash expiresAt =>
          simp only [answer, AccountStmt.answer]
          split
          · exact quiet
          · split
            · exact quiet
            · split
              · exact quiet
              · rename_i rs hins
                exact .insert RefreshToken.Later.refl hins
      | revokeAllOfUser userId revokedAt =>
          exact .map RefreshToken.Later.refl (fun r => r.later_revoke revokedAt) rfl
      | revokeByHash tokenHash revokedAt =>
          exact .map RefreshToken.Later.refl (fun r => r.later_revoke revokedAt) rfl
      | revokeToken id revokedAt =>
          simp only [answer, AccountStmt.answer]
          split
          · exact quiet
          · exact .map RefreshToken.Later.refl (fun r => r.later_revoke revokedAt) rfl
      | createUser email passwordHash =>
          simp only [answer, AccountStmt.answer]
          split <;> exact quiet
      | findToken tokenHash =>
          simp only [answer, AccountStmt.answer]
          split <;> exact quiet
      | _ => exact quiet
  | _ => exact .of_eq RefreshToken.Later.refl (frame.accounts (by simp)).2

theorem transactions_grow :
    Table.Grows Transaction.Onward (insertedTransaction ⟨c, (exec o c s).1⟩).toList s.transactions
      (exec o c s).2.transactions := by
  have h := exec_ledger o c s
  generalize (⟨c, (exec o c s).1⟩ : Prog.Entry Sig) = e at h ⊢
  have onward : ∀ {f : Transaction → Transaction} {id : String}, RowUpdated s (exec o c s).2 id f →
      (∀ t : Transaction, t.Onward (f t)) →
      Table.Grows Transaction.Onward [] s.transactions (exec o c s).2.transactions :=
    fun hrows hf => .map Transaction.Onward.refl hf hrows
  cases h with
  | quiet hquiet hts _ =>
      have hnone : insertedTransaction e = none := by
        unfold insertedTransaction
        split
        · cases hquiet
        · rfl
      rw [hnone]
      exact .of_eq Transaction.Onward.refl hts
  | create _ _ hts _ => exact .insert Transaction.Onward.refl hts
  | refer _ _ _ hrows _ => exact onward hrows fun t => t.onward_refer _
  | fail _ _ _ hrows _ => exact onward hrows fun t => t.onward_fail _ _
  | timeOut _ _ hrows _ => exact onward hrows fun t => t.onward_timeOut _
  | activate _ _ _ hrows _ => exact onward hrows fun t => t.onward_succeed _

theorem subscriptions_grow :
    Table.Grows Eq (insertedSubscription ⟨c, (exec o c s).1⟩).toList s.subscriptions
      (exec o c s).2.subscriptions := by
  have h := exec_ledger o c s
  generalize (⟨c, (exec o c s).1⟩ : Prog.Entry Sig) = e at h ⊢
  cases h with
  | quiet hquiet _ hsubs =>
      have hnone : insertedSubscription e = none := by
        unfold insertedSubscription
        split
        · cases hquiet
        · rfl
      rw [hnone]
      exact .of_eq Eq.refl hsubs
  | create _ _ _ hsubs => exact .of_eq Eq.refl hsubs
  | refer _ _ _ _ hsubs => exact .of_eq Eq.refl hsubs
  | fail _ _ _ _ hsubs => exact .of_eq Eq.refl hsubs
  | timeOut _ _ _ hsubs => exact .of_eq Eq.refl hsubs
  | activate _ _ _ _ hsubs => exact .insert Eq.refl hsubs

/-- What a statement of the catalog adds to its tables. -/
structure ContentGrows (s : Store) (e : Prog.Entry Sig) (s' : Store) : Prop where
  titles : Table.Grows Title.SameAs (insertedTitle e).toList s.titles s'.titles
  seasons : Table.Grows Eq (insertedSeason e).toList s.seasons s'.seasons
  episodes : Table.Grows Episode.SameAs (insertedEpisode e).toList s.episodes s'.episodes
  genres : ∃ new, new.Sublist (upsertedGenre e).toList ∧ Table.Grows Eq new s.genres s'.genres

/-- A statement that touches none of the tables. -/
theorem ContentGrows.refl {e : Prog.Entry Sig} {s' : Store} (htitle : insertedTitle e = none)
    (hseason : insertedSeason e = none) (hepisode : insertedEpisode e = none)
    (ht : s'.titles = s.titles) (hx : s'.seasons = s.seasons) (he : s'.episodes = s.episodes)
    (hg : s'.genres = s.genres) : ContentGrows s e s' where
  titles := by
    rw [htitle]
    exact .of_eq Title.SameAs.refl ht
  seasons := by
    rw [hseason]
    exact .of_eq Eq.refl hx
  episodes := by
    rw [hepisode]
    exact .of_eq Episode.SameAs.refl he
  genres := ⟨[], List.nil_sublist _, .of_eq Eq.refl hg⟩

theorem catalog_grows (c : CatalogStmt) :
    ContentGrows s ⟨.catalog c, (c.answer o s).1⟩ (c.answer o s).2 := by
  have quiet : ∀ {e : Prog.Entry Sig}, insertedTitle e = none → insertedSeason e = none →
      insertedEpisode e = none → ContentGrows s e s := fun ht hx he =>
    .refl s ht hx he rfl rfl rfl rfl
  cases c with
  | createTitle type name description posterUrl genreIds =>
      simp only [CatalogStmt.answer]
      split
      · exact quiet rfl rfl rfl
      · rename_i ts hins
        split
        · exact quiet rfl rfl rfl
        · exact ⟨.insert Title.SameAs.refl hins, .refl Eq.refl _, .refl Episode.SameAs.refl _,
            [], List.nil_sublist _, .refl Eq.refl _⟩
  | updateTitle id data =>
      have applied : ∀ t : Title, t.SameAs (t.apply data) := fun t => ⟨rfl, rfl, rfl⟩
      simp only [CatalogStmt.answer]
      split
      · exact quiet rfl rfl rfl
      · split
        · exact ⟨.map Title.SameAs.refl applied rfl, .refl Eq.refl _,
            .refl Episode.SameAs.refl _, [], List.nil_sublist _, .refl Eq.refl _⟩
        · split
          · exact quiet rfl rfl rfl
          · exact ⟨.map Title.SameAs.refl applied rfl, .refl Eq.refl _,
              .refl Episode.SameAs.refl _, [], List.nil_sublist _, .refl Eq.refl _⟩
  | createSeason titleId number =>
      simp only [CatalogStmt.answer]
      split
      · exact quiet rfl rfl rfl
      · split
        · exact quiet rfl rfl rfl
        · rename_i xs hins
          exact ⟨.refl Title.SameAs.refl _, .insert Eq.refl hins, .refl Episode.SameAs.refl _,
            [], List.nil_sublist _, .refl Eq.refl _⟩
  | createEpisode seasonId number name description =>
      simp only [CatalogStmt.answer]
      split
      · exact quiet rfl rfl rfl
      · split
        · exact quiet rfl rfl rfl
        · rename_i es hins
          exact ⟨.refl Title.SameAs.refl _, .refl Eq.refl _, .insert Episode.SameAs.refl hins,
            [], List.nil_sublist _, .refl Eq.refl _⟩
  | updateEpisode id data =>
      have applied : ∀ x : Episode, x.SameAs (x.apply data) := fun x => ⟨rfl, rfl, rfl⟩
      simp only [CatalogStmt.answer]
      split
      · exact quiet rfl rfl rfl
      · exact ⟨.refl Title.SameAs.refl _, .refl Eq.refl _, .map Episode.SameAs.refl applied rfl,
          [], List.nil_sublist _, .refl Eq.refl _⟩
  | upsertGenre name =>
      simp only [CatalogStmt.answer]
      split
      · exact quiet rfl rfl rfl
      · split
        · exact quiet rfl rfl rfl
        · rename_i gs hins
          exact ⟨.refl Title.SameAs.refl _, .refl Eq.refl _, .refl Episode.SameAs.refl _,
            [_], List.Sublist.refl _, .insert Eq.refl hins⟩
  | _ => exact quiet rfl rfl rfl

/-- Beside the catalog, nothing touches the genres and their titles. -/
theorem genres_beside (hc : c.writes ≠ some .catalog) :
    (exec o c s).2.genres = s.genres ∧ (exec o c s).2.titleGenres = s.titleGenres := by
  refine exec_cases (P := fun out => out.2.genres = s.genres ∧ out.2.titleGenres = s.titleGenres)
    (fun _ => ⟨rfl, rfl⟩) ?_
  cases c with
  | now => exact ⟨rfl, rfl⟩
  | transaction c =>
      simp only [answer]
      rw [transaction_frame]
      exact ⟨rfl, rfl⟩
  | subscription c =>
      simp only [answer]
      rw [subscription_frame]
      exact ⟨rfl, rfl⟩
  | account c =>
      simp only [answer]
      rw [account_frame]
      exact ⟨rfl, rfl⟩
  | catalog c => exact absurd rfl hc
  | mediaAsset c =>
      simp only [answer]
      rw [mediaAsset_frame]
      exact ⟨rfl, rfl⟩
  | service c =>
      simp only [answer]
      rw [service_frame]
      exact ⟨rfl, rfl⟩

/-- **What one statement adds to the catalog.** -/
theorem exec_contentGrows : ContentGrows s ⟨c, (exec o c s).1⟩ (exec o c s).2 := by
  have frame := exec_frame o s c
  have genres := genres_beside o c s
  cases c with
  | catalog c =>
      refine exec_cases (P := fun out => ContentGrows s ⟨_, out.1⟩ out.2) (fun e => ?_)
        (catalog_grows o s c)
      cases c <;> exact .refl s rfl rfl rfl rfl rfl rfl rfl
  | _ =>
      obtain ⟨ht, hx, he⟩ := frame.catalog (by simp)
      exact .refl s rfl rfl rfl ht hx he (genres (by simp)).1

/-- Every statement keeps the assets where they are, and a new one is an `upsert`'s. -/
theorem mediaAssets_grow : ∃ new, new.Sublist (upsertedAsset ⟨c, (exec o c s).1⟩).toList ∧
    Table.Grows MediaAsset.SameAs new s.mediaAssets (exec o c s).2.mediaAssets := by
  have same : ∀ {e : Prog.Entry Sig} {assets : Table MediaAsset},
      Table.Grows MediaAsset.SameAs [] s.mediaAssets assets →
      ∃ new, new.Sublist (upsertedAsset e).toList ∧
        Table.Grows MediaAsset.SameAs new s.mediaAssets assets :=
    fun hgrows => ⟨[], List.nil_sublist _, hgrows⟩
  have quiet : Table.Grows MediaAsset.SameAs [] s.mediaAssets s.mediaAssets :=
    .refl MediaAsset.SameAs.refl _
  have updated : ∀ (id : String) (f : MediaAsset → MediaAsset) hf,
      (∀ a : MediaAsset, a.SameAs (f a)) → Table.Grows MediaAsset.SameAs [] s.mediaAssets
        (updateAsset s id f hf).2.mediaAssets := by
    intro id f hf hsame
    unfold updateAsset
    split
    · exact quiet
    · exact .map MediaAsset.SameAs.refl hsame rfl
  have frame := exec_frame o s c
  cases c with
  | mediaAsset c =>
      refine exec_cases (c := .mediaAsset c) (P := fun out => ∃ new,
        new.Sublist (upsertedAsset ⟨.mediaAsset c, out.1⟩).toList ∧
        Table.Grows MediaAsset.SameAs new s.mediaAssets out.2.mediaAssets) (fun _ => same quiet) ?_
      cases c with
      | findById id => exact same quiet
      | findByOwner ownerType ownerId kind => exact same quiet
      | resetToPending id => exact same (updated id _ _ fun _ => ⟨rfl, rfl, rfl, rfl⟩)
      | setTrailerReady id key => exact same (updated id _ _ fun _ => ⟨rfl, rfl, rfl, rfl⟩)
      | setReady id key => exact same (updated id _ _ fun _ => ⟨rfl, rfl, rfl, rfl⟩)
      | setFailed id reason => exact same (updated id _ _ fun _ => ⟨rfl, rfl, rfl, rfl⟩)
      | upsert ownerType ownerId kind sourceObjectKey =>
          have replaced : ∀ a : MediaAsset, a.SameAs (a.replaceSource sourceObjectKey) :=
            fun a => ⟨rfl, rfl, rfl, rfl⟩
          simp only [answer, MediaAssetStmt.answer]
          split
          · exact same (.map MediaAsset.SameAs.refl replaced rfl)
          · split
            · exact same quiet
            · rename_i as hins
              exact ⟨[_], List.Sublist.refl _, .insert MediaAsset.SameAs.refl hins⟩
  | _ => exact same (.of_eq MediaAsset.SameAs.refl (frame.mediaAssets (by simp)))

theorem queue_grows :
    (exec o c s).2.transcodeQueue = s.transcodeQueue ++ (queuedJob ⟨c, (exec o c s).1⟩).toList := by
  have quiet : s.transcodeQueue = s.transcodeQueue ++ (none : Option TranscodeJobData).toList :=
    (List.append_nil _).symm
  have frame := exec_frame o s c
  cases c with
  | service c =>
      refine exec_cases (P := fun out => out.2.transcodeQueue =
        s.transcodeQueue ++ (queuedJob ⟨_, out.1⟩).toList) (fun e => ?_) ?_
      · cases c <;> exact quiet
      · cases c <;> first | rfl | exact quiet
  | _ => exact (frame.transcodeQueue (by simp)).trans quiet

end

/-! ## Over a run -/

def retainedUsers : Retained User where
  table := Store.users
  inserted := insertedUser
  later := Eq
  refl := Eq.refl
  trans _ _ _ := Eq.trans
  step := users_grow

def retainedTokens : Retained RefreshToken where
  table := Store.refreshTokens
  inserted := created
  later := RefreshToken.Later
  refl := RefreshToken.Later.refl
  trans _ _ _ := RefreshToken.Later.trans
  step := refreshTokens_grow

def retainedTransactions : Retained Transaction where
  table := Store.transactions
  inserted := insertedTransaction
  later := Transaction.Onward
  refl := Transaction.Onward.refl
  trans _ _ _ := Transaction.Onward.trans
  step := transactions_grow

def retainedSubscriptions : Retained Subscription where
  table := Store.subscriptions
  inserted := insertedSubscription
  later := Eq
  refl := Eq.refl
  trans _ _ _ := Eq.trans
  step := subscriptions_grow

def retainedTitles : Retained Title where
  table := Store.titles
  inserted := insertedTitle
  later := Title.SameAs
  refl := Title.SameAs.refl
  trans _ _ _ := Title.SameAs.trans
  step o c s := (exec_contentGrows o c s).titles

def retainedSeasons : Retained Season where
  table := Store.seasons
  inserted := insertedSeason
  later := Eq
  refl := Eq.refl
  trans _ _ _ := Eq.trans
  step o c s := (exec_contentGrows o c s).seasons

def retainedEpisodes : Retained Episode where
  table := Store.episodes
  inserted := insertedEpisode
  later := Episode.SameAs
  refl := Episode.SameAs.refl
  trans _ _ _ := Episode.SameAs.trans
  step o c s := (exec_contentGrows o c s).episodes

section

variable {cfg : AppConfig} {ok : AppState → Action Ambient Request → Prop} {a b : AppState}

/-- A table whose rows are kept, and whose new ones `upsert`s have answered. -/
theorem upserts_run {ρ : Type} [Indexed ρ] {later : ρ → ρ → Prop} (table : Store → Table ρ)
    {upserted : Prog.Entry Sig → Option ρ} (hrefl : ∀ r, later r r)
    (htrans : ∀ a b c, later a b → later b c → later a c)
    (hstep : ∀ o c s, ∃ new, new.Sublist (upserted ⟨c, (exec o c s).1⟩).toList ∧
      Table.Grows later new (table s) (table (exec o c s).2))
    (hr : (app cfg).Run ok a b) :
    ∃ post, b.trace = post ++ a.trace ∧ ∃ new, new.Sublist (rowsOf upserted post) ∧
      Table.Grows later new (table a.store) (table b.store) := by
  refine Machine.Run.keeps (m := app cfg) (I := fun s tr => ∃ post, tr = post ++ a.trace ∧
    ∃ new, new.Sublist (rowsOf upserted post) ∧ Table.Grows later new (table a.store) (table s))
    ?_ ?_ ⟨[], rfl, [], List.nil_sublist _, .refl hrefl _⟩ hr
  · rintro s _ tid q ⟨post, rfl, h⟩
    exact ⟨.began tid q :: post, rfl, h⟩
  · rintro sys tid o c ⟨post, htr, new, hsub, h⟩ - -
    obtain ⟨new', hsub', h'⟩ := hstep o c sys.store
    rw [htr]
    exact ⟨_ :: post, rfl, new ++ new', hsub.append hsub', h.trans hrefl htrans h'⟩

theorem queue_run (hr : (app cfg).Run ok a b) : ∃ post, b.trace = post ++ a.trace ∧
    b.store.transcodeQueue = a.store.transcodeQueue ++ rowsOf queuedJob post := by
  refine Machine.Run.keeps (m := app cfg) (I := fun s tr => ∃ post, tr = post ++ a.trace ∧
    s.transcodeQueue = a.store.transcodeQueue ++ rowsOf queuedJob post) ?_ ?_
    ⟨[], rfl, (List.append_nil _).symm⟩ hr
  · rintro s _ tid q ⟨post, rfl, h⟩
    exact ⟨.began tid q :: post, rfl, h⟩
  · rintro sys tid o c ⟨post, htr, h⟩ - -
    rw [htr]
    refine ⟨_ :: post, rfl, ?_⟩
    show (exec o c sys.store).2.transcodeQueue = _
    rw [queue_grows, h, List.append_assoc]
    rfl

end

end StreamingService
