import StreamingService.Accountability
import StreamingService.Auth.Authority
import StreamingService.Catalog.Genres
import StreamingService.Catalog.Structure
import StreamingService.Lib.References

/-!
# Integrity

The references between the tables. Those the schema declares are foreign
keys, which the database checks; that an asset has its owner, that a job has
its asset and that a subscription is the payer's is left to the handlers,
which look the row up before they name it. Every state of every run is
intact, and while access tokens are genuine no statement is ever refused for
a missing row.
-/

namespace StreamingService

open Lib

/-! ## The references -/

/-- Every reference of the database names a stored row. -/
structure Store.Intact (s : Store) : Prop where
  tokenUser : Table.Refers RefreshToken.userId User.id s.refreshTokens s.users
  transactionUser : Table.Refers Transaction.userId User.id s.transactions s.users
  subscriptionUser : Table.Refers Subscription.userId User.id s.subscriptions s.users
  /-- The transaction a subscription names is its user's own. -/
  subscriptionTransaction : Table.Refers (fun x => (x.transactionId, x.userId))
    (fun t => (t.id, t.userId)) s.subscriptions s.transactions
  seasonTitle : Table.Refers Season.titleId Title.id s.seasons s.titles
  episodeSeason : Table.Refers Episode.seasonId Season.id s.episodes s.seasons
  linkTitle : Table.Refers TitleGenre.titleId Title.id s.titleGenres s.titles
  linkGenre : Table.Refers TitleGenre.genreId Genre.id s.titleGenres s.genres
  assetOwner : ∀ a ∈ s.mediaAssets, StoredOwner s a.ownerType a.ownerId
  jobAsset : ∀ job ∈ s.transcodeQueue, NamesFull s job

theorem Store.Intact.empty : Store.empty.Intact where
  tokenUser := .empty
  transactionUser := .empty
  subscriptionUser := .empty
  subscriptionTransaction := .empty
  seasonTitle := .empty
  episodeSeason := .empty
  linkTitle := .empty
  linkGenre := .empty
  assetOwner := by
    intro a ha
    cases ha
  jobAsset := by
    intro job hjob
    cases hjob

/-! ## What a statement refers to -/

/-- The genres a statement connects a title to. -/
def Cmd.genreIds : Cmd → List String
  | .catalog (.createTitle _ _ _ _ genreIds) => genreIds
  | .catalog (.updateTitle _ data) => data.genreIds.getD []
  | _ => []

/-- The foreign keys that an insert is checked against are stored. -/
def KeysStored (s : Store) : Cmd → Prop
  | .account (.createToken userId _ _) => s.users.Holds User.id userId
  | .transaction (.create userId _ _) => s.users.Holds User.id userId
  | .subscription (.commitActivation _ userId _ _ _) => s.users.Holds User.id userId
  | .catalog (.createSeason titleId _) => s.titles.Holds Title.id titleId
  | .catalog (.createEpisode seasonId _ _ _) => s.seasons.Holds Season.id seasonId
  | _ => True

/-- The references that the handlers answer for. -/
structure Enforced (s : Store) (c : Cmd) : Prop where
  genres : ∀ id ∈ c.genreIds, s.genres.Holds Genre.id id
  payer : ∀ id owner resolvedAt startAt expiresAt,
    c = .subscription (.commitActivation id owner resolvedAt startAt expiresAt) →
      s.transactions.Holds (fun t => (t.id, t.userId)) (id, owner)
  owner : ∀ ownerType ownerId kind key,
    c = .mediaAsset (.upsert ownerType ownerId kind key) → StoredOwner s ownerType ownerId
  asset : ∀ job, c = .service (.queueAdd job) → NamesFull s job

section

variable {o : Ambient} {c : Cmd} {s : Store}

/-- A user who is found is stored. -/
theorem holds_of_find {ρ : Type} [Indexed ρ] {t : Table ρ} {id : ρ → String} {key : String} {x : ρ}
    (h : (t.find? fun x => id x == key) = some x) : t.Holds id key := by
  obtain ⟨hx, hid⟩ := Table.mem_of_find? h
  exact ⟨x, hx, beq_iff_eq.mp hid⟩

theorem find_of_holds {ρ : Type} [Indexed ρ] {t : Table ρ} {id : ρ → String} {key : String}
    (h : t.Holds id key) : (t.find? fun x => id x == key) ≠ none := by
  obtain ⟨x, hx, rfl⟩ := h
  intro hnone
  have hne := Table.find?_eq_none.mp hnone x hx
  rw [beq_self_eq_true] at hne
  cases hne

/-! The refusals, one kind of statement at a time. -/

theorem account_violates {c : AccountStmt}
    (h : (c.answer o s).1 = .error (.prisma .foreignKeyViolation)) : ¬ KeysStored s (.account c) := by
  cases c <;> simp only [AccountStmt.answer, refuse] at h <;> (repeat' split at h) <;> cases h
  exact fun hkey => find_of_holds hkey ‹_›

theorem transaction_violates {c : TransactionStmt}
    (h : (c.answer o s).1 = .error (.prisma .foreignKeyViolation)) :
    ¬ KeysStored s (.transaction c) := by
  cases c <;> simp only [TransactionStmt.answer, updateTransaction, refuse] at h <;>
    (repeat' split at h) <;> cases h
  exact fun hkey => find_of_holds hkey ‹_›

theorem subscription_violates {c : SubscriptionStmt}
    (h : (c.answer o s).1 = .error (.prisma .foreignKeyViolation)) :
    ¬ KeysStored s (.subscription c) := by
  cases c <;> simp only [SubscriptionStmt.answer, refuse] at h <;> (repeat' split at h) <;> cases h
  exact fun hkey => find_of_holds hkey ‹s.users.find? _ = none›

theorem catalog_violates {c : CatalogStmt}
    (h : (c.answer o s).1 = .error (.prisma .foreignKeyViolation)) : ¬ KeysStored s (.catalog c) := by
  cases c <;> simp only [CatalogStmt.answer, refuse] at h <;> (repeat' split at h) <;> cases h
  · exact fun hkey => find_of_holds hkey ‹_›
  · exact fun hkey => find_of_holds hkey ‹_›

theorem mediaAsset_violates {c : MediaAssetStmt}
    (h : (c.answer o s).1 = .error (.prisma .foreignKeyViolation)) : False := by
  cases c <;> simp only [MediaAssetStmt.answer, updateAsset, refuse] at h <;>
    (repeat' split at h) <;> cases h

/-- **A statement whose foreign keys are stored is not refused for one.** -/
theorem KeysStored.not_refused (h : KeysStored s c)
    (ho : o.fault ≠ some (.prisma .foreignKeyViolation)) :
    (exec o c s).1 ≠ .error (.prisma .foreignKeyViolation) := by
  cases hf : o.fault with
  | some e =>
      intro herror
      by_cases hc : c = .now
      · subst hc
        cases herror
      · rw [exec_fault hf c s hc] at herror
        cases herror
        exact ho hf
  | none =>
      rw [exec_answer hf]
      intro herror
      cases c with
      | account c => exact account_violates herror h
      | transaction c => exact transaction_violates herror h
      | subscription c => exact subscription_violates herror h
      | catalog c => exact catalog_violates herror h
      | mediaAsset c => exact mediaAsset_violates herror
      | service c => cases c <;> cases herror
      | now => cases herror

end

/-! ## What a new row refers to -/

section

variable (o : Ambient) (c : Cmd) (s : Store)

theorem created_user {row : RefreshToken} (h : created ⟨c, (exec o c s).1⟩ = some row) :
    s.users.Holds User.id row.userId := by
  obtain ⟨userId, hash, expiresAt, heq⟩ := created_cases h
  obtain ⟨rfl, hr⟩ := Sigma.mk.inj_iff.mp heq
  have hok := eq_of_heq hr
  rw [exec_of_ok hok] at hok
  simp only [answer, AccountStmt.answer, refuse] at hok
  (repeat' split at hok) <;> cases hok
  exact holds_of_find ‹_›

theorem insertedTransaction_user {row : Transaction}
    (h : insertedTransaction ⟨c, (exec o c s).1⟩ = some row) : s.users.Holds User.id row.userId := by
  unfold insertedTransaction at h
  split at h
  · rename_i heq
    obtain ⟨rfl, hr⟩ := Sigma.mk.inj_iff.mp heq
    have hok := eq_of_heq hr
    rw [exec_of_ok hok] at hok
    simp only [answer, TransactionStmt.answer, refuse] at hok
    cases h
    (repeat' split at hok) <;> cases hok
    exact holds_of_find ‹_›
  · cases h

/-- A subscription belongs to the user its activation names, for the
transaction it names. -/
theorem insertedSubscription_links {row : Subscription}
    (h : insertedSubscription ⟨c, (exec o c s).1⟩ = some row) :
    s.users.Holds User.id row.userId ∧ ∃ resolvedAt startAt expiresAt, c = .subscription
      (.commitActivation row.transactionId row.userId resolvedAt startAt expiresAt) := by
  unfold insertedSubscription at h
  split at h
  · rename_i heq
    obtain ⟨rfl, hr⟩ := Sigma.mk.inj_iff.mp heq
    have hok := eq_of_heq hr
    rw [exec_of_ok hok] at hok
    simp only [answer, SubscriptionStmt.answer, refuse] at hok
    cases h
    (repeat' split at hok) <;> cases hok
    exact ⟨holds_of_find ‹s.users.find? _ = _›, _, _, _, rfl⟩
  · cases h

theorem insertedSeason_title {row : Season}
    (h : insertedSeason ⟨c, (exec o c s).1⟩ = some row) : s.titles.Holds Title.id row.titleId := by
  unfold insertedSeason at h
  split at h
  · rename_i heq
    obtain ⟨rfl, hr⟩ := Sigma.mk.inj_iff.mp heq
    have hok := eq_of_heq hr
    rw [exec_of_ok hok] at hok
    simp only [answer, CatalogStmt.answer, refuse] at hok
    cases h
    (repeat' split at hok) <;> cases hok
    exact holds_of_find ‹_›
  · cases h

theorem insertedEpisode_season {row : Episode}
    (h : insertedEpisode ⟨c, (exec o c s).1⟩ = some row) : s.seasons.Holds Season.id row.seasonId := by
  unfold insertedEpisode at h
  split at h
  · rename_i heq
    obtain ⟨rfl, hr⟩ := Sigma.mk.inj_iff.mp heq
    have hok := eq_of_heq hr
    rw [exec_of_ok hok] at hok
    simp only [answer, CatalogStmt.answer, refuse] at hok
    cases h
    (repeat' split at hok) <;> cases hok
    exact holds_of_find ‹_›
  · cases h

theorem title_id (t t' : Title) (h : t.SameAs t') : t'.id = t.id := h.id

/-- A link that was not there is one the statement makes, from a title that is
stored then. -/
theorem exec_titleGenres {g : TitleGenre} (hg : g ∈ (exec o c s).2.titleGenres) :
    g ∈ s.titleGenres ∨
      (g.genreId ∈ c.genreIds ∧ (exec o c s).2.titles.Holds Title.id g.titleId) := by
  have beside := genres_beside o c s
  cases c with
  | catalog c =>
      revert hg
      apply exec_cases (P := fun out => g ∈ out.2.titleGenres → g ∈ s.titleGenres ∨
        (g.genreId ∈ (Cmd.catalog c).genreIds ∧ out.2.titles.Holds Title.id g.titleId)) fun _ => .inl
      cases c with
      | createTitle type name description posterUrl genreIds =>
          simp only [answer, CatalogStmt.answer]
          split
          · exact .inl
          · rename_i ts hins
            split
            · exact .inl
            · rename_i gs hlinks
              intro hg
              rw [← Table.mem_rows, Table.insertMany?_eq_some hlinks] at hg
              rcases List.mem_append.mp hg with hg | hg
              · exact .inl hg
              · obtain ⟨genreId, hgenre, rfl⟩ := List.mem_map.mp hg
                exact .inr ⟨hgenre, _, (Table.mem_insert? hins).mpr (.inr rfl), rfl⟩
      | updateTitle id data =>
          simp only [answer, CatalogStmt.answer]
          split
          · exact .inl
          · rename_i t ht
            split
            · exact .inl
            · rename_i genreIds hdata
              split
              · exact .inl
              · rename_i gs hlinks
                intro hg
                rw [← Table.mem_rows, Table.insertMany?_eq_some hlinks] at hg
                rcases List.mem_append.mp hg with hg | hg
                · exact .inl (List.mem_filter.mp hg).1
                · obtain ⟨genreId, hgenre, rfl⟩ := List.mem_map.mp hg
                  refine .inr ⟨by simpa [Cmd.genreIds, hdata] using hgenre, ?_⟩
                  have hgrows : Table.Grows Title.SameAs [] s.titles
                      (s.titles.update (fun t => t.id == id) (.apply data) fun _ _ => rfl) :=
                    .map Title.SameAs.refl (f := .apply data) (fun t => ⟨rfl, rfl, rfl⟩) rfl
                  exact (holds_of_find ht).grow title_id hgrows
      | createSeason titleId number =>
          simp only [answer, CatalogStmt.answer]
          repeat' split
          all_goals exact .inl
      | createEpisode seasonId number name description =>
          simp only [answer, CatalogStmt.answer]
          repeat' split
          all_goals exact .inl
      | updateEpisode id data =>
          simp only [answer, CatalogStmt.answer]
          split
          all_goals exact .inl
      | upsertGenre name =>
          simp only [answer, CatalogStmt.answer]
          repeat' split
          all_goals exact .inl
      | _ => exact .inl
  | _ =>
      rw [(beside (by simp)).2] at hg
      exact .inl hg

end

/-! ## One statement -/

/-- **Every statement leaves the references intact**, whose handler has looked up
what the database does not check. -/
theorem Store.Intact.did {s : Store} (h : s.Intact) (o : Ambient) {c : Cmd} (hc : Enforced s c) :
    (exec o c s).2.Intact := by
  have users := users_grow o c s
  have transactions := transactions_grow o c s
  have subscriptions := subscriptions_grow o c s
  have contents := exec_contentGrows o c s
  have hstep := exec_contents o c s
  have user : ∀ u u' : User, u = u' → u'.id = u.id := by
    rintro u _ rfl
    rfl
  constructor
  case tokenUser =>
    refine h.tokenUser.grow (fun _ _ (h : RefreshToken.Later _ _) => h.userId) user
      (refreshTokens_grow o c s) users fun row hrow => ?_
    exact created_user o c s (Option.mem_toList.mp hrow)
  case transactionUser =>
    refine h.transactionUser.grow (fun _ _ (h : Transaction.Onward _ _) => h.same.userId) user
      transactions users fun row hrow => ?_
    exact insertedTransaction_user o c s (Option.mem_toList.mp hrow)
  case subscriptionUser =>
    refine h.subscriptionUser.grow (fun _ _ (h : _ = _) => by rw [h]) user subscriptions users
      fun row hrow => ?_
    exact (insertedSubscription_links o c s (Option.mem_toList.mp hrow)).1
  case subscriptionTransaction =>
    refine h.subscriptionTransaction.grow (fun _ _ (h : _ = _) => by rw [h])
      (fun _ _ (h : Transaction.Onward _ _) => by rw [h.same.id, h.same.userId]) subscriptions
      transactions fun row hrow => ?_
    obtain ⟨-, resolvedAt, startAt, expiresAt, hactivates⟩ :=
      insertedSubscription_links o c s (Option.mem_toList.mp hrow)
    exact hc.payer _ _ _ _ _ hactivates
  case seasonTitle =>
    refine h.seasonTitle.grow (fun _ _ (h : _ = _) => by rw [h]) title_id contents.seasons contents.titles fun row hrow => ?_
    exact insertedSeason_title o c s (Option.mem_toList.mp hrow)
  case episodeSeason =>
    refine h.episodeSeason.grow (fun _ _ (h : Episode.SameAs _ _) => h.seasonId)
      (fun _ _ (h : _ = _) => by rw [h]) contents.episodes contents.seasons fun row hrow => ?_
    exact insertedEpisode_season o c s (Option.mem_toList.mp hrow)
  case linkTitle =>
    intro g hg
    rcases exec_titleGenres o c s hg with hg | ⟨-, htitle⟩
    · exact (h.linkTitle g hg).grow title_id contents.titles
    · exact htitle
  case linkGenre =>
    obtain ⟨new, -, genres⟩ := contents.genres
    intro g hg
    have hgenre : s.genres.Holds Genre.id g.genreId := by
      rcases exec_titleGenres o c s hg with hg | ⟨hmem, -⟩
      · exact h.linkGenre g hg
      · exact hc.genres _ hmem
    exact hgenre.grow (fun _ _ (h : _ = _) => by rw [h]) genres
  case assetOwner =>
    intro a' ha'
    rcases exec_assetOwner o c s ha' with ⟨a, ha, hsame⟩ | ⟨key, he⟩
    · rw [hsame.ownerType, hsame.ownerId]
      exact (h.assetOwner a ha).mono hstep
    · exact (hc.owner _ _ _ _ (Sigma.mk.inj_iff.mp he).1).mono hstep
  case jobAsset =>
    intro job hjob
    refine NamesFull.mono ?_ (exec_assetsKept o c s)
    rcases exec_queue o c s hjob with hjob | hadd
    · exact h.jobAsset job hjob
    · exact hc.asset job hadd

/-! ## What the handlers look up -/

section

variable {h : List (Prog.Entry Sig)}

/-- Every one of the genre ids was answered by an upsert. -/
def GenresRead (h : List (Prog.Entry Sig)) (ids : List String) : Prop :=
  ∀ id ∈ ids, ∃ name, ∃ g : Genre,
    (⟨.catalog (.upsertGenre name), .ok g⟩ : Prog.Entry Sig) ∈ h ∧ g.id = id

/-- What a statement that names a season or genres owes to the ones before it. -/
def LinkStep (h : List (Prog.Entry Sig)) (e : Prog.Entry Sig) : Prop :=
  match e.1 with
  | .catalog (.createEpisode seasonId _ _ _) => ∃ x : Season,
      (⟨.catalog (.findSeason seasonId), .ok (some x)⟩ : Prog.Entry Sig) ∈ h
  | c => GenresRead h c.genreIds

theorem GenresRead.mono {ids : List String} {h' : List (Prog.Entry Sig)} (hread : GenresRead h ids)
    (hsub : ∀ e ∈ h, e ∈ h') : GenresRead h' ids := by
  intro id hid
  obtain ⟨name, g, hg, heq⟩ := hread id hid
  exact ⟨name, g, hsub _ hg, heq⟩

theorem GenresRead.nil : GenresRead h [] := by
  intro id hid
  cases hid

/-- The upserts have answered these ids for these names. -/
def GenresNamed (h : List (Prog.Entry Sig)) (names ids : List String) : Prop :=
  List.Forall₂ (fun name id => ∃ g : Genre,
    (⟨.catalog (.upsertGenre name), .ok g⟩ : Prog.Entry Sig) ∈ h ∧ g.id = id) names ids

theorem GenresNamed.read {names ids : List String} (hnamed : GenresNamed h names ids) :
    GenresRead h ids := by
  induction hnamed with
  | nil => exact .nil
  | @cons name id names ids hg _ ih =>
      intro id' hid
      rcases List.mem_cons.mp hid with rfl | hid
      · obtain ⟨g, hg, rfl⟩ := hg
        exact ⟨name, g, hg, rfl⟩
      · exact ih id' hid

open AdminTitlesService in
/-- The loop answers the ids of the names, under any condition its upserts meet. -/
theorem resolveGenres_names {P : List (Prog.Entry Sig) → Prog.Entry Sig → Prop}
    (hP : ∀ h name r, P h ⟨.catalog (.upsertGenre name), r⟩) (names : List String) :
    (resolveGenres names).Emits P (fun r h' => ∀ ids, r = .ok ids → GenresNamed h' names ids) h := by
  induction names generalizing h with
  | nil =>
      intro ids hids
      cases hids
      exact .nil
  | cons name rest ih =>
      refine .perform_bind (fun (genre : Genre) => ⟨hP _ _ _, ?_⟩)
        fun e => ⟨hP _ _ _, fun _ hr => by cases hr⟩
      refine .bind (Prog.Emits.grows ih) (fun ids h' hnamed => ?_) fun e h' _ _ hr => by cases hr
      obtain ⟨hnamed, hsub⟩ := hnamed
      intro ids' hids
      cases hids
      exact .cons ⟨genre, hsub _ List.mem_cons_self, rfl⟩ (hnamed ids rfl)

/-- A statement that names neither a season nor a genre. -/
def Cmd.links : Cmd → Bool
  | .catalog (.createEpisode _ _ _ _) | .catalog (.createTitle _ _ _ _ _) => true
  | .catalog (.updateTitle _ _) => true
  | _ => false

theorem LinkStep.of_unlinked {e : Prog.Entry Sig} (he : e.1.links = false) : LinkStep h e := by
  obtain ⟨c, r⟩ := e
  cases c with
  | catalog c => cases c <;> first | exact .nil | exact Bool.noConfusion he
  | _ => exact .nil

open AdminTitlesService in
theorem canPublish_links (titleId : String) (type : TitleType) :
    (canPublish titleId type).Emits LinkStep (fun _ h' => ∀ e ∈ h, e ∈ h') h := by
  have calls : (canPublish titleId type).Calls fun c : Cmd => c.links = false :=
    canPublish_admitted (A := fun c => c.links = false) (asks_admitted fun _ _ _ => rfl) rfl type
  exact (Prog.Emits.grows (Q := fun _ _ => True)
    (.of_calls calls (fun _ _ hc => .of_unlinked hc) fun _ _ => trivial)).mono
      (fun _ _ hstep => hstep) fun _ _ hend => hend.2

open AdminTitlesService in
theorem updateTitle_links (titleId : String) (dto : UpdateTitleDto) :
    (updateTitle titleId dto).Emits LinkStep (fun _ _ => True) h := by
  refine .perform_bind (fun title => ⟨.nil, ?_⟩) fun e => ⟨.nil, trivial⟩
  cases title with
  | none => trivial
  | some title =>
      -- the guard's branch and the other one go on to the same two statements
      have written : ∀ h : List (Prog.Entry Sig), (writeUpdate titleId dto).Emits LinkStep
          (fun _ _ => True) h := by
        intro h
        refine .bind (Q := fun (r : Except Exception (Option (List String))) h' =>
          ∀ ids, r = .ok ids → GenresRead h' (ids.getD [])) ?_
          (fun genreIds h hread r => ⟨hread genreIds rfl, trivial⟩) fun _ _ _ => trivial
        cases dto.genres with
        | none =>
            intro ids hids
            cases hids
            exact .nil
        | some names =>
            refine .bind (resolveGenres_names (fun _ _ _ => .nil) names) (fun ids h' hnamed => ?_)
              fun e h' _ _ hr => by cases hr
            intro ids' hids
            cases hids
            exact (hnamed ids rfl).read
      refine .ite (fun _ => ?_) fun _ => written _
      refine .bind (canPublish_links titleId title.type) (fun publishable h _ => ?_)
        fun _ _ _ => trivial
      exact .ite (fun _ => trivial) fun _ => written h

/-- **The path of every request** to a season or genres. -/
theorem link_steps (cfg : AppConfig) (q : Request) :
    (handle cfg q).Emits LinkStep (fun _ _ => True) [] := by
  have guard : ∀ user, (adminGuard user).Emits LinkStep (fun _ _ => True) [] := fun user =>
    .of_calls (A := fun _ => False) (adminGuard_calls user) (fun _ _ hc => hc.elim) fun _ _ => trivial
  have other (hq : ∀ c : Cmd, Reaches q c → c.links = false) :
      (handle cfg q).Emits LinkStep (fun _ _ => True) [] :=
    .of_calls (handle_reaches cfg q) (fun _ _ hc => .of_unlinked (hq _ hc)) fun _ _ => trivial
  cases q with
  | createTitle user dto =>
      refine .bind (guard user) (fun _ h _ => ?_) fun _ _ _ => trivial
      refine .bind (Q := fun _ _ => True) ?_ (fun _ _ _ => trivial) fun _ _ _ => trivial
      refine .bind (resolveGenres_names (fun _ _ _ => .nil) dto.genres) (fun ids h hnamed => ?_)
        fun _ _ _ => trivial
      exact fun r => ⟨(hnamed ids rfl).read, trivial⟩
  | updateTitle user titleId dto =>
      refine .bind (guard user) (fun _ h _ => ?_) fun _ _ _ => trivial
      exact .bind (updateTitle_links titleId dto) (fun _ _ _ => trivial) fun _ _ _ => trivial
  | createEpisode user seasonId dto =>
      refine .bind (guard user) (fun _ h _ => ?_) fun _ _ _ => trivial
      refine .bind (Q := fun _ _ => True) ?_ (fun _ _ _ => trivial) fun _ _ _ => trivial
      refine .perform_bind (fun season => ⟨.nil, ?_⟩) fun e => ⟨.nil, trivial⟩
      cases season with
      | none => trivial
      | some x => exact fun r => ⟨⟨x, List.mem_cons_self⟩, trivial⟩
  | _ =>
      refine other fun c hc => ?_
      unfold Cmd.links
      split
      all_goals first
        | rfl
        | cases hc
        | cases (Bool.and_eq_true_iff.mp hc).2

end

/-! ## Over a run -/

/-- A lookup that answers a season, and an upsert that answers a genre, say that
it is stored. -/
def LinkAnswer (s : Store) : Prog.Entry Sig → Prop
  | ⟨.catalog (.findSeason id), .ok (some _)⟩ => s.seasons.Holds Season.id id
  | ⟨.catalog (.upsertGenre name), .ok (g : Genre)⟩ => g ∈ s.genres ∧ g.name = name
  | _ => True

theorem linkAnswer_error (s : Store) (c : Cmd) (e : Exception) : LinkAnswer s ⟨c, .error e⟩ := by
  cases c with
  | catalog c => cases c <;> trivial
  | _ => trivial

theorem exec_linkAnswer (o : Ambient) (c : Cmd) (s : Store) :
    LinkAnswer (exec o c s).2 ⟨c, (exec o c s).1⟩ := by
  apply exec_cases (P := fun out => LinkAnswer out.2 ⟨c, out.1⟩) (linkAnswer_error s c)
  cases c with
  | catalog c =>
      cases c with
      | findSeason id =>
          simp only [answer, CatalogStmt.answer]
          cases hfind : s.seasons.find? fun x => x.id == id with
          | none => trivial
          | some x => exact holds_of_find hfind
      | upsertGenre name =>
          simp only [answer, CatalogStmt.answer]
          split
          · rename_i g hfind
            obtain ⟨hg, hname⟩ := Table.mem_of_find? hfind
            exact ⟨hg, beq_iff_eq.mp hname⟩
          · split
            · trivial
            · rename_i gs hins
              exact ⟨(Table.mem_insert? hins).mpr (.inr rfl), rfl⟩
      | _ => trivial
  | _ => trivial

theorem LinkAnswer.mono {s : Store} {e : Prog.Entry Sig} (h : LinkAnswer s e) (o : Ambient)
    (c : Cmd) : LinkAnswer (exec o c s).2 e := by
  have contents := exec_contentGrows o c s
  obtain ⟨new, -, genres⟩ := contents.genres
  unfold LinkAnswer at h ⊢
  split at h
  · exact h.grow (fun _ _ (h : _ = _) => by rw [h]) contents.seasons
  · obtain ⟨g', hg', rfl⟩ := genres.mem h.1
    exact ⟨hg', h.2⟩
  · trivial

section

variable {cfg : AppConfig} {ok : AppState → Action Ambient Request → Prop} {s : Store}
  {a b : AppState}

/-- What the handler of the pending statement has looked up is stored. -/
theorem enforced_at (hr : (app cfg).Run ok (Machine.start s) a) {tid : Nat} {q : Request} {c : Cmd}
    {k : Except Exception c.Resp → App Reply} (hth : a.threads[tid]? = some ⟨q, .call c k⟩)
    (r : Except Exception c.Resp) : Enforced a.store c := by
  have did : ∀ {e : Prog.Entry Sig}, e ∈ own tid a.trace → Event.did tid e ∈ a.trace :=
    fun he => mem_own.mp he
  have hlinks := Machine.Run.owes (fun q => link_steps cfg q) hr hth r
  have hanswers := Machine.Run.answers (m := app cfg) exec_linkAnswer
    (fun o c s e h => LinkAnswer.mono h o c) hr
  constructor
  case genres =>
    intro id hid
    have hread : GenresRead (own tid a.trace) c.genreIds := by
      cases c with
      | catalog c => cases c <;> first | exact hlinks | exact .nil
      | _ => exact .nil
    obtain ⟨name, g, hg, rfl⟩ := hread id hid
    exact ⟨g, (hanswers tid _ (did hg)).1, rfl⟩
  case payer =>
    rintro id owner resolvedAt startAt expiresAt rfl
    obtain ⟨t, x, he, rfl⟩ := (owes_at hr hth r).1
    obtain ⟨t', ht', hid, huser⟩ := shown_stored hr (did he) rfl
    exact ⟨t', ht', Prod.ext (hid.trans (shows_own_row hr (did he))) huser⟩
  case owner =>
    rintro ownerType ownerId kind key rfl
    exact (Machine.Run.owes (fun q => register_steps cfg q) hr hth r).stored
      fun e he => contentAnswers_run hr tid e (did he)
  case asset =>
    rintro job rfl
    obtain ⟨asset, hread, hkind⟩ := Machine.Run.owes (fun q => media_steps cfg q) hr hth r
    obtain ⟨⟨a', ha', hsame⟩, hasset⟩ := assetAnswers_run hr tid _ (did hread)
    exact ⟨a', ha', hsame.id.trans hasset, hsame.kind.trans hkind.1⟩

/-- **Every run leaves the references intact.** -/
theorem intact_run (hs : s.Intact) (hr : (app cfg).Run ok (Machine.start s) b) : b.store.Intact := by
  refine Machine.Run.keeps_along (m := app cfg) (P := fun _ _ _ => True) (R := fun _ _ _ => True)
    (I := fun s _ => s.Intact) (fun q => .always _ _) (fun _ _ _ h _ => h) ?_ hs hr
  intro sys tid o q c k hsys h _ hth _
  exact h.did o (enforced_at hsys hth (exec o c sys.store).1)

/-- The foreign keys of the pending statement are stored, when the request's
access token is genuine. -/
theorem keysStored_at (hok : ∀ sys act, ok sys act → authentic sys act) (hs : s.Intact)
    (hr : (app cfg).Run ok (Machine.start s) a) {tid : Nat} {q : Request} {c : Cmd}
    {k : Except Exception c.Resp → App Reply} (hth : a.threads[tid]? = some ⟨q, .call c k⟩)
    (r : Except Exception c.Resp) : KeysStored a.store c := by
  obtain ⟨howes, hreaches, -⟩ := owes_at hr hth r
  have hintact := intact_run hs hr
  cases c with
  | account c =>
      cases c with
      | createToken userId tokenHash expiresAt =>
          obtain ⟨e, he, hvouches⟩ := List.any_eq_true.mp howes
          obtain ⟨u, hu, hid⟩ := Request.vouches_answer hvouches
          exact ⟨u, answered_stored hr (mem_own.mp he) hu, hid⟩
      | _ => trivial
  | transaction c =>
      cases c with
      | create userId method amount =>
          have hbearer : ∃ user, q.bearer = some user ∧ user.sub = userId := by
            have initiates : ∀ bearer, isBearer bearer userId = true →
                ∃ user, bearer = some user ∧ user.sub = userId := by
              intro bearer hbearer
              obtain ⟨user, huser, hsub⟩ := (Option.any_eq_true _ _).mp hbearer
              exact ⟨user, huser, beq_iff_eq.mp hsub⟩
            cases q <;> first
              | exact initiates _ (Bool.and_eq_true_iff.mp hreaches).1
              | cases hreaches
              | cases (Bool.and_eq_true_iff.mp hreaches).2
          obtain ⟨user, huser, rfl⟩ := hbearer
          have hbegan := (Machine.Run.emits (P := fun _ _ _ => True) (R := fun _ _ _ => True)
            (fun q => .always _ _) hr).began tid _ hth
          obtain ⟨u, hu, hpayload⟩ := bearer_stored hok hr hbegan huser
          exact ⟨u, hu, congrArg JwtAccessPayload.sub hpayload⟩
      | _ => trivial
  | subscription c =>
      cases c with
      | commitActivation id owner resolvedAt startAt expiresAt =>
          obtain ⟨t, ht, heq⟩ := (enforced_at hr hth r).payer _ _ _ _ _ rfl
          obtain ⟨u, hu, hid⟩ := hintact.transactionUser t ht
          exact ⟨u, hu, hid.trans (congrArg Prod.snd heq)⟩
      | _ => trivial
  | catalog c =>
      cases c with
      | createSeason titleId number =>
          obtain ⟨t, ht, hid, -⟩ := (Machine.Run.owes (fun q => register_steps cfg q) hr hth r).stored
            fun e he => contentAnswers_run hr tid e (mem_own.mp he)
          exact ⟨t, ht, hid⟩
      | createEpisode seasonId number name description =>
          obtain ⟨x, hx⟩ := Machine.Run.owes (fun q => link_steps cfg q) hr hth r
          exact Machine.Run.answers (m := app cfg) exec_linkAnswer
            (fun o c s e h => LinkAnswer.mono h o c) hr tid _ (mem_own.mp hx)
      | _ => trivial
  | _ => trivial

end

/-- The database reports a missing row of its own accord only. -/
def reportsTruly : Action Ambient Request → Prop
  | .begin _ => True
  | .step _ o => o.fault ≠ some (.prisma .foreignKeyViolation)

instance : (act : Action Ambient Request) → Decidable (reportsTruly act)
  | .begin _ => isTrue trivial
  | .step _ o => inferInstanceAs (Decidable (o.fault ≠ some (.prisma .foreignKeyViolation)))

/-- Nobody but the backend signs, and the database reports truly. -/
def unforced (sys : AppState) (act : Action Ambient Request) : Prop :=
  authentic sys act ∧ reportsTruly act

instance (sys : AppState) (act : Action Ambient Request) : Decidable (unforced sys act) :=
  inferInstanceAs (Decidable (authentic sys act ∧ reportsTruly act))

/-- **References hold**: from an intact database every run, whatever its requests
and its faults, leads to intact databases only; and when access tokens are
genuine, no statement of the run was refused for a row that is missing. -/
theorem references_hold {cfg : AppConfig} {ok : AppState → Action Ambient Request → Prop}
    {s : Store} {b : AppState} (hs : s.Intact) (hr : (app cfg).Run ok (Machine.start s) b) :
    b.store.Intact ∧ ((∀ sys act, ok sys act → unforced sys act) →
      ∀ (tid : Nat) (c : Cmd), ¬ Event.did tid
        (⟨c, .error (.prisma .foreignKeyViolation)⟩ : Prog.Entry Sig) ∈ b.trace) := by
  refine ⟨intact_run hs hr, fun hok tid c hmem => ?_⟩
  obtain ⟨post, pre, htr⟩ := List.append_of_mem hmem
  obtain ⟨a, o, c', a', ha, -, hact, hpend, he, -⟩ := hr.cut htr
  obtain ⟨rfl, herror⟩ := Sigma.mk.inj_iff.mp he
  obtain ⟨q, k, hth⟩ := Sys.pending_thread hpend
  refine KeysStored.not_refused (keysStored_at (fun _ _ h => (hok _ _ h).1) hs ha hth
    (.error (.prisma .foreignKeyViolation))) (hok _ _ hact).2 (eq_of_heq herror).symm

theorem sampleSeeded_intact : sampleSeeded.Intact :=
  { Store.Intact.empty with
    tokenUser := .empty
    transactionUser := .empty
    subscriptionUser := .empty }

/-- The admin logs in and creates a series of a genre, with an episode whose
video is uploaded. -/
theorem references_hold_sample : ∃ b : AppState, b.store.Intact ∧
    b.store.titleGenres.rows.length = 1 ∧ b.store.transcodeQueue.length = 1 ∧
    ∀ (tid : Nat) (c : Cmd), ¬ Event.did tid
      (⟨c, .error (.prisma .foreignKeyViolation)⟩ : Prog.Entry Sig) ∈ b.trace := by
  obtain ⟨b, hr, hb⟩ := Machine.exists_run_of_replay (m := app sampleConfig)
    (a := Machine.start sampleSeeded) unforced
    (sampleAdminLogin ++
      [.begin (.createTitle (some sampleAdmin) ⟨.SERIES, "Maisha", "A series", "poster", ["Drama"]⟩),
        .step 1 ((Ambient.quiet 7).generating "genre-1"),
        .step 1 ((Ambient.quiet 8).generating "title-1"),
        .begin (.createSeason (some sampleAdmin) "title-1" 1), .step 2 (.quiet 9),
        .step 2 ((Ambient.quiet 10).generating "season-1"),
        .begin (.createEpisode (some sampleAdmin) "season-1" ⟨1, "Mwanzo", ""⟩), .step 3 (.quiet 11),
        .step 3 ((Ambient.quiet 12).generating "episode-1"),
        .begin (.registerMediaAsset (some sampleAdmin) ⟨.EPISODE, "episode-1", .FULL⟩),
        .step 4 (.quiet 13), .step 4 ((Ambient.quiet 14).generating "u-1"),
        .step 4 ((Ambient.quiet 15).generating "full-1"),
        .begin (.completeUpload (some sampleAdmin) "full-1"), .step 5 (.quiet 16),
        .step 5 (.quiet 17), .step 5 (.quiet 18)])
    (fun b => b.store.titleGenres.rows.length == 1 && b.store.transcodeQueue.length == 1)
    (by decide +kernel)
  simp only [Bool.and_eq_true, beq_iff_eq] at hb
  obtain ⟨hintact, hnever⟩ := references_hold sampleSeeded_intact hr
  exact ⟨b, hintact, hb.1, hb.2, hnever fun _ _ h => h⟩

end StreamingService
