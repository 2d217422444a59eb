import Mathlib.Data.List.Sort
import StreamingService.Statement

/-!
# Exec

The effect of every statement on the store: what Prisma and the schema's
constraints do with it. A read answers rows and changes nothing; a write
changes the rows it names or throws and changes nothing.
-/

namespace StreamingService

open Lib

/-- The first row with the greatest value of `f`. -/
def latestBy {ρ : Type} (f : ρ → Int) : List ρ → Option ρ
  | [] => none
  | r :: rest =>
      match latestBy f rest with
      | none => some r
      | some r' => if f r' ≤ f r then some r else some r'

theorem latestBy_eq_none {ρ : Type} {f : ρ → Int} {l : List ρ} :
    latestBy f l = none ↔ l = [] := by
  cases l with
  | nil => simp [latestBy]
  | cons r rest =>
      simp only [latestBy]
      split
      · simp
      · split <;> simp

/-- It is a row of the list, and no row has a greater value. -/
theorem latestBy_eq_some {ρ : Type} {f : ρ → Int} {l : List ρ} {r : ρ}
    (h : latestBy f l = some r) : r ∈ l ∧ ∀ x ∈ l, f x ≤ f r := by
  induction l generalizing r with
  | nil => cases h
  | cons a rest ih =>
      simp only [latestBy] at h
      split at h
      · rename_i hnone
        rw [latestBy_eq_none] at hnone
        cases h
        simp [hnone]
      · rename_i r' hsome
        obtain ⟨hmem, hmax⟩ := ih hsome
        by_cases hle : f r' ≤ f a
        · rw [if_pos hle] at h
          cases h
          refine ⟨List.mem_cons_self, ?_⟩
          intro x hx
          rcases List.mem_cons.mp hx with rfl | hx
          · exact Int.le_refl _
          · exact Int.le_trans (hmax x hx) hle
        · rw [if_neg hle] at h
          cases h
          refine ⟨List.mem_cons_of_mem _ hmem, ?_⟩
          intro x hx
          rcases List.mem_cons.mp hx with rfl | hx
          · omega
          · exact hmax x hx

def refuse {β : Type} (e : PrismaError) (s : Store) : Outcome β := (.error (.prisma e), s)

/-- Start of the year 0. -/
def minPrismaMillis : Int := -62167219200000

/-- End of the year 9999. -/
def maxPrismaMillis : Int := 253402300799999

/-- A date Prisma takes: it passes dates on as texts whose years have four digits. -/
def Storable (date : Millis) : Prop := minPrismaMillis ≤ date ∧ date ≤ maxPrismaMillis

instance (date : Millis) : Decidable (Storable date) :=
  inferInstanceAs (Decidable (_ ∧ _))

/-- What Prisma makes of a date; `none` is refused. -/
def prismaDate (date : Option Millis) : Option Millis := date.filter fun t => decide (Storable t)

theorem prismaDate_eq_some {date : Option Millis} {t : Millis} :
    prismaDate date = some t ↔ date = some t ∧ Storable t := by
  rw [prismaDate, Option.filter_eq_some_iff, decide_eq_true_eq]

/-! ## transactions -/

/-- `transaction.update` by id, of columns outside every index. -/
def updateTransaction (s : Store) (id : String) (f : Transaction → Transaction)
    (hf : ∀ a b, Indexed.clash (f a) b = Indexed.clash a b) : Outcome Transaction :=
  match s.transactions.find? fun t => t.id == id with
  | none => refuse .recordNotFound s
  | some t => (.ok (f t), { s with transactions := s.transactions.update (fun t => t.id == id) f hf })

/-- The row `createPending` inserts. -/
def Transaction.pending (o : Ambient) (userId : String) (method : PaymentMethod)
    (amount : Int) : Transaction where
  id := o.fresh
  userId := userId
  method := method
  amount := amount
  status := .PENDING
  providerReference := none
  initiatedAt := o.now
  resolvedAt := none
  failureReason := none

/-- The data of `setProviderReference`. -/
def Transaction.refer (f : Option String → Option String) (t : Transaction) : Transaction :=
  { t with providerReference := f t.providerReference }

/-- The data of `markFailed`. -/
def Transaction.fail (resolvedAt : Millis) (reason : Option String → Option String)
    (t : Transaction) : Transaction :=
  { t with status := .FAILED, resolvedAt := some resolvedAt, failureReason := reason t.failureReason }

/-- The data of `markTimedOut`. -/
def Transaction.timeOut (resolvedAt : Millis) (t : Transaction) : Transaction :=
  { t with
    status := .TIMED_OUT
    resolvedAt := some resolvedAt
    failureReason := some "No response within the expected window" }

/-- The Transaction's half of an activation. -/
def Transaction.succeed (resolvedAt : Millis) (t : Transaction) : Transaction :=
  { t with status := .SUCCEEDED, resolvedAt := some resolvedAt }

def TransactionStmt.answer (o : Ambient) : (c : TransactionStmt) → Store → Outcome c.Resp
  | .findFirstPending userId, s =>
      (.ok (s.transactions.find? fun t => t.userId == userId && t.status == .PENDING), s)
  | .create userId method amount, s =>
      match amount.bind toCents with
      | none => refuse .validation s
      | some cents =>
          match s.users.find? fun u => u.id == userId with
          | none => refuse .foreignKeyViolation s
          | some _ =>
              let row := Transaction.pending o userId method cents
              match s.transactions.insert? row with
              | none => refuse .uniqueViolation s
              | some ts => (.ok row, { s with transactions := ts })
  | .setProviderReference id ref, s =>
      match textUpdate ref with
      | none => refuse .validation s
      | some f =>
          match s.transactions.find? fun t => t.id == id with
          | none => refuse .recordNotFound s
          | some t =>
              match s.transactions.update? (fun t => t.id == id) (.refer f) with
              | none => refuse .uniqueViolation s
              | some ts => (.ok (t.refer f), { s with transactions := ts })
  | .findById id, s =>
      match id.text? with
      | none => refuse .validation s
      | some id => (.ok (s.transactions.find? fun t => t.id == id), s)
  | .findByReference ref, s =>
      match ref.text? with
      | none => refuse .validation s
      | some ref => (.ok (s.transactions.find? fun t => t.providerReference == some ref), s)
  | .markFailed id resolvedAt reason, s =>
      match textUpdate reason with
      | none => refuse .validation s
      | some f => updateTransaction s id (.fail resolvedAt f) fun _ _ => rfl
  | .markTimedOut id resolvedAt, s =>
      updateTransaction s id (.timeOut resolvedAt) fun _ _ => rfl
  | .findStale cutoff, s =>
      match prismaDate cutoff with
      | none => refuse .validation s
      | some cutoff =>
          (.ok (s.transactions.filter fun t =>
            t.method == .MPESA && t.status == .PENDING && decide (t.initiatedAt < cutoff)), s)
  | .findManyOfUser userId, s =>
      (.ok ((s.transactions.filter fun t => t.userId == userId).insertionSort
        fun a b => b.initiatedAt ≤ a.initiatedAt), s)

/-! ## subscriptions -/

def SubscriptionStmt.answer (o : Ambient) : (c : SubscriptionStmt) → Store → Outcome c.Resp
  | .findActive userId now, s =>
      (.ok (s.subscriptions.find? fun sub =>
        sub.userId == userId && sub.status == .ACTIVE && decide (now < sub.expiresAt)), s)
  | .findLatest userId, s =>
      (.ok (latestBy (·.expiresAt) (s.subscriptions.filter fun sub => sub.userId == userId)), s)
  | .readForActivation transactionId, s =>
      (.ok ((s.transactions.find? fun t => t.id == transactionId).map fun t =>
        (t, s.subscriptions.find? fun sub => sub.transactionId == t.id)), s)
  | .commitActivation transactionId userId resolvedAt startAt expiresAt, s =>
      match s.transactions.find? fun t => t.id == transactionId with
      | none => refuse .recordNotFound s
      | some _ =>
          match prismaDate expiresAt with
          | none => refuse .validation s
          | some expiresAt =>
              match s.users.find? fun u => u.id == userId with
              | none => refuse .foreignKeyViolation s
              | some _ =>
                  let row : Subscription :=
                    { id := o.fresh, userId, status := .ACTIVE, startAt, expiresAt,
                      transactionId }
                  -- a refused insert rolls the status write back with it
                  match s.subscriptions.insert? row with
                  | none => refuse .uniqueViolation s
                  | some subs =>
                      (.ok row,
                        { s with
                          subscriptions := subs
                          transactions := s.transactions.update (fun t => t.id == transactionId)
                            (.succeed resolvedAt) fun _ _ => rfl })

/-! ## users and refresh_tokens -/

/-- A revocation sets `revokedAt` and nothing else. -/
def RefreshToken.revoke (revokedAt : Millis) (r : RefreshToken) : RefreshToken :=
  { r with revokedAt := some revokedAt }

def AccountStmt.answer (o : Ambient) : (c : AccountStmt) → Store → Outcome c.Resp
  | .findUserByEmail email, s => (.ok (s.users.find? fun u => u.email == email), s)
  | .createUser email passwordHash, s =>
      let row : User := { id := o.fresh, email, passwordHash, role := .USER }
      match s.users.insert? row with
      | none => refuse .uniqueViolation s
      | some us => (.ok row, { s with users := us })
  | .findUserWithActive id, s =>
      (.ok ((s.users.find? fun u => u.id == id).map fun u =>
        (u, latestBy (·.expiresAt) (s.subscriptions.filter fun sub =>
          sub.userId == u.id && sub.status == .ACTIVE))), s)
  | .findToken tokenHash, s =>
      match s.refreshTokens.find? fun r => r.tokenHash == tokenHash with
      | none => (.ok none, s)
      | some r => (.ok ((s.users.find? fun u => u.id == r.userId).map fun u => (r, u)), s)
  | .revokeAllOfUser userId revokedAt, s =>
      (.ok (),
        { s with
          refreshTokens := s.refreshTokens.update
            (fun r => r.userId == userId && r.revokedAt.isNone) (.revoke revokedAt)
            fun _ _ => rfl })
  | .revokeToken id revokedAt, s =>
      match s.refreshTokens.find? fun r => r.id == id with
      | none => refuse .recordNotFound s
      | some _ =>
          (.ok (),
            { s with
              refreshTokens := s.refreshTokens.update (fun r => r.id == id) (.revoke revokedAt)
                fun _ _ => rfl })
  | .revokeByHash tokenHash revokedAt, s =>
      (.ok (),
        { s with
          refreshTokens := s.refreshTokens.update
            (fun r => r.tokenHash == tokenHash && r.revokedAt.isNone) (.revoke revokedAt)
            fun _ _ => rfl })
  | .createToken userId tokenHash expiresAt, s =>
      match prismaDate expiresAt with
      | none => refuse .validation s
      | some expiresAt =>
          match s.users.find? fun u => u.id == userId with
          | none => refuse .foreignKeyViolation s
          | some _ =>
              let row : RefreshToken :=
                { id := o.fresh, userId, tokenHash, expiresAt, revokedAt := none }
              match s.refreshTokens.insert? row with
              | none => refuse .uniqueViolation s
              | some rs => (.ok row, { s with refreshTokens := rs })

/-! ## titles, seasons, episodes and genres -/

def genreNames (s : Store) (titleId : String) : List String :=
  (s.titleGenres.filter fun g => g.titleId == titleId).filterMap fun g =>
    (s.genres.find? fun x => x.id == g.genreId).map (·.name)

/-- A title with its genres and seasons; of the episodes, those `shown`. -/
def titleTree (s : Store) (shown : Episode → Bool) (t : Title) : TitleTree where
  title := t
  genres := genreNames s t.id
  seasons := ((s.seasons.filter fun x => x.titleId == t.id).insertionSort
      fun a b => a.number ≤ b.number).map fun season =>
    (season, (s.episodes.filter fun e => e.seasonId == season.id && shown e).insertionSort
      fun a b => a.number ≤ b.number)

def Title.apply (data : TitleUpdate) (t : Title) : Title :=
  { t with
    name := data.name.getD t.name
    description := data.description.getD t.description
    posterUrl := data.posterUrl.getD t.posterUrl
    published := data.published.getD t.published }

def Episode.apply (data : EpisodeUpdate) (e : Episode) : Episode :=
  { e with
    name := data.name.getD e.name
    description := data.description.getD e.description
    published := data.published.getD e.published }

/-- The nested `create` of a title's genres. -/
def connectGenres (titleGenres : Table TitleGenre) (titleId : String)
    (genreIds : List String) : Option (Table TitleGenre) :=
  titleGenres.insertMany? (genreIds.map fun genreId => ⟨titleId, genreId⟩)

/-- The `where` of `listTitles`. -/
def isListed (s : Store) (type : Option TitleType) (genre : Option String) (t : Title) : Bool :=
  t.published && type.all (fun type => t.type == type) &&
    genre.all fun genre => (genreNames s t.id).contains genre

/-- Newest first; rows of one instant in whatever order the database likes. -/
def newerFirst (tie : String → Int) (a b : Title) : Bool :=
  decide (b.createdAt < a.createdAt) ||
    (a.createdAt == b.createdAt && decide (tie a.id ≤ tie b.id))

def CatalogStmt.answer (o : Ambient) : (c : CatalogStmt) → Store → Outcome c.Resp
  | .findPublishedTitles type genre skip take, s =>
      (.ok (((((s.titles.filter (isListed s type genre)).insertionSort
        fun a b => newerFirst o.tie a b = true).drop skip).take take).map fun t =>
          (t, genreNames s t.id)), s)
  | .countPublishedTitles type genre, s => (.ok (s.titles.filter (isListed s type genre)).length, s)
  | .findPublishedTitle id, s =>
      (.ok ((s.titles.find? fun t => t.id == id && t.published).map
        (titleTree s fun e => e.published)), s)
  | .findTitleTree id, s =>
      (.ok ((s.titles.find? fun t => t.id == id).map (titleTree s fun _ => true)), s)
  | .findTitle id, s => (.ok (s.titles.find? fun t => t.id == id), s)
  | .createTitle type name description posterUrl genreIds, s =>
      let row : Title :=
        { id := o.fresh, type, name, description, posterUrl, published := false,
          createdAt := o.now }
      match s.titles.insert? row with
      | none => refuse .uniqueViolation s
      | some ts =>
          match connectGenres s.titleGenres row.id genreIds with
          | none => refuse .uniqueViolation s
          | some gs => (.ok row, { s with titles := ts, titleGenres := gs })
  | .updateTitle id data, s =>
      match s.titles.find? fun t => t.id == id with
      | none => refuse .recordNotFound s
      | some t =>
          let titles := s.titles.update (fun t => t.id == id) (.apply data) fun _ _ => rfl
          match data.genreIds with
          | none => (.ok (t.apply data), { s with titles })
          | some genreIds =>
              match connectGenres (s.titleGenres.remove fun g => g.titleId == id) id genreIds with
              | none => refuse .uniqueViolation s
              | some gs => (.ok (t.apply data), { s with titles, titleGenres := gs })
  | .createSeason titleId number, s =>
      match s.titles.find? fun t => t.id == titleId with
      | none => refuse .foreignKeyViolation s
      | some _ =>
          let row : Season := { id := o.fresh, titleId, number }
          match s.seasons.insert? row with
          | none => refuse .uniqueViolation s
          | some ss => (.ok row, { s with seasons := ss })
  | .findSeason id, s => (.ok (s.seasons.find? fun x => x.id == id), s)
  | .createEpisode seasonId number name description, s =>
      match s.seasons.find? fun x => x.id == seasonId with
      | none => refuse .foreignKeyViolation s
      | some _ =>
          let row : Episode :=
            { id := o.fresh, seasonId, number, name, description, published := false }
          match s.episodes.insert? row with
          | none => refuse .uniqueViolation s
          | some es => (.ok row, { s with episodes := es })
  | .findEpisode id, s => (.ok (s.episodes.find? fun e => e.id == id), s)
  | .findPublishedEpisode id, s =>
      (.ok (s.episodes.find? fun e => e.id == id && e.published), s)
  | .findPublishedEpisodesOf titleId, s =>
      (.ok (s.episodes.filter fun e => e.published &&
        (s.seasons.find? fun x => x.id == e.seasonId && x.titleId == titleId).isSome), s)
  | .updateEpisode id data, s =>
      match s.episodes.find? fun e => e.id == id with
      | none => refuse .recordNotFound s
      | some e =>
          (.ok (e.apply data),
            { s with
              episodes := s.episodes.update (fun e => e.id == id) (.apply data) fun _ _ => rfl })
  | .upsertGenre name, s =>
      match s.genres.find? fun g => g.name == name with
      | some g => (.ok g, s)
      | none =>
          let row : Genre := { id := o.fresh, name }
          match s.genres.insert? row with
          | none => refuse .uniqueViolation s
          | some gs => (.ok row, { s with genres := gs })

/-! ## media_assets -/

/-- `mediaAsset.update` by id. -/
def updateAsset (s : Store) (id : String) (f : MediaAsset → MediaAsset)
    (hf : ∀ a b, Indexed.clash (f a) b = Indexed.clash a b) : Outcome Unit :=
  match s.mediaAssets.find? fun a => a.id == id with
  | none => refuse .recordNotFound s
  | some _ => (.ok (), { s with mediaAssets := s.mediaAssets.update (fun a => a.id == id) f hf })

def MediaAsset.ownedBy (a : MediaAsset) (ownerType : MediaOwnerType) (ownerId : String)
    (kind : MediaKind) : Bool :=
  a.ownerType == ownerType && a.ownerId == ownerId && a.kind == kind

/-- The update half of `registerMediaAsset`'s upsert. -/
def MediaAsset.replaceSource (sourceObjectKey : String) (a : MediaAsset) : MediaAsset :=
  { a with
    sourceObjectKey
    processingStatus := .PENDING
    hlsManifestKey := none
    failureReason := none }

def MediaAssetStmt.answer (o : Ambient) : (c : MediaAssetStmt) → Store → Outcome c.Resp
  | .findById id, s => (.ok (s.mediaAssets.find? fun a => a.id == id), s)
  | .findByOwner ownerType ownerId kind, s =>
      (.ok (s.mediaAssets.find? fun a => a.ownedBy ownerType ownerId kind), s)
  | .upsert ownerType ownerId kind sourceObjectKey, s =>
      match s.mediaAssets.find? fun a => a.ownedBy ownerType ownerId kind with
      | some a =>
          (.ok (a.replaceSource sourceObjectKey),
            { s with
              mediaAssets := s.mediaAssets.update (fun a => a.ownedBy ownerType ownerId kind)
                (.replaceSource sourceObjectKey) fun _ _ => rfl })
      | none =>
          let row : MediaAsset :=
            { id := o.fresh, ownerType, ownerId, kind, processingStatus := .PENDING,
              sourceObjectKey, hlsManifestKey := none, failureReason := none }
          match s.mediaAssets.insert? row with
          | none => refuse .uniqueViolation s
          | some as => (.ok row, { s with mediaAssets := as })
  | .resetToPending id, s =>
      updateAsset s id (fun a => { a with processingStatus := .PENDING, failureReason := none })
        fun _ _ => rfl
  | .setTrailerReady id key, s =>
      updateAsset s id (fun a => { a with processingStatus := .READY, hlsManifestKey := some key })
        fun _ _ => rfl
  | .setReady id key, s =>
      updateAsset s id (fun a =>
        { a with processingStatus := .READY, hlsManifestKey := some key, failureReason := none })
        fun _ _ => rfl
  | .setFailed id reason, s =>
      updateAsset s id (fun a => { a with processingStatus := .FAILED, failureReason := some reason })
        fun _ _ => rfl

/-! ## Everything else -/

def ServiceCall.answer (o : Ambient) : (c : ServiceCall) → Store → Outcome c.Resp
  | .uuid, s => (.ok o.fresh, s)
  | .randomBytes, s => (.ok o.fresh, s)
  | .bcryptHash _, s => (.ok o.fresh, s)
  | .bcryptCompare _ _, s => (.ok o.accepts, s)
  | .signJwt _, s => (.ok o.fresh, s)
  | .darajaAccessToken, s => (.ok o.reply, s)
  | .darajaStkPush _, s => (.ok o.reply, s)
  | .flutterwaveCheckout _, s => (.ok o.reply, s)
  | .signUrl verb objectKey expiresIn, s =>
      (.ok { verb, objectKey, signedAt := o.now, expiresIn }, s)
  | .queueAdd job, s => (.ok (), { s with transcodeQueue := s.transcodeQueue ++ [job] })
  | .mkdtemp, s => (.ok o.fresh, s)
  | .getObject _, s => (.ok o.accepts, s)
  | .pipeToFile _, s => (.ok (), s)
  | .mkdir _, s => (.ok (), s)
  | .ffmpeg _ _ _, s => (.ok (), s)
  | .readdir _, s => (.ok o.names, s)
  | .putObject _ _, s => (.ok (), s)
  | .writeFile _ _, s => (.ok (), s)
  | .removeDir _, s => (.ok (), s)

/-- A statement the environment lets through. -/
def answer (o : Ambient) : (c : Cmd) → Store → Outcome c.Resp
  | .now, s => (.ok o.now, s)
  | .transaction c, s => c.answer o s
  | .subscription c, s => c.answer o s
  | .account c, s => c.answer o s
  | .catalog c, s => c.answer o s
  | .mediaAsset c, s => c.answer o s
  | .service c, s => c.answer o s

/-- **One statement.** Reading the clock cannot fail; any other statement
may. -/
def exec (o : Ambient) (c : Cmd) (s : Store) : Outcome c.Resp :=
  match c with
  | .now => (.ok o.now, s)
  | c =>
      match o.fault with
      | some e => (.error e, s)
      | none => answer o c s

end StreamingService
