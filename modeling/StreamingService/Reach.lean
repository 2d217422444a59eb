import StreamingService.Footprint

/-!
# Reach

The capability of each endpoint: the statements it can perform, with the
arguments its request fixes, whatever the statements answer. Where
`Footprint` bounds a request by the part of the backend it belongs to,
`reach` lists its statements one by one; what an endpoint does not list it
never does, under any interleaving and after any failure.
-/

namespace StreamingService

open Lib

/-! ## The capabilities -/

/-- The text a symbolic digest was taken of. -/
def TokenHash.preimage : TokenHash → String
  | .sha256 token => token

/-- Issuing a pair of tokens for a user. -/
def Cmd.issuesTokens : Cmd → Bool
  | .now | .service (.signJwt _) | .service .randomBytes => true
  | .account (.createToken _ _ _) => true
  | _ => false

/-- The processing status of an owner's media. -/
def Cmd.asksStatus : Cmd → Bool
  | .mediaAsset (.findByOwner _ _ _) => true
  | _ => false

/-- Signing a URL for an asset that was looked up. -/
def Cmd.signsAsset (verb : UrlVerb) : Cmd → Bool
  | .now => true
  | .service (.signUrl verb' _ _) => verb' == verb
  | _ => false

/-- The work directory of a job, and the storage it reads and fills. -/
def Cmd.ofWorkDir : Cmd → Bool
  | .service .mkdtemp | .service (.getObject _) | .service (.pipeToFile _) => true
  | .service (.mkdir _) | .service (.ffmpeg _ _ _) | .service (.readdir _) => true
  | .service (.putObject _ _) | .service (.writeFile _ _) | .service (.removeDir _) => true
  | _ => false

/-- The bearer of a request, and whether it may use the admin's endpoints. -/
def isBearer (user : Option JwtAccessPayload) (userId : String) : Bool :=
  user.any fun user => user.sub == userId

def isAdmin (user : Option JwtAccessPayload) : Bool := user.any fun user => user.role == .ADMIN

/-- The statements of a payment initiation but for the provider's. -/
def Cmd.initiates (user : Option JwtAccessPayload) (method : PaymentMethod) : Cmd → Bool
  | .now | .transaction (.markFailed _ _ _) => true
  | .transaction (.findFirstPending userId) => isBearer user userId
  | .transaction (.create userId method' _) => isBearer user userId && method' == method
  | _ => false

/-- The statements of an admin's endpoint, behind its guard. -/
def Request.administers : Request → Cmd → Bool
  | .adminTitle _ titleId, .catalog (.findTitleTree id) => id == titleId
  | .createTitle _ _, .catalog (.upsertGenre _) => true
  | .createTitle _ _, .catalog (.createTitle _ _ _ _ _) => true
  | .updateTitle _ titleId _, .catalog (.findTitle id) => id == titleId
  | .updateTitle _ titleId _, .catalog (.findPublishedEpisodesOf id) => id == titleId
  | .updateTitle _ _ _, .catalog (.upsertGenre _) => true
  | .updateTitle _ titleId _, .catalog (.updateTitle id _) => id == titleId
  | .updateTitle _ _ _, c => c.asksStatus
  | .createSeason _ titleId _, .catalog (.findTitle id) => id == titleId
  | .createSeason _ titleId number, .catalog (.createSeason id number') =>
      id == titleId && number' == number
  | .createEpisode _ seasonId _, .catalog (.findSeason id) => id == seasonId
  | .createEpisode _ seasonId _, .catalog (.createEpisode id _ _ _) => id == seasonId
  | .updateEpisode _ episodeId _, .catalog (.findEpisode id) => id == episodeId
  | .updateEpisode _ episodeId _, .catalog (.updateEpisode id _) => id == episodeId
  | .updateEpisode _ _ _, c => c.asksStatus
  | .registerMediaAsset _ _, .catalog (.findTitle _) => true
  | .registerMediaAsset _ _, .catalog (.findEpisode _) => true
  | .registerMediaAsset _ _, .service .uuid => true
  | .registerMediaAsset _ dto, .mediaAsset (.upsert ownerType ownerId kind _) =>
      ownerType == dto.ownerType && ownerId == dto.ownerId && kind == dto.kind
  | .registerMediaAsset _ _, c => c.signsAsset .PUT
  | .completeUpload _ assetId, .mediaAsset (.findById id) => id == assetId
  | .completeUpload _ assetId, .mediaAsset (.resetToPending id) => id == assetId
  | .completeUpload _ assetId, .mediaAsset (.setTrailerReady id _) => id == assetId
  | .completeUpload _ assetId, .service (.queueAdd job) => job.mediaAssetId == assetId
  | .mediaAssetStatus _ assetId, .mediaAsset (.findById id) => id == assetId
  | _, _ => false

/-- The bearer token that came with a request to an admin's endpoint. -/
def Request.admin : Request → Option (Option JwtAccessPayload)
  | .adminTitle user _ | .createTitle user _ | .updateTitle user _ _ => some user
  | .createSeason user _ _ | .createEpisode user _ _ | .updateEpisode user _ _ => some user
  | .registerMediaAsset user _ | .completeUpload user _ | .mediaAssetStatus user _ => some user
  | _ => none

/-- **The statements a request can perform**, one by one. -/
def Request.reach : Request → Cmd → Bool
  | .register email password, c =>
      match c with
      | .account (.findUserByEmail email') => email' == email
      | .service (.bcryptHash password') => password' == password
      | .account (.createUser email' _) => email' == email
      | c => c.issuesTokens
  | .login email password, c =>
      match c with
      | .account (.findUserByEmail email') => email' == email
      | .service (.bcryptCompare password' _) => password' == password
      | c => c.issuesTokens
  | .refresh presented, c =>
      match c with
      | .account (.findToken tokenHash) =>
          presented.text? == some tokenHash.preimage
      | .account (.revokeAllOfUser _ _) | .account (.revokeToken _ _) => true
      | c => c.issuesTokens
  | .logout presented, c =>
      match c with
      | .now => true
      | .account (.revokeByHash tokenHash _) =>
          presented.text? == some tokenHash.preimage
      | _ => false
  | .me user, c =>
      match c with
      | .now => true
      | .account (.findUserWithActive userId) => isBearer user userId
      | _ => false
  | .initiateMpesa user phoneNumber, c =>
      match c with
      | .service .darajaAccessToken => true
      | .service (.darajaStkPush push) => push.phoneNumber == normalizeMsisdn phoneNumber
      | .transaction (.setProviderReference _ _) => true
      | c => c.initiates user .MPESA
  | .initiateBankGateway user, c =>
      match c with
      | .service (.flutterwaveCheckout checkout) => user.any fun user => user.email == checkout.email
      | c => c.initiates user .BANK_GATEWAY
  | .paymentStatus user transactionId, .transaction (.findById id) =>
      user.isSome && id.eqString transactionId
  | .history user, .transaction (.findManyOfUser userId) => isBearer user userId
  | .mpesaCallback _ _, c | .bankGatewayWebhook _, c => c.ofDelivery
  | .subscriptionStatus user, c =>
      match c with
      | .now => true
      | .subscription (.findLatest userId) => isBearer user userId
      | _ => false
  | .sweepTick, c => c.ofSweep
  | .titles _, .catalog (.findPublishedTitles _ _ _ _) => true
  | .titles _, .catalog (.countPublishedTitles _ _) => true
  | .title titleId, .catalog (.findPublishedTitle id) => id == titleId
  | .title _, c => c.asksStatus
  | .episode episodeId, .catalog (.findPublishedEpisode id) => id == episodeId
  | .episode _, c => c.asksStatus
  | .trailerUrl assetId, .mediaAsset (.findById id) => id == assetId
  | .trailerUrl _, c => c.signsAsset .GET
  | .playbackUrl user _, .subscription (.findActive userId _) => isBearer user userId
  | .playbackUrl _ assetId, .mediaAsset (.findById id) => id == assetId
  | .playbackUrl _ _, c => c.signsAsset .GET
  | .transcode job, .mediaAsset (.setReady id _) => id == job.mediaAssetId
  | .transcode job, .mediaAsset (.setFailed id _) => id == job.mediaAssetId
  | .transcode _, c => c.ofWorkDir
  | q, c => q.admin.any isAdmin && q.administers c

/-- A statement the request can perform. -/
def Reaches (q : Request) (c : Cmd) : Prop := q.reach c = true

/-- A part of the statements lies within `A`. -/
def Admitted (part : Cmd → Bool) (A : Cmd → Prop) : Prop := ∀ c, part c = true → A c

/-! ## Guards -/

section

variable {A : Cmd → Prop}

theorem isBearer_self (user : JwtAccessPayload) : isBearer (some user) user.sub = true := by
  simp [isBearer]

/-- Behind `JwtAuthGuard` the request has a bearer. -/
theorem jwtAuthGuard_bind {α : Type} {user : Option JwtAccessPayload}
    {f : JwtAccessPayload → App α} (hf : ∀ u, user = some u → (f u).Calls A) :
    (jwtAuthGuard user >>= f).Calls A := by
  cases user with
  | none => trivial
  | some u => exact hf u rfl

/-- Behind `RolesGuard` the bearer is an admin. -/
theorem adminGuard_bind {α : Type} {user : Option JwtAccessPayload} {f : Unit → App α}
    (hf : isAdmin user = true → (f ()).Calls A) : (adminGuard user >>= f).Calls A := by
  cases user with
  | none => trivial
  | some u =>
      by_cases hrole : u.role = .ADMIN
      · have hguard : adminGuard (some u) = pure () := by
          show (if u.role != .ADMIN then throw _ else pure ()) = _
          simp [hrole]
        rw [hguard]
        exact hf (by simp [isAdmin, hrole])
      · have hguard : adminGuard (some u) = throw (.forbidden "Insufficient role") := by
          show (if u.role != .ADMIN then throw _ else pure ()) = _
          simp [hrole]
        rw [hguard]
        trivial

/-! ## Accounts -/

open AuthService in
theorem issueTokens_admitted (hA : Admitted Cmd.issuesTokens A) (cfg : AppConfig)
    (userId email : String) (role : Role) : (issueTokens cfg userId email role).Calls A := by
  refine .perform_bind (hA _ rfl) fun accessToken => ?_
  refine .perform_bind (hA _ rfl) fun refreshToken => ?_
  refine .perform_bind (hA _ rfl) fun instant => ?_
  exact .perform_bind (hA _ rfl) fun _ => trivial

theorem issues_admitted (hnow : A .now) (hsign : ∀ payload, A (.service (.signJwt payload)))
    (hrandom : A (.service .randomBytes))
    (hcreate : ∀ userId hash expiresAt, A (.account (.createToken userId hash expiresAt))) :
    Admitted Cmd.issuesTokens A := by
  intro c hc
  unfold Cmd.issuesTokens at hc
  split at hc
  · exact hnow
  · exact hsign _
  · exact hrandom
  · exact hcreate _ _ _
  · cases hc

theorem register_reaches (cfg : AppConfig) (email password : String) :
    (handle cfg (.register email password)).Calls (Reaches (.register email password)) := by
  have issues : Admitted Cmd.issuesTokens (Reaches (.register email password)) :=
    issues_admitted rfl (fun _ => rfl) rfl fun _ _ _ => rfl
  refine .bind (.perform_bind (beq_self_eq_true email) fun existing => ?_) fun _ => trivial
  refine .ite (fun _ => trivial) fun _ => ?_
  refine .perform_bind (beq_self_eq_true password) fun passwordHash => ?_
  refine .perform_bind (beq_self_eq_true email) fun user => ?_
  exact .bind (issueTokens_admitted issues cfg _ _ _) fun _ => trivial

theorem login_reaches (cfg : AppConfig) (email password : String) :
    (handle cfg (.login email password)).Calls (Reaches (.login email password)) := by
  have issues : Admitted Cmd.issuesTokens (Reaches (.login email password)) :=
    issues_admitted rfl (fun _ => rfl) rfl fun _ _ _ => rfl
  refine .bind (.perform_bind (beq_self_eq_true email) fun user => ?_) fun _ => trivial
  cases user with
  | none => trivial
  | some user =>
      refine .perform_bind (beq_self_eq_true password) fun passwordMatches => ?_
      refine .ite (fun _ => trivial) fun _ => ?_
      exact .bind (issueTokens_admitted issues cfg _ _ _) fun _ => trivial

/-- The controllers read a token where the presented value is a text. -/
theorem tokenText_ok {presented : JsVal} {token : String}
    (h : AuthController.tokenText presented = .ok token) : presented = some (.str token) := by
  unfold AuthController.tokenText at h
  split at h
  · cases h
    rfl
  · cases h

theorem refresh_reaches (cfg : AppConfig) (presented : JsVal) :
    (handle cfg (.refresh presented)).Calls (Reaches (.refresh presented)) := by
  have issues : Admitted Cmd.issuesTokens (Reaches (.refresh presented)) :=
    issues_admitted rfl (fun _ => rfl) rfl fun _ _ _ => rfl
  refine .bind ?_ fun _ => trivial
  unfold AuthController.refresh
  refine .ite (fun _ => trivial) fun _ => ?_
  refine .ofExcept_bind fun token htoken => ?_
  cases tokenText_ok htoken
  refine .perform_bind (beq_self_eq_true (some token)) fun record => ?_
  cases record with
  | none => trivial
  | some found =>
      obtain ⟨record, user⟩ := found
      refine .ite (fun _ => ?_) fun _ => ?_
      · refine .perform_bind rfl fun revokedAt => ?_
        exact .perform_bind rfl fun _ => trivial
      · refine .perform_bind rfl fun instant => ?_
        split
        · trivial
        · refine .perform_bind rfl fun revokedAt => ?_
          exact .perform_bind rfl fun _ => issueTokens_admitted issues cfg _ _ _

theorem logout_reaches (cfg : AppConfig) (presented : JsVal) :
    (handle cfg (.logout presented)).Calls (Reaches (.logout presented)) := by
  refine .bind ?_ fun _ => trivial
  unfold AuthController.logout
  refine .ite (fun _ => ?_) fun _ => trivial
  refine .ofExcept_bind fun token htoken => ?_
  cases tokenText_ok htoken
  exact .perform_bind rfl fun revokedAt => ⟨beq_self_eq_true (some token), fun _ => trivial⟩

theorem me_reaches (cfg : AppConfig) (user : Option JwtAccessPayload) :
    (handle cfg (.me user)).Calls (Reaches (.me user)) := by
  refine jwtAuthGuard_bind ?_
  rintro u rfl
  refine .bind (.perform_bind (isBearer_self u) fun found => ?_) fun _ => trivial
  split
  · trivial
  · trivial
  · exact .perform_bind rfl fun instant => trivial

/-! ## Payments -/

section Payments

open PaymentsService

variable {user : JwtAccessPayload} {method : PaymentMethod}

theorem createPending_admitted (hA : Admitted (Cmd.initiates (some user) method) A)
    (cfg : AppConfig) : (TransactionsService.createPending cfg user.sub method).Calls A := by
  have create : ∀ amount, A (.transaction (.create user.sub method amount)) := fun amount =>
    hA _ (by simp [Cmd.initiates, isBearer])
  refine .perform_bind (hA _ (isBearer_self user)) fun existing => ?_
  exact .ite (fun _ => trivial) fun _ => ⟨create _, fun _ => trivial⟩

/-- The rows a request may write it has created itself; which they are, the
capability does not say. -/
theorem markFailed_admitted (hA : Admitted (Cmd.initiates (some user) method) A) {id : String}
    {reason : JsVal} : (TransactionsService.markFailed id reason).Calls A :=
  .perform_bind (hA _ rfl) fun _ => ⟨hA _ rfl, fun _ => trivial⟩

theorem mpesaProvider_admitted (cfg : AppConfig) {input : InitiatePaymentInput}
    (htoken : A (.service .darajaAccessToken))
    (hpush : ∀ push, push.phoneNumber = input.phoneNumber → A (.service (.darajaStkPush push))) :
    (MpesaProvider.initiate cfg input).Calls A := by
  unfold MpesaProvider.initiate
  refine .ite (fun _ => trivial) fun _ => ?_
  refine .bind ?_ fun _ => ?_
  · refine .perform_bind htoken fun response => ?_
    exact .ite (fun _ => trivial) fun _ => .ofExcept_bind fun body _ => trivial
  · refine .perform_bind (hpush _ rfl) fun response => ?_
    refine .ite (fun _ => trivial) fun _ => ?_
    exact .ofExcept_bind fun body _ => .ofExcept_bind fun checkoutRequestId _ => trivial

theorem bankGatewayProvider_admitted (cfg : AppConfig) {input : InitiatePaymentInput}
    (hcheckout : ∀ checkout, checkout.email = input.userEmail →
      A (.service (.flutterwaveCheckout checkout))) :
    (BankGatewayProvider.initiate cfg input).Calls A := by
  refine .perform_bind (hcheckout _ rfl) fun response => ?_
  refine .ite (fun _ => trivial) fun _ => ?_
  exact .ofExcept_bind fun body _ => .ofExcept_bind fun data _ => .ofExcept_bind fun link _ => trivial

theorem initiateMpesa_reaches (cfg : AppConfig) (user : Option JwtAccessPayload)
    (phoneNumber : String) :
    (handle cfg (.initiateMpesa user phoneNumber)).Calls
      (Reaches (.initiateMpesa user phoneNumber)) := by
  have initiates : Admitted (Cmd.initiates user .MPESA)
      (Reaches (.initiateMpesa user phoneNumber)) := by
    intro c hc
    unfold Cmd.initiates at hc
    split at hc <;> first | exact hc | cases hc
  refine jwtAuthGuard_bind ?_
  rintro u rfl
  refine .bind ?_ fun _ => trivial
  refine .bind (createPending_admitted initiates cfg) fun transaction => ?_
  refine .bind (.catchErr ?_ fun err => ?_) fun _ => trivial
  · refine .bind ?_ fun result => .ite (fun _ => ?_) fun _ => trivial
    · exact mpesaProvider_admitted cfg rfl fun push hpush => beq_iff_eq.mpr hpush
    · exact .perform_bind rfl fun _ => trivial
  · exact .bind (markFailed_admitted initiates) fun _ => trivial

theorem initiateBankGateway_reaches (cfg : AppConfig) (user : Option JwtAccessPayload) :
    (handle cfg (.initiateBankGateway user)).Calls (Reaches (.initiateBankGateway user)) := by
  have initiates : Admitted (Cmd.initiates user .BANK_GATEWAY)
      (Reaches (.initiateBankGateway user)) := by
    intro c hc
    unfold Cmd.initiates at hc
    split at hc <;> first | exact hc | cases hc
  refine jwtAuthGuard_bind ?_
  rintro u rfl
  refine .bind ?_ fun _ => trivial
  refine .bind (createPending_admitted initiates cfg) fun transaction => ?_
  refine .catchErr ?_ fun err => ?_
  · refine .bind ?_ fun result => trivial
    exact bankGatewayProvider_admitted cfg fun checkout h => beq_iff_eq.mpr h.symm
  · exact .bind (markFailed_admitted initiates) fun _ => trivial

theorem paymentStatus_reaches (cfg : AppConfig) (user : Option JwtAccessPayload)
    (transactionId : String) :
    (handle cfg (.paymentStatus user transactionId)).Calls
      (Reaches (.paymentStatus user transactionId)) := by
  refine jwtAuthGuard_bind ?_
  rintro u rfl
  refine .bind (.bind (.perform_bind (beq_self_eq_true transactionId) fun transaction => ?_)
    fun _ => trivial) fun _ => trivial
  split <;> trivial

theorem history_reaches (cfg : AppConfig) (user : Option JwtAccessPayload) :
    (handle cfg (.history user)).Calls (Reaches (.history user)) := by
  refine jwtAuthGuard_bind ?_
  rintro u rfl
  exact .bind (.perform_bind (isBearer_self u) fun _ => trivial) fun _ => trivial

theorem subscriptionStatus_reaches (cfg : AppConfig) (user : Option JwtAccessPayload) :
    (handle cfg (.subscriptionStatus user)).Calls (Reaches (.subscriptionStatus user)) := by
  refine jwtAuthGuard_bind ?_
  rintro u rfl
  refine .bind (.perform_bind (isBearer_self u) fun latest => ?_) fun _ => trivial
  split
  · trivial
  · exact .perform_bind rfl fun instant => trivial

end Payments

/-! ## Playback and the catalog -/

section Content

theorem asks_admitted
    (h : ∀ ownerType ownerId kind, A (.mediaAsset (.findByOwner ownerType ownerId kind))) :
    Admitted Cmd.asksStatus A := by
  intro c hc
  unfold Cmd.asksStatus at hc
  split at hc
  · exact h _ _ _
  · cases hc

theorem getMediaAssetStatus_admitted (hA : Admitted Cmd.asksStatus A) (ownerType : MediaOwnerType)
    (ownerId : String) (kind : MediaKind) :
    (getMediaAssetStatus ownerType ownerId kind).Calls A :=
  .perform_bind (hA _ rfl) fun _ => trivial

theorem unitMedia_admitted (hA : Admitted Cmd.asksStatus A) (ownerType : MediaOwnerType)
    (ownerId : String) : (CatalogService.unitMedia ownerType ownerId).Calls A :=
  .bind (getMediaAssetStatus_admitted hA _ _ _) fun _ =>
    .bind (getMediaAssetStatus_admitted hA _ _ _) fun _ => trivial

theorem toEpisodeShapes_admitted (hA : Admitted Cmd.asksStatus A) (episodes : List Episode) :
    (CatalogService.toEpisodeShapes episodes).Calls A := by
  induction episodes with
  | nil => trivial
  | cons episode rest ih =>
      refine .bind (.bind (unitMedia_admitted hA _ _) fun _ => trivial) fun _ => ?_
      exact .bind ih fun _ => trivial

theorem toSeasonShapes_admitted (hA : Admitted Cmd.asksStatus A)
    (seasons : List (Season × List Episode)) :
    (CatalogService.toSeasonShapes seasons).Calls A := by
  induction seasons with
  | nil => trivial
  | cons season rest ih =>
      exact .bind (toEpisodeShapes_admitted hA season.2) fun _ => .bind ih fun _ => trivial

theorem title_reaches (cfg : AppConfig) (titleId : String) :
    (handle cfg (.title titleId)).Calls (Reaches (.title titleId)) := by
  have asks : Admitted Cmd.asksStatus (Reaches (.title titleId)) := asks_admitted fun _ _ _ => rfl
  refine .bind (.perform_bind (beq_self_eq_true titleId) fun found => ?_) fun _ => trivial
  cases found with
  | none => trivial
  | some tree =>
      dsimp only
      cases tree.title.type with
      | MOVIE => exact .bind (unitMedia_admitted asks _ _) fun _ => trivial
      | SERIES => exact .bind (toSeasonShapes_admitted asks _) fun _ => trivial

theorem episode_reaches (cfg : AppConfig) (episodeId : String) :
    (handle cfg (.episode episodeId)).Calls (Reaches (.episode episodeId)) := by
  have asks : Admitted Cmd.asksStatus (Reaches (.episode episodeId)) := asks_admitted fun _ _ _ => rfl
  refine .bind (.perform_bind (beq_self_eq_true episodeId) fun episode => ?_) fun _ => trivial
  cases episode with
  | none => trivial
  | some episode => exact .bind (unitMedia_admitted asks _ _) fun _ => trivial

theorem getSignedUrlForReadyAsset_admitted {assetId : String} (hA : Admitted (Cmd.signsAsset .GET) A)
    (hasset : A (.mediaAsset (.findById assetId))) (kind : MediaKind) :
    (MediaService.getSignedUrlForReadyAsset assetId kind).Calls A := by
  refine .perform_bind hasset fun asset => ?_
  split
  · trivial
  · refine .perform_bind (hA _ rfl) fun url => ?_
    exact .perform_bind (hA _ rfl) fun instant => trivial

theorem trailerUrl_reaches (cfg : AppConfig) (assetId : String) :
    (handle cfg (.trailerUrl assetId)).Calls (Reaches (.trailerUrl assetId)) := by
  have signs : Admitted (Cmd.signsAsset .GET) (Reaches (.trailerUrl assetId)) := by
    intro c hc
    unfold Cmd.signsAsset at hc
    split at hc <;> first | rfl | exact hc | cases hc
  exact .bind (getSignedUrlForReadyAsset_admitted signs (beq_self_eq_true assetId) _)
    fun _ => trivial

theorem playbackUrl_reaches (cfg : AppConfig) (user : Option JwtAccessPayload) (assetId : String) :
    (handle cfg (.playbackUrl user assetId)).Calls (Reaches (.playbackUrl user assetId)) := by
  have signs : Admitted (Cmd.signsAsset .GET) (Reaches (.playbackUrl user assetId)) := by
    intro c hc
    unfold Cmd.signsAsset at hc
    split at hc <;> first | rfl | exact hc | cases hc
  refine .bind (jwtAuthGuard_bind ?_) fun _ => trivial
  rintro u rfl
  refine .bind (.bind ?_ fun entitled => ?_) fun _ =>
    getSignedUrlForReadyAsset_admitted signs (beq_self_eq_true assetId) _
  · refine .perform_bind rfl fun instant => ?_
    exact .perform_bind (isBearer_self u) fun active => trivial
  · split <;> trivial

section

open TranscodeProcessor

variable (hA : Admitted Cmd.ofWorkDir A)
include hA

theorem downloadSource_admitted (objectKey destPath : String) :
    (downloadSource objectKey destPath).Calls A := by
  refine .perform_bind (hA _ rfl) fun body => ?_
  exact .ite (fun _ => trivial) fun _ => ⟨hA _ rfl, fun _ => trivial⟩

theorem uploadEntries_admitted (localDir keyPrefix : String) (entries : List String) :
    (uploadEntries localDir keyPrefix entries).Calls A := by
  induction entries with
  | nil => trivial
  | cons entry rest ih => exact .perform_bind (hA _ rfl) fun _ => ih

theorem transcodeAll_admitted (mediaAssetId workDir sourcePath : String)
    (renditions : List Rendition) :
    (transcodeAll mediaAssetId workDir sourcePath renditions).Calls A := by
  induction renditions with
  | nil => trivial
  | cons rendition rest ih =>
      refine .bind ?_ fun _ => .bind ?_ fun _ => ih
      · exact .perform_bind (hA _ rfl) fun _ => ⟨hA _ rfl, fun _ => trivial⟩
      · exact .perform_bind (hA _ rfl) fun entries => uploadEntries_admitted hA _ _ entries

end

theorem transcode_reaches (cfg : AppConfig) (job : TranscodeJobData) :
    (handle cfg (.transcode job)).Calls (Reaches (.transcode job)) := by
  have works : Admitted Cmd.ofWorkDir (Reaches (.transcode job)) := by
    intro c hc
    unfold Cmd.ofWorkDir at hc
    split at hc <;> first | rfl | cases hc
  have own : ∀ key reason : String,
      Reaches (.transcode job) (.mediaAsset (.setReady job.mediaAssetId key)) ∧
        Reaches (.transcode job) (.mediaAsset (.setFailed job.mediaAssetId reason)) := fun _ _ =>
    ⟨beq_self_eq_true job.mediaAssetId, beq_self_eq_true job.mediaAssetId⟩
  refine .bind (.perform_bind rfl fun workDir => ?_) fun _ => trivial
  have cleanup : Prog.Calls (Reaches (.transcode job))
      (stmt (.service (.removeDir workDir)) : App Unit) := ⟨rfl, fun _ => trivial⟩
  refine .bind (.catchErr (.catchErr ?_ fun err => ?_) fun err => ?_) fun _ => ?_
  · refine .bind (downloadSource_admitted works _ _) fun _ => ?_
    refine .bind (transcodeAll_admitted works _ _ _ _) fun _ => ?_
    refine .perform_bind rfl fun _ => .perform_bind rfl fun _ => ⟨(own _ "").1, fun _ => trivial⟩
  · exact ⟨(own "" _).2, fun _ => trivial⟩
  · exact .bind cleanup fun _ => trivial
  · exact .bind cleanup fun _ => trivial

end Content

/-! ## The admin's endpoints -/

section Admin

variable {user : Option JwtAccessPayload}

/-- The shape of every endpoint behind `RolesGuard`: what it performs, its
admin may. -/
theorem administers_reaches {q : Request} {α : Type} {f : Unit → App α}
    (hreach : ∀ c, isAdmin user = true → q.administers c = true → Reaches q c)
    (hf : (f ()).Calls fun c : Cmd => q.administers c = true) :
    (adminGuard user >>= f).Calls (Reaches q) :=
  adminGuard_bind fun hadmin => hf.mono fun c hc => hreach c hadmin hc

theorem resolveGenres_admitted (hA : ∀ name, A (.catalog (.upsertGenre name)))
    (names : List String) : (AdminTitlesService.resolveGenres names).Calls A := by
  induction names with
  | nil => trivial
  | cons name rest ih =>
      exact .perform_bind (hA name) fun genre => .bind ih fun _ => trivial

open AdminTitlesService in
theorem canPublish_admitted (hA : Admitted Cmd.asksStatus A) {titleId : String}
    (hfind : A (.catalog (.findPublishedEpisodesOf titleId))) (type : TitleType) :
    (canPublish titleId type).Calls A := by
  cases type with
  | MOVIE => exact .bind (getMediaAssetStatus_admitted hA _ _ _) fun _ => trivial
  | SERIES =>
      refine .perform_bind hfind fun episodes => ?_
      induction episodes with
      | nil => trivial
      | cons episode rest ih =>
          refine .bind (getMediaAssetStatus_admitted hA _ _ _) fun full => ?_
          exact .ite (fun _ => trivial) fun _ => ih

theorem adminTitle_reaches (cfg : AppConfig) (titleId : String) :
    (handle cfg (.adminTitle user titleId)).Calls (Reaches (.adminTitle user titleId)) := by
  refine administers_reaches (fun c hadmin hc => ?_) ?_
  · simp [Reaches, Request.reach, Request.admin, hadmin, hc]
  · refine .bind (.perform_bind (beq_self_eq_true titleId) fun tree => ?_) fun _ => trivial
    split <;> trivial

theorem createTitle_reaches (cfg : AppConfig) (dto : AdminTitlesService.CreateTitleDto) :
    (handle cfg (.createTitle user dto)).Calls (Reaches (.createTitle user dto)) := by
  refine administers_reaches (fun c hadmin hc => ?_) ?_
  · simp [Reaches, Request.reach, Request.admin, hadmin, hc]
  · refine .bind (.bind ?_ fun genreConnections => ?_) fun _ => trivial
    · exact resolveGenres_admitted (fun _ => rfl) _
    · exact ⟨rfl, fun _ => trivial⟩

/-- The endpoints that publish ask for the status of any owner's media. -/
theorem updateTitle_reaches (cfg : AppConfig) (titleId : String)
    (dto : AdminTitlesService.UpdateTitleDto) :
    (handle cfg (.updateTitle user titleId dto)).Calls (Reaches (.updateTitle user titleId dto)) := by
  refine administers_reaches (fun c hadmin hc => ?_) ?_
  · simp [Reaches, Request.reach, Request.admin, hadmin, hc]
  · have asks : Admitted Cmd.asksStatus fun c : Cmd =>
        (Request.updateTitle user titleId dto).administers c = true :=
      asks_admitted fun _ _ _ => rfl
    have written : ∀ genreIds : Option (List String), Prog.Calls (fun c : Cmd =>
        (Request.updateTitle user titleId dto).administers c = true) (stmt (.catalog
          (.updateTitle titleId
            { name := dto.name, description := dto.description, posterUrl := dto.posterUrl,
              published := dto.published, genreIds }))) := fun _ =>
      ⟨beq_self_eq_true titleId, fun _ => trivial⟩
    have genres : (AdminTitlesService.genreUpdate dto.genres).Calls fun c : Cmd =>
        (Request.updateTitle user titleId dto).administers c = true := by
      cases dto.genres with
      | none => trivial
      | some genres => exact .bind (resolveGenres_admitted (fun _ => rfl) _) fun _ => trivial
    refine .bind (.perform_bind (beq_self_eq_true titleId) fun title => ?_) fun _ => trivial
    cases title with
    | none => trivial
    | some title =>
        refine .ite (fun _ => ?_) fun _ => .bind genres written
        refine .bind (canPublish_admitted asks (beq_self_eq_true titleId) _) fun publishable => ?_
        exact .ite (fun _ => trivial) fun _ => .bind genres written

theorem createSeason_reaches (cfg : AppConfig) (titleId : String) (number : Int) :
    (handle cfg (.createSeason user titleId number)).Calls
      (Reaches (.createSeason user titleId number)) := by
  refine administers_reaches (fun c hadmin hc => ?_) ?_
  · simp [Reaches, Request.reach, Request.admin, hadmin, hc]
  · refine .bind (.perform_bind (beq_self_eq_true titleId) fun title => ?_) fun _ => trivial
    cases title with
    | none => trivial
    | some title =>
        refine .ite (fun _ => trivial) fun _ => ⟨?_, fun _ => trivial⟩
        simp [Request.administers]

theorem createEpisode_reaches (cfg : AppConfig) (seasonId : String)
    (dto : AdminTitlesService.CreateEpisodeDto) :
    (handle cfg (.createEpisode user seasonId dto)).Calls
      (Reaches (.createEpisode user seasonId dto)) := by
  refine administers_reaches (fun c hadmin hc => ?_) ?_
  · simp [Reaches, Request.reach, Request.admin, hadmin, hc]
  · refine .bind (.perform_bind (beq_self_eq_true seasonId) fun season => ?_) fun _ => trivial
    cases season with
    | none => trivial
    | some season => exact ⟨beq_self_eq_true seasonId, fun _ => trivial⟩

theorem updateEpisode_reaches (cfg : AppConfig) (episodeId : String)
    (dto : AdminTitlesService.UpdateEpisodeDto) :
    (handle cfg (.updateEpisode user episodeId dto)).Calls
      (Reaches (.updateEpisode user episodeId dto)) := by
  refine administers_reaches (fun c hadmin hc => ?_) ?_
  · simp [Reaches, Request.reach, Request.admin, hadmin, hc]
  · have asks : Admitted Cmd.asksStatus fun c : Cmd =>
        (Request.updateEpisode user episodeId dto).administers c = true :=
      asks_admitted fun _ _ _ => rfl
    refine .bind (.perform_bind (beq_self_eq_true episodeId) fun episode => ?_) fun _ => trivial
    cases episode with
    | none => trivial
    | some episode =>
        refine .ite (fun _ => ?_) fun _ => ⟨beq_self_eq_true episodeId, fun _ => trivial⟩
        refine .bind (getMediaAssetStatus_admitted asks _ _ _) fun full => ?_
        exact .ite (fun _ => trivial) fun _ => ⟨beq_self_eq_true episodeId, fun _ => trivial⟩

theorem registerMediaAsset_reaches (cfg : AppConfig)
    (dto : AdminMediaService.RegisterMediaAssetDto) :
    (handle cfg (.registerMediaAsset user dto)).Calls (Reaches (.registerMediaAsset user dto)) := by
  refine administers_reaches (fun c hadmin hc => ?_) ?_
  · simp [Reaches, Request.reach, Request.admin, hadmin, hc]
  · refine .bind (.bind ?_ fun _ => ?_) fun _ => trivial
    · unfold AdminMediaService.assertOwnerExists
      cases dto.ownerType with
      | TITLE => exact .perform_bind rfl fun title => .ite (fun _ => trivial) fun _ => trivial
      | EPISODE => exact .perform_bind rfl fun episode => .ite (fun _ => trivial) fun _ => trivial
    · refine .perform_bind rfl fun uuid => ?_
      refine .perform_bind (by simp [Request.administers]) fun asset => ?_
      refine .bind ?_ fun upload => trivial
      exact .perform_bind rfl fun url => .perform_bind rfl fun instant => trivial

theorem completeUpload_reaches (cfg : AppConfig) (assetId : String) :
    (handle cfg (.completeUpload user assetId)).Calls (Reaches (.completeUpload user assetId)) := by
  refine administers_reaches (fun c hadmin hc => ?_) ?_
  · simp [Reaches, Request.reach, Request.admin, hadmin, hc]
  · refine .bind (.perform_bind (beq_self_eq_true assetId) fun asset => ?_) fun _ => trivial
    cases asset with
    | none => trivial
    | some asset =>
        refine .perform_bind (beq_self_eq_true assetId) fun _ => ?_
        dsimp only
        cases asset.kind with
        | FULL => exact .perform_bind (beq_self_eq_true assetId) fun _ => trivial
        | TRAILER => exact .perform_bind (beq_self_eq_true assetId) fun _ => trivial

theorem mediaAssetStatus_reaches (cfg : AppConfig) (assetId : String) :
    (handle cfg (.mediaAssetStatus user assetId)).Calls
      (Reaches (.mediaAssetStatus user assetId)) := by
  refine administers_reaches (fun c hadmin hc => ?_) ?_
  · simp [Reaches, Request.reach, Request.admin, hadmin, hc]
  · refine .bind (.perform_bind (beq_self_eq_true assetId) fun asset => ?_) fun _ => trivial
    split <;> trivial

end Admin

end

/-! ## Every request -/

/-- **No request performs a statement outside its capability.** -/
theorem handle_reaches (cfg : AppConfig) (q : Request) : (handle cfg q).Calls (Reaches q) := by
  cases q with
  | register email password => exact register_reaches cfg email password
  | login email password => exact login_reaches cfg email password
  | refresh presented => exact refresh_reaches cfg presented
  | logout presented => exact logout_reaches cfg presented
  | me user => exact me_reaches cfg user
  | initiateMpesa user phoneNumber => exact initiateMpesa_reaches cfg user phoneNumber
  | initiateBankGateway user => exact initiateBankGateway_reaches cfg user
  | paymentStatus user transactionId => exact paymentStatus_reaches cfg user transactionId
  | history user => exact history_reaches cfg user
  | mpesaCallback req token => exact handle_calls cfg (.mpesaCallback req token)
  | bankGatewayWebhook req => exact handle_calls cfg (.bankGatewayWebhook req)
  | subscriptionStatus user => exact subscriptionStatus_reaches cfg user
  | sweepTick => exact handle_calls cfg .sweepTick
  | titles query =>
      exact .bind (.perform_bind rfl fun rows => .perform_bind rfl fun total => trivial)
        fun _ => trivial
  | title titleId => exact title_reaches cfg titleId
  | episode episodeId => exact episode_reaches cfg episodeId
  | trailerUrl assetId => exact trailerUrl_reaches cfg assetId
  | playbackUrl user assetId => exact playbackUrl_reaches cfg user assetId
  | adminTitle user titleId => exact adminTitle_reaches cfg titleId
  | createTitle user dto => exact createTitle_reaches cfg dto
  | updateTitle user titleId dto => exact updateTitle_reaches cfg titleId dto
  | createSeason user titleId number => exact createSeason_reaches cfg titleId number
  | createEpisode user seasonId dto => exact createEpisode_reaches cfg seasonId dto
  | updateEpisode user episodeId dto => exact updateEpisode_reaches cfg episodeId dto
  | registerMediaAsset user dto => exact registerMediaAsset_reaches cfg dto
  | completeUpload user assetId => exact completeUpload_reaches cfg assetId
  | mediaAssetStatus user assetId => exact mediaAssetStatus_reaches cfg assetId
  | transcode job => exact transcode_reaches cfg job

/-! ## Every run -/

/-- A statement of the trace is within the capability of a request that was
begun before it. -/
theorem reaches_run {cfg : AppConfig} {ok : AppState → Action Ambient Request → Prop} {s : Store}
    {b : AppState} (hr : (app cfg).Run ok (Machine.start s) b) {post pre : Trace} {tid : Nat}
    {e : Prog.Entry Sig} (htr : b.trace = post ++ .did tid e :: pre) :
    ∃ q, Event.began tid q ∈ pre ∧ Reaches q e.1 := by
  have hrec := Machine.Run.emits (P := fun q _ e => Reaches q e.1) (R := fun _ _ _ => True)
    (fun q => .of_calls (handle_reaches cfg q) (fun _ _ h => h) fun _ _ => trivial) hr
  have hpast := hrec.past
  rw [htr] at hpast
  exact hpast.split

end StreamingService
