import StreamingService.Lib.Raises
import StreamingService.Server
import StreamingService.Frame

/-!
# Frontend — Status

The statuses the frontend sees. Behind `JwtAuthGuard` an endpoint answers
401 for one reason only: the bearer token did not verify.
-/

namespace StreamingService

open Lib

/-- `AllExceptionsFilter`: an `HttpException` has its own status, anything else
is a 500. -/
def Exception.status : Exception → Nat
  | .conflict _ => 409
  | .notFound _ => 404
  | .forbidden _ => 403
  | .unauthorized _ => 401
  | .unprocessable _ => 422
  | .error _ | .typeError | .prisma _ => 500

/-- The endpoints under `JwtAuthGuard`. -/
def Request.guarded : Request → Bool
  | .me _ | .initiateMpesa _ _ | .initiateBankGateway _ | .paymentStatus _ _ | .history _ => true
  | .subscriptionStatus _ | .playbackUrl _ _ | .adminTitle _ _ | .createTitle _ _ => true
  | .updateTitle _ _ _ | .createSeason _ _ _ | .createEpisode _ _ _ | .updateEpisode _ _ _ => true
  | .registerMediaAsset _ _ | .completeUpload _ _ | .mediaAssetStatus _ _ => true
  | _ => false

/-- The pages' endpoints without a guard. -/
def Request.browsing : Request → Bool
  | .titles _ | .title _ | .episode _ | .trailerUrl _ => true
  | _ => false

/-- What a page asks of the backend, once its user has signed in. -/
def Request.ofPage (q : Request) : Bool := q.guarded || q.browsing

/-- The request with what Passport makes of its bearer token. -/
def Request.withUser (user : Option JwtAccessPayload) : Request → Request
  | .me _ => .me user
  | .initiateMpesa _ phoneNumber => .initiateMpesa user phoneNumber
  | .initiateBankGateway _ => .initiateBankGateway user
  | .paymentStatus _ transactionId => .paymentStatus user transactionId
  | .history _ => .history user
  | .subscriptionStatus _ => .subscriptionStatus user
  | .playbackUrl _ assetId => .playbackUrl user assetId
  | .adminTitle _ titleId => .adminTitle user titleId
  | .createTitle _ dto => .createTitle user dto
  | .updateTitle _ titleId dto => .updateTitle user titleId dto
  | .createSeason _ titleId number => .createSeason user titleId number
  | .createEpisode _ seasonId dto => .createEpisode user seasonId dto
  | .updateEpisode _ episodeId dto => .updateEpisode user episodeId dto
  | .registerMediaAsset _ dto => .registerMediaAsset user dto
  | .completeUpload _ assetId => .completeUpload user assetId
  | .mediaAssetStatus _ assetId => .mediaAssetStatus user assetId
  | q => q

/-! ## Programs that answer no 401 -/

/-- No statement fails with a 401, and the profile's user exists. -/
def CalmAnswer (e : Prog.Entry Sig) : Prop :=
  (∀ x, e.2 = .error x → x.status ≠ 401) ∧
    ∀ id, e ≠ ⟨.account (.findUserWithActive id), .ok none⟩

/-- The program ends in no 401 of its own. -/
abbrev Authorized {α : Type} (p : App α) : Prop := p.Raises CalmAnswer fun e => e.status ≠ 401

section

variable {α β : Type}

theorem calm_error (c : Cmd) (e : Exception) (h : CalmAnswer ⟨c, .error e⟩) : e.status ≠ 401 := h.1 e rfl

theorem authorized_stmt (c : Cmd) : Authorized (stmt c) :=
  Prog.Raises.perform (S := Sig) calm_error c

/-- One statement and what follows it. -/
theorem authorized_bind {c : Cmd} {f : c.Resp → App β} (hf : ∀ a, Authorized (f a)) :
    Authorized (stmt c >>= f) :=
  Prog.Raises.perform_bind calm_error fun a _ => hf a

/-- Reading a reply fails with a `SyntaxError` or a `TypeError`. -/
theorem authorized_json (r : HttpReply) {f : JsVal → App β} (hf : ∀ a, Authorized (f a)) :
    Authorized (Prog.ofExcept r.json >>= f) := by
  refine .bind (.ofExcept ?_) hf
  intro e he
  unfold HttpReply.json at he
  split at he
  · cases he
    simp [Exception.status]
  · cases he

theorem prop_status (v : JsVal) (name : String) :
    ∀ e, prop v name = .error e → e.status ≠ 401 := by
  intro e he
  unfold prop at he
  split at he
  · cases he
    simp [Exception.status]
  · cases he

end

/-! ## The services -/

theorem createPending_authorized (cfg : AppConfig) (userId : String) (method : PaymentMethod) :
    Authorized (TransactionsService.createPending cfg userId method) := by
  refine authorized_bind fun existing => ?_
  exact .ite (fun _ => .error (by simp [Exception.status])) fun _ => authorized_stmt _

theorem markFailed_authorized (transactionId : String) (reason : JsVal) :
    Authorized (TransactionsService.markFailed transactionId reason) :=
  authorized_bind fun _ => authorized_stmt _

/-- The `catch` of an initiation: the row is marked, the error is thrown on. -/
theorem failed_authorized {α : Type} (transactionId : String) (reason : JsVal) {err : Exception}
    (herr : err.status ≠ 401) :
    Authorized (TransactionsService.markFailed transactionId reason >>= fun _ =>
      (throw err : App α)) :=
  .bind (markFailed_authorized _ _) fun _ => .error herr

theorem getAccessToken_authorized : Authorized MpesaProvider.getAccessToken := by
  refine authorized_bind fun response => ?_
  refine .ite (fun _ => .error (by simp [Exception.status])) fun _ => ?_
  exact authorized_json _ fun body => .ofExcept (prop_status _ _)

theorem mpesaInitiate_authorized (cfg : AppConfig) (input : InitiatePaymentInput) :
    Authorized (MpesaProvider.initiate cfg input) := by
  refine .ite (fun _ => .error (by simp [Exception.status])) fun _ => ?_
  refine .bind getAccessToken_authorized fun _ => authorized_bind fun response => ?_
  refine .ite (fun _ => .error (by simp [Exception.status])) fun _ => ?_
  exact authorized_json _ fun body => .bind (.ofExcept (prop_status _ _)) fun _ => .ok _

theorem bankInitiate_authorized (cfg : AppConfig) (input : InitiatePaymentInput) :
    Authorized (BankGatewayProvider.initiate cfg input) := by
  refine authorized_bind fun response => ?_
  refine .ite (fun _ => .error (by simp [Exception.status])) fun _ => ?_
  refine authorized_json _ fun body => .bind (.ofExcept (prop_status _ _)) fun data => ?_
  exact .bind (.ofExcept (prop_status _ _)) fun link => .ok _

theorem initiateMpesa_authorized (cfg : AppConfig) (userId userEmail phoneNumber : String) :
    Authorized (PaymentsService.initiateMpesa cfg userId userEmail phoneNumber) := by
  refine .bind (createPending_authorized _ _ _) fun transaction => ?_
  refine .bind (.catchErr ?_ fun err herr => failed_authorized _ _ herr) fun _ => .ok _
  refine .bind (mpesaInitiate_authorized _ _) fun result => ?_
  exact .ite (fun _ => authorized_bind fun _ => .ok _) fun _ => .ok _

theorem initiateBankGateway_authorized (cfg : AppConfig) (userId userEmail : String) :
    Authorized (PaymentsService.initiateBankGateway cfg userId userEmail) := by
  refine .bind (createPending_authorized _ _ _) fun transaction => ?_
  refine .catchErr ?_ fun err herr => failed_authorized _ _ herr
  exact .bind (bankInitiate_authorized _ _) fun result => .ok _

theorem paymentStatus_authorized (transactionId : String) :
    Authorized (PaymentsService.getStatus transactionId) := by
  refine .bind (authorized_bind ?_) fun _ => .ok _
  intro found
  cases found with
  | none => exact .error (by simp [Exception.status])
  | some transaction => exact .ok _

theorem getStatusForUser_authorized (userId : String) :
    Authorized (SubscriptionsService.getStatusForUser userId) := by
  refine authorized_bind ?_
  intro latest
  cases latest with
  | none => exact .ok _
  | some latest => exact authorized_bind fun _ => .ok _

theorem getMe_authorized (userId : String) : Authorized (AuthService.getMe userId) := by
  refine .perform_bind calm_error ?_
  intro found hcalm
  match found with
  | none => exact absurd rfl (hcalm.2 userId)
  | some (user, none) => exact .ok _
  | some (user, some latest) => exact authorized_bind fun _ => .ok _

theorem getSignedUrl_authorized (assetId : String) (kind : MediaKind) :
    Authorized (MediaService.getSignedUrlForReadyAsset assetId kind) := by
  refine authorized_bind ?_
  intro asset
  split
  · exact .error (by simp [Exception.status])
  · exact authorized_bind fun url => authorized_bind fun instant => .ok _

theorem entitlement_authorized (user : JwtAccessPayload) :
    Authorized (EntitlementGuard.canActivate (some user)) := by
  refine .bind (authorized_bind fun instant => authorized_bind fun active => .ok _) fun isEntitled => ?_
  exact .ite (fun _ => .error (by simp [Exception.status])) fun _ => .ok _

theorem getMediaAssetStatus_authorized (ownerType : MediaOwnerType) (ownerId : String)
    (kind : MediaKind) : Authorized (getMediaAssetStatus ownerType ownerId kind) :=
  authorized_bind fun _ => .ok _

theorem unitMedia_authorized (ownerType : MediaOwnerType) (ownerId : String) :
    Authorized (CatalogService.unitMedia ownerType ownerId) := by
  refine .bind (getMediaAssetStatus_authorized _ _ _) fun trailer => ?_
  exact .bind (getMediaAssetStatus_authorized _ _ _) fun full => .ok _

theorem toEpisodeShape_authorized (episode : Episode) :
    Authorized (CatalogService.toEpisodeShape episode) :=
  .bind (unitMedia_authorized _ _) fun _ => .ok _

theorem toEpisodeShapes_authorized (episodes : List Episode) :
    Authorized (CatalogService.toEpisodeShapes episodes) := by
  induction episodes with
  | nil => exact .ok _
  | cons episode rest ih =>
      exact .bind (toEpisodeShape_authorized _) fun shape => .bind ih fun shapes => .ok _

theorem toSeasonShapes_authorized (seasons : List (Season × List Episode)) :
    Authorized (CatalogService.toSeasonShapes seasons) := by
  induction seasons with
  | nil => exact .ok _
  | cons season rest ih =>
      exact .bind (toEpisodeShapes_authorized _) fun episodes => .bind ih fun shapes => .ok _

theorem listTitles_authorized (query : ListTitlesDto) :
    Authorized (CatalogService.listTitles query) :=
  authorized_bind fun _ => authorized_bind fun _ => .ok _

theorem getTitleById_authorized (titleId : String) :
    Authorized (CatalogService.getTitleById titleId) := by
  refine authorized_bind ?_
  intro found
  cases found with
  | none => exact .error (by simp [Exception.status])
  | some tree =>
      dsimp only
      cases tree.title.type with
      | MOVIE => exact .bind (unitMedia_authorized _ _) fun media => .ok _
      | SERIES => exact .bind (toSeasonShapes_authorized _) fun seasons => .ok _

theorem getEpisodeById_authorized (episodeId : String) :
    Authorized (CatalogService.getEpisodeById episodeId) := by
  refine authorized_bind ?_
  intro found
  cases found with
  | none => exact .error (by simp [Exception.status])
  | some episode => exact toEpisodeShape_authorized _

theorem resolveGenres_authorized (names : List String) :
    Authorized (AdminTitlesService.resolveGenres names) := by
  induction names with
  | nil => exact .ok _
  | cons name rest ih => exact authorized_bind fun genre => .bind ih fun ids => .ok _

theorem anyEpisodeReady_authorized (episodes : List Episode) :
    Authorized (AdminTitlesService.anyEpisodeReady episodes) := by
  induction episodes with
  | nil => exact .ok _
  | cons episode rest ih =>
      refine .bind (getMediaAssetStatus_authorized _ _ _) fun full => ?_
      exact .ite (fun _ => .ok _) fun _ => ih

theorem canPublish_authorized (titleId : String) (type : TitleType) :
    Authorized (AdminTitlesService.canPublish titleId type) := by
  cases type with
  | MOVIE => exact .bind (getMediaAssetStatus_authorized _ _ _) fun _ => .ok _
  | SERIES => exact authorized_bind fun episodes => anyEpisodeReady_authorized episodes

theorem getTitleForAdmin_authorized (titleId : String) :
    Authorized (AdminTitlesService.getTitleForAdmin titleId) := by
  refine authorized_bind ?_
  intro tree
  cases tree with
  | none => exact .error (by simp [Exception.status])
  | some tree => exact .ok _

theorem createTitle_authorized (dto : AdminTitlesService.CreateTitleDto) :
    Authorized (AdminTitlesService.createTitle dto) :=
  .bind (resolveGenres_authorized _) fun _ => authorized_stmt _

theorem genreUpdate_authorized (genres : Option (List String)) :
    Authorized (AdminTitlesService.genreUpdate genres) := by
  cases genres with
  | none => exact .ok _
  | some genres => exact .bind (resolveGenres_authorized _) fun _ => .ok _

theorem updateTitle_authorized (titleId : String) (dto : AdminTitlesService.UpdateTitleDto) :
    Authorized (AdminTitlesService.updateTitle titleId dto) := by
  refine authorized_bind ?_
  intro title
  cases title with
  | none => exact .error (by simp [Exception.status])
  | some title =>
      have write := Prog.Raises.bind (genreUpdate_authorized dto.genres) fun genreIds =>
        authorized_stmt (.catalog (.updateTitle titleId
          { name := dto.name, description := dto.description, posterUrl := dto.posterUrl,
            published := dto.published, genreIds }))
      refine .ite (fun _ => ?_) fun _ => write
      refine .bind (canPublish_authorized _ _) fun publishable => ?_
      exact .ite (fun _ => .error (by simp [Exception.status])) fun _ => write

theorem createSeason_authorized (titleId : String) (number : Int) :
    Authorized (AdminTitlesService.createSeason titleId number) := by
  refine authorized_bind ?_
  intro title
  cases title with
  | none => exact .error (by simp [Exception.status])
  | some title => exact .ite (fun _ => .error (by simp [Exception.status])) fun _ => authorized_stmt _

theorem createEpisode_authorized (seasonId : String) (dto : AdminTitlesService.CreateEpisodeDto) :
    Authorized (AdminTitlesService.createEpisode seasonId dto) := by
  refine authorized_bind ?_
  intro season
  cases season with
  | none => exact .error (by simp [Exception.status])
  | some season => exact authorized_stmt _

theorem updateEpisode_authorized (episodeId : String) (dto : AdminTitlesService.UpdateEpisodeDto) :
    Authorized (AdminTitlesService.updateEpisode episodeId dto) := by
  refine authorized_bind ?_
  intro episode
  cases episode with
  | none => exact .error (by simp [Exception.status])
  | some episode =>
      refine .ite (fun _ => ?_) fun _ => authorized_stmt _
      refine .bind (getMediaAssetStatus_authorized _ _ _) fun full => ?_
      exact .ite (fun _ => .error (by simp [Exception.status])) fun _ => authorized_stmt _

theorem assertOwnerExists_authorized (ownerType : MediaOwnerType) (ownerId : String) :
    Authorized (AdminMediaService.assertOwnerExists ownerType ownerId) := by
  cases ownerType with
  | TITLE =>
      exact authorized_bind fun title =>
        .ite (fun _ => .error (by simp [Exception.status])) fun _ => .ok _
  | EPISODE =>
      exact authorized_bind fun episode =>
        .ite (fun _ => .error (by simp [Exception.status])) fun _ => .ok _

theorem registerMediaAsset_authorized (dto : AdminMediaService.RegisterMediaAssetDto) :
    Authorized (AdminMediaService.registerMediaAsset dto) := by
  refine .bind (assertOwnerExists_authorized _ _) fun _ => authorized_bind fun uuid => ?_
  refine authorized_bind fun asset => .bind ?_ fun upload => .ok _
  exact authorized_bind fun url => authorized_bind fun instant => .ok _

theorem completeUpload_authorized (assetId : String) :
    Authorized (AdminMediaService.completeUpload assetId) := by
  refine authorized_bind ?_
  intro asset
  cases asset with
  | none => exact .error (by simp [Exception.status])
  | some asset =>
      refine authorized_bind fun _ => ?_
      cases asset.kind with
      | FULL => exact authorized_bind fun _ => .ok _
      | TRAILER => exact authorized_bind fun _ => .ok _

theorem assetStatus_authorized (assetId : String) :
    Authorized (AdminMediaService.getStatus assetId) := by
  refine authorized_bind ?_
  intro asset
  cases asset with
  | none => exact .error (by simp [Exception.status])
  | some asset => exact .ok _

theorem adminGuard_authorized (user : JwtAccessPayload) : Authorized (adminGuard (some user)) :=
  .ite (fun _ => .error (by simp [Exception.status])) fun _ => .ok _

/-- Behind `JwtAuthGuard`, with a verified bearer. -/
theorem authorized_guard {α : Type} {f : JwtAccessPayload → App α} {user : JwtAccessPayload}
    (hf : Authorized (f user)) : Authorized (jwtAuthGuard (some user) >>= f) := hf

/-- **A guarded endpoint answers 401 to an unverified bearer only.** -/
theorem handle_authorized (cfg : AppConfig) {q : Request} (hq : q.guarded = true)
    (user : JwtAccessPayload) : Authorized (handle cfg (q.withUser (some user))) := by
  cases q with
  | me _ =>
      exact authorized_guard (.bind (getMe_authorized _) fun _ => .ok _)
  | initiateMpesa _ phoneNumber =>
      exact authorized_guard (.bind (initiateMpesa_authorized cfg _ _ _) fun _ => .ok _)
  | initiateBankGateway _ =>
      exact authorized_guard (.bind (initiateBankGateway_authorized cfg _ _) fun _ => .ok _)
  | paymentStatus _ transactionId =>
      exact authorized_guard (.bind (paymentStatus_authorized _) fun _ => .ok _)
  | history _ =>
      exact authorized_guard (.bind (authorized_bind fun _ => .ok _) fun _ => .ok _)
  | subscriptionStatus _ =>
      exact authorized_guard (.bind (getStatusForUser_authorized _) fun _ => .ok _)
  | playbackUrl _ assetId =>
      refine .bind (authorized_guard ?_) fun _ => .ok _
      exact .bind (entitlement_authorized user) fun _ => getSignedUrl_authorized _ _
  | adminTitle _ titleId =>
      exact .bind (adminGuard_authorized user) fun _ =>
        .bind (getTitleForAdmin_authorized _) fun _ => .ok _
  | createTitle _ dto =>
      exact .bind (adminGuard_authorized user) fun _ =>
        .bind (createTitle_authorized _) fun _ => .ok _
  | updateTitle _ titleId dto =>
      exact .bind (adminGuard_authorized user) fun _ =>
        .bind (updateTitle_authorized _ _) fun _ => .ok _
  | createSeason _ titleId number =>
      exact .bind (adminGuard_authorized user) fun _ =>
        .bind (createSeason_authorized _ _) fun _ => .ok _
  | createEpisode _ seasonId dto =>
      exact .bind (adminGuard_authorized user) fun _ =>
        .bind (createEpisode_authorized _ _) fun _ => .ok _
  | updateEpisode _ episodeId dto =>
      exact .bind (adminGuard_authorized user) fun _ =>
        .bind (updateEpisode_authorized _ _) fun _ => .ok _
  | registerMediaAsset _ dto =>
      exact .bind (adminGuard_authorized user) fun _ =>
        .bind (registerMediaAsset_authorized _) fun _ => .ok _
  | completeUpload _ assetId =>
      exact .bind (adminGuard_authorized user) fun _ =>
        .bind (completeUpload_authorized _) fun _ => .ok _
  | mediaAssetStatus _ assetId =>
      exact .bind (adminGuard_authorized user) fun _ =>
        .bind (assetStatus_authorized _) fun _ => .ok _
  | _ => cases hq

/-- A page is answered 401 on a guarded endpoint only, and only without a
verified bearer. -/
theorem page_authorized (cfg : AppConfig) {q : Request} (hq : q.ofPage = true)
    {user : Option JwtAccessPayload} (huser : q.guarded = true → user.isSome = true) :
    Authorized (handle cfg (q.withUser user)) := by
  cases hguarded : q.guarded with
  | true =>
      obtain ⟨payload, rfl⟩ := Option.isSome_iff_exists.mp (huser hguarded)
      exact handle_authorized cfg hguarded payload
  | false =>
      have hbrowsing : q.browsing = true := by
        rw [Request.ofPage, hguarded, Bool.false_or] at hq
        exact hq
      cases q with
      | titles query => exact .bind (listTitles_authorized _) fun _ => .ok _
      | title titleId => exact .bind (getTitleById_authorized _) fun _ => .ok _
      | episode episodeId => exact .bind (getEpisodeById_authorized _) fun _ => .ok _
      | trailerUrl assetId => exact .bind (getSignedUrl_authorized _ _) fun _ => .ok _
      | _ => cases hbrowsing

end StreamingService
