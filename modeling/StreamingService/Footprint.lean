import StreamingService.Server

/-!
# Footprint

Which statements each request can perform, whatever the earlier ones
answer. What a request never performs it cannot change, so the results
about one part of the backend need to look at its own handlers only.
-/

namespace StreamingService

open Lib

/-! ## The parts of the backend -/

/-- Users and refresh tokens. -/
def Cmd.ofAuth : Cmd → Bool
  | .now | .service _ | .account _ => true
  | _ => false

/-- A payment initiation. -/
def Cmd.ofInitiation : Cmd → Bool
  | .now | .service _ => true
  | .transaction (.findFirstPending _) | .transaction (.create _ _ _) => true
  | .transaction (.setProviderReference _ _) | .transaction (.markFailed _ _ _) => true
  | _ => false

/-- A statement that stores a reference. -/
def Cmd.setsReference : Cmd → Bool
  | .transaction (.setProviderReference _ _) => true
  | _ => false

/-- A bank-gateway initiation: it stores no reference. -/
def Cmd.ofBankInitiation (c : Cmd) : Bool := c.ofInitiation && !c.setsReference

/-- The calls to a payment provider. -/
def Cmd.ofProvider : Cmd → Bool
  | .service .darajaAccessToken | .service (.darajaStkPush _) => true
  | .service (.flutterwaveCheckout _) => true
  | _ => false

/-- A webhook delivery. -/
def Cmd.ofDelivery : Cmd → Bool
  | .now => true
  | .transaction (.findByReference _) | .transaction (.findById _) => true
  | .transaction (.setProviderReference _ _) | .transaction (.markFailed _ _ _) => true
  | .subscription (.readForActivation _) => true
  | .subscription (.commitActivation _ _ _ _ _) => true
  | _ => false

/-- A tick of the timeout sweep. -/
def Cmd.ofSweep : Cmd → Bool
  | .now | .transaction (.findStale _) | .transaction (.markTimedOut _ _) => true
  | _ => false

/-- The read-only payment endpoints. -/
def Cmd.ofReport : Cmd → Bool
  | .now | .transaction (.findById _) | .transaction (.findManyOfUser _) => true
  | .subscription (.findLatest _) => true
  | _ => false

/-- Full playback. -/
def Cmd.ofPlayback : Cmd → Bool
  | .now | .service _ => true
  | .subscription (.findActive _ _) | .mediaAsset (.findById _) => true
  | _ => false

/-- Catalog and media, the admin's part and the worker's included. -/
def Cmd.ofContent : Cmd → Bool
  | .now | .service _ | .catalog _ | .mediaAsset _ => true
  | _ => false

/-- The statements a request can perform. -/
def Request.footprint : Request → Cmd → Bool
  | .register _ _ | .login _ _ | .refresh _ | .logout _ | .me _ => Cmd.ofAuth
  | .initiateMpesa _ _ => Cmd.ofInitiation
  | .initiateBankGateway _ => Cmd.ofBankInitiation
  | .mpesaCallback _ _ | .bankGatewayWebhook _ => Cmd.ofDelivery
  | .sweepTick => Cmd.ofSweep
  | .paymentStatus _ _ | .history _ | .subscriptionStatus _ => Cmd.ofReport
  | .playbackUrl _ _ => Cmd.ofPlayback
  | _ => Cmd.ofContent

/-- A statement of the given part. -/
def Within (part : Cmd → Bool) (c : Cmd) : Prop := part c = true

/-- What only the completion of an upload and the worker do: queueing a job,
and the writes of a processing status. -/
def Cmd.processes : Cmd → Bool
  | .service (.queueAdd _) => true
  | .mediaAsset (.resetToPending _) | .mediaAsset (.setTrailerReady _ _) => true
  | .mediaAsset (.setReady _ _) | .mediaAsset (.setFailed _ _) => true
  | _ => false

/-- An edit of a title or an episode, its `published` flag included. -/
def Cmd.edits : Cmd → Bool
  | .catalog (.updateTitle _ _) | .catalog (.updateEpisode _ _) => true
  | _ => false

/-- A season is created, or an upload registered. -/
def Cmd.registers : Cmd → Bool
  | .catalog (.createSeason _ _) | .mediaAsset (.upsert _ _ _ _) => true
  | _ => false

/-- A part without the statements that register. -/
def Cmd.unregistered (part : Cmd → Bool) (c : Cmd) : Bool := part c && !c.registers

/-- A part without its edits and without the processing of uploads. -/
def Cmd.apart (part : Cmd → Bool) (c : Cmd) : Bool := part c && !c.processes && !c.edits

/-- The edit of a title or an episode. -/
def Cmd.ofEdit (c : Cmd) : Bool := c.ofContent && !c.processes

/-- The completion of an upload. -/
def Cmd.ofCompletion (c : Cmd) : Bool := c.ofContent && !c.edits

/-- What a job does outside the database: its work directory and the storage. -/
def Cmd.ofFiles : Cmd → Bool
  | .service (.queueAdd _) => false
  | .service _ => true
  | _ => false

/-- A transcode job: of the database it writes the status of its own asset. -/
def Cmd.ofJob (job : TranscodeJobData) : Cmd → Bool
  | .service (.queueAdd _) => false
  | .service _ => true
  | .mediaAsset (.setReady id _) | .mediaAsset (.setFailed id _) => id == job.mediaAssetId
  | _ => false

/-- The statements a request can perform, more closely. -/
def Request.bounds (q : Request) : Cmd → Bool :=
  match q with
  | .updateTitle _ _ _ | .updateEpisode _ _ _ => Cmd.ofEdit
  | .completeUpload _ _ => Cmd.ofCompletion
  | .transcode job => Cmd.ofJob job
  | q => Cmd.apart q.footprint

def Request.processes : Request → Bool
  | .completeUpload _ _ | .transcode _ => true
  | _ => false

def Request.edits : Request → Bool
  | .updateTitle _ _ _ | .updateEpisode _ _ _ => true
  | _ => false

def Request.registers : Request → Bool
  | .createSeason _ _ _ | .registerMediaAsset _ _ => true
  | _ => false

/-- A request of catalog and media that registers nothing. -/
def Request.ofContent : Request → Bool
  | .titles _ | .title _ | .episode _ | .trailerUrl _ | .adminTitle _ _ | .createTitle _ _ => true
  | .updateTitle _ _ _ | .createEpisode _ _ _ | .updateEpisode _ _ _ => true
  | .completeUpload _ _ | .mediaAssetStatus _ _ | .transcode _ => true
  | _ => false

theorem Within.of_apart {part : Cmd → Bool} {c : Cmd} (h : Within (Cmd.apart part) c) :
    Within part c ∧ c.processes = false ∧ c.edits = false := by
  simpa [Within, Cmd.apart, and_assoc] using h

theorem Within.of_unregistered {part : Cmd → Bool} {c : Cmd}
    (h : Within (Cmd.unregistered part) c) : Within part c ∧ c.registers = false := by
  simpa [Within, Cmd.unregistered] using h

theorem Within.ofEdit {c : Cmd} (h : Within (Cmd.unregistered (Cmd.apart Cmd.ofContent)) c) :
    Within (Cmd.unregistered Cmd.ofEdit) c := by
  obtain ⟨happart, hregisters⟩ := h.of_unregistered
  obtain ⟨hpart, hprocesses, -⟩ := happart.of_apart
  simp [Within, Cmd.unregistered, Cmd.ofEdit, hprocesses, hregisters,
    show c.ofContent = true from hpart]

theorem Within.ofJob_cases {job : TranscodeJobData} {c : Cmd} (h : Within (Cmd.ofJob job) c) :
    Within Cmd.ofContent c ∧ c.edits = false := by
  unfold Within Cmd.ofJob at h
  split at h <;> first | exact ⟨rfl, rfl⟩ | cases h

theorem Within.ofJob_unregistered {job : TranscodeJobData} {c : Cmd}
    (h : Within (Cmd.ofJob job) c) : Within (Cmd.unregistered (Cmd.ofJob job)) c := by
  have hregisters : c.registers = false := by
    unfold Within Cmd.ofJob at h
    split at h <;> first | rfl | cases h
  simp [Within, Cmd.unregistered, hregisters, show Cmd.ofJob job c = true from h]

theorem Within.ofJob {job : TranscodeJobData} {c : Cmd} (h : Within Cmd.ofFiles c) :
    Within (Cmd.ofJob job) c := by
  cases c with
  | service c => cases c <;> exact h
  | _ => cases h

theorem Within.ofInitiation {c : Cmd} (h : Within (Cmd.apart Cmd.ofBankInitiation) c) :
    Within (Cmd.apart Cmd.ofInitiation) c := by
  simp only [Within, Cmd.apart, Cmd.ofBankInitiation, Bool.and_eq_true] at h ⊢
  exact ⟨⟨h.1.1.1, h.1.2⟩, h.2⟩

theorem Within.ofProvider {c : Cmd} (h : Within Cmd.ofProvider c) :
    Within (Cmd.apart Cmd.ofBankInitiation) c := by
  cases c with
  | service c => cases c <;> first | rfl | cases h
  | _ => cases h

/-- The close bound is within the part. -/
theorem Request.footprint_of_bounds {q : Request} {c : Cmd} (h : Within q.bounds c) :
    Within q.footprint c := by
  unfold Request.bounds at h
  split at h
  · exact (Bool.and_eq_true_iff.mp h).1
  · exact (Bool.and_eq_true_iff.mp h).1
  · exact (Bool.and_eq_true_iff.mp h).1
  · exact h.ofJob_cases.1
  · exact h.of_apart.1

/-- Uploads are processed by the requests that are for it. -/
theorem Request.processes_of_bounds {q : Request} {c : Cmd} (h : Within q.bounds c)
    (hq : q.processes = false) : c.processes = false := by
  unfold Request.bounds at h
  split at h
  · simpa using (Bool.and_eq_true_iff.mp h).2
  · simpa using (Bool.and_eq_true_iff.mp h).2
  · cases hq
  · cases hq
  · exact h.of_apart.2.1

/-- Titles and episodes are edited by the requests that are for it. -/
theorem Request.edits_of_bounds {q : Request} {c : Cmd} (h : Within q.bounds c)
    (hq : q.edits = false) : c.edits = false := by
  unfold Request.bounds at h
  split at h
  · cases hq
  · cases hq
  · simpa using (Bool.and_eq_true_iff.mp h).2
  · exact h.ofJob_cases.2
  · exact h.of_apart.2.2

/-- Outside catalog and media nothing registers. -/
theorem Request.registers_of_footprint {q : Request} {c : Cmd} (h : Within q.footprint c)
    (hq : q.registers = false) (hcontent : q.ofContent = false) : c.registers = false := by
  have hpart : ∀ c : Cmd, c.registers = true → q.footprint c = false := by
    intro c hc
    unfold Cmd.registers at hc
    split at hc
    · cases q <;> first | rfl | exact Bool.noConfusion hq | exact Bool.noConfusion hcontent
    · cases q <;> first | rfl | exact Bool.noConfusion hq | exact Bool.noConfusion hcontent
    · cases hc
  by_contra hc
  rw [Within, hpart c (by simpa using hc)] at h
  cases h

/-! ## Guards -/

/-- Behind `JwtAuthGuard`, with a verified bearer. -/
theorem emits_guard {α : Type} {P : List (Prog.Entry Sig) → Prog.Entry Sig → Prop}
    {R : Except Exception α → List (Prog.Entry Sig) → Prop} {h : List (Prog.Entry Sig)}
    {f : JwtAccessPayload → App α} {user : JwtAccessPayload} (hf : (f user).Emits P R h) :
    (jwtAuthGuard (some user) >>= f).Emits P R h := hf

section

variable {A : Cmd → Prop}

theorem jwtAuthGuard_calls (user : Option JwtAccessPayload) : (jwtAuthGuard user).Calls A := by
  cases user <;> trivial

theorem adminGuard_calls (user : Option JwtAccessPayload) : (adminGuard user).Calls A := by
  refine .bind (jwtAuthGuard_calls user) ?_
  intro user
  split <;> trivial

end

/-! ## Accounts -/

section Auth

open AuthService

theorem issueTokens_calls (cfg : AppConfig) (userId email : String) (role : Role) :
    (issueTokens cfg userId email role).Calls (Within (Cmd.apart Cmd.ofAuth)) := by
  refine .perform_bind rfl ?_
  intro accessToken
  refine .perform_bind rfl ?_
  intro refreshToken
  refine .perform_bind rfl ?_
  intro instant
  exact .perform_bind rfl fun _ => trivial

theorem register_calls (cfg : AppConfig) (email password : String) :
    (register cfg email password).Calls (Within (Cmd.apart Cmd.ofAuth)) := by
  refine .perform_bind rfl ?_
  intro existing
  split
  · trivial
  · refine .perform_bind rfl ?_
    intro passwordHash
    refine .perform_bind rfl ?_
    intro user
    exact .bind (issueTokens_calls cfg _ _ _) fun _ => trivial

theorem login_calls (cfg : AppConfig) (email password : String) :
    (login cfg email password).Calls (Within (Cmd.apart Cmd.ofAuth)) := by
  refine .perform_bind rfl ?_
  intro user
  split
  · trivial
  · refine .perform_bind rfl ?_
    intro passwordMatches
    split
    · trivial
    · exact .bind (issueTokens_calls cfg _ _ _) fun _ => trivial

theorem refresh_calls (cfg : AppConfig) (presented : JsVal) :
    (AuthController.refresh cfg presented).Calls (Within (Cmd.apart Cmd.ofAuth)) := by
  unfold AuthController.refresh
  split
  · trivial
  · refine .ofExcept_bind fun token _ => .perform_bind rfl ?_
    intro record
    split
    · trivial
    · split
      · refine .perform_bind rfl ?_
        intro revokedAt
        exact .perform_bind rfl fun _ => trivial
      · refine .perform_bind rfl ?_
        intro instant
        split
        · trivial
        · refine .perform_bind rfl ?_
          intro revokedAt
          exact .perform_bind rfl fun _ => issueTokens_calls cfg _ _ _

theorem logout_calls (presented : JsVal) :
    (AuthController.logout presented).Calls (Within (Cmd.apart Cmd.ofAuth)) := by
  unfold AuthController.logout
  split
  · refine .ofExcept_bind ?_
    intro token _
    exact .perform_bind rfl fun revokedAt => ⟨rfl, fun _ => trivial⟩
  · trivial

theorem getMe_calls (userId : String) : (getMe userId).Calls (Within (Cmd.apart Cmd.ofAuth)) := by
  refine .perform_bind rfl ?_
  intro user
  split
  · trivial
  · trivial
  · exact .perform_bind rfl fun instant => trivial

end Auth

/-! ## Payments -/

section Payments

open PaymentsService

theorem createPending_calls (cfg : AppConfig) (userId : String) (method : PaymentMethod) :
    (TransactionsService.createPending cfg userId method).Calls
      (Within (Cmd.apart Cmd.ofBankInitiation)) := by
  refine .perform_bind rfl ?_
  intro existing
  split
  · trivial
  · exact ⟨rfl, fun _ => trivial⟩

theorem mpesaProvider_calls (cfg : AppConfig) (input : InitiatePaymentInput) :
    (MpesaProvider.initiate cfg input).Calls (Within Cmd.ofProvider) := by
  unfold MpesaProvider.initiate
  split
  · trivial
  · refine .bind ?_ fun _ => ?_
    · refine .perform_bind rfl ?_
      intro response
      split
      · trivial
      · exact .ofExcept_bind fun body _ => trivial
    · refine .perform_bind rfl ?_
      intro response
      split
      · trivial
      · refine .ofExcept_bind ?_
        intro body _
        exact .ofExcept_bind fun checkoutRequestId _ => trivial

theorem bankGatewayProvider_calls (cfg : AppConfig) (input : InitiatePaymentInput) :
    (BankGatewayProvider.initiate cfg input).Calls (Within Cmd.ofProvider) := by
  refine .perform_bind rfl ?_
  intro response
  split
  · trivial
  · refine .ofExcept_bind ?_
    intro body _
    refine .ofExcept_bind ?_
    intro data _
    exact .ofExcept_bind fun link _ => trivial

theorem initiateMpesa_calls (cfg : AppConfig) (userId userEmail phoneNumber : String) :
    (initiateMpesa cfg userId userEmail phoneNumber).Calls
      (Within (Cmd.apart Cmd.ofInitiation)) := by
  refine .bind ((createPending_calls cfg _ _).mono fun _ => Within.ofInitiation) ?_
  intro transaction
  refine .bind (.catchErr ?_ ?_) fun _ => trivial
  · refine .bind ((mpesaProvider_calls cfg _).mono fun _ h => h.ofProvider.ofInitiation) ?_
    intro result
    split
    · exact .perform_bind rfl fun _ => trivial
    · trivial
  · intro err
    refine .bind ?_ fun _ => trivial
    exact .perform_bind rfl fun resolvedAt => ⟨rfl, fun _ => trivial⟩

theorem initiateBankGateway_calls (cfg : AppConfig) (userId userEmail : String) :
    (initiateBankGateway cfg userId userEmail).Calls (Within (Cmd.apart Cmd.ofBankInitiation)) := by
  refine .bind (createPending_calls cfg _ _) ?_
  intro transaction
  refine .catchErr ?_ ?_
  · exact .bind ((bankGatewayProvider_calls cfg _).mono fun _ => Within.ofProvider) fun result => trivial
  · intro err
    refine .bind ?_ fun _ => trivial
    exact .perform_bind rfl fun resolvedAt => ⟨rfl, fun _ => trivial⟩

theorem conclude_calls (cfg : AppConfig) (outcome : WebhookOutcome) (transactionId : String) :
    (conclude cfg outcome transactionId).Calls (Within (Cmd.apart Cmd.ofDelivery)) := by
  unfold conclude
  split
  · refine .bind (.perform_bind rfl ?_) fun _ => trivial
    intro found
    split
    · trivial
    · trivial
    · refine .perform_bind rfl fun resolvedAt => .perform_bind rfl ?_
      intro startAt
      exact ⟨rfl, fun _ => trivial⟩
  · refine .bind ?_ fun _ => trivial
    exact .perform_bind rfl fun resolvedAt => ⟨rfl, fun _ => trivial⟩

theorem settle_calls (cfg : AppConfig) (outcome : WebhookOutcome) (transaction : Transaction) :
    (settle cfg outcome transaction).Calls (Within (Cmd.apart Cmd.ofDelivery)) := by
  refine .ite (fun _ => ?_) fun _ => conclude_calls cfg _ _
  exact .bind (.perform_bind rfl fun _ => trivial) fun _ => conclude_calls cfg _ _

theorem applyOutcome_calls (cfg : AppConfig) (outcome : WebhookOutcome) :
    (applyOutcome cfg outcome).Calls (Within (Cmd.apart Cmd.ofDelivery)) := by
  refine .bind ?_ ?_
  · refine .perform_bind rfl ?_
    intro byReference
    split
    · trivial
    · exact .ite (fun _ => ⟨rfl, fun _ => trivial⟩) fun _ => trivial
  · intro transaction
    split
    · trivial
    · exact .ite (fun _ => trivial) fun _ => settle_calls cfg _ _

theorem mpesaCallback_calls (cfg : AppConfig) (req : HttpRequest) (token : JsVal) :
    (PaymentsController.mpesaCallback cfg req token).Calls (Within (Cmd.apart Cmd.ofDelivery)) := by
  unfold PaymentsController.mpesaCallback handleMpesaCallback
  split
  · trivial
  · exact .ofExcept_bind fun outcome _ => applyOutcome_calls cfg outcome

theorem bankGatewayWebhook_calls (cfg : AppConfig) (req : HttpRequest) :
    (PaymentsController.bankGatewayWebhook cfg req).Calls (Within (Cmd.apart Cmd.ofDelivery)) := by
  unfold PaymentsController.bankGatewayWebhook handleBankGatewayWebhook
  split
  · trivial
  · exact .ofExcept_bind fun outcome _ => applyOutcome_calls cfg outcome

theorem markStale_calls (stale : List Transaction) :
    (markStale stale).Calls (Within (Cmd.apart Cmd.ofSweep)) := by
  induction stale with
  | nil => trivial
  | cons transaction rest ih =>
      refine .bind ?_ fun _ => ih
      exact .perform_bind rfl fun resolvedAt => ⟨rfl, fun _ => trivial⟩

theorem timeoutSweep_calls (cfg : AppConfig) :
    (timeoutSweep cfg).Calls (Within (Cmd.apart Cmd.ofSweep)) := by
  refine .perform_bind rfl ?_
  intro instant
  exact .perform_bind rfl fun stale => markStale_calls stale

end Payments

/-! ## Playback, catalog and media -/

section Content

theorem getSignedUrlForReadyAsset_calls (assetId : String) (kind : MediaKind) :
    (MediaService.getSignedUrlForReadyAsset assetId kind).Calls
      (Within (Cmd.apart Cmd.ofPlayback)) := by
  refine .perform_bind rfl ?_
  intro asset
  split
  · trivial
  · refine .perform_bind rfl ?_
    intro url
    exact .perform_bind rfl fun instant => trivial

theorem getPlaybackUrl_calls (user : Option JwtAccessPayload) (assetId : String) :
    (MediaController.getPlaybackUrl user assetId).Calls (Within (Cmd.apart Cmd.ofPlayback)) := by
  refine .bind (jwtAuthGuard_calls user) ?_
  intro user
  refine .bind (.bind ?_ ?_) fun _ => getSignedUrlForReadyAsset_calls _ _
  · refine .perform_bind rfl ?_
    intro instant
    exact .perform_bind rfl fun active => trivial
  · intro entitled
    split <;> trivial

theorem getMediaAssetStatus_calls (ownerType : MediaOwnerType) (ownerId : String)
    (kind : MediaKind) :
    (getMediaAssetStatus ownerType ownerId kind).Calls (Within (Cmd.unregistered (Cmd.apart Cmd.ofContent))) :=
  .perform_bind rfl fun _ => trivial

theorem unitMedia_calls (ownerType : MediaOwnerType) (ownerId : String) :
    (CatalogService.unitMedia ownerType ownerId).Calls (Within (Cmd.unregistered (Cmd.apart Cmd.ofContent))) := by
  refine .bind (getMediaAssetStatus_calls _ _ _) ?_
  intro trailer
  exact .bind (getMediaAssetStatus_calls _ _ _) fun full => trivial

theorem toEpisodeShape_calls (episode : Episode) :
    (CatalogService.toEpisodeShape episode).Calls (Within (Cmd.unregistered (Cmd.apart Cmd.ofContent))) :=
  .bind (unitMedia_calls _ _) fun _ => trivial

theorem toEpisodeShapes_calls (episodes : List Episode) :
    (CatalogService.toEpisodeShapes episodes).Calls (Within (Cmd.unregistered (Cmd.apart Cmd.ofContent))) := by
  induction episodes with
  | nil => trivial
  | cons episode rest ih =>
      exact .bind (toEpisodeShape_calls episode) fun _ => .bind ih fun _ => trivial

theorem toSeasonShapes_calls (seasons : List (Season × List Episode)) :
    (CatalogService.toSeasonShapes seasons).Calls (Within (Cmd.unregistered (Cmd.apart Cmd.ofContent))) := by
  induction seasons with
  | nil => trivial
  | cons season rest ih =>
      exact .bind (toEpisodeShapes_calls season.2) fun _ => .bind ih fun _ => trivial

theorem listTitles_calls (query : ListTitlesDto) :
    (CatalogService.listTitles query).Calls (Within (Cmd.unregistered (Cmd.apart Cmd.ofContent))) := by
  refine .perform_bind rfl ?_
  intro rows
  exact .perform_bind rfl fun total => trivial

theorem getTitleById_calls (titleId : String) :
    (CatalogService.getTitleById titleId).Calls (Within (Cmd.unregistered (Cmd.apart Cmd.ofContent))) := by
  refine .perform_bind rfl ?_
  intro found
  split
  · trivial
  · dsimp only
    split
    · exact .bind (unitMedia_calls _ _) fun _ => trivial
    · exact .bind (toSeasonShapes_calls _) fun _ => trivial

theorem getEpisodeById_calls (episodeId : String) :
    (CatalogService.getEpisodeById episodeId).Calls (Within (Cmd.unregistered (Cmd.apart Cmd.ofContent))) := by
  refine .perform_bind rfl ?_
  intro episode
  split
  · trivial
  · exact toEpisodeShape_calls _

theorem resolveGenres_calls (names : List String) :
    (AdminTitlesService.resolveGenres names).Calls (Within (Cmd.unregistered (Cmd.apart Cmd.ofContent))) := by
  induction names with
  | nil => trivial
  | cons name rest ih => exact .perform_bind rfl fun genre => .bind ih fun _ => trivial

theorem anyEpisodeReady_calls (episodes : List Episode) :
    (AdminTitlesService.anyEpisodeReady episodes).Calls (Within (Cmd.unregistered (Cmd.apart Cmd.ofContent))) := by
  induction episodes with
  | nil => trivial
  | cons episode rest ih =>
      refine .bind (getMediaAssetStatus_calls _ _ _) ?_
      intro full
      split
      · trivial
      · exact ih

theorem canPublish_calls (titleId : String) (type : TitleType) :
    (AdminTitlesService.canPublish titleId type).Calls (Within (Cmd.unregistered (Cmd.apart Cmd.ofContent))) := by
  cases type with
  | MOVIE => exact .bind (getMediaAssetStatus_calls _ _ _) fun _ => trivial
  | SERIES => exact .perform_bind rfl fun episodes => anyEpisodeReady_calls episodes

theorem genreUpdate_calls (genres : Option (List String)) :
    (AdminTitlesService.genreUpdate genres).Calls (Within (Cmd.unregistered (Cmd.apart Cmd.ofContent))) := by
  cases genres with
  | none => trivial
  | some genres => exact .bind (resolveGenres_calls genres) fun _ => trivial

theorem updateTitle_calls (titleId : String) (dto : AdminTitlesService.UpdateTitleDto) :
    (AdminTitlesService.updateTitle titleId dto).Calls (Within (Cmd.unregistered Cmd.ofEdit)) := by
  have write : ∀ genreIds : Option (List String), Prog.Calls (Within (Cmd.unregistered Cmd.ofEdit))
      (stmt (.catalog (.updateTitle titleId
        { name := dto.name, description := dto.description, posterUrl := dto.posterUrl,
          published := dto.published, genreIds }))) := fun _ => ⟨rfl, fun _ => trivial⟩
  refine .perform_bind rfl ?_
  intro title
  split
  · trivial
  · have genres := (genreUpdate_calls dto.genres).mono fun _ => Within.ofEdit
    refine .ite (fun _ => ?_) fun _ => .bind genres write
    refine .bind ((canPublish_calls _ _).mono fun _ => Within.ofEdit) ?_
    intro publishable
    exact .ite (fun _ => trivial) fun _ => .bind genres write

theorem updateEpisode_calls (episodeId : String) (dto : AdminTitlesService.UpdateEpisodeDto) :
    (AdminTitlesService.updateEpisode episodeId dto).Calls (Within (Cmd.unregistered Cmd.ofEdit)) := by
  refine .perform_bind rfl ?_
  intro episode
  split
  · trivial
  · split
    · refine .bind ((getMediaAssetStatus_calls _ _ _).mono fun _ => Within.ofEdit) ?_
      intro full
      exact .ite (fun _ => trivial) fun _ => ⟨rfl, fun _ => trivial⟩
    · exact ⟨rfl, fun _ => trivial⟩

theorem registerMediaAsset_calls (dto : AdminMediaService.RegisterMediaAssetDto) :
    (AdminMediaService.registerMediaAsset dto).Calls (Within (Cmd.apart Cmd.ofContent)) := by
  refine .bind ?_ fun _ => ?_
  · unfold AdminMediaService.assertOwnerExists
    cases dto.ownerType with
    | TITLE => exact .perform_bind rfl fun title => .ite (fun _ => trivial) fun _ => trivial
    | EPISODE => exact .perform_bind rfl fun episode => .ite (fun _ => trivial) fun _ => trivial
  · refine .perform_bind rfl ?_
    intro uuid
    refine .perform_bind rfl ?_
    intro asset
    refine .bind ?_ fun upload => trivial
    refine .perform_bind rfl ?_
    intro url
    exact .perform_bind rfl fun instant => trivial

theorem completeUpload_calls (assetId : String) :
    (AdminMediaService.completeUpload assetId).Calls (Within (Cmd.unregistered Cmd.ofCompletion)) := by
  refine .perform_bind rfl ?_
  intro asset
  split
  · trivial
  · refine .perform_bind rfl fun _ => ?_
    split
    · exact .perform_bind rfl fun _ => trivial
    · exact .perform_bind rfl fun _ => trivial

variable (job : TranscodeJobData)

theorem downloadSource_calls (objectKey destPath : String) :
    (TranscodeProcessor.downloadSource objectKey destPath).Calls (Within Cmd.ofFiles) := by
  refine .perform_bind rfl ?_
  intro body
  split
  · trivial
  · exact ⟨rfl, fun _ => trivial⟩

theorem uploadEntries_calls (localDir keyPrefix : String) (entries : List String) :
    (TranscodeProcessor.uploadEntries localDir keyPrefix entries).Calls (Within Cmd.ofFiles) := by
  induction entries with
  | nil => trivial
  | cons entry rest ih => exact .perform_bind rfl fun _ => ih

theorem transcodeAll_calls (mediaAssetId workDir sourcePath : String)
    (renditions : List TranscodeProcessor.Rendition) :
    (TranscodeProcessor.transcodeAll mediaAssetId workDir sourcePath renditions).Calls
      (Within Cmd.ofFiles) := by
  induction renditions with
  | nil => trivial
  | cons rendition rest ih =>
      refine .bind ?_ fun _ => .bind ?_ fun _ => ih
      · exact .perform_bind rfl fun _ => ⟨rfl, fun _ => trivial⟩
      · exact .perform_bind rfl fun entries => uploadEntries_calls _ _ entries

theorem process_calls : (TranscodeProcessor.process job).Calls (Within (Cmd.ofJob job)) := by
  have own : ∀ key reason : String,
      Within (Cmd.ofJob job) (.mediaAsset (.setReady job.mediaAssetId key)) ∧
        Within (Cmd.ofJob job) (.mediaAsset (.setFailed job.mediaAssetId reason)) := fun _ _ =>
    ⟨beq_self_eq_true _, beq_self_eq_true _⟩
  have cleanup : ∀ workDir : String, Prog.Calls (Within (Cmd.ofJob job))
      (stmt (.service (.removeDir workDir)) : App Unit) := fun _ => ⟨rfl, fun _ => trivial⟩
  refine .perform_bind rfl ?_
  intro workDir
  refine .bind (.catchErr (.catchErr ?_ ?_) ?_) fun _ => ?_
  · refine .bind (.mono (fun _ => .ofJob) (downloadSource_calls _ _)) fun _ => ?_
    · refine .bind (.mono (fun _ => .ofJob) (transcodeAll_calls _ _ _ _)) fun _ => ?_
      refine .perform_bind rfl fun _ => ?_
      exact .perform_bind rfl fun _ => ⟨(own _ "").1, fun _ => trivial⟩
  · intro err
    exact ⟨(own "" _).2, fun _ => trivial⟩
  · intro err
    exact .bind (cleanup workDir) fun _ => trivial
  · exact .bind (cleanup workDir) fun _ => trivial

end Content

/-! ## Every request -/

/-- What a request of catalog and media performs when it registers nothing. -/
theorem content_within (cfg : AppConfig) {q : Request} (hq : q.ofContent = true) :
    (handle cfg q).Calls (Within (Cmd.unregistered q.bounds)) := by
  cases q with
  | titles query => exact .bind (listTitles_calls query) fun _ => trivial
  | title titleId => exact .bind (getTitleById_calls _) fun _ => trivial
  | episode episodeId => exact .bind (getEpisodeById_calls _) fun _ => trivial
  | trailerUrl assetId =>
      refine .bind ?_ fun _ => trivial
      refine .perform_bind rfl ?_
      intro asset
      split
      · trivial
      · refine .perform_bind rfl ?_
        intro url
        exact .perform_bind rfl fun instant => trivial
  | adminTitle user titleId =>
      refine .bind (adminGuard_calls user) fun _ => ?_
      refine .bind (.perform_bind rfl ?_) fun _ => trivial
      intro tree
      split <;> trivial
  | createTitle user dto =>
      refine .bind (adminGuard_calls user) fun _ => .bind ?_ fun _ => trivial
      exact .bind (resolveGenres_calls _) fun ids => ⟨rfl, fun _ => trivial⟩
  | updateTitle user titleId dto =>
      refine .bind (adminGuard_calls user) fun _ => ?_
      exact .bind (updateTitle_calls _ _) fun _ => trivial
  | createEpisode user seasonId dto =>
      refine .bind (adminGuard_calls user) fun _ => ?_
      refine .bind (.perform_bind rfl ?_) fun _ => trivial
      intro season
      split
      · trivial
      · exact ⟨rfl, fun _ => trivial⟩
  | updateEpisode user episodeId dto =>
      refine .bind (adminGuard_calls user) fun _ => ?_
      exact .bind (updateEpisode_calls _ _) fun _ => trivial
  | completeUpload user assetId =>
      refine .bind (adminGuard_calls user) fun _ => ?_
      exact .bind (completeUpload_calls _) fun _ => trivial
  | mediaAssetStatus user assetId =>
      refine .bind (adminGuard_calls user) fun _ => ?_
      refine .bind (.perform_bind rfl ?_) fun _ => trivial
      intro asset
      split <;> trivial
  | transcode job =>
      exact .bind ((process_calls job).mono fun _ => Within.ofJob_unregistered) fun _ => trivial
  | _ => cases hq

/-- **A request performs statements within its bounds only.** -/
theorem handle_within (cfg : AppConfig) (q : Request) :
    (handle cfg q).Calls (Within q.bounds) := by
  cases q with
  | register email password => exact .bind (register_calls cfg _ _) fun _ => trivial
  | login email password => exact .bind (login_calls cfg _ _) fun _ => trivial
  | refresh presented => exact .bind (refresh_calls cfg _) fun _ => trivial
  | logout presented => exact .bind (logout_calls _) fun _ => trivial
  | me user =>
      refine .bind (jwtAuthGuard_calls user) ?_
      intro user
      exact .bind (getMe_calls _) fun _ => trivial
  | initiateMpesa user phoneNumber =>
      refine .bind (jwtAuthGuard_calls user) ?_
      intro user
      exact .bind (initiateMpesa_calls cfg _ _ _) fun _ => trivial
  | initiateBankGateway user =>
      refine .bind (jwtAuthGuard_calls user) ?_
      intro user
      exact .bind (initiateBankGateway_calls cfg _ _) fun _ => trivial
  | paymentStatus user transactionId =>
      refine .bind (jwtAuthGuard_calls user) ?_
      intro user
      refine .bind (.bind (.perform_bind rfl ?_) fun _ => trivial)
        fun _ => trivial
      intro transaction
      split <;> trivial
  | history user =>
      refine .bind (jwtAuthGuard_calls user) ?_
      intro user
      exact .bind (.perform_bind rfl fun _ => trivial) fun _ => trivial
  | mpesaCallback req token => exact .bind (mpesaCallback_calls cfg _ _) fun _ => trivial
  | bankGatewayWebhook req => exact .bind (bankGatewayWebhook_calls cfg _) fun _ => trivial
  | subscriptionStatus user =>
      refine .bind (jwtAuthGuard_calls user) ?_
      intro user
      refine .bind (.perform_bind rfl ?_) fun _ => trivial
      intro latest
      split
      · trivial
      · exact .perform_bind rfl fun instant => trivial
  | sweepTick => exact .bind (timeoutSweep_calls cfg) fun _ => trivial
  | playbackUrl user assetId => exact .bind (getPlaybackUrl_calls _ _) fun _ => trivial
  | createSeason user titleId number =>
      refine .bind (adminGuard_calls user) fun _ => ?_
      refine .bind (.perform_bind rfl ?_) fun _ => trivial
      intro title
      split
      · trivial
      · split
        · trivial
        · exact ⟨rfl, fun _ => trivial⟩
  | registerMediaAsset user dto =>
      refine .bind (adminGuard_calls user) fun _ => ?_
      exact .bind (registerMediaAsset_calls _) fun _ => trivial
  | _ => exact (content_within cfg rfl).mono fun _ h => h.of_unregistered.1

/-- **Seasons and uploads are registered by the requests that are for it.** -/
theorem handle_registers (cfg : AppConfig) {q : Request} (hq : q.registers = false) :
    (handle cfg q).Calls fun c : Cmd => c.registers = false := by
  by_cases hcontent : q.ofContent = true
  · exact (content_within cfg hcontent).mono fun _ h => h.of_unregistered.2
  · refine (handle_within cfg q).mono fun _ h => ?_
    exact Request.registers_of_footprint (Request.footprint_of_bounds h) hq (by simpa using hcontent)

/-- **A request performs statements of its own part only.** -/
theorem handle_calls (cfg : AppConfig) (q : Request) :
    (handle cfg q).Calls (Within q.footprint) :=
  (handle_within cfg q).mono fun _ => Request.footprint_of_bounds

end StreamingService
