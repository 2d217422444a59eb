import StreamingService.Lib.Refusal
import StreamingService.Auth.Accounts
import StreamingService.Payments.Acknowledge
import StreamingService.Payments.History
import StreamingService.Frontend.Status

/-!
# Refusals

The backend's answer when a request goes wrong. A refusal (an
`HttpException`) names a reason the request's own lookups have shown, and
comes before the request has done anything, but for the revocation that
answers a reused refresh token. Everything else is the same 500.
-/

namespace StreamingService

open Lib

/-! ## The answer to an error -/

/-- The body of an error, without the path and the time. -/
structure ErrorBody where
  statusCode : Nat
  message : String
  deriving DecidableEq, Repr

namespace AllExceptionsFilter

def «catch» (exception : Exception) : ErrorBody where
  statusCode := exception.status
  message := if exception.isHttp then exception.message else "Internal server error"

end AllExceptionsFilter

/-! ## The grounds of a refusal -/

/-- The title an admin's edit is about. -/
def Request.parentTitle : Request → Option String
  | .updateTitle _ titleId _ | .createSeason _ titleId _ => some titleId
  | _ => none

/-- The asset a player asks for, and of which kind it must be. -/
def Request.plays : Request → Option (String × MediaKind)
  | .trailerUrl assetId => some (assetId, .TRAILER)
  | .playbackUrl _ assetId => some (assetId, .FULL)
  | _ => none

/-- The asset an upload's endpoints are about. -/
def Request.uploadedAsset : Request → Option String
  | .completeUpload _ assetId | .mediaAssetStatus _ assetId => some assetId
  | _ => none

/-- An owner's full asset as it was looked up: missing, or not ready. -/
def SawUnready (saw : List (Prog.Entry Sig)) (ownerType : MediaOwnerType) (ownerId : String) :
    Prop :=
  ∃ asset : Option MediaAsset,
    (⟨.mediaAsset (.findByOwner ownerType ownerId .FULL), .ok asset⟩ : Prog.Entry Sig) ∈ saw ∧
    ∀ a ∈ asset, a.processingStatus ≠ .READY

/-- What `canPublish` finds beneath a title that may not be published. -/
def SawUnplayable (saw : List (Prog.Entry Sig)) (titleId : String) : TitleType → Prop
  | .MOVIE => SawUnready saw .TITLE titleId
  | .SERIES => ∃ episodes : List Episode,
      (⟨.catalog (.findPublishedEpisodesOf titleId), .ok episodes⟩ : Prog.Entry Sig) ∈ saw ∧
      ∀ episode ∈ episodes, SawUnready saw .EPISODE episode.id

/-- The lookup that missed an upload's owner. -/
def SawNoOwner (saw : List (Prog.Entry Sig)) (ownerType : MediaOwnerType) (ownerId : String) :
    Prop :=
  match ownerType with
  | .TITLE => (⟨.catalog (.findTitle ownerId), .ok none⟩ : Prog.Entry Sig) ∈ saw
  | .EPISODE => (⟨.catalog (.findEpisode ownerId), .ok none⟩ : Prog.Entry Sig) ∈ saw

/-- Why a request is refused, in the order of the source's files: the exception
and what its lookups saw. -/
inductive Refusal (saw : List (Prog.Entry Sig)) : Request → Exception → Prop
  -- the guards
  | unverified {q : Request} (hq : q.guarded = true) (hbearer : q.bearer = none) :
      Refusal saw q (.unauthorized "Unauthorized")
  | notAdmin {q : Request} {user : JwtAccessPayload} (hq : q.admin = some (some user))
      (hrole : user.role ≠ .ADMIN) : Refusal saw q (.forbidden "Insufficient role")
  | notEntitled {user : JwtAccessPayload} {assetId : String} {instant : Millis}
      (hnow : (⟨.now, .ok instant⟩ : Prog.Entry Sig) ∈ saw)
      (hfind : (⟨.subscription (.findActive user.sub instant), .ok none⟩ : Prog.Entry Sig) ∈ saw) :
      Refusal saw (.playbackUrl (some user) assetId) (.forbidden "No active subscription")
  -- auth
  | registered {email password : String} {user : User}
      (hfind : (⟨.account (.findUserByEmail email), .ok (some user)⟩ : Prog.Entry Sig) ∈ saw) :
      Refusal saw (.register email password) (.conflict "Email already registered")
  | unknownEmail {email password : String}
      (hfind : (⟨.account (.findUserByEmail email), .ok none⟩ : Prog.Entry Sig) ∈ saw) :
      Refusal saw (.login email password) (.unauthorized "Invalid credentials")
  | wrongPassword {email password : String} {user : User}
      (hfind : (⟨.account (.findUserByEmail email), .ok (some user)⟩ : Prog.Entry Sig) ∈ saw)
      (hcompare : (⟨.service (.bcryptCompare password user.passwordHash), .ok false⟩ :
        Prog.Entry Sig) ∈ saw) :
      Refusal saw (.login email password) (.unauthorized "Invalid credentials")
  | noToken {presented : JsVal} (hfalsy : presented.truthy = false) :
      Refusal saw (.refresh presented) (.unauthorized "Missing refresh token")
  | unknownToken {token : String}
      (hfind : (⟨.account (.findToken (AuthService.hashRefreshToken token)), .ok none⟩ :
        Prog.Entry Sig) ∈ saw) :
      Refusal saw (.refresh (some (.str token))) (.unauthorized "Invalid refresh token")
  | reused {token : String} {record : RefreshToken} {user : User}
      (hfind : (⟨.account (.findToken (AuthService.hashRefreshToken token)),
        .ok (some (record, user))⟩ : Prog.Entry Sig) ∈ saw)
      (hrevoked : record.revokedAt.isSome = true) :
      Refusal saw (.refresh (some (.str token))) (.unauthorized "Refresh token has been revoked")
  | expired {token : String} {record : RefreshToken} {user : User} {instant : Millis}
      (hfind : (⟨.account (.findToken (AuthService.hashRefreshToken token)),
        .ok (some (record, user))⟩ : Prog.Entry Sig) ∈ saw)
      (hnow : (⟨.now, .ok instant⟩ : Prog.Entry Sig) ∈ saw) (hlate : record.expiresAt < instant) :
      Refusal saw (.refresh (some (.str token))) (.unauthorized "Refresh token expired")
  | noUser {user : JwtAccessPayload}
      (hfind : (⟨.account (.findUserWithActive user.sub), .ok none⟩ : Prog.Entry Sig) ∈ saw) :
      Refusal saw (.me (some user)) (.unauthorized "Unauthorized")
  -- payments
  | pending {q : Request} {userId : String} {method : PaymentMethod} {t : Transaction}
      (hq : q.initiates = some (userId, method))
      (hfind : (⟨.transaction (.findFirstPending userId), .ok (some t)⟩ : Prog.Entry Sig) ∈ saw) :
      Refusal saw q (.conflict "A payment is already pending for this user")
  | noTransaction {user : Option JwtAccessPayload} {transactionId : String}
      (hfind : (⟨.transaction (.findById (some (.str transactionId))), .ok none⟩ :
        Prog.Entry Sig) ∈ saw) :
      Refusal saw (.paymentStatus user transactionId) (.notFound "Transaction not found")
  -- catalog
  | noPublishedTitle {titleId : String}
      (hfind : (⟨.catalog (.findPublishedTitle titleId), .ok none⟩ : Prog.Entry Sig) ∈ saw) :
      Refusal saw (.title titleId) (.notFound "Title not found")
  | noPublishedEpisode {episodeId : String}
      (hfind : (⟨.catalog (.findPublishedEpisode episodeId), .ok none⟩ : Prog.Entry Sig) ∈ saw) :
      Refusal saw (.episode episodeId) (.notFound "Episode not found")
  | noTitleTree {user : Option JwtAccessPayload} {titleId : String}
      (hfind : (⟨.catalog (.findTitleTree titleId), .ok none⟩ : Prog.Entry Sig) ∈ saw) :
      Refusal saw (.adminTitle user titleId) (.notFound "Title not found")
  | noTitle {q : Request} {titleId : String} (hq : q.parentTitle = some titleId)
      (hfind : (⟨.catalog (.findTitle titleId), .ok none⟩ : Prog.Entry Sig) ∈ saw) :
      Refusal saw q (.notFound "Title not found")
  | unplayableTitle {user : Option JwtAccessPayload} {titleId : String} {title : Title}
      {dto : AdminTitlesService.UpdateTitleDto} (hpublish : dto.published = some true)
      (hfind : (⟨.catalog (.findTitle titleId), .ok (some title)⟩ : Prog.Entry Sig) ∈ saw)
      (hunplayable : SawUnplayable saw titleId title.type) :
      Refusal saw (.updateTitle user titleId dto)
        (.unprocessable "Cannot publish a title with no ready playable content beneath it")
  | notSeries {user : Option JwtAccessPayload} {titleId : String} {number : Int} {title : Title}
      (hfind : (⟨.catalog (.findTitle titleId), .ok (some title)⟩ : Prog.Entry Sig) ∈ saw)
      (htype : title.type ≠ .SERIES) :
      Refusal saw (.createSeason user titleId number)
        (.unprocessable "Seasons can only be added to a SERIES title")
  | noSeason {user : Option JwtAccessPayload} {seasonId : String}
      {dto : AdminTitlesService.CreateEpisodeDto}
      (hfind : (⟨.catalog (.findSeason seasonId), .ok none⟩ : Prog.Entry Sig) ∈ saw) :
      Refusal saw (.createEpisode user seasonId dto) (.notFound "Season not found")
  | noEpisode {user : Option JwtAccessPayload} {episodeId : String}
      {dto : AdminTitlesService.UpdateEpisodeDto}
      (hfind : (⟨.catalog (.findEpisode episodeId), .ok none⟩ : Prog.Entry Sig) ∈ saw) :
      Refusal saw (.updateEpisode user episodeId dto) (.notFound "Episode not found")
  | unreadyEpisode {user : Option JwtAccessPayload} {episodeId : String}
      {dto : AdminTitlesService.UpdateEpisodeDto} (hpublish : dto.published = some true)
      (hunready : SawUnready saw .EPISODE episodeId) :
      Refusal saw (.updateEpisode user episodeId dto)
        (.unprocessable "Cannot publish an episode whose FULL video is not ready")
  -- media
  | notServable {q : Request} {assetId : String} {kind : MediaKind} {asset : Option MediaAsset}
      (hq : q.plays = some (assetId, kind))
      (hfind : (⟨.mediaAsset (.findById assetId), .ok asset⟩ : Prog.Entry Sig) ∈ saw)
      (hunservable : asset.bind (·.servableKey kind) = none) :
      Refusal saw q (.notFound "Media asset not found or not ready")
  | noAsset {q : Request} {assetId : String} (hq : q.uploadedAsset = some assetId)
      (hfind : (⟨.mediaAsset (.findById assetId), .ok none⟩ : Prog.Entry Sig) ∈ saw) :
      Refusal saw q (.notFound "Media asset not found")
  | noOwner {user : Option JwtAccessPayload} {dto : AdminMediaService.RegisterMediaAssetDto}
      (hfind : SawNoOwner saw dto.ownerType dto.ownerId) :
      Refusal saw (.registerMediaAsset user dto)
        (.unprocessable (dto.ownerType.text ++ " " ++ dto.ownerId ++ " does not exist"))

/-! ## Looking -/

/-- The queries, the clock and the comparison of a password. -/
def Cmd.looks : Cmd → Bool
  | .now | .service (.bcryptCompare _ _) => true
  | .transaction (.findFirstPending _) | .transaction (.findById _) => true
  | .transaction (.findByReference _) | .transaction (.findStale _) => true
  | .transaction (.findManyOfUser _) => true
  | .subscription (.findActive _ _) | .subscription (.findLatest _) => true
  | .subscription (.readForActivation _) => true
  | .account (.findUserByEmail _) | .account (.findUserWithActive _) => true
  | .account (.findToken _) => true
  | .catalog (.findPublishedTitles _ _ _ _) | .catalog (.countPublishedTitles _ _) => true
  | .catalog (.findPublishedTitle _) | .catalog (.findTitleTree _) | .catalog (.findTitle _) => true
  | .catalog (.findSeason _) | .catalog (.findEpisode _) => true
  | .catalog (.findPublishedEpisode _) | .catalog (.findPublishedEpisodesOf _) => true
  | .mediaAsset (.findById _) | .mediaAsset (.findByOwner _ _ _) => true
  | _ => false

/-- Looking changes nothing. -/
theorem looks_store {c : Cmd} (hc : c.looks = true) (o : Ambient) (s : Store) :
    (exec o c s).2 = s := by
  refine exec_cases (P := fun out => out.2 = s) (fun _ => rfl) ?_
  cases c with
  | now => rfl
  | transaction c =>
      cases c <;> first
        | exact absurd hc Bool.false_ne_true
        | rfl
        | (simp only [answer, TransactionStmt.answer]; (repeat' split) <;> rfl)
  | subscription c => cases c <;> first | exact absurd hc Bool.false_ne_true | rfl
  | account c =>
      cases c <;> first
        | exact absurd hc Bool.false_ne_true
        | rfl
        | (simp only [answer, AccountStmt.answer]; (repeat' split) <;> rfl)
  | catalog c => cases c <;> first | exact absurd hc Bool.false_ne_true | rfl
  | mediaAsset c => cases c <;> first | exact absurd hc Bool.false_ne_true | rfl
  | service c => cases c <;> first | exact absurd hc Bool.false_ne_true | rfl

/-- A statement of a refused request: a look, or the revocation of the tokens of a
user one of whose revoked tokens was presented again. -/
inductive Harmless (q : Request) (saw : List (Prog.Entry Sig)) : Cmd → Prop
  | look {c : Cmd} (hc : c.looks = true) (hstore : ∀ o s, (exec o c s).2 = s) : Harmless q saw c
  | revocation {token : String} {record : RefreshToken} {user : User} {revokedAt : Millis}
      (hq : q = .refresh (some (.str token)))
      (hfind : (⟨.account (.findToken (AuthService.hashRefreshToken token)),
        .ok (some (record, user))⟩ : Prog.Entry Sig) ∈ saw)
      (hrevoked : record.revokedAt.isSome = true) :
      Harmless q saw (.account (.revokeAllOfUser record.userId revokedAt))

/-- The answers to expect: what fails outside refuses nothing, and the payment
that an activation is for is found. -/
def Expected (e : Prog.Entry Sig) : Prop :=
  (∀ x, e.2 = .error x → x.isHttp = false) ∧
    ∀ id, e ≠ ⟨.subscription (.readForActivation id), .ok none⟩

/-- Refusals are the `HttpException`s, whichever statements come before them. -/
def refusing (looks : Cmd → Prop) : Prog.Discipline Sig where
  answers := Expected
  refuses e := e.isHttp = true
  looks := looks
  own := by
    intro c e hexpected href
    rw [hexpected.1 e rfl] at href
    cases href

/-- Everything but the refresh looks before it acts. -/
abbrev looking : Prog.Discipline Sig := refusing fun c => c.looks = true

/-- The program refuses nothing. -/
abbrev Silent {α : Type} (p : App α) : Prop := p.Raises Expected fun e => ¬ e.isHttp = true

/-! ## What refuses nothing -/

section

variable {α β : Type} {cfg : AppConfig}

theorem silent_stmt (c : Cmd) : Silent (stmt c) :=
  Prog.Raises.perform (S := Sig) looking.own c

/-- One statement and what follows it. -/
theorem silent_bind {c : Cmd} {f : c.Resp → App β} (hf : ∀ a, Silent (f a)) :
    Silent (stmt c >>= f) :=
  Prog.Raises.perform_bind looking.own fun a _ => hf a

theorem silent_error (message : String) :
    Silent (Prog.done (.error (.error message)) : App α) :=
  .error (by simp [Exception.isHttp])

/-- Reading a reply fails with a `SyntaxError` or a `TypeError`. -/
theorem silent_json (r : HttpReply) {f : JsVal → App β} (hf : ∀ a, Silent (f a)) :
    Silent (Prog.ofExcept r.json >>= f) := by
  refine .bind (.ofExcept ?_) hf
  intro e he
  unfold HttpReply.json at he
  split at he
  · cases he
    simp [Exception.isHttp]
  · cases he

/-- The value is no `HttpException`. -/
def Plain (r : Except Exception α) : Prop := ∀ e, r = .error e → ¬ e.isHttp = true

theorem Plain.bind {r : Except Exception α} {f : α → Except Exception β} (hr : Plain r)
    (hf : ∀ a, Plain (f a)) : Plain (r >>= f) := by
  cases r with
  | ok a => exact hf a
  | error e =>
      rintro e' he'
      cases he'
      exact hr e rfl

theorem plain_ok (a : α) : Plain (.ok a) := by
  intro e he
  cases he

theorem plain_prop (v : JsVal) (name : String) : Plain (prop v name) := by
  intro e he
  unfold prop at he
  split at he
  · cases he
    simp [Exception.isHttp]
  · cases he

theorem silent_prop (v : JsVal) (name : String) :
    Silent (Prog.ofExcept (prop v name) : App JsVal) :=
  .ofExcept (plain_prop v name)

theorem issueTokens_silent (userId email : String) (role : Role) :
    Silent (AuthService.issueTokens cfg userId email role) :=
  silent_bind fun _ => silent_bind fun _ => silent_bind fun _ => silent_bind fun _ => .ok _

theorem markFailed_silent (transactionId : String) (reason : JsVal) :
    Silent (TransactionsService.markFailed transactionId reason) :=
  silent_bind fun _ => silent_stmt _

/-- A provider's failure is marked and thrown on; it refuses nothing. -/
theorem failed_silent {transactionId : String} {reason : JsVal} {p : App α} (hp : Silent p) :
    Silent (tryCatch p fun err => TransactionsService.markFailed transactionId reason >>= fun _ =>
      throw err) :=
  .catchErr hp fun _ herr => .bind (markFailed_silent _ _) fun _ => .error herr

theorem getAccessToken_silent : Silent MpesaProvider.getAccessToken := by
  refine silent_bind fun response => .ite (fun _ => silent_error _) fun _ => ?_
  exact silent_json _ fun body => silent_prop _ _

theorem mpesaInitiate_silent (input : InitiatePaymentInput) :
    Silent (MpesaProvider.initiate cfg input) := by
  refine .ite (fun _ => silent_error _) fun _ => .bind getAccessToken_silent fun _ => ?_
  refine silent_bind fun response => .ite (fun _ => silent_error _) fun _ => ?_
  exact silent_json _ fun body => .bind (silent_prop _ _) fun _ => .ok _

theorem bankInitiate_silent (input : InitiatePaymentInput) :
    Silent (BankGatewayProvider.initiate cfg input) := by
  refine silent_bind fun response => .ite (fun _ => silent_error _) fun _ => ?_
  refine silent_json _ fun body => .bind (silent_prop _ _) fun data => ?_
  exact .bind (silent_prop _ _) fun link => .ok _

theorem getStatusForUser_silent (userId : String) :
    Silent (SubscriptionsService.getStatusForUser userId) := by
  refine silent_bind ?_
  intro latest
  cases latest with
  | none => exact .ok _
  | some latest => exact silent_bind fun _ => .ok _

theorem getPlaybackUrl_silent (objectKey : String) :
    Silent (StorageService.getPlaybackUrl objectKey) :=
  silent_bind fun _ => silent_bind fun _ => .ok _

theorem unitMedia_silent (ownerType : MediaOwnerType) (ownerId : String) :
    Silent (CatalogService.unitMedia ownerType ownerId) :=
  .bind (silent_bind fun _ => .ok _) fun _ => .bind (silent_bind fun _ => .ok _) fun _ => .ok _

theorem toEpisodeShape_silent (episode : Episode) : Silent (CatalogService.toEpisodeShape episode) :=
  .bind (unitMedia_silent _ _) fun _ => .ok _

theorem toEpisodeShapes_silent (episodes : List Episode) :
    Silent (CatalogService.toEpisodeShapes episodes) := by
  induction episodes with
  | nil => exact .ok _
  | cons episode rest ih =>
      exact .bind (toEpisodeShape_silent _) fun shape => .bind ih fun shapes => .ok _

theorem toSeasonShapes_silent (seasons : List (Season × List Episode)) :
    Silent (CatalogService.toSeasonShapes seasons) := by
  induction seasons with
  | nil => exact .ok _
  | cons season rest ih =>
      exact .bind (toEpisodeShapes_silent _) fun episodes => .bind ih fun shapes => .ok _

theorem listTitles_silent (query : ListTitlesDto) : Silent (CatalogService.listTitles query) :=
  silent_bind fun _ => silent_bind fun _ => .ok _

theorem resolveGenres_silent (names : List String) :
    Silent (AdminTitlesService.resolveGenres names) := by
  induction names with
  | nil => exact .ok _
  | cons name rest ih => exact silent_bind fun genre => .bind ih fun ids => .ok _

theorem genreUpdate_silent (genres : Option (List String)) :
    Silent (AdminTitlesService.genreUpdate genres) := by
  cases genres with
  | none => exact .ok _
  | some genres => exact .bind (resolveGenres_silent _) fun _ => .ok _

theorem createTitle_silent (dto : AdminTitlesService.CreateTitleDto) :
    Silent (AdminTitlesService.createTitle dto) :=
  .bind (resolveGenres_silent _) fun _ => silent_stmt _

/-! ### Webhooks, the sweep and the worker -/

theorem activateFromTransaction_silent (transactionId : String) :
    Silent (SubscriptionsService.activateFromTransaction cfg transactionId) := by
  refine .perform_bind looking.own fun found hfound => ?_
  match found with
  | none => exact absurd rfl (hfound.2 transactionId)
  | some (t, some subscription) => exact .ok _
  | some (t, none) => exact silent_bind fun _ => silent_bind fun _ => silent_stmt _

theorem applyOutcome_silent (outcome : WebhookOutcome) :
    Silent (PaymentsService.applyOutcome cfg outcome) := by
  refine .bind (silent_bind fun byReference => ?_) fun found => ?_
  · cases byReference with
    | some t => exact .ok _
    | none => exact .ite (fun _ => silent_stmt _) fun _ => .ok _
  · cases found with
    | none => exact .ok _
    | some t =>
        have conclude : Silent (PaymentsService.conclude cfg outcome t.id) := by
          unfold PaymentsService.conclude
          cases outcome.status with
          | SUCCEEDED => exact .bind (activateFromTransaction_silent _) fun _ => .ok _
          | FAILED => exact .bind (markFailed_silent _ _) fun _ => .ok _
        refine .ite (fun _ => .ok _) fun _ => ?_
        exact .ite (fun _ => .bind (silent_bind fun _ => .ok _) fun _ => conclude) fun _ => conclude

theorem markStale_silent (rows : List Transaction) : Silent (PaymentsService.markStale rows) := by
  induction rows with
  | nil => exact .ok _
  | cons t rest ih => exact .bind (silent_bind fun _ => silent_stmt _) fun _ => ih

theorem timeoutSweep_silent : Silent (PaymentsService.timeoutSweep cfg) :=
  silent_bind fun _ => silent_bind fun _ => markStale_silent _

theorem uploadEntries_silent (localDir keyPrefix : String) (entries : List String) :
    Silent (TranscodeProcessor.uploadEntries localDir keyPrefix entries) := by
  induction entries with
  | nil => exact .ok _
  | cons entry rest ih => exact silent_bind fun _ => ih

theorem transcodeAll_silent (mediaAssetId workDir sourcePath : String)
    (renditions : List TranscodeProcessor.Rendition) :
    Silent (TranscodeProcessor.transcodeAll mediaAssetId workDir sourcePath renditions) := by
  induction renditions with
  | nil => exact .ok _
  | cons rendition rest ih =>
      refine .bind (silent_bind fun _ => silent_stmt _) fun _ => ?_
      exact .bind (silent_bind fun entries => uploadEntries_silent _ _ entries) fun _ => ih

theorem transcode_silent (job : TranscodeJobData) : Silent (TranscodeProcessor.process job) := by
  refine silent_bind fun workDir => ?_
  have produced : Silent (TranscodeProcessor.produce TranscodeProcessor.RENDITIONS job workDir) := by
    refine .bind (silent_bind fun body => .ite (fun _ => silent_error _) fun _ => silent_stmt _) ?_
    refine fun _ => .bind (transcodeAll_silent _ _ _ _) fun _ => ?_
    exact silent_bind fun _ => .bind (silent_stmt _) fun _ => silent_stmt _
  refine .bind (.catchErr (.catchErr produced fun _ _ => silent_stmt _) fun _ herr => ?_) fun _ => ?_
  · exact silent_bind fun _ => .error herr
  · exact silent_bind fun _ => .ok _

end

/-! ## The endpoints -/

/-- What a request refuses, it refuses on its grounds, before it acts. -/
abbrev Careful {α : Type} (q : Request) (p : App α) (h : List (Prog.Entry Sig)) : Prop :=
  p.Checks looking (fun h e => Refusal h q e) h

section

variable {α β : Type} {cfg : AppConfig} {q : Request} {h : List (Prog.Entry Sig)}

theorem careful_look {c : Cmd} {f : c.Resp → App β} (hc : c.looks = true)
    (hf : ∀ a, Careful q (f a) (⟨c, .ok a⟩ :: h)) : Careful q (stmt c >>= f) h :=
  Prog.Checks.look (D := looking) hc hf

/-- Behind `JwtAuthGuard`. -/
theorem careful_guard {user : Option JwtAccessPayload} {f : JwtAccessPayload → App α}
    (hq : q.guarded = true) (hbearer : q.bearer = user)
    (hf : ∀ u, user = some u → Careful q (f u) h) : Careful q (jwtAuthGuard user >>= f) h := by
  cases user with
  | none => exact .error (.unverified hq hbearer)
  | some u => exact hf u rfl

/-- Behind `RolesGuard`. -/
theorem careful_admin {user : Option JwtAccessPayload} {f : Unit → App α}
    (hq : q.admin = some user) (hguarded : q.guarded = true) (hf : Careful q (f ()) h) :
    Careful q (adminGuard user >>= f) h := by
  cases user with
  | none =>
      refine .error (.unverified hguarded ?_)
      cases q <;> cases hq <;> rfl
  | some u =>
      by_cases hrole : u.role = .ADMIN
      · have hguard : adminGuard (some u) = pure () := by
          show (if u.role != .ADMIN then throw _ else pure ()) = _
          simp [hrole]
        rw [hguard]
        exact hf
      · have hguard : adminGuard (some u) = throw (.forbidden "Insufficient role") := by
          show (if u.role != .ADMIN then throw _ else pure ()) = _
          simp [hrole]
        rw [hguard]
        exact .error (.notAdmin hq hrole)

/-! ### Accounts -/

theorem register_careful (email password : String) :
    Careful (.register email password) (handle cfg (.register email password)) [] := by
  refine .bind (careful_look rfl fun existing => ?_) fun _ => .ok _
  cases existing with
  | some user => exact .error (.registered List.mem_cons_self)
  | none =>
      refine .quiet (silent_bind fun _ => silent_bind fun user => ?_)
      exact .bind (issueTokens_silent _ _ _) fun _ => .ok _

theorem login_careful (email password : String) :
    Careful (.login email password) (handle cfg (.login email password)) [] := by
  refine .bind (careful_look rfl fun found => ?_) fun _ => .ok _
  cases found with
  | none => exact .error (.unknownEmail List.mem_cons_self)
  | some user =>
      refine careful_look rfl fun passwordMatches => ?_
      cases passwordMatches with
      | false => exact .error (.wrongPassword (by simp) List.mem_cons_self)
      | true => exact .quiet (.bind (issueTokens_silent _ _ _) fun _ => .ok _)

theorem logout_silent (presented : JsVal) : Silent (AuthController.logout presented) := by
  refine .ite (fun _ => .bind (.ofExcept ?_) fun token => ?_) fun _ => .ok _
  · intro e he
    unfold AuthController.tokenText at he
    split at he <;> cases he
    simp [Exception.isHttp]
  · exact silent_bind fun _ => silent_stmt _

theorem me_careful (user : Option JwtAccessPayload) :
    Careful (.me user) (handle cfg (.me user)) [] := by
  refine careful_guard rfl rfl ?_
  rintro user rfl
  refine .bind (careful_look rfl fun found => ?_) fun _ => .ok _
  match found with
  | none => exact .error (.noUser List.mem_cons_self)
  | some (user, none) => exact .ok _
  | some (user, some latest) => exact .quiet (silent_bind fun _ => .ok _)

/-! ### Payments -/

theorem createPending_careful {userId : String} {method : PaymentMethod}
    (hq : q.initiates = some (userId, method)) :
    Careful q (TransactionsService.createPending cfg userId method) [] := by
  refine careful_look rfl fun existing => ?_
  cases existing with
  | some t => exact .error (.pending hq List.mem_cons_self)
  | none => exact .quiet (silent_stmt _)

theorem initiateMpesa_careful (user : Option JwtAccessPayload) (phoneNumber : String) :
    Careful (.initiateMpesa user phoneNumber) (handle cfg (.initiateMpesa user phoneNumber)) [] := by
  refine careful_guard rfl rfl ?_
  rintro user rfl
  refine .bind (.bind (createPending_careful rfl) fun transaction => ?_) fun _ => .ok _
  refine .bind (failed_silent ?_) fun _ => .ok _
  refine .bind (mpesaInitiate_silent _) fun result => ?_
  exact .ite (fun _ => silent_bind fun _ => .ok _) fun _ => .ok _

theorem initiateBankGateway_careful (user : Option JwtAccessPayload) :
    Careful (.initiateBankGateway user) (handle cfg (.initiateBankGateway user)) [] := by
  refine careful_guard rfl rfl ?_
  rintro user rfl
  refine .bind (.bind (createPending_careful rfl) fun transaction => ?_) fun _ => .ok _
  exact failed_silent (.bind (bankInitiate_silent _) fun _ => .ok _)

theorem paymentStatus_careful (user : Option JwtAccessPayload) (transactionId : String) :
    Careful (.paymentStatus user transactionId) (handle cfg (.paymentStatus user transactionId))
      [] := by
  refine careful_guard rfl rfl fun _ _ => .bind (.bind (careful_look rfl fun found => ?_) ?_) ?_
  · cases found with
    | none => exact .error (.noTransaction List.mem_cons_self)
    | some t => exact .ok _
  · exact fun _ => .ok _
  · exact fun _ => .ok _

theorem history_careful (user : Option JwtAccessPayload) :
    Careful (.history user) (handle cfg (.history user)) [] :=
  careful_guard rfl rfl fun _ _ => .quiet (.bind (silent_bind fun _ => .ok _) fun _ => .ok _)

theorem subscriptionStatus_careful (user : Option JwtAccessPayload) :
    Careful (.subscriptionStatus user) (handle cfg (.subscriptionStatus user)) [] :=
  careful_guard rfl rfl fun _ _ => .quiet (.bind (getStatusForUser_silent _) fun _ => .ok _)

/-! ### Catalog -/

theorem title_careful (titleId : String) :
    Careful (.title titleId) (handle cfg (.title titleId)) [] := by
  refine .bind (careful_look rfl fun found => ?_) fun _ => .ok _
  cases found with
  | none => exact .error (.noPublishedTitle List.mem_cons_self)
  | some tree =>
      dsimp only
      cases tree.title.type with
      | MOVIE => exact .quiet (.bind (unitMedia_silent _ _) fun media => .ok _)
      | SERIES => exact .quiet (.bind (toSeasonShapes_silent _) fun seasons => .ok _)

theorem episode_careful (episodeId : String) :
    Careful (.episode episodeId) (handle cfg (.episode episodeId)) [] := by
  refine .bind (careful_look rfl fun found => ?_) fun _ => .ok _
  cases found with
  | none => exact .error (.noPublishedEpisode List.mem_cons_self)
  | some episode => exact .quiet (toEpisodeShape_silent _)

/-- The status of an owner's full video, and the grounds it gives when it is not
ready. -/
theorem fullStatus_looks (E : List (Prog.Entry Sig) → Exception → Prop)
    (ownerType : MediaOwnerType) (ownerId : String) :
    (getMediaAssetStatus ownerType ownerId .FULL).Looks looking E
      (fun full h => isReady full = false → SawUnready h ownerType ownerId) h := by
  refine .perform_bind rfl ?_
  intro asset hunready
  refine ⟨asset, List.mem_cons_self, ?_⟩
  rintro a ha hready
  rw [Option.mem_def.mp ha] at hunready
  simp [isReady, hready] at hunready

/-- None of the episodes is ready, or one of them is. -/
theorem anyEpisodeReady_looks (E : List (Prog.Entry Sig) → Exception → Prop)
    (episodes : List Episode) :
    (AdminTitlesService.anyEpisodeReady episodes).Looks looking E
      (fun any h => any = false → ∀ episode ∈ episodes, SawUnready h .EPISODE episode.id) h := by
  induction episodes generalizing h with
  | nil => exact fun _ _ hmem => absurd hmem List.not_mem_nil
  | cons episode rest ih =>
      refine .bind (fullStatus_looks E .EPISODE episode.id) fun full h' hfull => ?_
      refine .ite (fun _ => fun hfalse => Bool.noConfusion hfalse) fun hunready => ?_
      refine (ih (h := h')).mono ?_
      intro any h'' hsub hrest hany x hx
      rcases List.mem_cons.mp hx with rfl | hx
      · obtain ⟨asset, hsaw, hasset⟩ := hfull (by simpa using hunready)
        exact ⟨asset, hsub _ hsaw, hasset⟩
      · exact hrest hany x hx

theorem canPublish_looks (E : List (Prog.Entry Sig) → Exception → Prop) (titleId : String)
    (type : TitleType) :
    (AdminTitlesService.canPublish titleId type).Looks looking E
      (fun publishable h => publishable = false → SawUnplayable h titleId type) h := by
  cases type with
  | MOVIE => exact .bind (fullStatus_looks E .TITLE titleId) fun full h' hfull => hfull
  | SERIES =>
      refine .perform_bind rfl fun episodes => ?_
      refine (anyEpisodeReady_looks E episodes).mono ?_
      exact fun any h' hsub hany hfalse => ⟨episodes, hsub _ List.mem_cons_self, hany hfalse⟩

/-! ### Admin -/

theorem adminTitle_careful (user : Option JwtAccessPayload) (titleId : String) :
    Careful (.adminTitle user titleId) (handle cfg (.adminTitle user titleId)) [] := by
  refine careful_admin rfl rfl (.bind (careful_look rfl fun found => ?_) fun _ => .ok _)
  cases found with
  | none => exact .error (.noTitleTree List.mem_cons_self)
  | some tree => exact .ok _

theorem createTitle_careful (user : Option JwtAccessPayload)
    (dto : AdminTitlesService.CreateTitleDto) :
    Careful (.createTitle user dto) (handle cfg (.createTitle user dto)) [] :=
  careful_admin rfl rfl (.quiet (.bind (createTitle_silent dto) fun _ => .ok _))

theorem updateTitle_careful (user : Option JwtAccessPayload) (titleId : String)
    (dto : AdminTitlesService.UpdateTitleDto) :
    Careful (.updateTitle user titleId dto) (handle cfg (.updateTitle user titleId dto)) [] := by
  refine careful_admin rfl rfl (.bind (careful_look rfl fun found => ?_) fun _ => .ok _)
  cases found with
  | none => exact .error (.noTitle rfl List.mem_cons_self)
  | some title =>
      have written := Prog.Raises.bind (genreUpdate_silent dto.genres) fun genreIds =>
        silent_stmt (.catalog (.updateTitle titleId
          { name := dto.name, description := dto.description, posterUrl := dto.posterUrl,
            published := dto.published, genreIds }))
      refine .ite (fun hpublish => ?_) fun _ => .quiet written
      refine .looks (Q := fun publishable h =>
        (publishable = false → SawUnplayable h titleId title.type) ∧
          (⟨.catalog (.findTitle titleId), .ok (some title)⟩ : Prog.Entry Sig) ∈ h)
        ((canPublish_looks _ titleId title.type).mono ?_) fun publishable h' hfound => ?_
      · exact fun _ _ hsub hunplayable => ⟨hunplayable, hsub _ List.mem_cons_self⟩
      cases publishable with
      | true => exact .quiet written
      | false =>
          exact .error (.unplayableTitle (by simpa using hpublish) hfound.2 (hfound.1 rfl))

theorem createSeason_careful (user : Option JwtAccessPayload) (titleId : String) (number : Int) :
    Careful (.createSeason user titleId number) (handle cfg (.createSeason user titleId number))
      [] := by
  refine careful_admin rfl rfl (.bind (careful_look rfl fun found => ?_) fun _ => .ok _)
  cases found with
  | none => exact .error (.noTitle rfl List.mem_cons_self)
  | some title =>
      refine .ite (fun htype => .error (.notSeries List.mem_cons_self ?_)) fun _ =>
        .quiet (silent_stmt _)
      simpa using htype

theorem createEpisode_careful (user : Option JwtAccessPayload) (seasonId : String)
    (dto : AdminTitlesService.CreateEpisodeDto) :
    Careful (.createEpisode user seasonId dto) (handle cfg (.createEpisode user seasonId dto))
      [] := by
  refine careful_admin rfl rfl (.bind (careful_look rfl fun found => ?_) fun _ => .ok _)
  cases found with
  | none => exact .error (.noSeason List.mem_cons_self)
  | some season => exact .quiet (silent_stmt _)

theorem updateEpisode_careful (user : Option JwtAccessPayload) (episodeId : String)
    (dto : AdminTitlesService.UpdateEpisodeDto) :
    Careful (.updateEpisode user episodeId dto) (handle cfg (.updateEpisode user episodeId dto))
      [] := by
  refine careful_admin rfl rfl (.bind (careful_look rfl fun found => ?_) fun _ => .ok _)
  cases found with
  | none => exact .error (.noEpisode List.mem_cons_self)
  | some episode =>
      refine .ite (fun hpublish => ?_) fun _ => .quiet (silent_stmt _)
      refine .looks (fullStatus_looks _ .EPISODE episodeId) fun full h' hfull => ?_
      refine .ite (fun hunready => .error ?_) fun _ => .quiet (silent_stmt _)
      exact .unreadyEpisode (by simpa using hpublish) (hfull (by simpa using hunready))

/-! ### Media -/

theorem getSignedUrl_careful {assetId : String} {kind : MediaKind}
    (hq : q.plays = some (assetId, kind)) :
    Careful q (MediaService.getSignedUrlForReadyAsset assetId kind) h := by
  refine careful_look rfl fun asset => ?_
  split
  · rename_i hunservable
    exact .error (.notServable hq List.mem_cons_self hunservable)
  · exact .quiet (getPlaybackUrl_silent _)

theorem playbackUrl_careful (user : Option JwtAccessPayload) (assetId : String) :
    Careful (.playbackUrl user assetId) (handle cfg (.playbackUrl user assetId)) [] := by
  refine .bind (careful_guard rfl rfl ?_) fun _ => .ok _
  rintro user rfl
  refine .looks (Q := fun _ _ => True) ?_ fun _ h' _ => getSignedUrl_careful rfl
  -- the entitlement is checked by the clock
  refine .bind (Q := fun isEntitled h => isEntitled = false → ∃ instant,
    (⟨.now, .ok instant⟩ : Prog.Entry Sig) ∈ h ∧
    (⟨.subscription (.findActive user.sub instant), .ok none⟩ : Prog.Entry Sig) ∈ h) ?_ ?_
  · refine .perform_bind rfl fun instant => .perform_bind rfl fun active hnone => ?_
    cases active with
    | some subscription => cases hnone
    | none => exact ⟨instant, by simp, List.mem_cons_self⟩
  · intro isEntitled h' hfound
    cases isEntitled with
    | true => exact trivial
    | false =>
        obtain ⟨instant, hnow, hfind⟩ := hfound rfl
        exact fun _ => .notEntitled hnow hfind

theorem assertOwnerExists_careful (user : Option JwtAccessPayload)
    (dto : AdminMediaService.RegisterMediaAssetDto) :
    Careful (.registerMediaAsset user dto)
      (AdminMediaService.assertOwnerExists dto.ownerType dto.ownerId) [] := by
  have grounds : ∀ h, SawNoOwner h dto.ownerType dto.ownerId → Refusal h
      (.registerMediaAsset user dto)
      (.unprocessable (dto.ownerType.text ++ " " ++ dto.ownerId ++ " does not exist")) :=
    fun h hfind => .noOwner hfind
  revert grounds
  cases dto.ownerType with
  | TITLE =>
      refine fun grounds => careful_look rfl fun title => ?_
      cases title with
      | none => exact .error (grounds _ List.mem_cons_self)
      | some title => exact .ok _
  | EPISODE =>
      refine fun grounds => careful_look rfl fun episode => ?_
      cases episode with
      | none => exact .error (grounds _ List.mem_cons_self)
      | some episode => exact .ok _

theorem registerMediaAsset_careful (user : Option JwtAccessPayload)
    (dto : AdminMediaService.RegisterMediaAssetDto) :
    Careful (.registerMediaAsset user dto) (handle cfg (.registerMediaAsset user dto)) [] := by
  refine careful_admin rfl rfl (.bind (.bind (assertOwnerExists_careful user dto) ?_) fun _ => .ok _)
  refine fun _ => silent_bind fun uuid => silent_bind fun asset => ?_
  exact .bind (silent_bind fun _ => silent_bind fun _ => .ok _) fun _ => .ok _

theorem completeUpload_careful (user : Option JwtAccessPayload) (assetId : String) :
    Careful (.completeUpload user assetId) (handle cfg (.completeUpload user assetId)) [] := by
  refine careful_admin rfl rfl (.bind (careful_look rfl fun found => ?_) fun _ => .ok _)
  cases found with
  | none => exact .error (.noAsset rfl List.mem_cons_self)
  | some asset =>
      refine .quiet (silent_bind fun _ => ?_)
      cases asset.kind with
      | FULL => exact silent_bind fun _ => .ok _
      | TRAILER => exact silent_bind fun _ => .ok _

theorem mediaAssetStatus_careful (user : Option JwtAccessPayload) (assetId : String) :
    Careful (.mediaAssetStatus user assetId) (handle cfg (.mediaAssetStatus user assetId)) [] := by
  refine careful_admin rfl rfl (.bind (careful_look rfl fun found => ?_) fun _ => .ok _)
  cases found with
  | none => exact .error (.noAsset rfl List.mem_cons_self)
  | some asset => exact .ok _

/-! ### Webhooks -/

theorem mpesaWebhook_plain (request : RawWebhookRequest) :
    Plain (MpesaProvider.handleWebhook request) := by
  refine .bind (plain_prop _ _) fun _ => .bind (plain_prop _ _) fun callback => ?_
  refine .bind (plain_prop _ _) fun resultCode => .bind (plain_prop _ _) fun reference => ?_
  split
  · exact plain_ok _
  · exact .bind (plain_prop _ _) fun _ => plain_ok _

theorem bankGatewayWebhook_plain (request : RawWebhookRequest) :
    Plain (BankGatewayProvider.handleWebhook request) := by
  refine .bind (plain_prop _ _) fun data => .bind (plain_prop _ _) fun id => ?_
  refine .bind (plain_prop _ _) fun status => .bind (plain_prop _ _) fun txRef => ?_
  dsimp only
  split
  · exact plain_ok _
  · exact .bind (plain_prop _ _) fun _ => plain_ok _

theorem webhookHandler_silent {verified : Bool} {read : Except Exception WebhookOutcome}
    (hread : Plain read) : Silent (webhookHandler cfg verified read) := by
  refine .ite (fun _ => ?_) fun _ => .ok _
  cases read with
  | ok outcome => exact .bind (applyOutcome_silent outcome) fun _ => .ok _
  | error e => exact .error (hread e rfl)

/-! ### The refresh -/

/-- A refusal and what came before it. -/
structure Warranted (q : Request) (saw : List (Prog.Entry Sig)) (e : Exception) : Prop where
  grounds : Refusal saw q e
  harmless : ∀ x ∈ saw, Harmless q saw x.1

theorem harmless_look {c : Cmd} (hc : c.looks = true) : Harmless q h c :=
  .look hc (looks_store hc)

/-- The refresh looks, revokes and looks again; its statements are told one by
one. -/
abbrev rotating : Prog.Discipline Sig := refusing fun _ => True

theorem refresh_checks (token : String) : (AuthService.refresh cfg token).Checks rotating
    (fun h e => Warranted (.refresh (some (.str token))) h e) [] := by
  refine .look trivial fun found => ?_
  match found with
  | none =>
      refine .error ⟨.unknownToken List.mem_cons_self, ?_⟩
      simp only [List.mem_singleton, forall_eq]
      exact harmless_look rfl
  | some (record, user) =>
      refine .ite (fun hrevoked => ?_) fun _ => ?_
      · refine .look trivial fun revokedAt => .look trivial fun _ => ?_
        refine .error ⟨@Refusal.reused _ token record user (by simp) hrevoked, ?_⟩
        simp only [List.mem_cons, List.not_mem_nil, or_false, forall_eq_or_imp, forall_eq]
        exact ⟨@Harmless.revocation _ _ token record user revokedAt rfl (by simp) hrevoked,
          harmless_look rfl, harmless_look rfl⟩
      · refine .look trivial fun (instant : Millis) => .ite (fun hlate => ?_) fun _ => ?_
        · refine .error ⟨@Refusal.expired _ token record user instant (by simp) (by simp) hlate, ?_⟩
          simp only [List.mem_cons, List.not_mem_nil, or_false, forall_eq_or_imp, forall_eq]
          exact ⟨harmless_look rfl, harmless_look rfl⟩
        · refine .quiet (silent_bind fun _ => silent_bind fun _ => ?_)
          exact issueTokens_silent _ _ _

theorem refreshRequest_checks (presented : JsVal) :
    (handle cfg (.refresh presented)).Checks rotating
      (fun h e => Warranted (.refresh presented) h e) [] := by
  refine .bind (.ite (fun hfalsy => ?_) fun _ => ?_) fun _ => .ok _
  · refine .error ⟨.noToken (by simpa using hfalsy), ?_⟩
    exact fun x hx => absurd hx List.not_mem_nil
  · show (Prog.ofExcept (S := Sig) (AuthController.tokenText presented) >>= _).Checks _ _ _
    unfold AuthController.tokenText
    split
    · exact refresh_checks _
    · exact .quiet (.error fun href => Bool.noConfusion href)

/-! ### Every request -/

/-- How a request's handler may end, when its answers are the expected ones. -/
def EndsWarranted (q : Request) (r : Except Exception Reply) (h : List (Prog.Entry Sig)) : Prop :=
  (∀ x ∈ h, Expected x) → ∀ e, r = .error e → e.isHttp = true → Warranted q h e

theorem Careful.ends {q : Request} {p : App Reply} (hp : Careful q p []) :
    p.Emits (fun _ _ => True) (EndsWarranted q) [] := by
  refine (hp.emits (by simp)).mono (fun _ _ _ => trivial) ?_
  intro r h' hend hexpected e he href
  obtain ⟨hgrounds, hlooks⟩ := hend hexpected e he href
  exact ⟨hgrounds, fun x hx => harmless_look (hlooks x hx)⟩

theorem Silent.ends {q : Request} {p : App Reply} (hp : Silent p) :
    p.Emits (fun _ _ => True) (EndsWarranted q) [] := by
  refine (hp.emits []).mono (fun _ _ _ => trivial) ?_
  exact fun _ _ hend hexpected e he href => absurd href (hend hexpected e he)

/-- **Every request refuses on its grounds only, and has done no harm before.** -/
theorem handle_refuses (cfg : AppConfig) (q : Request) :
    (handle cfg q).Emits (fun _ _ => True) (EndsWarranted q) [] := by
  cases q with
  | register email password => exact (register_careful email password).ends
  | login email password => exact (login_careful email password).ends
  | refresh presented =>
      refine ((refreshRequest_checks presented).emits (by simp)).mono (fun _ _ _ => trivial) ?_
      exact fun _ _ hend hexpected e he href => (hend hexpected e he href).1
  | logout presented => exact Silent.ends (.bind (logout_silent presented) fun _ => .ok _)
  | me user => exact (me_careful user).ends
  | initiateMpesa user phoneNumber => exact (initiateMpesa_careful user phoneNumber).ends
  | initiateBankGateway user => exact (initiateBankGateway_careful user).ends
  | paymentStatus user transactionId => exact (paymentStatus_careful user transactionId).ends
  | history user => exact (history_careful user).ends
  | mpesaCallback req token =>
      rw [handle_mpesaCallback]
      exact Silent.ends (webhookHandler_silent (mpesaWebhook_plain _))
  | bankGatewayWebhook req =>
      rw [handle_bankGatewayWebhook]
      exact Silent.ends (webhookHandler_silent (bankGatewayWebhook_plain _))
  | subscriptionStatus user => exact (subscriptionStatus_careful user).ends
  | sweepTick => exact Silent.ends (.bind timeoutSweep_silent fun _ => .ok _)
  | titles query => exact Silent.ends (.bind (listTitles_silent query) fun _ => .ok _)
  | title titleId => exact (title_careful titleId).ends
  | episode episodeId => exact (episode_careful episodeId).ends
  | trailerUrl assetId => exact Careful.ends (.bind (getSignedUrl_careful rfl) fun _ => .ok _)
  | playbackUrl user assetId => exact (playbackUrl_careful user assetId).ends
  | adminTitle user titleId => exact (adminTitle_careful user titleId).ends
  | createTitle user dto => exact (createTitle_careful user dto).ends
  | updateTitle user titleId dto => exact (updateTitle_careful user titleId dto).ends
  | createSeason user titleId number => exact (createSeason_careful user titleId number).ends
  | createEpisode user seasonId dto => exact (createEpisode_careful user seasonId dto).ends
  | updateEpisode user episodeId dto => exact (updateEpisode_careful user episodeId dto).ends
  | registerMediaAsset user dto => exact (registerMediaAsset_careful user dto).ends
  | completeUpload user assetId => exact (completeUpload_careful user assetId).ends
  | mediaAssetStatus user assetId => exact (mediaAssetStatus_careful user assetId).ends
  | transcode job => exact Silent.ends (.bind (transcode_silent job) fun _ => .ok _)

end

/-! ## Runs -/

/-- Nothing outside throws one of Nest's exceptions. -/
def foreignFaults : AppState → Action Ambient Request → Prop
  | _, .begin _ => True
  | _, .step _ o => o.Foreign

instance : (sys : AppState) → (act : Action Ambient Request) → Decidable (foreignFaults sys act)
  | _, .begin _ => inferInstanceAs (Decidable True)
  | _, .step _ o => inferInstanceAs (Decidable o.Foreign)

section

variable {cfg : AppConfig} {s : Store} {b : AppState}

/-- The payment an activation is for is found. -/
theorem activation_found {ok : AppState → Action Ambient Request → Prop}
    (hr : (app cfg).Run ok (Machine.start s) b) {tid : Nat} {id : String} :
    Event.did tid (⟨.subscription (.readForActivation id), .ok none⟩ : Prog.Entry Sig) ∉
      b.trace := by
  intro he
  have hrec := Machine.Run.emits (handle_emits cfg) hr
  obtain ⟨q, hq⟩ := hrec.did_began he
  obtain ⟨post, pre, htr⟩ := List.append_of_mem he
  have hstep := hrec.at_split hq htr
  have hdelivery : q.isDelivery = true := by
    have hwithin := hstep.within
    cases q <;> first | rfl | cases hwithin
  obtain ⟨outcome, -, hsucceeded, hresolved⟩ := hstep.delivery hdelivery
  obtain ⟨a, o, c, a', ha, rfl, -, -, heq, -, -, -⟩ := hr.cut htr
  -- the row was shown to this thread before, and no row is ever deleted
  obtain ⟨t, hfind⟩ := hresolved.stored (remembers_run ha tid)
  obtain ⟨rfl, hans⟩ := Sigma.mk.inj_iff.mp heq
  have hans := eq_of_heq hans
  have hok : (exec o (.subscription (.readForActivation id)) a.store).1 = .ok none := hans.symm
  rw [exec_of_ok hok] at hok
  simp only [answer, SubscriptionStmt.answer, hfind] at hok
  cases hok

/-- What a thread is answered is what its program expects. -/
theorem expected_run (hr : (app cfg).Run foreignFaults (Machine.start s) b) {tid : Nat} :
    ∀ x ∈ own tid b.trace, Expected x := by
  rintro ⟨c, r⟩ hx
  constructor
  · intro e he
    cases r with
    | ok a => cases he
    | error e' =>
        cases he
        exact foreign_errors (fun _ _ _ h => h) hr tid c e (mem_own.mp hx)
  · intro id heq
    rw [heq] at hx
    exact activation_found hr (mem_own.mp hx)

/-- **The contract of the errors**: an error is answered with the bare 500, or is a
refusal: it names a reason that the request's own lookups have shown, and before
it the request did nothing but look (a reused refresh token's revocation apart). -/
theorem errors_keep_contract (hr : (app cfg).Run foreignFaults (Machine.start s) b) {tid : Nat}
    {q : Request} {e : Exception} (hend : b.threads[tid]? = some ⟨q, .done (.error e)⟩) :
    AllExceptionsFilter.«catch» e = ⟨500, "Internal server error"⟩ ∨
      (AllExceptionsFilter.«catch» e = ⟨e.status, e.message⟩ ∧ Refusal (own tid b.trace) q e ∧
        ∀ x ∈ own tid b.trace, Harmless q (own tid b.trace) x.1) := by
  have hrec := Machine.Run.emits (P := fun _ _ _ => True) (R := EndsWarranted) (handle_refuses cfg) hr
  have hends := hrec.emits tid _ hend (expected_run hr) e rfl
  cases hhttp : e.isHttp with
  | true =>
      obtain ⟨hgrounds, hharmless⟩ := hends hhttp
      refine .inr ⟨?_, hgrounds, hharmless⟩
      rw [AllExceptionsFilter.«catch», if_pos hhttp]
  | false =>
      refine .inl ?_
      have hstatus : e.status = 500 := by
        cases e <;> first | rfl | cases hhttp
      rw [AllExceptionsFilter.«catch», hstatus, hhttp]
      rfl

end

/-- The token a thread presented and what its refresh ended with. -/
def refreshError : Thread Sig Request Reply → Option (String × Exception)
  | ⟨.refresh (some (.str token)), .done (.error e)⟩ => some (token, e)
  | _ => none

theorem refreshError_eq {th : Thread Sig Request Reply} {token : String} {e : Exception}
    (h : refreshError th = some (token, e)) :
    th = ⟨.refresh (some (.str token)), .done (.error e)⟩ := by
  unfold refreshError at h
  split at h
  · cases h
    rfl
  · cases h

/-- A refresh token is presented again after its rotation: 401, and the tokens of
its user are revoked. -/
theorem errors_keep_contract_sample : ∃ b : AppState, ∃ e,
    b.threads[2]? = some ⟨.refresh (some (.str "token-1")), .done (.error e)⟩ ∧
    AllExceptionsFilter.«catch» e = ⟨401, "Refresh token has been revoked"⟩ ∧
    Refusal (own 2 b.trace) (.refresh (some (.str "token-1"))) e ∧
    ∀ x ∈ own 2 b.trace, Harmless (.refresh (some (.str "token-1"))) (own 2 b.trace) x.1 := by
  obtain ⟨b, hr, hb⟩ := Machine.exists_run_of_replay (m := app sampleConfig)
    (a := Machine.start .empty) foreignFaults
    (sampleSession ++
      [.begin (.refresh (some (.str "token-1"))), .step 1 (.quiet 1000), .step 1 (.quiet 1001),
        .step 1 (.quiet 1002), .step 1 (.quiet 1003),
        .begin (.refresh (some (.str "token-1"))), .step 2 (.quiet 1004), .step 2 (.quiet 1005),
        .step 2 (.quiet 1006)])
    (fun b => b.threads[2]?.any fun th =>
      refreshError th == some ("token-1", .unauthorized "Refresh token has been revoked"))
    (by decide +kernel)
  obtain ⟨th, hth, hended⟩ := (Option.any_eq_true _ _).mp hb
  rw [refreshError_eq (beq_iff_eq.mp hended)] at hth
  rcases errors_keep_contract hr hth with hbare | ⟨hbody, hgrounds, hharmless⟩
  · cases hbare
  · exact ⟨b, _, hth, hbody, hgrounds, hharmless⟩

end StreamingService
