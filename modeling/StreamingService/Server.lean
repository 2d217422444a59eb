import StreamingService.Payments.Service
import StreamingService.Media.Transcode
import StreamingService.Auth.Service
import StreamingService.Catalog.Admin

/-!
# Server

The backend as one machine: every endpoint with its guards, the sweep's
tick and the worker's jobs are requests, each served by a thread of its
own over the shared store. A request comes with what Passport made of its
bearer token: the verified payload, or nothing.

Left out: the validation of request bodies and the throttling, which only
refuse requests.
-/

namespace StreamingService

open Lib

inductive Request where
  -- auth
  | register (email password : String)
  | login (email password : String)
  | refresh (presented : JsVal)
  | logout (presented : JsVal)
  | me (user : Option JwtAccessPayload)
  -- payments and subscriptions
  | initiateMpesa (user : Option JwtAccessPayload) (phoneNumber : String)
  | initiateBankGateway (user : Option JwtAccessPayload)
  | paymentStatus (user : Option JwtAccessPayload) (transactionId : String)
  | history (user : Option JwtAccessPayload)
  | mpesaCallback (req : HttpRequest) (token : JsVal)
  | bankGatewayWebhook (req : HttpRequest)
  | subscriptionStatus (user : Option JwtAccessPayload)
  | sweepTick
  -- catalog and media
  | titles (query : ListTitlesDto)
  | title (titleId : String)
  | episode (episodeId : String)
  | trailerUrl (assetId : String)
  | playbackUrl (user : Option JwtAccessPayload) (assetId : String)
  -- admin
  | adminTitle (user : Option JwtAccessPayload) (titleId : String)
  | createTitle (user : Option JwtAccessPayload) (dto : AdminTitlesService.CreateTitleDto)
  | updateTitle (user : Option JwtAccessPayload) (titleId : String)
      (dto : AdminTitlesService.UpdateTitleDto)
  | createSeason (user : Option JwtAccessPayload) (titleId : String) (number : Int)
  | createEpisode (user : Option JwtAccessPayload) (seasonId : String)
      (dto : AdminTitlesService.CreateEpisodeDto)
  | updateEpisode (user : Option JwtAccessPayload) (episodeId : String)
      (dto : AdminTitlesService.UpdateEpisodeDto)
  | registerMediaAsset (user : Option JwtAccessPayload)
      (dto : AdminMediaService.RegisterMediaAssetDto)
  | completeUpload (user : Option JwtAccessPayload) (assetId : String)
  | mediaAssetStatus (user : Option JwtAccessPayload) (assetId : String)
  -- worker
  | transcode (job : TranscodeJobData)

inductive Reply where
  | session (user : AuthService.PublicUser) (tokens : AuthService.AuthTokens)
  | tokens (tokens : AuthService.AuthTokens)
  | profile (user : AuthService.PublicUser) (activeUntil : Option Millis)
  | initiated (transactionId : String) (redirectUrl : JsVal)
  | payment (transactionId : String) (status : TransactionStatus) (resolvedAt : Option Millis)
  | items (entries : List TransactionsService.HistoryEntry)
  | subscription (result : SubscriptionsService.SubscriptionStatusResult)
  | titles (page : CatalogService.TitlePage)
  | title (shape : CatalogService.TitleShape)
  | episode (shape : CatalogService.EpisodeShape)
  | link (url : StorageService.SignedLink)
  | titleTree (tree : TitleTree)
  | titleRow (title : Title)
  | seasonRow (season : Season)
  | episodeRow (episode : Episode)
  | registered (assetId : String) (uploadUrl : SignedUrl)
  | completed (assetId : String)
  | assetStatus (assetId : String) (status : ProcessingStatus) (failureReason : Option String)
  /-- An answer that does not depend on what was done: the webhooks' fixed
  acknowledgements, an empty body, a job's end. -/
  | ack

/-! ## Guards -/

/-- `JwtAuthGuard`: without a valid access token the request ends with 401. -/
def jwtAuthGuard (user : Option JwtAccessPayload) : App JwtAccessPayload :=
  match user with
  | none => throw (.unauthorized "Unauthorized")
  | some user => pure user

/-- `RolesGuard` under `@Roles(Role.ADMIN)`. -/
def adminGuard (user : Option JwtAccessPayload) : App Unit := do
  let user ← jwtAuthGuard user
  if user.role != .ADMIN then
    throw (.forbidden "Insufficient role")

/-! ## Controllers -/

namespace AuthController

/-- The digest of a value that is not a text throws. -/
def tokenText (presented : JsVal) : Except Exception String :=
  match presented with
  | some (.str token) => .ok token
  | _ => .error .typeError

def refresh (cfg : AppConfig) (presented : JsVal) : App AuthService.AuthTokens := do
  if !presented.truthy then
    throw (.unauthorized "Missing refresh token")
  let token ← Prog.ofExcept (tokenText presented)
  AuthService.refresh cfg token

def logout (presented : JsVal) : App Unit := do
  if presented.truthy then
    let token ← Prog.ofExcept (tokenText presented)
    AuthService.logout token

end AuthController

namespace PaymentsController

/-- The `token` query parameter travels as a header of its own, `token ?? ''`. -/
def mpesaCallback (cfg : AppConfig) (req : HttpRequest) (token : JsVal) : App Unit :=
  PaymentsService.handleMpesaCallback cfg
    (toRawWebhookRequest req [("x-callback-token", token.orElse (some (.str "")))])

def bankGatewayWebhook (cfg : AppConfig) (req : HttpRequest) : App Unit :=
  PaymentsService.handleBankGatewayWebhook cfg (toRawWebhookRequest req [])

end PaymentsController

namespace MediaController

/-- 401, then 403, then the URL or 404. -/
def getPlaybackUrl (user : Option JwtAccessPayload) (assetId : String) :
    App StorageService.SignedLink := do
  let user ← jwtAuthGuard user
  EntitlementGuard.canActivate (some user)
  MediaService.getPlaybackUrl assetId

end MediaController

/-! ## The machine -/

/-- The handler of each request. -/
def handle (cfg : AppConfig) : Request → App Reply
  | .register email password => do
      let (user, tokens) ← AuthService.register cfg email password
      return .session user tokens
  | .login email password => do
      let (user, tokens) ← AuthService.login cfg email password
      return .session user tokens
  | .refresh presented => do
      let tokens ← AuthController.refresh cfg presented
      return .tokens tokens
  | .logout presented => do
      AuthController.logout presented
      return .ack
  | .me user => do
      let user ← jwtAuthGuard user
      let (profile, activeUntil) ← AuthService.getMe user.sub
      return .profile profile activeUntil
  | .initiateMpesa user phoneNumber => do
      let user ← jwtAuthGuard user
      let id ← PaymentsService.initiateMpesa cfg user.sub user.email phoneNumber
      return .initiated id none
  | .initiateBankGateway user => do
      let user ← jwtAuthGuard user
      let (id, redirectUrl) ← PaymentsService.initiateBankGateway cfg user.sub user.email
      return .initiated id redirectUrl
  | .paymentStatus user transactionId => do
      let _ ← jwtAuthGuard user
      let (id, status, resolvedAt) ← PaymentsService.getStatus transactionId
      return .payment id status resolvedAt
  | .history user => do
      let user ← jwtAuthGuard user
      let entries ← TransactionsService.listHistoryForUser user.sub
      return .items entries
  | .mpesaCallback req token => do
      PaymentsController.mpesaCallback cfg req token
      return .ack
  | .bankGatewayWebhook req => do
      PaymentsController.bankGatewayWebhook cfg req
      return .ack
  | .subscriptionStatus user => do
      let user ← jwtAuthGuard user
      let result ← SubscriptionsService.getStatusForUser user.sub
      return .subscription result
  | .sweepTick => do
      PaymentsService.timeoutSweep cfg
      return .ack
  | .titles query => do
      let page ← CatalogService.listTitles query
      return .titles page
  | .title titleId => do
      let shape ← CatalogService.getTitleById titleId
      return .title shape
  | .episode episodeId => do
      let shape ← CatalogService.getEpisodeById episodeId
      return .episode shape
  | .trailerUrl assetId => do
      let url ← MediaService.getTrailerUrl assetId
      return .link url
  | .playbackUrl user assetId => do
      let url ← MediaController.getPlaybackUrl user assetId
      return .link url
  | .adminTitle user titleId => do
      adminGuard user
      let tree ← AdminTitlesService.getTitleForAdmin titleId
      return .titleTree tree
  | .createTitle user dto => do
      adminGuard user
      let title ← AdminTitlesService.createTitle dto
      return .titleRow title
  | .updateTitle user titleId dto => do
      adminGuard user
      let title ← AdminTitlesService.updateTitle titleId dto
      return .titleRow title
  | .createSeason user titleId number => do
      adminGuard user
      let season ← AdminTitlesService.createSeason titleId number
      return .seasonRow season
  | .createEpisode user seasonId dto => do
      adminGuard user
      let episode ← AdminTitlesService.createEpisode seasonId dto
      return .episodeRow episode
  | .updateEpisode user episodeId dto => do
      adminGuard user
      let episode ← AdminTitlesService.updateEpisode episodeId dto
      return .episodeRow episode
  | .registerMediaAsset user dto => do
      adminGuard user
      let (assetId, uploadUrl) ← AdminMediaService.registerMediaAsset dto
      return .registered assetId uploadUrl
  | .completeUpload user assetId => do
      adminGuard user
      let assetId ← AdminMediaService.completeUpload assetId
      return .completed assetId
  | .mediaAssetStatus user assetId => do
      adminGuard user
      let (id, status, failureReason) ← AdminMediaService.getStatus assetId
      return .assetStatus id status failureReason
  | .transcode job => do
      TranscodeProcessor.process job
      return .ack

/-- The running backend under one configuration. -/
def app (cfg : AppConfig) : Machine Sig Store Ambient Request Reply where
  exec := exec
  handle := handle cfg

/-- A state of the running backend. -/
abbrev AppState : Type := Sys Sig Store Request Reply

/-- The trace of the running backend. -/
abbrev Trace : Type := List (Event Sig Request)

/-- Any action at all. -/
abbrev anyAction : AppState → Action Ambient Request → Prop := fun _ _ => True

/-! ## Requests one at a time -/

/-- A request and what the environment supplies to its handler. -/
structure Op where
  request : Request
  env : Nat → Ambient

def Op.run (cfg : AppConfig) (op : Op) (s : Store) : Store :=
  (handle cfg op.request).runStore exec op.env s

/-- The store after a sequence of requests, each handled to its end before
the next one begins. -/
def handleAll (cfg : AppConfig) (ops : List Op) (s : Store) : Store :=
  ops.foldl (fun s op => op.run cfg s) s

theorem handleAll_append {cfg : AppConfig} {s : Store} (pre post : List Op) :
    handleAll cfg (pre ++ post) s = handleAll cfg post (handleAll cfg pre s) :=
  List.foldl_append

/-! ## A concrete deployment -/

/-- An environment that sets the two webhook secrets and leaves everything
else to the defaults. -/
def sampleEnv : Env := fun key =>
  [("MPESA_CALLBACK_TOKEN", "callback-token"),
    ("FLUTTERWAVE_SECRET_HASH", "secret-hash")].lookup key

def sampleConfig : AppConfig := configuration sampleEnv

namespace Ambient

/-- Nothing fails at instant `t`, and a provider answers without a body. -/
def quiet (t : Millis) : Ambient where
  now := t
  fault := none
  fresh := ""
  reply := { ok := true, body := none }
  accepts := true
  names := []

def generating (o : Ambient) (fresh : String) : Ambient := { o with fresh := fresh }

def replying (o : Ambient) (body : Json) : Ambient :=
  { o with reply := { ok := true, body := some body } }

end Ambient

/-- A request to the M-Pesa callback that presents the token. -/
def sampleCallback (resultCode checkoutRequestId : String) : Request :=
  .mpesaCallback
    { headers := fun _ => none
      body := some (.obj [("Body", .obj [("stkCallback", .obj
        [("ResultCode", .num resultCode), ("CheckoutRequestID", .str checkoutRequestId),
          ("ResultDesc", .str "Request cancelled by user")])])]) }
    (some (.str "callback-token"))

/-- A request to the bank gateway's webhook that presents the secret hash. -/
def sampleWebhook (status id txRef : String) : Request :=
  .bankGatewayWebhook
    { headers := fun name => if name = "verif-hash" then some (.str "secret-hash") else none
      body := some (.obj [("data", .obj
        [("id", .num id), ("status", .str status), ("tx_ref", .str txRef)])]) }

def sampleUser : JwtAccessPayload := ⟨"user-1", "amina@example.com", .USER⟩

def sampleAdmin : JwtAccessPayload := ⟨"admin-1", "admin@example.com", .ADMIN⟩

/-- `sampleUser` registers, up to the insert of the row. -/
def sampleRegistration : List (Action Ambient Request) :=
  [.begin (.register "amina@example.com" "a-password"),
    .step 0 (.quiet 1), .step 0 ((Ambient.quiet 2).generating "hash"),
    .step 0 ((Ambient.quiet 3).generating "user-1")]

/-- Thread 1 initiates an M-Pesa payment: Transaction `tx-1`, accepted by
Daraja as `ws-1`, its reference not yet stored. -/
def samplePush : List (Action Ambient Request) :=
  [.begin (.initiateMpesa (some sampleUser) "0712345678"),
    .step 1 (.quiet 1000), .step 1 ((Ambient.quiet 1001).generating "tx-1"),
    .step 1 ((Ambient.quiet 1002).replying (.obj [("access_token", .str "token")])),
    .step 1 ((Ambient.quiet 1003).replying (.obj [("CheckoutRequestID", .str "ws-1")]))]

/-- Thread 1 stores the reference; thread 2 delivers `ws-1`'s success and
activates `sub-1`. -/
def sampleActivation : List (Action Ambient Request) :=
  [.step 1 (.quiet 1004), .begin (sampleCallback "0" "ws-1"),
    .step 2 (.quiet 5000), .step 2 (.quiet 5001), .step 2 (.quiet 5002), .step 2 (.quiet 5003),
    .step 2 ((Ambient.quiet 5004).generating "sub-1")]

end StreamingService
