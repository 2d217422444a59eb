import StreamingService.Schema
import StreamingService.Lib.Machine

/-!
# Statement

The atomic steps of the backend: one constructor for every statement the
services send to the database, and for every other effect they have (the
clock, generated values, provider and storage calls, the queue). `exec`
is what each does to the store.

A statement that throws changes nothing. Besides the refusals the schema
causes (a unique index, a foreign key, a missing row, a value of the wrong
type), the environment may fail any statement (`Ambient.fault`).

`prisma.$transaction` runs at READ COMMITTED: its read is a statement of
its own that sees committed rows, and its writes are invisible to others
until the commit, where all of them take effect or none. From the update
of the Transaction row on it holds that row's lock, so nothing else writes
the row before the commit; its writes are therefore one step here
(`commitActivation`), which the unique index of `subscriptions` may abort.
-/

namespace StreamingService

open Lib

/-! ## What can be thrown -/

inductive PrismaError where
  | validation
  | uniqueViolation
  | recordNotFound
  | foreignKeyViolation
  | connection
  deriving DecidableEq, Repr

/-- A Nest `HttpException` by its class, an `Error`, a `TypeError`, or what
a Prisma call rejects with. -/
inductive Exception where
  | conflict (message : String)
  | notFound (message : String)
  | forbidden (message : String)
  | unauthorized (message : String)
  | unprocessable (message : String)
  | error (message : String)
  | typeError
  | prisma (e : PrismaError)
  deriving DecidableEq, Repr

/-! ## Values exchanged with the outside -/

/-- The answer of `fetch`: `response.ok`, and the body when it is JSON. -/
structure HttpReply where
  ok : Bool
  body : Option Json

/-- The body of the STK push, credentials left out. -/
structure StkPush where
  /-- `none` when the price is not a number. -/
  amount : Option Int
  phoneNumber : String
  callBackUrl : String
  accountReference : String
  deriving DecidableEq

/-- The body of the Flutterwave checkout. -/
structure Checkout where
  txRef : String
  amount : Option Rat
  currency : String
  redirectUrl : String
  email : String
  deriving DecidableEq

structure JwtAccessPayload where
  sub : String
  email : String
  role : Role
  deriving DecidableEq, Repr

inductive UrlVerb where
  | GET | PUT
  deriving DecidableEq, Repr

/-- A presigned URL: it covers one verb on one object key. -/
structure SignedUrl where
  verb : UrlVerb
  objectKey : String
  signedAt : Millis
  expiresIn : Int
  deriving DecidableEq, Repr

/-- A title with its genre names and its seasons' episodes. -/
structure TitleTree where
  title : Title
  genres : List String
  seasons : List (Season × List Episode)
  deriving DecidableEq

/-- The fields a title update sets; `none` leaves the column alone. -/
structure TitleUpdate where
  name : Option String
  description : Option String
  posterUrl : Option String
  published : Option Bool
  genreIds : Option (List String)
  deriving DecidableEq

structure EpisodeUpdate where
  name : Option String
  description : Option String
  published : Option Bool
  deriving DecidableEq

/-! ## The statements -/

inductive TransactionStmt where
  | findFirstPending (userId : String)
  | create (userId : String) (method : PaymentMethod) (amount : Option Rat)
  | setProviderReference (id : String) (providerReference : JsVal)
  | findById (id : JsVal)
  | findByReference (providerReference : JsVal)
  | markFailed (id : String) (resolvedAt : Millis) (reason : JsVal)
  | markTimedOut (id : String) (resolvedAt : Millis)
  | findStale (cutoff : Option Millis)
  | findManyOfUser (userId : String)

inductive SubscriptionStmt where
  | findActive (userId : String) (now : Millis)
  | findLatest (userId : String)
  | readForActivation (transactionId : String)
  | commitActivation (transactionId userId : String) (resolvedAt startAt : Millis)
      (expiresAt : Option Millis)

inductive AccountStmt where
  | findUserByEmail (email : String)
  | createUser (email passwordHash : String)
  | findUserWithActive (id : String)
  | findToken (tokenHash : TokenHash)
  | revokeAllOfUser (userId : String) (revokedAt : Millis)
  | revokeToken (id : String) (revokedAt : Millis)
  | revokeByHash (tokenHash : TokenHash) (revokedAt : Millis)
  | createToken (userId : String) (tokenHash : TokenHash) (expiresAt : Option Millis)

inductive CatalogStmt where
  | findPublishedTitles (type : Option TitleType) (genre : Option String) (skip take : Nat)
  | countPublishedTitles (type : Option TitleType) (genre : Option String)
  | findPublishedTitle (id : String)
  | findTitleTree (id : String)
  | findTitle (id : String)
  | createTitle (type : TitleType) (name description posterUrl : String)
      (genreIds : List String)
  | updateTitle (id : String) (data : TitleUpdate)
  | createSeason (titleId : String) (number : Int)
  | findSeason (id : String)
  | createEpisode (seasonId : String) (number : Int) (name description : String)
  | findEpisode (id : String)
  | findPublishedEpisode (id : String)
  | findPublishedEpisodesOf (titleId : String)
  | updateEpisode (id : String) (data : EpisodeUpdate)
  | upsertGenre (name : String)

inductive MediaAssetStmt where
  | findById (id : String)
  | findByOwner (ownerType : MediaOwnerType) (ownerId : String) (kind : MediaKind)
  | upsert (ownerType : MediaOwnerType) (ownerId : String) (kind : MediaKind)
      (sourceObjectKey : String)
  | resetToPending (id : String)
  | setTrailerReady (id hlsManifestKey : String)
  | setReady (id hlsManifestKey : String)
  | setFailed (id failureReason : String)

/-- Everything else a service does outside its own memory. -/
inductive ServiceCall where
  | uuid
  | randomBytes
  | bcryptHash (password : String)
  | bcryptCompare (password passwordHash : String)
  | signJwt (payload : JwtAccessPayload)
  | darajaAccessToken
  | darajaStkPush (push : StkPush)
  | flutterwaveCheckout (checkout : Checkout)
  | signUrl (verb : UrlVerb) (objectKey : String) (expiresIn : Int)
  | queueAdd (job : TranscodeJobData)
  | mkdtemp
  | getObject (objectKey : String)
  | pipeToFile (path : String)
  | mkdir (path : String)
  | ffmpeg (source outDir rendition : String)
  | readdir (path : String)
  | putObject (localPath objectKey : String)
  | writeFile (path text : String)
  | removeDir (path : String)

inductive Cmd where
  | now
  | transaction (c : TransactionStmt)
  | subscription (c : SubscriptionStmt)
  | account (c : AccountStmt)
  | catalog (c : CatalogStmt)
  | mediaAsset (c : MediaAssetStmt)
  | service (c : ServiceCall)

/-! ## Their answers -/

def TransactionStmt.Resp : TransactionStmt → Type
  | .findFirstPending _ => Option Transaction
  | .create _ _ _ => Transaction
  | .setProviderReference _ _ => Transaction
  | .findById _ => Option Transaction
  | .findByReference _ => Option Transaction
  | .markFailed _ _ _ => Transaction
  | .markTimedOut _ _ => Transaction
  | .findStale _ => List Transaction
  | .findManyOfUser _ => List Transaction

def SubscriptionStmt.Resp : SubscriptionStmt → Type
  | .findActive _ _ => Option Subscription
  | .findLatest _ => Option Subscription
  | .readForActivation _ => Option (Transaction × Option Subscription)
  | .commitActivation _ _ _ _ _ => Subscription

def AccountStmt.Resp : AccountStmt → Type
  | .findUserByEmail _ => Option User
  | .createUser _ _ => User
  | .findUserWithActive _ => Option (User × Option Subscription)
  | .findToken _ => Option (RefreshToken × User)
  | .revokeAllOfUser _ _ => Unit
  | .revokeToken _ _ => Unit
  | .revokeByHash _ _ => Unit
  | .createToken _ _ _ => RefreshToken

def CatalogStmt.Resp : CatalogStmt → Type
  | .findPublishedTitles _ _ _ _ => List (Title × List String)
  | .countPublishedTitles _ _ => Nat
  | .findPublishedTitle _ => Option TitleTree
  | .findTitleTree _ => Option TitleTree
  | .findTitle _ => Option Title
  | .createTitle _ _ _ _ _ => Title
  | .updateTitle _ _ => Title
  | .createSeason _ _ => Season
  | .findSeason _ => Option Season
  | .createEpisode _ _ _ _ => Episode
  | .findEpisode _ => Option Episode
  | .findPublishedEpisode _ => Option Episode
  | .findPublishedEpisodesOf _ => List Episode
  | .updateEpisode _ _ => Episode
  | .upsertGenre _ => Genre

def MediaAssetStmt.Resp : MediaAssetStmt → Type
  | .findById _ => Option MediaAsset
  | .findByOwner _ _ _ => Option MediaAsset
  | .upsert _ _ _ _ => MediaAsset
  | .resetToPending _ => Unit
  | .setTrailerReady _ _ => Unit
  | .setReady _ _ => Unit
  | .setFailed _ _ => Unit

def ServiceCall.Resp : ServiceCall → Type
  | .uuid => String
  | .randomBytes => String
  | .bcryptHash _ => String
  | .bcryptCompare _ _ => Bool
  | .signJwt _ => String
  | .darajaAccessToken => HttpReply
  | .darajaStkPush _ => HttpReply
  | .flutterwaveCheckout _ => HttpReply
  | .signUrl _ _ _ => SignedUrl
  | .queueAdd _ => Unit
  | .mkdtemp => String
  | .getObject _ => Bool
  | .pipeToFile _ => Unit
  | .mkdir _ => Unit
  | .ffmpeg _ _ _ => Unit
  | .readdir _ => List String
  | .putObject _ _ => Unit
  | .writeFile _ _ => Unit
  | .removeDir _ => Unit

def Cmd.Resp : Cmd → Type
  | .now => Millis
  | .transaction c => c.Resp
  | .subscription c => c.Resp
  | .account c => c.Resp
  | .catalog c => c.Resp
  | .mediaAsset c => c.Resp
  | .service c => c.Resp

/-- The statements of the backend. -/
abbrev Sig : Signature := ⟨Cmd, Cmd.Resp, Exception⟩

/-- A program of the backend. -/
abbrev App (α : Type) : Type := Prog Sig α

@[simp] theorem App.throw_eq {α : Type} (e : Exception) :
    (throw e : App α) = Prog.done (.error e) := rfl

@[simp] theorem App.throw_bind {α β : Type} (e : Exception) (f : α → App β) :
    ((throw e : App α) >>= f) = Prog.done (.error e) := rfl

@[simp] theorem App.pure_bind {α β : Type} (a : α) (f : α → App β) :
    ((pure a : App α) >>= f) = f a := rfl

/-! ## What the environment supplies -/

/-- What the environment contributes to one statement. -/
structure Ambient where
  now : Millis
  /-- The statement fails with this instead of being performed. -/
  fault : Option Exception
  /-- A generated value: a row's uuid, random bytes, a salted hash. -/
  fresh : String
  reply : HttpReply
  accepts : Bool
  names : List String
  /-- How the database orders rows, by their ids, where a query leaves the
  order open. -/
  tie : String → Int := fun _ => 0

abbrev Outcome (β : Type) : Type := Except Exception β × Store

/-- How Prisma reads the value given for a nullable text column in an
update: `undefined` leaves it, `{ set: .. }` is unwrapped, and anything
that is not a text or `null` is refused. -/
def textUpdate : JsVal → Option (Option String → Option String)
  | none => some id
  | some .null => some fun _ => none
  | some (.str s) => some fun _ => some s
  | some (.obj [("set", .str s)]) => some fun _ => some s
  | some (.obj [("set", .null)]) => some fun _ => none
  | some _ => none

end StreamingService
