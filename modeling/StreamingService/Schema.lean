import StreamingService.Js
import StreamingService.Lib.Table

/-!
# Schema

The rows of `schema.prisma` with their unique indexes, and the store all
parts of the backend share. Ids are the texts Prisma generates; an
instant is its milliseconds since the epoch; an amount is the whole
hundredths its `DECIMAL(10,2)` column holds.

Left out: the columns no modelled function reads (`createdAt` and
`updatedAt` except where a query orders by them, `durationSeconds`).
-/

namespace StreamingService

open Lib

inductive Role where
  | USER | ADMIN
  deriving DecidableEq, Repr

inductive TitleType where
  | MOVIE | SERIES
  deriving DecidableEq, Repr

inductive MediaOwnerType where
  | TITLE | EPISODE
  deriving DecidableEq, Repr

inductive MediaKind where
  | TRAILER | FULL
  deriving DecidableEq, Repr

inductive ProcessingStatus where
  | PENDING | READY | FAILED
  deriving DecidableEq, Repr

inductive SubscriptionStatus where
  | ACTIVE | EXPIRED
  deriving DecidableEq, Repr

inductive PaymentMethod where
  | MPESA | BANK_GATEWAY
  deriving DecidableEq, Repr

inductive TransactionStatus where
  | PENDING | SUCCEEDED | FAILED | TIMED_OUT
  deriving DecidableEq, Repr

/-! ## Rows -/

structure User where
  id : String
  email : String
  passwordHash : String
  role : Role
  deriving DecidableEq, Repr

/-- The SHA-256 of a refresh token, as the column stores it. The digest is
symbolic: it is compared for equality only, and collision free. -/
inductive TokenHash where
  | sha256 (token : String)
  deriving DecidableEq, Repr

structure RefreshToken where
  id : String
  userId : String
  tokenHash : TokenHash
  expiresAt : Millis
  revokedAt : Option Millis
  deriving DecidableEq, Repr

structure Genre where
  id : String
  name : String
  deriving DecidableEq, Repr

structure Title where
  id : String
  type : TitleType
  name : String
  description : String
  posterUrl : String
  published : Bool
  createdAt : Millis
  deriving DecidableEq, Repr

structure TitleGenre where
  titleId : String
  genreId : String
  deriving DecidableEq, Repr

structure Season where
  id : String
  titleId : String
  number : Int
  deriving DecidableEq, Repr

structure Episode where
  id : String
  seasonId : String
  number : Int
  name : String
  description : String
  published : Bool
  deriving DecidableEq, Repr

structure MediaAsset where
  id : String
  ownerType : MediaOwnerType
  ownerId : String
  kind : MediaKind
  processingStatus : ProcessingStatus
  sourceObjectKey : String
  hlsManifestKey : Option String
  failureReason : Option String
  deriving DecidableEq, Repr

structure Subscription where
  id : String
  userId : String
  status : SubscriptionStatus
  startAt : Millis
  expiresAt : Millis
  transactionId : String
  deriving DecidableEq, Repr

structure Transaction where
  id : String
  userId : String
  method : PaymentMethod
  amount : Int
  status : TransactionStatus
  providerReference : Option String
  initiatedAt : Millis
  resolvedAt : Option Millis
  failureReason : Option String
  deriving DecidableEq, Repr

/-! ## Unique indexes -/

instance : Indexed User where
  clash a b := a.id == b.id || a.email == b.email
  clash_comm a b := by rw [BEq.comm (a := a.id), BEq.comm (a := a.email)]
  clash_self a := by simp

instance : Indexed RefreshToken where
  clash a b := a.id == b.id || a.tokenHash == b.tokenHash
  clash_comm a b := by rw [BEq.comm (a := a.id), BEq.comm (a := a.tokenHash)]
  clash_self a := by simp

instance : Indexed Genre where
  clash a b := a.id == b.id || a.name == b.name
  clash_comm a b := by rw [BEq.comm (a := a.id), BEq.comm (a := a.name)]
  clash_self a := by simp

instance : Indexed Title where
  clash a b := a.id == b.id
  clash_comm a b := by rw [BEq.comm (a := a.id)]
  clash_self a := by simp

instance : Indexed TitleGenre where
  clash a b := a.titleId == b.titleId && a.genreId == b.genreId
  clash_comm a b := by rw [BEq.comm (a := a.titleId), BEq.comm (a := a.genreId)]
  clash_self a := by simp

instance : Indexed Season where
  clash a b := a.id == b.id || (a.titleId == b.titleId && a.number == b.number)
  clash_comm a b := by
    rw [BEq.comm (a := a.id), BEq.comm (a := a.titleId), BEq.comm (a := a.number)]
  clash_self a := by simp

instance : Indexed Episode where
  clash a b := a.id == b.id || (a.seasonId == b.seasonId && a.number == b.number)
  clash_comm a b := by
    rw [BEq.comm (a := a.id), BEq.comm (a := a.seasonId), BEq.comm (a := a.number)]
  clash_self a := by simp

instance : Indexed MediaAsset where
  clash a b := a.id == b.id ||
    (a.ownerType == b.ownerType && a.ownerId == b.ownerId && a.kind == b.kind)
  clash_comm a b := by
    rw [BEq.comm (a := a.id), BEq.comm (a := a.ownerType), BEq.comm (a := a.ownerId),
      BEq.comm (a := a.kind)]
  clash_self a := by simp

instance : Indexed Subscription where
  clash a b := a.id == b.id || a.transactionId == b.transactionId
  clash_comm a b := by rw [BEq.comm (a := a.id), BEq.comm (a := a.transactionId)]
  clash_self a := by simp

/-- `providerReference` is unique where it is set: two `NULL`s differ. -/
instance : Indexed Transaction where
  clash a b := a.id == b.id ||
    (a.providerReference.isSome && a.providerReference == b.providerReference)
  clash_comm a b := by
    rw [BEq.comm (a := a.id)]
    cases a.providerReference <;> cases b.providerReference <;> simp [Bool.beq_eq_decide_eq, eq_comm]
  clash_self a := by simp

/-! ## Lookups by an indexed column -/

section

variable {id : String}

theorem users_find? {t : Table User} {u : User} (hu : u ∈ t) (hid : u.id = id) :
    t.find? (fun x => x.id == id) = some u :=
  Table.find?_of_key User.id (fun a b h => by simp [Indexed.clash, h]) hu hid

theorem refreshTokens_find? {t : Table RefreshToken} {r : RefreshToken} (hr : r ∈ t)
    (hid : r.id = id) : t.find? (fun x => x.id == id) = some r :=
  Table.find?_of_key RefreshToken.id (fun a b h => by simp [Indexed.clash, h]) hr hid

theorem refreshTokens_find_hash? {t : Table RefreshToken} {r : RefreshToken} {tokenHash : TokenHash}
    (hr : r ∈ t) (hhash : r.tokenHash = tokenHash) :
    t.find? (fun x => x.tokenHash == tokenHash) = some r :=
  Table.find?_of_key RefreshToken.tokenHash (fun a b h => by simp [Indexed.clash, h]) hr hhash

theorem genres_find? {t : Table Genre} {g : Genre} (hg : g ∈ t) (hid : g.id = id) :
    t.find? (fun x => x.id == id) = some g :=
  Table.find?_of_key Genre.id (fun a b h => by simp [Indexed.clash, h]) hg hid

theorem titles_find? {t : Table Title} {x : Title} (hx : x ∈ t) (hid : x.id = id) :
    t.find? (fun y => y.id == id) = some x :=
  Table.find?_of_key Title.id (fun a b h => by simp [Indexed.clash, h]) hx hid

theorem mediaAssets_find? {t : Table MediaAsset} {a : MediaAsset} (ha : a ∈ t) (hid : a.id = id) :
    t.find? (fun x => x.id == id) = some a :=
  Table.find?_of_key MediaAsset.id (fun a b h => by simp [Indexed.clash, h]) ha hid

theorem transactions_find? {t : Table Transaction} {x : Transaction} (hx : x ∈ t) (hid : x.id = id) :
    t.find? (fun y => y.id == id) = some x :=
  Table.find?_of_key Transaction.id (fun a b h => by simp [Indexed.clash, h]) hx hid

end

/-! ## The store -/

/-- The data of a queued transcode job. -/
structure TranscodeJobData where
  mediaAssetId : String
  sourceObjectKey : String
  deriving DecidableEq, Repr

/-- The database, and the transcode queue beside it. -/
structure Store where
  users : Table User
  refreshTokens : Table RefreshToken
  genres : Table Genre
  titles : Table Title
  titleGenres : Table TitleGenre
  seasons : Table Season
  episodes : Table Episode
  mediaAssets : Table MediaAsset
  subscriptions : Table Subscription
  transactions : Table Transaction
  transcodeQueue : List TranscodeJobData

/-- Nothing stored yet. -/
def Store.empty : Store :=
  ⟨.empty, .empty, .empty, .empty, .empty, .empty, .empty, .empty, .empty, .empty, []⟩

end StreamingService
