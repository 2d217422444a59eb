import StreamingService.Payments.Provider

/-!
# Auth — Service

`AuthService`: registration, login, refresh-token rotation with its reuse
signal, logout and the profile. A refresh token's value is never stored,
only its digest.
-/

namespace StreamingService.AuthService

open Lib

structure AuthTokens where
  accessToken : String
  refreshToken : String
  refreshTokenExpiresAt : Option Millis
  deriving DecidableEq, Repr

structure PublicUser where
  id : String
  email : String
  role : Role
  deriving DecidableEq, Repr

def hashRefreshToken (token : String) : TokenHash := .sha256 token

def unitMs (unit : Char) : Option Int :=
  match unit with
  | 's' => some 1000
  | 'm' => some 60000
  | 'h' => some 3600000
  | 'd' => some 86400000
  | _ => none

/-- `/^(\d+)([smhd])$/`, and 30 days for any other text. -/
def parseDurationToMs (duration : String) : Int :=
  match duration.toList.reverse with
  | [] => 30 * 24 * 60 * 60 * 1000
  | unit :: digits =>
      match unitMs unit with
      | none => 30 * 24 * 60 * 60 * 1000
      | some ms =>
          if digits.isEmpty || !digits.all Char.isDigit then 30 * 24 * 60 * 60 * 1000
          else (digitsValue digits.reverse : Int) * ms

example : parseDurationToMs "15m" = 900000 := by decide

def issueTokens (cfg : AppConfig) (userId email : String) (role : Role) : App AuthTokens := do
  let accessToken : String ← stmt (.service (.signJwt { sub := userId, email, role }))
  let refreshToken : String ← stmt (.service .randomBytes)
  let instant ← now
  let refreshTokenExpiresAt := validDate (some (instant + parseDurationToMs cfg.jwt.refreshTtl))
  let _ ← stmt (.account (.createToken userId (hashRefreshToken refreshToken)
    refreshTokenExpiresAt))
  return { accessToken, refreshToken, refreshTokenExpiresAt }

def toPublicUser (user : User) : PublicUser :=
  { id := user.id, email := user.email, role := user.role }

def register (cfg : AppConfig) (email password : String) : App (PublicUser × AuthTokens) := do
  let existing : Option User ← stmt (.account (.findUserByEmail email))
  if existing.isSome then
    throw (.conflict "Email already registered")
  let passwordHash : String ← stmt (.service (.bcryptHash password))
  let user : User ← stmt (.account (.createUser email passwordHash))
  let tokens ← issueTokens cfg user.id user.email user.role
  return (toPublicUser user, tokens)

def login (cfg : AppConfig) (email password : String) : App (PublicUser × AuthTokens) := do
  let user : Option User ← stmt (.account (.findUserByEmail email))
  match user with
  | none => throw (.unauthorized "Invalid credentials")
  | some user => do
      let passwordMatches : Bool ← stmt (.service (.bcryptCompare password user.passwordHash))
      if !passwordMatches then
        throw (.unauthorized "Invalid credentials")
      let tokens ← issueTokens cfg user.id user.email user.role
      return (toPublicUser user, tokens)

/-- A revoked token is a reuse signal: every active token of its user goes.
Otherwise the presented row is revoked by id and a new pair is issued. -/
def refresh (cfg : AppConfig) (presentedToken : String) : App AuthTokens := do
  let record : Option (RefreshToken × User) ←
    stmt (.account (.findToken (hashRefreshToken presentedToken)))
  match record with
  | none => throw (.unauthorized "Invalid refresh token")
  | some (record, user) => do
      if record.revokedAt.isSome then do
        let revokedAt ← now
        let _ ← stmt (.account (.revokeAllOfUser record.userId revokedAt))
        throw (.unauthorized "Refresh token has been revoked")
      let instant ← now
      if record.expiresAt < instant then
        throw (.unauthorized "Refresh token expired")
      -- by id alone: `revokedAt` was asked for in the statement above and is not again
      let revokedAt ← now
      let _ ← stmt (.account (.revokeToken record.id revokedAt))
      issueTokens cfg user.id user.email user.role

def logout (presentedToken : String) : App Unit := do
  let revokedAt ← now
  stmt (.account (.revokeByHash (hashRefreshToken presentedToken) revokedAt))

/-- The profile, with the expiry of the active Subscription if any. -/
def getMe (userId : String) : App (PublicUser × Option Millis) := do
  let user : Option (User × Option Subscription) ←
    stmt (.account (.findUserWithActive userId))
  match user with
  | none => throw (.unauthorized "Unauthorized")
  | some (user, none) => return (toPublicUser user, none)
  | some (user, some latest) => do
      let instant ← now
      let activeSub := if instant < latest.expiresAt then some latest.expiresAt else none
      return (toPublicUser user, activeSub)

end StreamingService.AuthService
