import Motogram.Auth.Store
import Motogram.Text

/-!
# The auth service

`auth.service.ts` and `token.service.ts`, function by function: sessions
(`login`, `refresh`, `logout`), the operations that drop every session of a user
(`changePassword`, `resetPassword`, `verifyEmailChange`), and one-time codes
(`requestOtp`, `verifyOtp`). Every function is a program over the calls of the
store, in the order of the source.
-/

set_option autoImplicit false

namespace Motogram.Auth

open Foundation Program

/-! ## Exceptions -/

def invalidCredentials : ServiceError :=
  .http .unauthorized "invalid_credentials" .invalidCredentials none
def accountBanned : ServiceError := .http .unauthorized "account_banned" .blocked none
def accountDeleted : ServiceError := .http .unauthorized "account_deleted" .unauthorized none
def refreshTokenInvalid : ServiceError :=
  .http .unauthorized "refresh_token_invalid" .tokenInvalid none
def wrongTokenType : ServiceError := .http .unauthorized "wrong_token_type" .tokenInvalid none
def refreshTokenRevoked : ServiceError :=
  .http .unauthorized "refresh_token_revoked" .tokenInvalid none
def userInactive : ServiceError := .http .unauthorized "user_inactive" .unauthorized none
def resetTokenInvalid : ServiceError :=
  .http .badRequest "reset_token_invalid" .validationFailed none
def emailChangeTokenInvalid : ServiceError :=
  .http .badRequest "email_change_token_invalid" .validationFailed none
def otpDisabled : ServiceError := .http .forbidden "otp_disabled" .forbidden none
def otpRateLimited : ServiceError := .http .tooManyRequests "otp_rate_limited" .rateLimited none
def otpInvalidOrExpired : ServiceError :=
  .http .badRequest "otp_invalid_or_expired" .validationFailed none
def otpLocked : ServiceError := .http .forbidden "otp_locked" .forbidden none
def otpCodeInvalid : ServiceError :=
  .http .unauthorized "otp_code_invalid" .invalidCredentials none

/-! ## Tokens -/

/-- `issueTokenPair`: both tokens are signed, then the key of the refresh token is
stored. -/
def issueTokenPair (userId : UserId) (username : String) (role : UserRole) : Flow TokenPair := do
  let jti : Jti ← call .uuidv4
  let signedAt : Time ← call .jwtSign
  let refreshSignedAt : Time ← call .jwtSign
  let _ : Unit ← call (.setRefreshToken ⟨userId, jti⟩ refreshTtlSeconds)
  pure
    { accessToken := ⟨userId, username, role, signedAt / 1000 + accessTtlSeconds⟩
      refreshToken := ⟨userId, jti, .refresh, refreshSignedAt / 1000 + refreshTtlSeconds⟩
      accessTokenExpiresIn := accessTtlSeconds
      refreshTokenExpiresIn := refreshTtlSeconds }

/-- `verifyRefresh`: the signature is right and the token has not expired. A
string that was not signed with the refresh secret is `none`. -/
def verifyRefresh (refreshToken : Option RefreshToken) : Flow (Option RefreshToken) := do
  let now : Time ← call .dateNow
  pure (refreshToken.filter fun token => decide (now / 1000 < token.exp))

def revokeRefresh (key : RefreshKey) : Flow Unit := call (.delRefreshToken key)

/-- `revokeAllUserRefreshTokens`: the keys are listed, and the listed keys are
deleted. -/
def revokeAllForUser (userId : UserId) : Flow Nat := do
  let keys : List RefreshKey ← call (.keysRefreshTokens userId)
  if keys.length = 0 then pure 0
  else call (.delRefreshTokens keys)

def isRefreshActive (key : RefreshKey) : Flow Bool := call (.getRefreshToken key)

/-! ## Sessions -/

/-- The key a refresh token is stored under. -/
def RefreshToken.key (token : RefreshToken) : RefreshKey := ⟨token.sub, token.jti⟩

/-- `refresh` from the deletion of the old key on. -/
def rotate (token : RefreshToken) : Flow TokenPair := do
  revokeRefresh token.key
  let user : Option User ← call (.userFindUnique token.sub)
  match user with
  | none => .fail userInactive
  | some user => do
    throwIf (user.isBanned = true ∨ user.deletedAt.isSome) userInactive
    issueTokenPair token.sub user.username user.role

def refresh (refreshToken : Option RefreshToken) : Flow TokenPair := do
  let verified ← verifyRefresh refreshToken
  match verified with
  | none => .fail refreshTokenInvalid
  | some token => do
    throwIf (token.typ ≠ .refresh) wrongTokenType
    let active ← isRefreshActive token.key
    throwIf (active = false) refreshTokenRevoked
    rotate token

/-- `logout`. The inner optional is the string that was presented, when there is
one. -/
def logout (userId : UserId) (refreshToken : Option (Option RefreshToken)) (allDevices : Bool) :
    Flow Unit :=
  if allDevices then do
    let _ ← revokeAllForUser userId
    pure ()
  else
    match refreshToken with
    | none => pure ()
    | some presented => do
      let verified ← verifyRefresh presented
      match verified with
      | none => pure ()
      | some token => revokeRefresh token.key

/-- The end of a login, from the password check on. -/
def completeLogin (userId : UserId) (user : User) (password passwordHash : String) :
    Flow (UserId × TokenPair) := do
  let matches' : Bool ← call (.bcryptCompare password passwordHash)
  throwIf (matches' = false) invalidCredentials
  let updated : Except PrismaError Unit ← call (.userUpdateLastSeen userId)
  rethrow updated
  let now : Time ← call .dateNow
  let _ : Unit ← call (.emitLogin userId now)
  let tokens ← issueTokenPair userId user.username user.role
  pure (userId, tokens)

/-- A deletion that may still be taken back. -/
def AccountDeletion.canRestore (deletion : AccountDeletion) (now : Time) : Bool :=
  deletion.executedAt.isNone && deletion.cancelledAt.isNone && decide (now < deletion.scheduledFor)

def login (deployment : Deployment) (identifier password : String) :
    Flow (UserId × TokenPair) := do
  let found : Option (UserId × User) ←
    call (.userFindFirstByIdentifier (deployment.toLowerCase (jsTrim identifier)))
  match found with
  | none => .fail invalidCredentials
  | some (userId, user) =>
    match user.passwordHash with
    | none => .fail invalidCredentials
    | some passwordHash => do
      throwIf (user.isBanned = true) accountBanned
      if user.deletedAt.isSome then do
        let deletion : Option AccountDeletion ← call (.accountDeletionFindUnique userId)
        let now : Time ← call .dateNow
        throwIf ((deletion.any fun stored => stored.canRestore now) = false)
          accountDeleted
        completeLogin userId user password passwordHash
      else completeLogin userId user password passwordHash

/-! ## Dropping every session -/

def changePassword (userId : UserId) (currentPassword newPassword : String) : Flow Nat := do
  let found : Option User ← call (.userFindUnique userId)
  match found.bind User.passwordHash with
  | none => .fail invalidCredentials
  | some passwordHash => do
    let matches' : Bool ← call (.bcryptCompare currentPassword passwordHash)
    throwIf (matches' = false) invalidCredentials
    let newHash : String ← call (.bcryptHash newPassword)
    let updated : Except PrismaError Unit ← call (.userUpdatePasswordHash userId newHash)
    rethrow updated
    revokeAllForUser userId

def resetPassword (deployment : Deployment) (token newPassword : String) : Flow Nat := do
  let found : Option (ResetTokenId × PasswordResetToken × User) ←
    call (.passwordResetTokenFindFirst (deployment.hashPasswordResetToken token))
  match found with
  | none => .fail resetTokenInvalid
  | some (id, stored, user) => do
    throwIf (user.isBanned = true ∨ user.deletedAt.isSome) resetTokenInvalid
    let newHash : String ← call (.bcryptHash newPassword)
    let updated : Except PrismaError Unit ←
      call (.resetPasswordTransaction id stored.userId newHash)
    rethrow updated
    revokeAllForUser stored.userId

/-- `value.trim().toLowerCase()`. -/
def normalize (deployment : Deployment) (value : String) : String :=
  deployment.toLowerCase (jsTrim value)

/-- The pending email is the one the token was made for. -/
def pendingMatches (deployment : Deployment) (stored : EmailChangeToken) (user : User) : Bool :=
  (user.pendingEmail.map (normalize deployment)).any fun pending =>
    decide (pending ≠ "") && decide (pending = normalize deployment stored.newEmail)

def verifyEmailChange (deployment : Deployment) (token : String) : Flow Unit := do
  let found : Option (EmailTokenId × EmailChangeToken × User) ←
    call (.emailChangeTokenFindFirst (deployment.hashPasswordResetToken token))
  match found with
  | none => .fail emailChangeTokenInvalid
  | some (id, stored, user) => do
    throwIf (user.isBanned = true ∨ user.deletedAt.isSome) emailChangeTokenInvalid
    throwIf (pendingMatches deployment stored user = false) emailChangeTokenInvalid
    let updated : Except PrismaError Unit ←
      call (.emailChangeTransaction id stored.userId (normalize deployment stored.newEmail))
    rethrow updated
    let _ ← revokeAllForUser stored.userId
    pure ()

/-! ## One-time codes -/

/-- `assertOtpEnabled`. -/
def assertOtpEnabled (deployment : Deployment) : Flow Unit :=
  throwIf (deployment.otpAuthEnabled = false) otpDisabled

/-- The end of `requestOtp`: earlier codes are closed and a new one is stored and
sent. The code is the one `randomOtpCode` has drawn. -/
def sendOtp (phone plain : String) : Flow Unit := do
  let _ : Unit ← call (.otpCodeInvalidate phone)
  let codeHash : String ← call (.bcryptHash plain)
  let now : Time ← call .dateNow
  let _ : Unit ← call (.otpCodeCreate phone codeHash (now + otpTtlMs))
  let _ : Unit ← call (.otpSmsEnqueue phone plain)
  pure ()

/-- `requestOtp`, with the code that is drawn when one is. -/
def requestOtp (deployment : Deployment) (phoneNumber plain : String) : Flow Unit := do
  assertOtpEnabled deployment
  let phone := jsTrim phoneNumber
  let user : Option UserId ← call (.userFindFirstByPhone phone)
  match user with
  | none => pure ()
  | some _ => do
    let latest : Option (OtpId × OtpCode) ← call (.otpCodeFindLatestUnused phone)
    match latest with
    | none => sendOtp phone plain
    | some (_, row) => do
      let now : Time ← call .dateNow
      throwIf ((now : Int) - row.createdAt < otpCooldownMs) otpRateLimited
      sendOtp phone plain

/-- `verifyOtp` after a code was read: the comparison, and the write its result
calls for. -/
def checkOtp (phone code : String) (now : Time) (id : OtpId) (codeHash : String) : Flow Bool := do
  let matches' : Bool ← call (.otpCompare id code codeHash)
  if matches' = false then do
    let counted : Except PrismaError Unit ← call (.otpCodeIncrementAttempts id)
    rethrow counted
    .fail otpCodeInvalid
  else do
    let used : Except PrismaError Unit ← call (.otpCodeMarkUsed id now)
    rethrow used
    let count : Nat ← call (.userUpdateManyPhoneVerified phone now)
    pure (decide (count > 0))

/-- `verifyOtp`; it returns `phoneVerified`. -/
def verifyOtp (deployment : Deployment) (phoneNumber code : String) : Flow Bool := do
  assertOtpEnabled deployment
  let phone := jsTrim phoneNumber
  let now : Time ← call .dateNow
  let found : Option (OtpId × OtpCode) ← call (.otpCodeFindLatestValid phone now)
  match found with
  | none => .fail otpInvalidOrExpired
  | some (id, row) => do
    throwIf (row.attemptCount ≥ otpMaxAttempts) otpLocked
    checkOtp phone (jsTrim code) now id row.codeHash

/-! ## A small installation -/

/-- An installation that keeps passwords and codes as they are. -/
def smallDeployment : Deployment where
  bcrypt :=
    { hash := fun _ plain => plain
      compare := fun code hash => decide (code = hash)
      correct := fun _ _ _ => by simp }
  hashPasswordResetToken := id
  equalsInsensitive := fun first second => decide (first = second)
  toLowerCase := id
  otpAuthEnabled := true

def smallUser : User where
  username := "rider"
  email := "rider@example.com"
  pendingEmail := none
  phoneNumber := some "+905550000001"
  phoneVerifiedAt := none
  passwordHash := some "secret"
  appleSub := none
  googleSub := none
  role := .user
  isBanned := false
  lastSeenAt := none
  usernameChangedAt := none
  deletedAt := none

def smallInstallation : State := .initial smallDeployment 0 (Table.empty.insert 1 smallUser)

end Motogram.Auth
