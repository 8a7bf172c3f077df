import Mathlib.Data.List.Sort
import Mathlib.Tactic.Simps.Basic
import Motogram.Entities
import Motogram.Foundation.Interleaving
import Motogram.Foundation.Keyspace

/-!
# The stores of the auth service

What `auth.service.ts` and `token.service.ts` keep: the users, deletion records,
reset tokens, email change tokens and one-time codes in Postgres, the refresh
token keys in Redis, the queues and events, and the clock. `AuthCall` lists the
calls, each of them atomic, and `answer` says what a call replies and changes.

A token that verifies under a secret was signed by the service, so a string a
client presents is either a token with its payload or no token at all. Random
identifiers are taken from a counter, which makes them fresh.
-/

set_option autoImplicit false

namespace Motogram.Auth

open Foundation

abbrev Jti := Nat
abbrev OtpId := Nat
abbrev ResetTokenId := Nat
abbrev EmailTokenId := Nat

/-! ## Rows -/

inductive UserRole where
  | user
  | moderator
  | admin
  deriving DecidableEq

/-- The columns of `User` the auth and account services read or write. -/
structure User where
  username : String
  email : String
  pendingEmail : Option String
  phoneNumber : Option String
  phoneVerifiedAt : Option Time
  passwordHash : Option String
  appleSub : Option String
  googleSub : Option String
  role : UserRole
  isBanned : Bool
  lastSeenAt : Option Time
  usernameChangedAt : Option Time
  deletedAt : Option Time
  deriving DecidableEq

structure AccountDeletion where
  requestedAt : Time
  scheduledFor : Time
  reason : Option String
  cancelledAt : Option Time
  executedAt : Option Time
  -- the job's user and date, of which `deletion:{userId}:{scheduledFor}` is made
  jobId : Option (UserId × Time)
  deriving DecidableEq

structure PasswordResetToken where
  userId : UserId
  tokenHash : String
  expiresAt : Time
  usedAt : Option Time
  deriving DecidableEq

structure EmailChangeToken where
  userId : UserId
  newEmail : String
  tokenHash : String
  expiresAt : Time
  usedAt : Option Time
  deriving DecidableEq

structure OtpCode where
  phone : String
  codeHash : String
  expiresAt : Time
  attemptCount : Nat
  usedAt : Option Time
  createdAt : Time
  deriving DecidableEq

/-! ## Tokens -/

inductive TokenType where
  | access
  | refresh
  deriving DecidableEq

structure AccessToken where
  sub : UserId
  username : String
  role : UserRole
  exp : Nat
  deriving DecidableEq

/-- A token signed with the refresh secret. When both secrets are configured to
be the same it may be an access token; `exp` is in seconds. -/
structure RefreshToken where
  sub : UserId
  jti : Jti
  typ : TokenType
  exp : Nat
  deriving DecidableEq

structure TokenPair where
  accessToken : AccessToken
  refreshToken : RefreshToken
  accessTokenExpiresIn : Nat
  refreshTokenExpiresIn : Nat
  deriving DecidableEq

/-- The suffix of `refresh_token:{userId}:{tokenId}`. -/
structure RefreshKey where
  userId : UserId
  jti : Jti
  deriving DecidableEq

/-! ## The state -/

/-- `bcrypt`: a hash is compared with the text it was made of, whatever the salt. -/
structure Bcrypt where
  hash : Nat → String → String
  compare : String → String → Bool
  correct : ∀ salt plain code, compare code (hash salt plain) = true ↔ code = plain

/-- What the installation fixes: the password hash, the digest of plain tokens,
the comparison `mode: 'insensitive'` of the database, the lower-casing of the
JavaScript engine, and the flag `OTP_AUTH_ENABLED`. -/
structure Deployment where
  bcrypt : Bcrypt
  hashPasswordResetToken : String → String
  equalsInsensitive : String → String → Bool
  toLowerCase : String → String
  otpAuthEnabled : Bool

structure State where
  deployment : Deployment
  now : Time
  fresh : Nat
  -- Postgres
  users : Table UserId User
  accountDeletions : Table UserId AccountDeletion
  passwordResetTokens : Table ResetTokenId PasswordResetToken
  emailChangeTokens : Table EmailTokenId EmailChangeToken
  otpCodes : Table OtpId OtpCode
  -- Redis
  refreshTokens : Keyspace RefreshKey Unit
  -- queues and events
  smsQueue : List (String × String)
  loginEvents : List (UserId × Time)

/-- An installation with these users and nothing else. -/
def State.initial (deployment : Deployment) (now : Time) (users : Table UserId User) : State where
  deployment := deployment
  now := now
  fresh := 0
  users := users
  accountDeletions := .empty
  passwordResetTokens := .empty
  emailChangeTokens := .empty
  otpCodes := .empty
  refreshTokens := .empty
  smsQueue := []
  loginEvents := []

/-! ## Constants -/

def accessTtlSeconds : Nat := 15 * 60
def refreshTtlSeconds : Nat := 7 * 24 * 60 * 60
def otpTtlMs : Nat := 5 * 60 * 1000
def otpCooldownMs : Nat := 60 * 1000
def otpMaxAttempts : Nat := 5

/-! ## Calls and replies -/

inductive AuthCall where
  -- users
  | userFindUnique (userId : UserId)
  | userFindFirstByIdentifier (identifier : String)
  | userFindFirstByPhone (phone : String)
  | userUpdateLastSeen (userId : UserId)
  | userUpdatePasswordHash (userId : UserId) (passwordHash : String)
  | userUpdateManyPhoneVerified (phone : String) (at' : Time)
  | accountDeletionFindUnique (userId : UserId)
  -- tokens by mail
  | passwordResetTokenFindFirst (tokenHash : String)
  | resetPasswordTransaction (id : ResetTokenId) (userId : UserId) (passwordHash : String)
  | emailChangeTokenFindFirst (tokenHash : String)
  | emailChangeTransaction (id : EmailTokenId) (userId : UserId) (email : String)
  -- one-time codes
  | otpCodeFindLatestUnused (phone : String)
  | otpCodeFindLatestValid (phone : String) (now : Time)
  | otpCodeInvalidate (phone : String)
  | otpCodeCreate (phone codeHash : String) (expiresAt : Time)
  | otpCodeIncrementAttempts (id : OtpId)
  | otpCodeMarkUsed (id : OtpId) (at' : Time)
  | otpSmsEnqueue (phone code : String)
  -- Redis
  | setRefreshToken (key : RefreshKey) (seconds : Nat)
  | getRefreshToken (key : RefreshKey)
  | delRefreshToken (key : RefreshKey)
  | keysRefreshTokens (userId : UserId)
  | delRefreshTokens (keys : List RefreshKey)
  -- the process
  | emitLogin (userId : UserId) (at' : Time)
  | bcryptCompare (plain passwordHash : String)
  | bcryptHash (plain : String)
  | otpCompare (id : OtpId) (code codeHash : String)
  | uuidv4
  | jwtSign
  | dateNow
  | elapse (milliseconds : Nat)
  deriving DecidableEq

@[reducible] def AuthReply : AuthCall → Type
  | .userFindUnique _ => Option User
  | .userFindFirstByIdentifier _ => Option (UserId × User)
  | .userFindFirstByPhone _ => Option UserId
  | .userUpdateLastSeen _ => Except PrismaError Unit
  | .userUpdatePasswordHash _ _ => Except PrismaError Unit
  | .userUpdateManyPhoneVerified _ _ => Nat
  | .accountDeletionFindUnique _ => Option AccountDeletion
  | .passwordResetTokenFindFirst _ => Option (ResetTokenId × PasswordResetToken × User)
  | .resetPasswordTransaction _ _ _ => Except PrismaError Unit
  | .emailChangeTokenFindFirst _ => Option (EmailTokenId × EmailChangeToken × User)
  | .emailChangeTransaction _ _ _ => Except PrismaError Unit
  | .otpCodeFindLatestUnused _ => Option (OtpId × OtpCode)
  | .otpCodeFindLatestValid _ _ => Option (OtpId × OtpCode)
  | .otpCodeInvalidate _ => Unit
  | .otpCodeCreate _ _ _ => Unit
  | .otpCodeIncrementAttempts _ => Except PrismaError Unit
  | .otpCodeMarkUsed _ _ => Except PrismaError Unit
  | .otpSmsEnqueue _ _ => Unit
  | .setRefreshToken _ _ => Unit
  | .getRefreshToken _ => Bool
  | .delRefreshToken _ => Unit
  | .keysRefreshTokens _ => List RefreshKey
  | .delRefreshTokens _ => Nat
  | .emitLogin _ _ => Unit
  | .bcryptCompare _ _ => Bool
  | .bcryptHash _ => String
  | .otpCompare _ _ _ => Bool
  | .uuidv4 => Nat
  | .jwtSign => Time
  | .dateNow => Time
  | .elapse _ => Unit

/-! ## Writing the state -/

section Setters

variable (s : State)

@[simps -fullyApplied] def State.withUsers (users : Table UserId User) : State :=
  { s with users := users }

@[simps -fullyApplied] def State.withOtpCodes (otpCodes : Table OtpId OtpCode) : State :=
  { s with otpCodes := otpCodes }

@[simps -fullyApplied] def State.withRefreshTokens (refreshTokens : Keyspace RefreshKey Unit) :
    State :=
  { s with refreshTokens := refreshTokens }

@[simps -fullyApplied] def State.withFresh (fresh : Nat) : State := { s with fresh := fresh }

@[simps -fullyApplied] def State.withReset (users : Table UserId User)
    (passwordResetTokens : Table ResetTokenId PasswordResetToken) : State :=
  { s with users := users, passwordResetTokens := passwordResetTokens }

@[simps -fullyApplied] def State.withEmailChange (users : Table UserId User)
    (emailChangeTokens : Table EmailTokenId EmailChangeToken) : State :=
  { s with users := users, emailChangeTokens := emailChangeTokens }

@[simps -fullyApplied] def State.withSms (phone code : String) : State :=
  { s with smsQueue := s.smsQueue ++ [(phone, code)] }

@[simps -fullyApplied] def State.withLoginEvent (userId : UserId) (at' : Time) : State :=
  { s with loginEvents := s.loginEvents ++ [(userId, at')] }

@[simps -fullyApplied] def State.elapsed (milliseconds : Nat) : State :=
  { s with now := s.now + milliseconds }

end Setters

/-! ## Reading the tables -/

/-- The active user a phone number belongs to. -/
def State.userByPhone (s : State) (phone : String) : Option UserId :=
  (s.users.entries.find? fun entry => decide (entry.2.phoneNumber = some phone) &&
    entry.2.deletedAt.isNone && !entry.2.isBanned).map Prod.fst

/-- The first of the rows with the latest `createdAt`. -/
def latestCode (rows : List (OtpId × OtpCode)) : Option (OtpId × OtpCode) :=
  (rows.insertionSort fun first second => second.2.createdAt ≤ first.2.createdAt).head?

/-- `where: { phone, usedAt: null }`. -/
def State.unusedCodes (s : State) (phone : String) : List (OtpId × OtpCode) :=
  s.otpCodes.select fun _ row => decide (row.phone = phone) && row.usedAt.isNone

/-- `where: { phone, usedAt: null, expiresAt: { gt: now } }`. -/
def State.validCodes (s : State) (phone : String) (now : Time) : List (OtpId × OtpCode) :=
  s.otpCodes.select fun _ row => decide (row.phone = phone) && row.usedAt.isNone &&
    decide (now < row.expiresAt)

/-- The row `otpCode.create` inserts. -/
def newOtpCode (now : Time) (phone codeHash : String) (expiresAt : Time) : OtpCode where
  phone := phone
  codeHash := codeHash
  expiresAt := expiresAt
  attemptCount := 0
  usedAt := none
  createdAt := now

/-! ## Answers -/

def answer : (call : AuthCall) → State → AuthReply call × State
  | .userFindUnique userId, s => (s.users.find? userId, s)
  | .userFindFirstByIdentifier identifier, s =>
    (s.users.entries.find? fun entry =>
      s.deployment.equalsInsensitive entry.2.email identifier ||
        s.deployment.equalsInsensitive entry.2.username identifier, s)
  | .userFindFirstByPhone phone, s => (s.userByPhone phone, s)
  | .userUpdateLastSeen userId, s =>
    match s.users.find? userId with
    | none => (.error .recordNotFound, s)
    | some _ =>
      (.ok (), s.withUsers (s.users.modify userId fun user =>
        { user with lastSeenAt := some s.now }))
  | .userUpdatePasswordHash userId passwordHash, s =>
    match s.users.find? userId with
    | none => (.error .recordNotFound, s)
    | some _ =>
      (.ok (), s.withUsers (s.users.modify userId fun user =>
        { user with passwordHash := some passwordHash }))
  | .userUpdateManyPhoneVerified phone at', s =>
    (s.users.count (fun _ user => decide (user.phoneNumber = some phone) &&
        user.deletedAt.isNone),
      s.withUsers (s.users.modifyWhere (fun _ user => decide (user.phoneNumber = some phone) &&
        user.deletedAt.isNone) fun user => { user with phoneVerifiedAt := some at' }))
  | .accountDeletionFindUnique userId, s => (s.accountDeletions.find? userId, s)
  | .passwordResetTokenFindFirst tokenHash, s =>
    ((s.passwordResetTokens.entries.find? fun entry =>
      decide (entry.2.tokenHash = tokenHash) && entry.2.usedAt.isNone &&
        decide (s.now < entry.2.expiresAt)).bind fun entry =>
          (s.users.find? entry.2.userId).map fun user => (entry.1, entry.2, user), s)
  | .resetPasswordTransaction id userId passwordHash, s =>
    if (s.passwordResetTokens.find? id).isNone || (s.users.find? userId).isNone then
      (.error .recordNotFound, s)
    else
      (.ok (), s.withReset
        (s.users.modify userId fun user => { user with passwordHash := some passwordHash })
        (s.passwordResetTokens.modify id fun token => { token with usedAt := some s.now }))
  | .emailChangeTokenFindFirst tokenHash, s =>
    ((s.emailChangeTokens.entries.find? fun entry =>
      decide (entry.2.tokenHash = tokenHash) && entry.2.usedAt.isNone &&
        decide (s.now < entry.2.expiresAt)).bind fun entry =>
          (s.users.find? entry.2.userId).map fun user => (entry.1, entry.2, user), s)
  | .emailChangeTransaction id userId email, s =>
    if (s.emailChangeTokens.find? id).isNone || (s.users.find? userId).isNone then
      (.error .recordNotFound, s)
    else if s.users.entries.any fun entry =>
        decide (entry.1 ≠ userId) && decide (entry.2.email = email) then
      (.error .uniqueViolation, s)
    else
      (.ok (), s.withEmailChange
        (s.users.modify userId fun user => { user with email := email, pendingEmail := none })
        (s.emailChangeTokens.modify id fun token => { token with usedAt := some s.now }))
  | .otpCodeFindLatestUnused phone, s => (latestCode (s.unusedCodes phone), s)
  | .otpCodeFindLatestValid phone now, s => (latestCode (s.validCodes phone now), s)
  | .otpCodeInvalidate phone, s =>
    ((), s.withOtpCodes (s.otpCodes.modifyWhere
      (fun _ row => decide (row.phone = phone) && row.usedAt.isNone)
        fun row => { row with usedAt := some s.now }))
  | .otpCodeCreate phone codeHash expiresAt, s =>
    ((), (s.withOtpCodes (s.otpCodes.insert s.fresh (newOtpCode s.now phone codeHash
      expiresAt))).withFresh (s.fresh + 1))
  | .otpCodeIncrementAttempts id, s =>
    match s.otpCodes.find? id with
    | none => (.error .recordNotFound, s)
    | some _ =>
      (.ok (), s.withOtpCodes (s.otpCodes.modify id fun row =>
        { row with attemptCount := row.attemptCount + 1 }))
  | .otpCodeMarkUsed id at', s =>
    match s.otpCodes.find? id with
    | none => (.error .recordNotFound, s)
    | some _ =>
      (.ok (), s.withOtpCodes (s.otpCodes.modify id fun row => { row with usedAt := some at' }))
  | .otpSmsEnqueue phone code, s => ((), s.withSms phone code)
  | .setRefreshToken key seconds, s =>
    ((), s.withRefreshTokens (s.refreshTokens.set key () (some (s.now + seconds * 1000))))
  | .getRefreshToken key, s => ((s.refreshTokens.get? s.now key).isSome, s)
  | .delRefreshToken key, s => ((), s.withRefreshTokens (s.refreshTokens.delete key))
  | .keysRefreshTokens userId, s =>
    (s.refreshTokens.keys s.now fun key => decide (key.userId = userId), s)
  | .delRefreshTokens keys, s =>
    ((s.refreshTokens.keys s.now fun key => decide (key ∈ keys)).length,
      s.withRefreshTokens (s.refreshTokens.deleteWhere fun key => decide (key ∈ keys)))
  | .emitLogin userId at', s => ((), s.withLoginEvent userId at')
  | .bcryptCompare plain passwordHash, s =>
    (s.deployment.bcrypt.compare plain passwordHash, s)
  | .bcryptHash plain, s =>
    (s.deployment.bcrypt.hash s.fresh plain, s.withFresh (s.fresh + 1))
  -- the comparison with a one-time code keeps the row the hash was read from
  | .otpCompare _ code codeHash, s => (s.deployment.bcrypt.compare code codeHash, s)
  | .uuidv4, s => (s.fresh, s.withFresh (s.fresh + 1))
  -- a signature is dated by the clock
  | .jwtSign, s => (s.now, s)
  | .dateNow, s => (s.now, s)
  | .elapse milliseconds, s => ((), s.elapsed milliseconds)

/-! ## What a call does to the tokens by mail -/

section Mailed

variable (request : AuthCall) (s : State)

theorem resetTokens_answer :
    (answer request s).2.passwordResetTokens = s.passwordResetTokens ∨
      ∃ id userId passwordHash, request = .resetPasswordTransaction id userId passwordHash ∧
        (answer request s).2.passwordResetTokens =
          s.passwordResetTokens.modify id fun token => { token with usedAt := some s.now } := by
  cases request with
  | resetPasswordTransaction id userId passwordHash =>
    simp only [answer]
    split
    · exact .inl rfl
    · exact .inr ⟨id, userId, passwordHash, rfl, rfl⟩
  | emailChangeTransaction id userId email =>
    simp only [answer]
    split
    · exact .inl rfl
    · split <;> exact .inl rfl
  | userUpdateLastSeen _ | userUpdatePasswordHash _ _ | otpCodeIncrementAttempts _ | otpCodeMarkUsed _ _ =>
    simp only [answer]
    split <;> exact .inl rfl
  | _ => exact .inl rfl

theorem emailTokens_answer :
    (answer request s).2.emailChangeTokens = s.emailChangeTokens ∨
      ∃ id userId email, request = .emailChangeTransaction id userId email ∧
        (answer request s).2.emailChangeTokens =
          s.emailChangeTokens.modify id fun token => { token with usedAt := some s.now } := by
  cases request with
  | emailChangeTransaction id userId email =>
    simp only [answer]
    split
    · exact .inl rfl
    · split
      · exact .inl rfl
      · exact .inr ⟨id, userId, email, rfl, rfl⟩
  | userUpdateLastSeen _ | userUpdatePasswordHash _ _ | resetPasswordTransaction _ _ _
  | otpCodeIncrementAttempts _ | otpCodeMarkUsed _ _ =>
    simp only [answer]
    split <;> exact .inl rfl
  | _ => exact .inl rfl

end Mailed

/-! ## Service functions -/

abbrev Flow (Value : Type) := Program AuthCall AuthReply ServiceError Value

/-- Run a service function alone. -/
abbrev Flow.exec {Value : Type} (flow : Flow Value) (s : State) :
    Except ServiceError Value × State :=
  Program.run answer flow s

/-- Make one call and return its reply. -/
abbrev call (request : AuthCall) : Flow (AuthReply request) := .call request .done

def rethrow {Value : Type} (reply : Except PrismaError Value) : Flow Value :=
  match reply with
  | .ok value => .done value
  | .error error => .fail (.prisma error)

end Motogram.Auth
