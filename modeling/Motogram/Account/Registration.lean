import Motogram.Account.Store

/-!
# Registration, names and addresses

`register`, `requestEmailChange`, `appleSignIn` and `googleSignIn` of `auth.service.ts`, and
`changeUsername` of `users.service.ts`. Every function is a program over the calls of the
store, in the order of the source.

The tokens of the providers are verified by a library; what it returns is a parameter, and
nothing when it rejects the token.
-/

set_option autoImplicit false

namespace Motogram.Account

open Foundation Program

/-! ## Exceptions -/

def userAlreadyExists : ServiceError := .http .conflict "user_already_exists" .userExists none
def emailUnchanged : ServiceError := .http .badRequest "email_unchanged" .validationFailed none
def emailTaken : ServiceError := .http .conflict "email_taken" .conflict none
def usernameReserved : ServiceError := .http .badRequest "username_reserved" .validationFailed none
def usernameChangeCooldown : ServiceError :=
  .http .badRequest "username_change_cooldown" .validationFailed none
def usernameTaken : ServiceError := .http .conflict "username_taken" .conflict none
def changedUserNotFound : ServiceError := .http .notFound "user_not_found" .notFound none
def oauthAppleNotConfigured : ServiceError :=
  .http .serviceUnavailable "oauth_apple_not_configured" .oauthNotConfigured none
def oauthGoogleNotConfigured : ServiceError :=
  .http .serviceUnavailable "oauth_google_not_configured" .oauthNotConfigured none
def oauthTokenInvalid : ServiceError := .http .unauthorized "oauth_token_invalid" .tokenInvalid none
def oauthEmailProviderMismatch : ServiceError :=
  .http .conflict "oauth_email_provider_mismatch" .conflict none
def oauthUsernameExhausted : ServiceError := .http .conflict "oauth_username_exhausted" .conflict none

/-! ## Registration -/

def register (deployment : Auth.Deployment) (email username password : String) (name : Option String) :
    Flow (UserId × Auth.TokenPair) := do
  let usernameNorm := Auth.normalize deployment username
  let emailNorm := Auth.normalize deployment email
  let existing : Bool ← call (.userFindFirstRegistered emailNorm usernameNorm)
  throwIf (existing = true) userAlreadyExists
  let passwordHash : String ← call (.auth (.bcryptHash password))
  let created : Except PrismaError (UserId × Auth.User) ←
    call (.userCreate ⟨emailNorm, usernameNorm, some passwordHash, none, none, name⟩)
  let (userId, user) ← rethrow created
  let tokens ← auth (Auth.issueTokenPair userId user.username user.role)
  pure (userId, tokens)

/-! ## Usernames -/

def reservedUsernamesLower : List String :=
  ["admin", "administrator", "mod", "moderator", "motogram", "motogramapp", "motogram_team",
    "motogramofficial", "support", "help", "root", "system", "api", "www", "mail", "noreply",
    "no-reply", "team", "staff", "security", "abuse", "official", "null", "undefined"]

def isReservedUsername (deployment : Auth.Deployment) (username : String) : Bool :=
  let normalized := Auth.normalize deployment username
  decide (normalized = "") || decide (normalized ∈ reservedUsernamesLower) ||
    "motogram".toList.isPrefixOf normalized.toList

/-- The cooldown of `changeUsername`. -/
def checkCooldown (usernameChangedAt : Option Time) : Flow Unit :=
  match usernameChangedAt with
  | none => pure ()
  | some changedAt => do
    let now : Time ← call (.auth .dateNow)
    throwIf ((now : Int) - changedAt < usernameChangeCooldownMs) usernameChangeCooldown

/-- The end of `changeUsername`, from the query for the name on. -/
def takeUsername (userId : UserId) (next : String) : Flow String := do
  let taken : Bool ← call (.userFindFirstUsernameTaken userId next)
  throwIf (taken = true) usernameTaken
  let changedAt : Time ← call (.auth .dateNow)
  let updated : Except PrismaError Unit ← call (.userUpdateUsername userId next changedAt)
  rethrow updated
  pure next

/-- `changeUsername`; it returns the username. -/
def changeUsername (deployment : Auth.Deployment) (userId : UserId) (username : String) : Flow String := do
  let next := Auth.normalize deployment username
  let found : Option Auth.User ← call (.auth (.userFindUnique userId))
  match found.filter fun user => user.deletedAt.isNone with
  | none => .fail changedUserNotFound
  | some user =>
    if Auth.normalize deployment user.username = next then do
      let again : Option Auth.User ← call (.auth (.userFindUnique userId))
      match again with
      | none => .fail (.prisma .recordNotFound)
      | some user => pure user.username
    else do
      throwIf (isReservedUsername deployment next = true) usernameReserved
      checkCooldown user.usernameChangedAt
      takeUsername userId next

/-! ## Addresses -/

/-- The end of `requestEmailChange`, from the deletion of the earlier tokens on. -/
def storeEmailChange (deployment : Auth.Deployment) (userId : UserId) (newNorm : String) : Flow String := do
  let _ : Unit ← call (.emailChangeTokenDeleteUnused userId)
  let plainToken : String ← call .randomBytes
  let now : Time ← call (.auth .dateNow)
  let requested : Except PrismaError Unit ← call (.emailChangeRequestTransaction userId newNorm
    (deployment.hashPasswordResetToken plainToken) (now + emailChangeTtlMs))
  rethrow requested
  let _ : Unit ← call (.emailChangeMailEnqueue userId newNorm plainToken)
  pure newNorm

/-- `requestEmailChange`; it returns `pendingEmail`. -/
def requestEmailChange (deployment : Auth.Deployment) (userId : UserId) (newEmail password : String) :
    Flow String := do
  let newNorm := Auth.normalize deployment newEmail
  let found : Option Auth.User ← call (.auth (.userFindUnique userId))
  match found.bind fun user => user.passwordHash.map fun passwordHash => (user, passwordHash) with
  | none => .fail Auth.invalidCredentials
  | some (user, passwordHash) => do
    let matches' : Bool ← call (.auth (.bcryptCompare password passwordHash))
    throwIf (matches' = false) Auth.invalidCredentials
    throwIf (newNorm = Auth.normalize deployment user.email) emailUnchanged
    let taken : Bool ← call (.userFindFirstEmailTaken userId newNorm)
    throwIf (taken = true) emailTaken
    storeEmailChange deployment userId newNorm

/-! ## Sign-in with a provider -/

/-- What a verified token of a provider says. A token without a subject is rejected. -/
structure Claims where
  sub : String
  sub_ne : sub ≠ ""
  email : Option String
  name : Option String

def codeUnits (letter : Char) : Nat := if letter.toNat < 0x10000 then 1 else 2

/-- `value.slice(0, limit)`; a character that would be cut in half is left out. -/
def jsSlice (limit : Nat) (value : String) : String :=
  String.ofList (go limit value.toList)
where
  go : Nat → List Char → List Char
    | _, [] => []
    | left, letter :: rest =>
        if codeUnits letter ≤ left then letter :: go (left - codeUnits letter) rest else []

/-- `displayNameFromAppleFullName`, of the names that are given. -/
def displayNameFromAppleFullName (fullName : Option (Option String × Option String)) : Option String :=
  match fullName with
  | none => none
  | some (givenName, familyName) =>
    let parts := ([givenName, familyName].filterMap id).filter fun part => decide (jsTrim part ≠ "")
    if parts = [] then none
    else
      let joined := jsTrim (String.intercalate " " parts)
      if joined = "" then none else some (jsSlice 80 joined)

/-- The letters a username keeps of an address; any other becomes an underscore. -/
def usernameLetter (letter : Char) : Char :=
  if letter.isLower || letter.isDigit || decide (letter = '_') || decide (letter = '.') then letter else '_'

/-- `replace(/_+/g, '_')`. -/
def collapseUnderscores : List Char → List Char
  | [] => []
  | [letter] => [letter]
  | letter :: next :: rest =>
    if letter = '_' ∧ next = '_' then collapseUnderscores (next :: rest)
    else letter :: collapseUnderscores (next :: rest)

/-- `replace(/^_|_$/g, '')`. -/
def stripUnderscores (text : List Char) : List Char :=
  let rest := if text.head? = some '_' then text.tail else text
  if rest.getLast? = some '_' then rest.dropLast else rest

/-- `usernameCandidateFromEmail` with the random suffix. -/
def usernameCandidateFromEmail (deployment : Auth.Deployment) (email suffix : String) : String :=
  let local' := String.ofList (email.toList.takeWhile fun letter => decide (letter ≠ '@'))
  let base := (stripUnderscores (collapseUnderscores
    ((deployment.toLowerCase local').toList.map usernameLetter))).take 20
  let prefix' := (if base.length ≥ 3 then base else 'u' :: '_' :: base).take 20
  String.ofList ((prefix' ++ '_' :: suffix.toList).take 30)

def assertNoOAuthEmailConflict (emailNorm : String) (provider : Provider) (sub : String) : Flow Unit := do
  let row : Option Auth.User ← call (.userFindFirstByEmail emailNorm)
  match row with
  | none => pure ()
  | some row => throwIf (subOf provider row ≠ some sub) oauthEmailProviderMismatch

/-- The row of a new rider who signs in with a provider. An empty subject is not stored. -/
def oauthUser (provider : Provider) (sub emailNorm username : String) (name : Option String) : NewUser where
  email := emailNorm
  username := username
  passwordHash := none
  appleSub := if provider = .apple ∧ sub ≠ "" then some sub else none
  googleSub := if provider = .google ∧ sub ≠ "" then some sub else none
  name := name

/-- The loop of `createOAuthUser`: the attempts that are left. -/
def createOAuthUserIn (deployment : Auth.Deployment) (provider : Provider) (sub emailNorm : String)
    (name : Option String) : Nat → Flow (UserId × Auth.User)
  | 0 => .fail oauthUsernameExhausted
  | attempts + 1 => do
    let suffix : String ← call .randomBytes
    let created : Except PrismaError (UserId × Auth.User) ← call (.userCreate
      (oauthUser provider sub emailNorm (usernameCandidateFromEmail deployment emailNorm suffix) name))
    match created with
    | .ok user => pure user
    | .error .uniqueViolation => createOAuthUserIn deployment provider sub emailNorm name attempts
    | .error error => .fail (.prisma error)

def oauthAttempts : Nat := 8

def createOAuthUser (deployment : Auth.Deployment) (provider : Provider) (sub emailNorm : String)
    (name : Option String) : Flow (UserId × Auth.User) :=
  createOAuthUserIn deployment provider sub emailNorm name oauthAttempts

def assertPasswordlessUserCanLogin (userId : UserId) (user : Auth.User) : Flow Unit := do
  throwIf (user.isBanned = true) Auth.accountBanned
  if user.deletedAt.isNone then pure ()
  else do
    let deletion : Option Auth.AccountDeletion ← call (.auth (.accountDeletionFindUnique userId))
    let now : Time ← call (.auth .dateNow)
    throwIf ((deletion.any fun stored => stored.canRestore now) = false) Auth.accountDeleted

def issueSessionAfterLogin (userId : UserId) (user : Auth.User) : Flow (UserId × Auth.TokenPair) := do
  assertPasswordlessUserCanLogin userId user
  let updated : Except PrismaError Unit ← call (.auth (.userUpdateLastSeen userId))
  rethrow updated
  let now : Time ← call (.auth .dateNow)
  let _ : Unit ← call (.auth (.emitLogin userId now))
  let tokens ← auth (Auth.issueTokenPair userId user.username user.role)
  pure (userId, tokens)

def oauthSignIn (deployment : Auth.Deployment) (provider : Provider) (sub emailNorm : String)
    (name : Option String) : Flow (UserId × Auth.TokenPair) := do
  let bySub : Option (UserId × Auth.User) ← call (.userFindUniqueBySub provider sub)
  match bySub with
  | some (userId, user) => issueSessionAfterLogin userId user
  | none => do
    assertNoOAuthEmailConflict emailNorm provider sub
    let (userId, user) ← createOAuthUser deployment provider sub emailNorm name
    issueSessionAfterLogin userId user

/-- `emailFromClient ?? emailFromToken ?? this.applePlaceholderEmail(sub)`. -/
def appleEmail (installation : Deployment) (deployment : Auth.Deployment) (email : Option String)
    (claims : Claims) : String :=
  match email.map (Auth.normalize deployment), claims.email.map (Auth.normalize deployment) with
  | some fromClient, _ => fromClient
  | none, some fromToken => fromToken
  | none, none => installation.applePlaceholderEmail claims.sub

/-- `appleSignIn`, with what the library makes of the token. -/
def appleSignIn (installation : Deployment) (deployment : Auth.Deployment) (claims : Option Claims)
    (email : Option String) (fullName : Option (Option String × Option String)) :
    Flow (UserId × Auth.TokenPair) := do
  throwIf (installation.appleClientId.all fun clientId => decide (clientId = ""))
    oauthAppleNotConfigured
  match claims with
  | none => .fail oauthTokenInvalid
  | some claims =>
    oauthSignIn deployment .apple claims.sub (appleEmail installation deployment email claims)
      (displayNameFromAppleFullName fullName)

/-- `googleSignIn`, with what the library makes of the token. A token without an address is
rejected. -/
def googleSignIn (installation : Deployment) (deployment : Auth.Deployment) (claims : Option Claims) :
    Flow (UserId × Auth.TokenPair) := do
  throwIf (installation.googleClientIds = []) oauthGoogleNotConfigured
  match claims.bind fun claims => (claims.email.filter fun email => decide (email ≠ "")).map fun email =>
      (claims, email) with
  | none => .fail oauthTokenInvalid
  | some (claims, email) =>
    oauthSignIn deployment .google claims.sub (Auth.normalize deployment email)
      (((claims.name.map jsTrim).filter fun name => decide (name ≠ "")).map (jsSlice 80))

end Motogram.Account
