import Mathlib.Algebra.Group.Nat.Defs
import Motogram.Auth.Service
import Motogram.Social.Service

/-!
# The stores of accounts

What registration, sign-in with a provider, the change of an email or username and the
deletion of an account keep. A rider is one row of `users`; the columns the auth service uses
are in the state of that service, and those the social services use in theirs, under the same
id. Beside them are the jobs of the deletion queue.

`AccountCall` lists the calls, each of them atomic, and `answer` says what a call replies and
changes. Deleting a rider deletes what the schema cascades to.
-/

set_option autoImplicit false

namespace Motogram.Account

open Foundation

/-- The user and the date that `deletion:{userId}:{scheduledFor}` is made of. -/
abbrev JobId := UserId × Time

/-! ## Rows -/

/-- The provider of a sign-in. -/
inductive Provider where
  | apple
  | google
  deriving DecidableEq

/-- The columns a new rider is created with. -/
structure NewUser where
  email : String
  username : String
  passwordHash : Option String
  appleSub : Option String
  googleSub : Option String
  name : Option String
  deriving DecidableEq

inductive JobState where
  | delayed
  | active
  | completed
  | failed
  deriving DecidableEq

/-- A job `purge`. Its data, the user and the date, are its key. -/
structure DeletionJob where
  runAt : Time
  attemptsMade : Nat
  state : JobState
  deriving DecidableEq

/-- What is out of order: adding to the queue, storing the id of a job, and cancelling one. -/
structure Faults where
  enqueue : Bool
  storeJobId : Bool
  cancelJob : Bool
  deriving DecidableEq

/-! ## The state -/

/-- What the installation fixes for sign-ins: the client ids of the providers, the address
made of a subject, and the random texts that are drawn. -/
structure Deployment where
  appleClientId : Option String
  googleClientIds : List String
  applePlaceholderEmail : String → String
  randomHex : Nat → String

structure State where
  deployment : Deployment
  auth : Auth.State
  social : Social.State
  jobs : Table JobId DeletionJob
  faults : Faults
  -- the addresses a verification was sent for: user, new address and token
  emailChangeMails : List (UserId × String × String)

/-- An installation with these riders and nothing else. -/
def State.initial (deployment : Deployment) (auth : Auth.State) (social : Social.State) : State where
  deployment := deployment
  auth := auth
  social := social
  jobs := .empty
  faults := ⟨false, false, false⟩
  emailChangeMails := []

section Setters

variable (s : State)

@[simps -fullyApplied] def State.withAuth (auth : Auth.State) : State := { s with auth := auth }

@[simps -fullyApplied] def State.withRiders (auth : Auth.State) (social : Social.State) : State :=
  { s with auth := auth, social := social }

@[simps -fullyApplied] def State.withJobs (jobs : Table JobId DeletionJob) : State :=
  { s with jobs := jobs }

@[simps -fullyApplied] def State.withFaults (faults : Faults) : State := { s with faults := faults }

@[simps -fullyApplied] def State.withMail (userId : UserId) (newEmail plainToken : String) : State :=
  { s with emailChangeMails := s.emailChangeMails ++ [(userId, newEmail, plainToken)] }

end Setters

/-! ## Changing the rows -/

/-- The columns of a new rider in the state of the auth service. -/
def NewUser.toAuth (row : NewUser) : Auth.User where
  username := row.username
  email := row.email
  pendingEmail := none
  phoneNumber := none
  phoneVerifiedAt := none
  passwordHash := row.passwordHash
  appleSub := row.appleSub
  googleSub := row.googleSub
  role := .user
  isBanned := false
  lastSeenAt := none
  usernameChangedAt := none
  deletedAt := none

/-- The columns of a new rider in the state of the social services. -/
def NewUser.toSocial (row : NewUser) : Social.User where
  username := row.username
  name := row.name
  isPrivate := false
  isBanned := false
  deletedAt := none
  followersCount := 0
  followingCount := 0
  postsCount := 0

/-- The subject of a rider at a provider. -/
def subOf : Provider → Auth.User → Option String
  | .apple, user => user.appleSub
  | .google, user => user.googleSub

/-- A unique column of the two rows is the same. -/
def clashes (row : NewUser) (user : Auth.User) : Bool :=
  decide (user.username = row.username) || decide (user.email = row.email) ||
    (row.appleSub.any fun sub => decide (user.appleSub = some sub)) ||
    row.googleSub.any fun sub => decide (user.googleSub = some sub)

/-- Set the date of the soft deletion, or clear it. -/
def State.withDeletedAt (s : State) (userId : UserId) (deletedAt : Option Time)
    (accountDeletions : Table UserId Auth.AccountDeletion) : State :=
  s.withRiders
    { s.auth with
      users := s.auth.users.modify userId fun user => { user with deletedAt := deletedAt }
      accountDeletions := accountDeletions }
    (s.social.withUsers (s.social.users.modify userId fun user => { user with deletedAt := deletedAt }))

def authoredBy (s : Social.State) (userId : UserId) (postId : Social.PostId) : Bool :=
  (s.posts.find? postId).any fun post => decide (post.userId = userId)

def toldBy (s : Social.State) (userId : UserId) (storyId : Social.StoryId) : Bool :=
  (s.stories.find? storyId).any fun story => decide (story.userId = userId)

def ownedBy (s : Social.State) (userId : UserId) (communityId : Social.CommunityId) : Bool :=
  (s.communities.find? communityId).any fun community => decide (community.ownerId = userId)

def organizedBy (s : Social.State) (userId : UserId) (eventId : EventId) : Bool :=
  (s.events.find? eventId).any fun event => decide (event.organizerId = userId)

/-- `onDelete` of the relations to a rider: the rows of the rider go, and with the posts,
stories, communities and events of the rider what belongs to them. The viewer of a story is
no relation, and an event outlives its community. -/
def cascade (s : Social.State) (userId : UserId) : Social.State :=
  { s with
    users := s.users.erase userId
    follows := s.follows.eraseWhere fun pair _ => decide (pair.1 = userId) || decide (pair.2 = userId)
    blocks := s.blocks.eraseWhere fun pair _ => decide (pair.1 = userId) || decide (pair.2 = userId)
    posts := s.posts.eraseWhere fun _ post => decide (post.userId = userId)
    comments := s.comments.eraseWhere fun _ comment =>
      decide (comment.userId = userId) || authoredBy s userId comment.postId
    likes := s.likes.eraseWhere fun pair _ => decide (pair.2 = userId) || authoredBy s userId pair.1
    stories := s.stories.eraseWhere fun _ story => decide (story.userId = userId)
    storyViews := s.storyViews.eraseWhere fun pair _ => toldBy s userId pair.1
    communities := s.communities.eraseWhere fun _ community => decide (community.ownerId = userId)
    communityMembers := s.communityMembers.eraseWhere fun pair _ =>
      decide (pair.2 = userId) || ownedBy s userId pair.1
    events := (s.events.eraseWhere fun _ event => decide (event.organizerId = userId)).modifyWhere
      (fun _ event => event.communityId.any (ownedBy s userId))
        fun event => { event with communityId := none }
    eventParticipants := s.eventParticipants.eraseWhere fun pair _ =>
      decide (pair.2 = userId) || organizedBy s userId pair.1 }

/-- The same of the rows of the auth service. -/
def cascadeAuth (s : Auth.State) (userId : UserId) : Auth.State :=
  { s with
    users := s.users.erase userId
    accountDeletions := s.accountDeletions.erase userId
    passwordResetTokens := s.passwordResetTokens.eraseWhere fun _ token => decide (token.userId = userId)
    emailChangeTokens := s.emailChangeTokens.eraseWhere fun _ token => decide (token.userId = userId) }

/-! ## Calls and replies -/

inductive AccountCall where
  -- a call of the auth service
  | auth (request : Auth.AuthCall)
  -- names and addresses
  | userFindFirstRegistered (email username : String)
  | userFindFirstUsernameTaken (userId : UserId) (username : String)
  | userFindFirstEmailTaken (userId : UserId) (email : String)
  | userFindUniqueBySub (provider : Provider) (sub : String)
  | userFindFirstByEmail (email : String)
  | userCreate (row : NewUser)
  | userUpdateUsername (userId : UserId) (username : String) (at' : Time)
  | emailChangeTokenDeleteUnused (userId : UserId)
  | emailChangeRequestTransaction (userId : UserId) (newEmail tokenHash : String) (expiresAt : Time)
  | emailChangeMailEnqueue (userId : UserId) (newEmail plainToken : String)
  | randomBytes
  -- deletion
  | requestDeletionTransaction (userId : UserId) (now scheduledFor : Time) (reason : Option String)
  | accountDeletionSetJobId (userId : UserId) (jobId : JobId)
  | cancelDeletionTransaction (userId : UserId)
  | accountDeletionFindPending (now : Time)
  | userDelete (userId : UserId)
  -- the queue
  | queueAdd (jobId : JobId) (delayMs : Nat)
  | queueGetJob (jobId : JobId)
  | jobGetState (jobId : JobId)
  | jobRemove (jobId : JobId)
  | jobStart (jobId : JobId)
  | jobCompleted (jobId : JobId)
  | jobFailed (jobId : JobId)
  deriving DecidableEq

inductive QueueError where
  | unavailable
  | jobLocked
  deriving DecidableEq

@[reducible] def AccountReply : AccountCall → Type
  | .auth request => Auth.AuthReply request
  | .userFindFirstRegistered _ _ => Bool
  | .userFindFirstUsernameTaken _ _ => Bool
  | .userFindFirstEmailTaken _ _ => Bool
  | .userFindUniqueBySub _ _ => Option (UserId × Auth.User)
  | .userFindFirstByEmail _ => Option Auth.User
  | .userCreate _ => Except PrismaError (UserId × Auth.User)
  | .userUpdateUsername _ _ _ => Except PrismaError Unit
  | .emailChangeTokenDeleteUnused _ => Unit
  | .emailChangeRequestTransaction _ _ _ _ => Except PrismaError Unit
  | .emailChangeMailEnqueue _ _ _ => Unit
  | .randomBytes => String
  | .requestDeletionTransaction _ _ _ _ => Except PrismaError Auth.AccountDeletion
  | .accountDeletionSetJobId _ _ => Except PrismaError Unit
  | .cancelDeletionTransaction _ => Except PrismaError Auth.AccountDeletion
  | .accountDeletionFindPending _ => List UserId
  | .userDelete _ => Except PrismaError Unit
  | .queueAdd _ _ => Except QueueError Unit
  | .queueGetJob _ => Except QueueError Bool
  | .jobGetState _ => Except QueueError (Option JobState)
  | .jobRemove _ => Except QueueError Unit
  | .jobStart _ => Bool
  | .jobCompleted _ => Unit
  | .jobFailed _ => Unit

/-! ## Constants -/

def deletionGraceMs : Nat := 30 * 24 * 3600 * 1000
def emailChangeTtlMs : Nat := 48 * 60 * 60 * 1000
def usernameChangeCooldownMs : Nat := 30 * 24 * 60 * 60 * 1000
def deletionBatch : Nat := 50
def jobAttempts : Nat := 3
def jobBackoffMs : Nat := 60000

/-! ## Answers -/

/-- The deletion of a request, new or again. -/
def requestedDeletion (now scheduledFor : Time) (reason : Option String)
    (before : Option Auth.AccountDeletion) : Auth.AccountDeletion where
  requestedAt := now
  scheduledFor := scheduledFor
  reason := reason
  cancelledAt := none
  executedAt := none
  jobId := before.bind Auth.AccountDeletion.jobId

/-- A failed attempt is made again later, the delay doubling, until there have been three. -/
def DeletionJob.retry (now : Time) (job : DeletionJob) : DeletionJob :=
  if job.attemptsMade + 1 < jobAttempts then
    ⟨now + jobBackoffMs * 2 ^ job.attemptsMade, job.attemptsMade + 1, .delayed⟩
  else ⟨job.runAt, job.attemptsMade + 1, .failed⟩

def DeletionJob.withState (state : JobState) (job : DeletionJob) : DeletionJob :=
  { job with state := state }

def answer : (call : AccountCall) → State → AccountReply call × State
  | .auth request, s => ((Auth.answer request s.auth).1, s.withAuth (Auth.answer request s.auth).2)
  | .userFindFirstRegistered email username, s =>
    (s.auth.users.entries.any fun entry =>
      s.auth.deployment.equalsInsensitive entry.2.email email ||
        (entry.2.pendingEmail.any fun pending => s.auth.deployment.equalsInsensitive pending email) ||
        s.auth.deployment.equalsInsensitive entry.2.username username, s)
  | .userFindFirstUsernameTaken userId username, s =>
    (s.auth.users.entries.any fun entry => decide (entry.1 ≠ userId) && entry.2.deletedAt.isNone &&
      s.auth.deployment.equalsInsensitive entry.2.username username, s)
  | .userFindFirstEmailTaken userId email, s =>
    (s.auth.users.entries.any fun entry => decide (entry.1 ≠ userId) && entry.2.deletedAt.isNone &&
      (s.auth.deployment.equalsInsensitive entry.2.email email ||
        entry.2.pendingEmail.any fun pending => s.auth.deployment.equalsInsensitive pending email), s)
  | .userFindUniqueBySub provider sub, s =>
    (s.auth.users.entries.find? fun entry =>
      decide (subOf provider entry.2 = some sub), s)
  | .userFindFirstByEmail email, s =>
    ((s.auth.users.entries.find? fun entry =>
      s.auth.deployment.equalsInsensitive entry.2.email email).map Prod.snd, s)
  | .userCreate row, s =>
    if s.auth.users.entries.any fun entry => clashes row entry.2 then (.error .uniqueViolation, s)
    else
      (.ok (s.auth.fresh, row.toAuth), s.withRiders
        { s.auth with
          users := s.auth.users.insert s.auth.fresh row.toAuth
          fresh := s.auth.fresh + 1 }
        (s.social.withUsers (s.social.users.insert s.auth.fresh row.toSocial)))
  | .userUpdateUsername userId username at', s =>
    if (s.auth.users.find? userId).isNone then (.error .recordNotFound, s)
    else if s.auth.users.entries.any fun entry =>
        decide (entry.1 ≠ userId) && decide (entry.2.username = username) then
      (.error .uniqueViolation, s)
    else
      (.ok (), s.withRiders
        (s.auth.withUsers (s.auth.users.modify userId fun user =>
          { user with username := username, usernameChangedAt := some at' }))
        (s.social.withUsers (s.social.users.modify userId fun user =>
          { user with username := username })))
  | .emailChangeTokenDeleteUnused userId, s =>
    ((), s.withAuth (s.auth.withEmailChange s.auth.users
      (s.auth.emailChangeTokens.eraseWhere fun _ token =>
        decide (token.userId = userId) && token.usedAt.isNone)))
  | .emailChangeRequestTransaction userId newEmail tokenHash expiresAt, s =>
    if (s.auth.users.find? userId).isNone then (.error .recordNotFound, s)
    else
      (.ok (), s.withAuth ((s.auth.withEmailChange
        (s.auth.users.modify userId fun user => { user with pendingEmail := some newEmail })
        (s.auth.emailChangeTokens.insert s.auth.fresh
          ⟨userId, newEmail, tokenHash, expiresAt, none⟩)).withFresh (s.auth.fresh + 1)))
  | .emailChangeMailEnqueue userId newEmail plainToken, s => ((), s.withMail userId newEmail plainToken)
  | .randomBytes, s =>
    (s.deployment.randomHex s.auth.fresh, s.withAuth (s.auth.withFresh (s.auth.fresh + 1)))
  | .requestDeletionTransaction userId now scheduledFor reason, s =>
    if (s.auth.users.find? userId).isNone then (.error .recordNotFound, s)
    else
      let deletion := requestedDeletion now scheduledFor reason (s.auth.accountDeletions.find? userId)
      (.ok deletion, s.withDeletedAt userId (some now)
        (s.auth.accountDeletions.upsert userId deletion))
  | .accountDeletionSetJobId userId jobId, s =>
    if s.faults.storeJobId || (s.auth.accountDeletions.find? userId).isNone then
      (.error .recordNotFound, s)
    else
      (.ok (), s.withAuth { s.auth with
        accountDeletions := s.auth.accountDeletions.modify userId fun deletion =>
          { deletion with jobId := some jobId } })
  | .cancelDeletionTransaction userId, s =>
    match s.auth.users.find? userId, s.auth.accountDeletions.find? userId with
    | some _, some deletion =>
      let cancelled : Auth.AccountDeletion := { deletion with cancelledAt := some s.auth.now }
      (.ok cancelled, s.withDeletedAt userId none (s.auth.accountDeletions.upsert userId cancelled))
    | _, _ => (.error .recordNotFound, s)
  | .accountDeletionFindPending now, s =>
    (((s.auth.accountDeletions.select fun _ deletion => decide (deletion.scheduledFor ≤ now) &&
      deletion.executedAt.isNone && deletion.cancelledAt.isNone).take deletionBatch).map Prod.fst, s)
  | .userDelete userId, s =>
    if (s.auth.users.find? userId).isNone then (.error .recordNotFound, s)
    else (.ok (), s.withRiders (cascadeAuth s.auth userId) (cascade s.social userId))
  | .queueAdd jobId delayMs, s =>
    if s.faults.enqueue then (.error .unavailable, s)
    -- a job whose id is taken is not added again
    else (.ok (), s.withJobs (s.jobs.insert jobId ⟨s.auth.now + delayMs, 0, .delayed⟩))
  | .queueGetJob jobId, s =>
    if s.faults.cancelJob then (.error .unavailable, s) else (.ok (s.jobs.find? jobId).isSome, s)
  | .jobGetState jobId, s =>
    if s.faults.cancelJob then (.error .unavailable, s)
    else (.ok ((s.jobs.find? jobId).map DeletionJob.state), s)
  | .jobRemove jobId, s =>
    if s.faults.cancelJob then (.error .unavailable, s)
    -- the worker holds a lock on a job it runs
    else if (s.jobs.find? jobId).any fun job => decide (job.state = .active) then
      (.error .jobLocked, s)
    else (.ok (), s.withJobs (s.jobs.erase jobId))
  | .jobStart jobId, s =>
    match s.jobs.find? jobId with
    | none => (false, s)
    | some job =>
      if job.state = .delayed ∧ job.runAt ≤ s.auth.now then
        (true, s.withJobs (s.jobs.modify jobId (DeletionJob.withState .active)))
      else (false, s)
  | .jobCompleted jobId, s =>
    ((), s.withJobs (s.jobs.modify jobId (DeletionJob.withState .completed)))
  | .jobFailed jobId, s => ((), s.withJobs (s.jobs.modify jobId (DeletionJob.retry s.auth.now)))

/-! ## Service functions -/

abbrev Flow (Value : Type) := Program AccountCall AccountReply ServiceError Value

/-- Run a service function alone. -/
abbrev Flow.exec {Value : Type} (flow : Flow Value) (s : State) :
    Except ServiceError Value × State :=
  Program.run answer flow s

/-- Make one call and return its reply. -/
abbrev call (request : AccountCall) : Flow (AccountReply request) := .call request .done

/-- A function of the auth service. -/
def auth {Value : Type} (flow : Auth.Flow Value) : Flow Value :=
  flow.embed (fun request => call (.auth request)) id

def rethrow {Value : Type} (reply : Except PrismaError Value) : Flow Value :=
  match reply with
  | .ok value => .done value
  | .error error => .fail (.prisma error)

end Motogram.Account
