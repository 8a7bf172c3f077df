import Motogram.Account.Store

/-!
# Forgotten passwords

`forgotPassword` of the auth service, with the rows it writes and the mails it sends. The stores are
those of the accounts and the queue of the mails; `resetPassword` and every other function of the services
is a program over them too.

What a call can do to the reset tokens is said once (`tokenEffect_answer`): it marks one as used, deletes
tokens of one user, or inserts one whose hash nobody has.
-/

set_option autoImplicit false

namespace Motogram.PasswordReset

open Foundation

/-! ## The stores -/

structure State where
  account : Account.State
  -- the mails of the queue: user, address and plain token
  mails : List (UserId × String × String)

section Setters

variable (s : State)

@[simps -fullyApplied] def State.withAccount (account : Account.State) : State :=
  { s with account := account }

@[simps -fullyApplied] def State.withMail (userId : UserId) (email resetToken : String) : State :=
  { s with mails := s.mails ++ [(userId, email, resetToken)] }

/-- The rows of `PasswordResetToken`. -/
abbrev State.resetTokens : Table Auth.ResetTokenId Auth.PasswordResetToken :=
  s.account.auth.passwordResetTokens

@[simps! -fullyApplied] def State.withResetTokens
    (resetTokens : Table Auth.ResetTokenId Auth.PasswordResetToken) (fresh : Nat) : State :=
  s.withAccount (s.account.withAuth
    { s.account.auth with passwordResetTokens := resetTokens, fresh := fresh })

end Setters

def passwordResetTtlMs : Nat := 30 * 60 * 1000

inductive ResetCall where
  -- a call of the account services or the auth service
  | account (request : Account.AccountCall)
  | userFindFirst (email : String)
  | passwordResetTokenDeleteMany (userId : UserId)
  | passwordResetTokenCreate (userId : UserId) (tokenHash : String) (expiresAt : Time)
  | passwordResetMailEnqueue (userId : UserId) (email resetToken : String)
  deriving DecidableEq

@[reducible] def ResetReply : ResetCall → Type
  | .account request => Account.AccountReply request
  | .userFindFirst _ => Option (UserId × Auth.User)
  | .passwordResetTokenDeleteMany _ => Unit
  | .passwordResetTokenCreate _ _ _ => Except PrismaError Unit
  | .passwordResetMailEnqueue _ _ _ => Unit

def answer : (call : ResetCall) → State → ResetReply call × State
  | .account request, s =>
    ((Account.answer request s.account).1, s.withAccount (Account.answer request s.account).2)
  | .userFindFirst email, s =>
    (s.account.auth.users.entries.find? fun entry =>
      s.account.auth.deployment.equalsInsensitive entry.2.email email, s)
  | .passwordResetTokenDeleteMany userId, s =>
    ((), s.withResetTokens (s.resetTokens.eraseWhere fun _ token =>
      decide (token.userId = userId) && token.usedAt.isNone) s.account.auth.fresh)
  | .passwordResetTokenCreate userId tokenHash expiresAt, s =>
    if (s.account.auth.users.find? userId).isNone then (.error .foreignKeyViolation, s)
    else if s.resetTokens.entries.any fun entry => decide (entry.2.tokenHash = tokenHash) then
      (.error .uniqueViolation, s)
    else
      (.ok (), s.withResetTokens
        (s.resetTokens.insert s.account.auth.fresh ⟨userId, tokenHash, expiresAt, none⟩)
        (s.account.auth.fresh + 1))
  | .passwordResetMailEnqueue userId email resetToken, s => ((), s.withMail userId email resetToken)

/-- A service function: a program over these calls. -/
abbrev Flow (Value : Type) := Program ResetCall ResetReply ServiceError Value

/-- Run a service function alone. -/
abbrev Flow.exec {Value : Type} (flow : Flow Value) (s : State) :
    Except ServiceError Value × State :=
  Program.run answer flow s

/-- Make one call and return its reply. -/
abbrev call (request : ResetCall) : Flow (ResetReply request) := .call request .done

/-- A function of the auth service. -/
def auth {Value : Type} (flow : Auth.Flow Value) : Flow Value :=
  flow.embed (fun request => call (.account (.auth request))) id

def rethrow {Value : Type} (reply : Except PrismaError Value) : Flow Value :=
  match reply with
  | .ok value => .done value
  | .error error => .fail (.prisma error)

/-! ## The functions -/

/-- `forgotPassword` from the deletion of the unused tokens on. -/
def issueResetToken (deployment : Auth.Deployment) (userId : UserId) (email : String) : Flow Unit := do
  let _ : Unit ← call (.passwordResetTokenDeleteMany userId)
  let plainToken : String ← call (.account .randomBytes)
  let now : Time ← call (.account (.auth .dateNow))
  let created : Except PrismaError Unit ← call (.passwordResetTokenCreate userId
    (deployment.hashPasswordResetToken plainToken) (now + passwordResetTtlMs))
  rethrow created
  let _ : Unit ← call (.passwordResetMailEnqueue userId email plainToken)
  pure ()

def forgotPassword (deployment : Auth.Deployment) (email : String) : Flow Unit := do
  let found : Option (UserId × Auth.User) ← call (.userFindFirst (Auth.normalize deployment email))
  match found with
  | none => pure ()
  | some (userId, user) =>
    -- the empty string is falsy as well
    if user.passwordHash.getD "" = "" ∨ user.isBanned = true then pure ()
    else if user.deletedAt.isSome then do
      let deletion : Option Auth.AccountDeletion ← call (.account (.auth (.accountDeletionFindUnique userId)))
      let now : Time ← call (.account (.auth .dateNow))
      if (deletion.any fun stored => stored.canRestore now) = false then pure ()
      else issueResetToken deployment userId user.email
    else issueResetToken deployment userId user.email

def resetPassword (deployment : Auth.Deployment) (token newPassword : String) : Flow Nat :=
  auth (Auth.resetPassword deployment token newPassword)

/-! ## What a call does to the reset tokens -/

def ResetCall.marks : ResetCall → Option (Auth.ResetTokenId × UserId)
  | .account (.auth (.resetPasswordTransaction id userId _)) => some (id, userId)
  | _ => none

inductive TokenEffect (s s' : State) : ResetCall → Prop where
  | same (request : ResetCall) (tokens : s'.resetTokens = s.resetTokens) : TokenEffect s s' request
  | used (id : Auth.ResetTokenId) (userId : UserId) (passwordHash : String)
      (tokens : s'.resetTokens =
        s.resetTokens.modify id fun token => { token with usedAt := some s.account.auth.now }) :
      TokenEffect s s' (.account (.auth (.resetPasswordTransaction id userId passwordHash)))
  | unused (userId : UserId)
      (tokens : s'.resetTokens = s.resetTokens.eraseWhere fun _ token =>
        decide (token.userId = userId) && token.usedAt.isNone) :
      TokenEffect s s' (.passwordResetTokenDeleteMany userId)
  | cascade (userId : UserId) (users : s'.account.auth.users = s.account.auth.users.erase userId)
      (tokens : s'.resetTokens = s.resetTokens.eraseWhere fun _ token => decide (token.userId = userId)) :
      TokenEffect s s' (.account (.userDelete userId))
  | created (userId : UserId) (tokenHash : String) (expiresAt : Time)
      (free : ∀ entry ∈ s.resetTokens.entries, entry.2.tokenHash ≠ tokenHash)
      (fresh : s'.account.auth.fresh = s.account.auth.fresh + 1)
      (tokens : s'.resetTokens =
        s.resetTokens.insert s.account.auth.fresh ⟨userId, tokenHash, expiresAt, none⟩) :
      TokenEffect s s' (.passwordResetTokenCreate userId tokenHash expiresAt)

theorem account_resetTokens {request : Account.AccountCall} (s : Account.State)
    (foreign : ∀ own, request ≠ .auth own) (keeps : ∀ userId, request ≠ .userDelete userId) :
    (Account.answer request s).2.auth.passwordResetTokens = s.auth.passwordResetTokens := by
  cases request with
  | auth own => exact absurd rfl (foreign own)
  | userDelete userId => exact absurd rfl (keeps userId)
  | cancelDeletionTransaction userId =>
    simp only [Account.answer]
    split <;> rfl
  | userCreate _ | userUpdateUsername _ _ _ | emailChangeRequestTransaction _ _ _ _
  | requestDeletionTransaction _ _ _ _ | accountDeletionSetJobId _ _ | queueAdd _ _ | queueGetJob _
  | jobGetState _ | jobRemove _ | jobStart _ =>
    simp only [Account.answer]
    repeat' split
    all_goals rfl
  | _ => rfl

theorem tokenEffect_answer (request : ResetCall) (s : State) : TokenEffect s (answer request s).2 request := by
  cases request with
  | account request =>
    by_cases own : ∃ call, request = .auth call
    · obtain ⟨call, rfl⟩ := own
      obtain same | ⟨id, userId, passwordHash, rfl, used⟩ := Auth.resetTokens_answer call s.account.auth
      · exact .same _ same
      · exact .used id userId passwordHash used
    · by_cases deletes : ∃ userId, request = .userDelete userId
      · obtain ⟨userId, rfl⟩ := deletes
        simp only [answer, Account.answer]
        split
        · exact .same _ rfl
        · exact .cascade userId rfl rfl
      · exact .same _ (account_resetTokens s.account (fun call is => own ⟨call, is⟩)
          fun userId is => deletes ⟨userId, is⟩)
  | userFindFirst email | passwordResetMailEnqueue userId email resetToken => exact .same _ rfl
  | passwordResetTokenDeleteMany userId => exact .unused userId rfl
  | passwordResetTokenCreate userId tokenHash expiresAt =>
    simp only [answer]
    split
    · exact .same _ rfl
    · split
      · exact .same _ rfl
      · rename_i free
        refine .created userId tokenHash expiresAt (fun entry member same => free ?_) rfl rfl
        exact List.any_eq_true.mpr ⟨entry, member, decide_eq_true same⟩

end Motogram.PasswordReset
