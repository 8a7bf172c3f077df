import Motogram.Auth.Sessions

/-!
# Tokens that come by mail

`resetPassword` and `verifyEmailChange` look their token up among the unused ones, and mark it as used in a
later transaction that does not ask whether it still is unused. Two calls with one token that both look
before either commits both succeed (`token_used_twice`).

When every transaction that commits finds its token unused, at most one call succeeds with a token, in every
state of every interleaving of the session calls (`used_once`). Both kinds of token are tickets, and a call
has a ticket from its lookup on. What carries the proof is that the calls that have redeemed a ticket have
different ones: a ticket that was redeemed is used, and the next transaction finds its own unused.
-/

set_option autoImplicit false

namespace Motogram.Auth

open Foundation Program Function Table Pool State

variable {Index : Type}

/-! ## Tickets -/

inductive TicketKind where
  | reset
  | email
  deriving DecidableEq

/-- A row of `PasswordResetToken` or of `EmailChangeToken`. -/
structure Ticket where
  kind : TicketKind
  id : Nat
  deriving DecidableEq

def State.ticket? (s : State) : Ticket → Option (String × Bool)
  | ⟨.reset, id⟩ => (s.passwordResetTokens.find? id).map fun row => (row.tokenHash, row.usedAt.isSome)
  | ⟨.email, id⟩ => (s.emailChangeTokens.find? id).map fun row => (row.tokenHash, row.usedAt.isSome)

/-- `tokenHash` is unique in either table. -/
def State.UniqueHashes (s : State) : Prop :=
  ∀ first second hash used used', s.ticket? first = some (hash, used) →
    s.ticket? second = some (hash, used') → first.kind = second.kind → first = second

/-- The ticket a transaction marks as used. -/
def AuthCall.punches : AuthCall → Option Ticket
  | .resetPasswordTransaction id _ _ => some ⟨.reset, id⟩
  | .emailChangeTransaction id _ _ => some ⟨.email, id⟩
  | _ => none

def SessionCall.mailed : SessionCall → Option (TicketKind × String)
  | .resetPassword token _ => some (.reset, token)
  | .verifyEmailChange token => some (.email, token)
  | _ => none

abbrev SessionPool (Index : Type) :=
  Pool Index AuthCall AuthReply ServiceError (Option TokenPair) State

/-- At most one of the calls that present a token by mail has succeeded. -/
def TokensUsedOnce (calls : Index → SessionCall) (pool : SessionPool Index) : Prop :=
  ∀ kind token first second, (calls first).mailed = some (kind, token) →
    (calls second).mailed = some (kind, token) → (pool.threads first).value?.isSome →
      (pool.threads second).value?.isSome → first = second

/-- A transaction that is about to mark a ticket finds it unused. -/
def PunchesUnused (pool : SessionPool Index) (index : Index) : Prop :=
  ∀ ticket ∈ (pool.next? index).bind AuthCall.punches, ∀ entry ∈ pool.store.ticket? ticket,
    entry.2 = false

instance (pool : SessionPool Index) (index : Index) : Decidable (PunchesUnused pool index) :=
  inferInstanceAs (Decidable (∀ ticket ∈ (pool.next? index).bind AuthCall.punches,
    ∀ entry ∈ pool.store.ticket? ticket, entry.2 = false))

/-! ## What a call does to a ticket -/

section Answer

variable {s : State} {ticket : Ticket} {hash : String} {used : Bool}

theorem ticket_answer (request : AuthCall) (s : State) :
    (answer request s).2.ticket? = s.ticket? ∨
      ∃ marked, request.punches = some marked ∧ ∀ ticket, (answer request s).2.ticket? ticket =
        if ticket = marked then (s.ticket? ticket).map fun entry => (entry.1, true)
        else s.ticket? ticket := by
  obtain resets | ⟨id, userId, passwordHash, rfl, resets⟩ := resetTokens_answer request s
  · obtain emails | ⟨id, userId, email, rfl, emails⟩ := emailTokens_answer request s
    · refine .inl (funext fun ticket => ?_)
      obtain ⟨kind, id⟩ := ticket
      cases kind with
      | reset => rw [ticket?, ticket?, resets]
      | email => rw [ticket?, ticket?, emails]
    · refine .inr ⟨⟨.email, id⟩, rfl, fun ticket => ?_⟩
      obtain ⟨kind, other⟩ := ticket
      cases kind with
      | reset => rw [if_neg (by rintro ⟨⟩), ticket?, ticket?, resets]
      | email =>
        simp only [ticket?, emails, find?_modify, Ticket.mk.injEq, true_and]
        split
        · rw [Option.map_map, Option.map_map]
          rfl
        · rfl
  · have emails : (answer (.resetPasswordTransaction id userId passwordHash) s).2.emailChangeTokens =
        s.emailChangeTokens := by
      obtain emails | ⟨_, _, _, ⟨⟩, -⟩ :=
        emailTokens_answer (.resetPasswordTransaction id userId passwordHash) s
      exact emails
    refine .inr ⟨⟨.reset, id⟩, rfl, fun ticket => ?_⟩
    obtain ⟨kind, other⟩ := ticket
    cases kind with
    | email => rw [if_neg (by rintro ⟨⟩), ticket?, ticket?, emails]
    | reset =>
      simp only [ticket?, resets, find?_modify, Ticket.mk.injEq, true_and]
      split
      · rw [Option.map_map, Option.map_map]
        rfl
      · rfl

theorem ticket_stays (request : AuthCall) (here : s.ticket? ticket = some (hash, used)) :
    ∃ used', (answer request s).2.ticket? ticket = some (hash, used') ∧ (used = true → used' = true) := by
  obtain same | ⟨marked, -, marks⟩ := ticket_answer request s
  · exact ⟨used, by rw [same, here], id⟩
  · rw [marks, here]
    split
    · exact ⟨true, rfl, fun _ => rfl⟩
    · exact ⟨used, rfl, id⟩

theorem ticket_before (request : AuthCall) (after : (answer request s).2.ticket? ticket = some (hash, used)) :
    ∃ used', s.ticket? ticket = some (hash, used') := by
  obtain same | ⟨marked, -, marks⟩ := ticket_answer request s
  · exact ⟨used, by rw [← same, after]⟩
  · rw [marks] at after
    split at after
    · obtain ⟨⟨hash', used'⟩, before, rest⟩ := Option.map_eq_some_iff.mp after
      cases rest
      exact ⟨used', before⟩
    · exact ⟨used, after⟩

theorem uniqueHashes_answer (request : AuthCall) (unique : s.UniqueHashes) :
    (answer request s).2.UniqueHashes := by
  intro first second hash used used' here there same
  obtain ⟨before, found⟩ := ticket_before request here
  obtain ⟨before', found'⟩ := ticket_before request there
  exact unique first second hash before before' found found' same

theorem ticket_reset {id : ResetTokenId} {userId : UserId} {passwordHash : String}
    (committed : (answer (.resetPasswordTransaction id userId passwordHash) s).1 = .ok ())
    (here : s.ticket? ⟨.reset, id⟩ = some (hash, used)) :
    (answer (.resetPasswordTransaction id userId passwordHash) s).2.ticket? ⟨.reset, id⟩ = some (hash, true) := by
  simp only [answer] at committed ⊢
  split
  · rename_i missing
    rw [if_pos missing] at committed
    cases committed
  · simp only [ticket?, withReset_passwordResetTokens, find?_modify_self] at here ⊢
    obtain ⟨row, found, same⟩ := Option.map_eq_some_iff.mp here
    cases same
    rw [found]
    rfl

theorem ticket_email {id : EmailTokenId} {userId : UserId} {email : String}
    (committed : (answer (.emailChangeTransaction id userId email) s).1 = .ok ())
    (here : s.ticket? ⟨.email, id⟩ = some (hash, used)) :
    (answer (.emailChangeTransaction id userId email) s).2.ticket? ⟨.email, id⟩ = some (hash, true) := by
  simp only [answer] at committed ⊢
  split
  · rename_i missing
    rw [if_pos missing] at committed
    cases committed
  · rename_i present
    rw [if_neg present] at committed
    split
    · rename_i taken
      rw [if_pos taken] at committed
      cases committed
    · simp only [ticket?, withEmailChange_emailChangeTokens, find?_modify_self] at here ⊢
      obtain ⟨row, found, same⟩ := Option.map_eq_some_iff.mp here
      cases same
      rw [found]
      rfl

end Answer

/-! ## Calls that mark no ticket -/

/-- The call marks no ticket. -/
def AuthCall.Idle (request : AuthCall) : Prop := request.punches = none

theorem rethrow_idle {Value : Type} (reply : Except PrismaError Value) : (rethrow reply).Uses AuthCall.Idle := by
  cases reply <;> trivial

variable (userId : UserId) (deployment : Deployment)

theorem revokeAllForUser_idle : (revokeAllForUser userId).Uses AuthCall.Idle := by
  refine .send rfl fun keys => ?_
  split
  · trivial
  · exact .send rfl fun _ => trivial

theorem issueTokenPair_idle (username : String) (role : UserRole) :
    (issueTokenPair userId username role).Uses AuthCall.Idle :=
  .send rfl fun _ => .send rfl fun _ => .send rfl fun _ => .send rfl fun _ => trivial

theorem refresh_idle (presented : Option RefreshToken) : (refresh presented).Uses AuthCall.Idle := by
  refine .bind (.send rfl fun _ => trivial) fun verified => ?_
  cases verified with
  | none => trivial
  | some token =>
    refine (uses_throwIf _ _).bind fun _ => .send rfl fun active =>
      (uses_throwIf _ _).bind fun _ => .send rfl fun _ => .send rfl fun user => ?_
    cases user with
    | none => trivial
    | some user => exact (uses_throwIf _ _).bind fun _ => issueTokenPair_idle _ _ _

theorem logout_idle (presented : Option (Option RefreshToken)) (allDevices : Bool) :
    (logout userId presented allDevices).Uses AuthCall.Idle := by
  unfold logout
  split
  · exact (revokeAllForUser_idle userId).bind fun _ => trivial
  · cases presented with
    | none => trivial
    | some presented =>
      refine .bind (.send rfl fun _ => trivial) fun verified => ?_
      cases verified with
      | none => trivial
      | some token => exact .send rfl fun _ => trivial

theorem completeLogin_idle (user : User) (password passwordHash : String) :
    (completeLogin userId user password passwordHash).Uses AuthCall.Idle :=
  .send rfl fun _ => (uses_throwIf _ _).bind fun _ => .send rfl fun updated =>
    (rethrow_idle updated).bind fun _ => .send rfl fun _ => .send rfl fun _ =>
      (issueTokenPair_idle _ _ _).bind fun _ => trivial

theorem login_idle (identifier password : String) :
    (login deployment identifier password).Uses AuthCall.Idle := by
  refine .send rfl fun found => ?_
  cases found with
  | none => trivial
  | some entry =>
    obtain ⟨userId, user⟩ := entry
    dsimp only
    cases user.passwordHash with
    | none => trivial
    | some passwordHash =>
      refine (uses_throwIf _ _).bind fun _ => ?_
      split
      · exact .send rfl fun deletion => .send rfl fun now => (uses_throwIf _ _).bind
          fun _ => completeLogin_idle userId user password passwordHash
      · exact completeLogin_idle userId user password passwordHash

theorem changePassword_idle (currentPassword newPassword : String) :
    (changePassword userId currentPassword newPassword).Uses AuthCall.Idle := by
  refine .send rfl fun found => ?_
  cases found.bind User.passwordHash with
  | none => trivial
  | some passwordHash =>
    exact .send rfl fun _ => (uses_throwIf _ _).bind fun _ => .send rfl fun _ =>
      .send rfl fun updated => (rethrow_idle updated).bind fun _ => revokeAllForUser_idle userId

theorem sessionProgram_idle {request : SessionCall} (unmailed : request.mailed = none) :
    (sessionProgram deployment request).Uses AuthCall.Idle := by
  cases request with
  | refresh presented => exact (refresh_idle presented).bind fun _ => trivial
  | logout userId presented allDevices =>
    exact (logout_idle userId presented allDevices).bind fun _ => trivial
  | login identifier password => exact (login_idle deployment identifier password).bind fun _ => trivial
  | changePassword userId currentPassword newPassword =>
    exact (changePassword_idle userId currentPassword newPassword).bind fun _ => trivial
  | resetPassword | verifyEmailChange => cases unmailed
  | elapse milliseconds => exact .send rfl fun _ => trivial

/-! ## Stages -/

/-- `resetPassword` from the transaction on. -/
def commitReset (id : ResetTokenId) (userId : UserId) (newHash : String) : Flow Nat := do
  let updated : Except PrismaError Unit ← call (.resetPasswordTransaction id userId newHash)
  rethrow updated
  revokeAllForUser userId

/-- `resetPassword` once it has found its token. -/
def redeemReset (id : ResetTokenId) (userId : UserId) (newPassword : String) : Flow Nat := do
  let newHash : String ← call (.bcryptHash newPassword)
  commitReset id userId newHash

/-- `verifyEmailChange` once it has found its token. -/
def commitEmail (id : EmailTokenId) (userId : UserId) (email : String) : Flow Unit := do
  let updated : Except PrismaError Unit ← call (.emailChangeTransaction id userId email)
  rethrow updated
  let _ ← revokeAllForUser userId
  pure ()

/-- How far a call has come with the token it presents. -/
inductive MailStage where
  | other (program : SessionFlow)
  | refused (error : ServiceError)
  | findReset (token newPassword : String)
  | hash (id : ResetTokenId) (userId : UserId) (newPassword : String)
  | reset (id : ResetTokenId) (userId : UserId) (newHash : String)
  | findEmail (token : String)
  | change (id : EmailTokenId) (userId : UserId) (email : String)
  | redeemed (ticket : Ticket) (program : SessionFlow)

/-- What is left of the program of a call. -/
def MailStage.program (deployment : Deployment) : MailStage → SessionFlow
  | .other program => program
  | .refused error => .fail error
  | .findReset token newPassword => resetPassword deployment token newPassword >>= fun _ => pure none
  | .hash id userId newPassword => redeemReset id userId newPassword >>= fun _ => pure none
  | .reset id userId newHash => commitReset id userId newHash >>= fun _ => pure none
  | .findEmail token => verifyEmailChange deployment token >>= fun _ => pure none
  | .change id userId email => commitEmail id userId email >>= fun _ => pure none
  | .redeemed _ program => program

/-- The ticket a call has found. -/
def MailStage.ticket? : MailStage → Option Ticket
  | .hash id _ _ | .reset id _ _ => some ⟨.reset, id⟩
  | .change id _ _ => some ⟨.email, id⟩
  | .redeemed ticket _ => some ticket
  | _ => none

inductive MailMoves (deployment : Deployment) (s : State) : MailStage → AuthCall → MailStage → Prop where
  | other {program program' : SessionFlow} {request : AuthCall} (rest : program'.Uses AuthCall.Idle) :
      MailMoves deployment s (.other program) request (.other program')
  | refuse {stage : MailStage} {request : AuthCall} (error : ServiceError) :
      MailMoves deployment s stage request (.refused error)
  | findReset {token newPassword : String} {request : AuthCall} {id : ResetTokenId} {userId : UserId}
      (found : s.ticket? ⟨.reset, id⟩ = some (deployment.hashPasswordResetToken token, false)) :
      MailMoves deployment s (.findReset token newPassword) request (.hash id userId newPassword)
  | hash {id : ResetTokenId} {userId : UserId} {newPassword newHash : String} {request : AuthCall} :
      MailMoves deployment s (.hash id userId newPassword) request (.reset id userId newHash)
  | findEmail {token email : String} {request : AuthCall} {id : EmailTokenId} {userId : UserId}
      (found : s.ticket? ⟨.email, id⟩ = some (deployment.hashPasswordResetToken token, false)) :
      MailMoves deployment s (.findEmail token) request (.change id userId email)
  | commit {stage : MailStage} {request : AuthCall} {ticket : Ticket} {program' : SessionFlow}
      (holds : stage.ticket? = some ticket) (punches : request.punches = some ticket)
      (marks : ∀ hash used, s.ticket? ticket = some (hash, used) →
        (answer request s).2.ticket? ticket = some (hash, true))
      (rest : program'.Uses AuthCall.Idle) :
      MailMoves deployment s stage request (.redeemed ticket program')
  | after {ticket : Ticket} {program program' : SessionFlow} {request : AuthCall}
      (idle : request.Idle) (rest : program'.Uses AuthCall.Idle) :
      MailMoves deployment s (.redeemed ticket program) request (.redeemed ticket program')

theorem ticket_of_first {Row : Type} {table : Table Nat Row} {hash : String} {now : Time}
    {tokenHash : Row → String} {usedAt : Row → Option Time} {expiresAt : Row → Time} {id : Nat} {row : Row}
    (first : (table.entries.find? fun entry => decide (tokenHash entry.2 = hash) &&
      (usedAt entry.2).isNone && decide (now < expiresAt entry.2)) = some (id, row)) :
    (table.find? id).map (fun row => (tokenHash row, (usedAt row).isSome)) = some (hash, false) := by
  have here := (mem_entries_iff _).mp (List.mem_of_find?_eq_some first)
  have holds := List.find?_some first
  simp only [Bool.and_eq_true, decide_eq_true_eq, Option.isNone_iff_eq_none] at holds
  rw [here, Option.map_some, holds.1.1, holds.1.2]
  rfl

/-- **A call makes the moves of its stages.** -/
theorem mail_follows (stage : MailStage) (s : State)
    (idle : ∀ program, stage = .other program ∨ (∃ ticket, stage = .redeemed ticket program) → program.Uses AuthCall.Idle)
    :
    Follows answer (MailStage.program deployment) (MailMoves deployment) stage s := by
  cases stage with
  | other program =>
    cases program with
    | done | fail => exact .inl rfl
    | call request next =>
      exact .inr ⟨request, next, .other _, rfl, .other ((idle _ (.inl rfl)).2 _), rfl⟩
  | redeemed ticket program =>
    cases program with
    | done | fail => exact .inl rfl
    | call request next =>
      obtain ⟨first, rest⟩ := idle _ (.inr ⟨ticket, rfl⟩)
      exact .inr ⟨request, next, .redeemed ticket _, rfl, .after first (rest _), rfl⟩
  | refused error => exact .inl rfl
  | findReset token newPassword =>
    cases asked : (answer (.passwordResetTokenFindFirst (deployment.hashPasswordResetToken token)) s).1 with
    | none =>
      refine .inr ⟨_, _, .refused resetTokenInvalid, rfl, .refuse _, ?_⟩
      rw [asked]
      rfl
    | some entry =>
      obtain ⟨id, stored, user⟩ := entry
      by_cases gone : user.isBanned = true ∨ user.deletedAt.isSome
      · refine .inr ⟨_, _, .refused resetTokenInvalid, rfl, .refuse _, ?_⟩
        rw [asked]
        simp only [Program.bind, throwIf, if_pos gone]
        rfl
      · refine .inr ⟨_, _, .hash id stored.userId newPassword, rfl, .findReset ?_, ?_⟩
        · obtain ⟨⟨id', stored'⟩, first, reply⟩ := Option.bind_eq_some_iff.mp asked
          obtain ⟨user', -, same⟩ := Option.map_eq_some_iff.mp reply
          cases same
          exact ticket_of_first first
        · rw [asked]
          simp only [Program.bind, throwIf, if_neg gone]
          rfl
  | hash id userId newPassword => exact .inr ⟨_, _, .reset id userId _, rfl, .hash, rfl⟩
  | reset id userId newHash =>
    cases committed : (answer (.resetPasswordTransaction id userId newHash) s).1 with
    | error error =>
      refine .inr ⟨_, _, .refused (.prisma error), rfl, .refuse _, ?_⟩
      rw [committed]
      rfl
    | ok _ =>
      refine .inr ⟨_, _, .redeemed ⟨.reset, id⟩ (revokeAllForUser userId >>= fun _ => pure none), rfl,
        .commit rfl rfl (fun hash used here => ticket_reset committed here) ?_, ?_⟩
      · exact (revokeAllForUser_idle userId).bind fun _ => trivial
      · rw [committed]
        rfl
  | findEmail token =>
    cases asked : (answer (.emailChangeTokenFindFirst (deployment.hashPasswordResetToken token)) s).1 with
    | none =>
      refine .inr ⟨_, _, .refused emailChangeTokenInvalid, rfl, .refuse _, ?_⟩
      rw [asked]
      rfl
    | some entry =>
      obtain ⟨id, stored, user⟩ := entry
      by_cases gone : user.isBanned = true ∨ user.deletedAt.isSome
      · refine .inr ⟨_, _, .refused emailChangeTokenInvalid, rfl, .refuse _, ?_⟩
        rw [asked]
        simp only [Program.bind, throwIf, if_pos gone]
        rfl
      · by_cases other : pendingMatches deployment stored user = false
        · refine .inr ⟨_, _, .refused emailChangeTokenInvalid, rfl, .refuse _, ?_⟩
          rw [asked]
          simp only [Program.bind, throwIf, if_neg gone, if_pos other]
          rfl
        · refine .inr ⟨_, _, .change id stored.userId (normalize deployment stored.newEmail), rfl,
            .findEmail ?_, ?_⟩
          · obtain ⟨⟨id', stored'⟩, first, reply⟩ := Option.bind_eq_some_iff.mp asked
            obtain ⟨user', -, same⟩ := Option.map_eq_some_iff.mp reply
            cases same
            exact ticket_of_first first
          · rw [asked]
            simp only [Program.bind, throwIf, if_neg gone, if_neg other]
            rfl
  | change id userId email =>
    cases committed : (answer (.emailChangeTransaction id userId email) s).1 with
    | error error =>
      refine .inr ⟨_, _, .refused (.prisma error), rfl, .refuse _, ?_⟩
      rw [committed]
      rfl
    | ok _ =>
      refine .inr ⟨_, _, .redeemed ⟨.email, id⟩ ((revokeAllForUser userId >>= fun _ => pure ()) >>=
        fun _ => pure none), rfl, .commit rfl rfl (fun hash used here => ticket_email committed here) ?_, ?_⟩
      · refine Uses.bind ?_ fun _ => trivial
        exact (revokeAllForUser_idle userId).bind fun _ => trivial
      · rw [committed]
        rfl

/-! ## Redeemed tickets are different -/

def Holds (deployment : Deployment) (request : SessionCall) (s : State) (ticket : Ticket) (used : Bool) :
    Prop :=
  ∃ token, request.mailed = some (ticket.kind, token) ∧
    s.ticket? ticket = some (deployment.hashPasswordResetToken token, used)

def MailStage.Fits (deployment : Deployment) (request : SessionCall) (s : State) : MailStage → Prop
  | .other program => request.mailed = none ∧ program.Uses AuthCall.Idle
  | .refused _ => True
  | .findReset token _ => request.mailed = some (.reset, token)
  | .hash id _ _ | .reset id _ _ => ∃ used, Holds deployment request s ⟨.reset, id⟩ used
  | .findEmail token => request.mailed = some (.email, token)
  | .change id _ _ => ∃ used, Holds deployment request s ⟨.email, id⟩ used
  | .redeemed ticket program => Holds deployment request s ticket true ∧ program.Uses AuthCall.Idle

def MailStage.redeemed? : MailStage → Option Ticket
  | .redeemed ticket _ => some ticket
  | _ => none

/-- The calls fit their stages, and those that have redeemed a ticket have different ones. -/
structure MailSound (deployment : Deployment) (calls : Index → SessionCall) (stages : Index → MailStage)
    (s : State) : Prop where
  unique : s.UniqueHashes
  fits : ∀ index, (stages index).Fits deployment (calls index) s
  apart : ∀ first second ticket, (stages first).redeemed? = some ticket →
    (stages second).redeemed? = some ticket → first = second

section Stages

variable {deployment : Deployment} {call : SessionCall} {s : State} {stage stage' : MailStage}
  {ticket : Ticket} {request : AuthCall}

theorem Holds.answer {used : Bool} (holds : Holds deployment call s ticket used) (request : AuthCall) :
    ∃ used', Holds deployment call (answer request s).2 ticket used' ∧ (used = true → used' = true) := by
  obtain ⟨token, presents, here⟩ := holds
  obtain ⟨used', stays, still⟩ := ticket_stays request here
  exact ⟨used', ⟨token, presents, stays⟩, still⟩

theorem MailStage.Fits.answer (fits : stage.Fits deployment call s) (request : AuthCall) :
    stage.Fits deployment call (answer request s).2 := by
  cases stage with
  | other | findReset | findEmail => exact fits
  | refused error => trivial
  | hash id userId _ | reset id userId _ | change id userId _ =>
    obtain ⟨used, holds⟩ := fits
    obtain ⟨used', after, -⟩ := holds.answer request
    exact ⟨used', after⟩
  | redeemed ticket program =>
    obtain ⟨used', after, still⟩ := fits.1.answer request
    exact ⟨still rfl ▸ after, fits.2⟩

theorem MailStage.Fits.holds (fits : stage.Fits deployment call s) (found : stage.ticket? = some ticket) :
    ∃ used, Holds deployment call s ticket used := by
  cases stage with
  | other | refused | findReset | findEmail => cases found
  | hash | reset | change =>
    cases found
    exact fits
  | redeemed =>
    cases found
    exact ⟨true, fits.1⟩

theorem MailStage.Fits.used (fits : stage.Fits deployment call s)
    (redeemed : stage.redeemed? = some ticket) : Holds deployment call s ticket true := by
  cases stage with
  | redeemed other program =>
    cases redeemed
    exact fits.1
  | _ => cases redeemed

theorem MailMoves.fits (moves : MailMoves deployment s stage request stage')
    (fits : stage.Fits deployment call s) : stage'.Fits deployment call (answer request s).2 := by
  cases moves with
  | other rest => exact ⟨fits.1, rest⟩
  | refuse error => trivial
  | findReset found =>
    have holds : Holds deployment call s ⟨.reset, _⟩ false := ⟨_, fits, found⟩
    obtain ⟨used, after, -⟩ := holds.answer request
    exact ⟨used, after⟩
  | findEmail found =>
    have holds : Holds deployment call s ⟨.email, _⟩ false := ⟨_, fits, found⟩
    obtain ⟨used, after, -⟩ := holds.answer request
    exact ⟨used, after⟩
  | hash =>
    obtain ⟨used, holds⟩ := fits
    obtain ⟨used', after, -⟩ := holds.answer request
    exact ⟨used', after⟩
  | commit found punches marks rest =>
    obtain ⟨used, token, presents, here⟩ := fits.holds found
    exact ⟨⟨token, presents, marks _ _ here⟩, rest⟩
  | after idle rest =>
    obtain ⟨used', after, still⟩ := fits.1.answer request
    exact ⟨still rfl ▸ after, rest⟩

theorem MailMoves.redeems (moves : MailMoves deployment s stage request stage')
    (redeemed : stage'.redeemed? = some ticket) :
    stage.redeemed? = some ticket ∨ request.punches = some ticket := by
  cases moves with
  | commit found punches marks rest =>
    cases redeemed
    exact .inr punches
  | after idle rest =>
    cases redeemed
    exact .inl rfl
  | _ => cases redeemed

end Stages

/-! ## Runs -/

def MailStage.start (deployment : Deployment) : SessionCall → MailStage
  | .resetPassword token newPassword => .findReset token newPassword
  | .verifyEmailChange token => .findEmail token
  | request => .other (sessionProgram deployment request)

theorem start_program (request : SessionCall) :
    sessionProgram deployment request = (MailStage.start deployment request).program deployment := by
  cases request <;> rfl

theorem sound_start (calls : Index → SessionCall) {s : State} (unique : s.UniqueHashes) :
    MailSound s.deployment calls (fun index => .start s.deployment (calls index)) s where
  unique := unique
  fits := fun index => by
    cases request : calls index with
    | resetPassword | verifyEmailChange => rfl
    | _ => exact ⟨rfl, sessionProgram_idle _ rfl⟩
  apart := fun first second ticket redeemed => by
    cases request : calls first <;> rw [request] at redeemed <;> cases redeemed

theorem redeemed_of_value {deployment : Deployment} {request : SessionCall} {s : State} {stage : MailStage}
    {kind : TicketKind} {token : String} (fits : stage.Fits deployment request s)
    (presents : request.mailed = some (kind, token))
    (succeeded : (stage.program deployment).value?.isSome) : ∃ ticket, stage.redeemed? = some ticket := by
  cases stage with
  | redeemed ticket program => exact ⟨ticket, rfl⟩
  | other program =>
    rw [fits.1] at presents
    cases presents
  | _ => cases succeeded

variable [DecidableEq Index]

/-- A step that finds its ticket unused keeps the redeemed tickets different. -/
theorem sound_advance {deployment : Deployment} {calls : Index → SessionCall} (pool : SessionPool Index)
    (stages : Index → MailStage) (index : Index) (request : AuthCall) (stage' : MailStage)
    (sound : MailSound deployment calls stages pool.store) (unused : PunchesUnused pool index)
    (asked : pool.next? index = some request)
    (moves : MailMoves deployment pool.store (stages index) request stage') :
    MailSound deployment calls (update stages index stage') (answer request pool.store).2 where
  unique := uniqueHashes_answer request sound.unique
  fits := fun other => by
    by_cases same : other = index
    · subst same
      rw [update_self]
      exact moves.fits (sound.fits other)
    · rw [update_of_ne same]
      exact (sound.fits other).answer request
  apart := by
    -- whoever has redeemed the ticket of this step has used it, and the step finds it unused
    have alone : ∀ other ticket, other ≠ index → (stages other).redeemed? = some ticket →
        stage'.redeemed? = some ticket → False := by
      intro other ticket different redeemed redeemed'
      obtain before | punches := moves.redeems redeemed'
      · exact different (sound.apart other index ticket redeemed before)
      · obtain ⟨token, -, here⟩ := (sound.fits other).used redeemed
        have marked : ticket ∈ (pool.next? index).bind AuthCall.punches := by
          rw [asked, Option.bind_some, punches]
          rfl
        cases unused ticket marked _ here
    intro first second ticket redeemed redeemed'
    by_cases same : first = index
    · by_cases same' : second = index
      · exact same.trans same'.symm
      · subst same
        rw [update_self] at redeemed
        rw [update_of_ne same'] at redeemed'
        exact (alone second ticket same' redeemed' redeemed).elim
    · rw [update_of_ne same] at redeemed
      by_cases same' : second = index
      · subst same'
        rw [update_self] at redeemed'
        exact (alone first ticket same redeemed redeemed').elim
      · rw [update_of_ne same'] at redeemed'
        exact sound.apart first second ticket redeemed redeemed'

/-- **At most one call succeeds with a token that came by mail**, when every transaction that commits finds
its token unused. -/
theorem used_once (calls : Index → SessionCall) (s : State) (unique : s.UniqueHashes)
    (schedule : List Index)
    (steps : EachStep (advance answer) PunchesUnused (sessions calls s) schedule) :
    Throughout (advance answer) (TokensUsedOnce calls) (sessions calls s) schedule := by
  have sound := throughout_of_stages (fun _ => MailMoves s.deployment)
    (MailSound s.deployment calls) PunchesUnused
    (fun stages store index sound => mail_follows s.deployment (stages index) store fun program here => by
      have fits := sound.fits index
      obtain other | ⟨ticket, redeemed⟩ := here
      · rw [other] at fits
        exact fits.2
      · rw [redeemed] at fits
        exact fits.2)
    (fun pool stages index request stage' _ sound unused asked moves =>
      sound_advance pool stages index request stage' sound unused asked moves)
    (fun index => start_program s.deployment (calls index)) (sound_start calls unique) steps
  refine sound.mono fun pool described => ?_
  obtain ⟨stages, staged, sound⟩ := described
  intro kind token first second presents presents' succeeded succeeded'
  rw [staged first] at succeeded
  rw [staged second] at succeeded'
  obtain ⟨ticket, redeemed⟩ := redeemed_of_value (sound.fits first) presents succeeded
  obtain ⟨ticket', redeemed'⟩ := redeemed_of_value (sound.fits second) presents' succeeded'
  obtain ⟨own, given, here⟩ := (sound.fits first).used redeemed
  obtain ⟨own', given', here'⟩ := (sound.fits second).used redeemed'
  obtain ⟨kinds, rfl⟩ := Prod.mk.inj (Option.some.inj (presents.symm.trans given))
  obtain ⟨kinds', rfl⟩ := Prod.mk.inj (Option.some.inj (presents'.symm.trans given'))
  have same := sound.unique ticket ticket' _ _ _ here here' (kinds.symm.trans kinds')
  exact sound.apart first second ticket redeemed (same ▸ redeemed')

/-! ## Two calls with one token -/

/-- Rider 1 has asked for a new password and for a new address. -/
def tokensMailed : State :=
  { smallInstallation with
    users := empty.insert 1 { smallUser with pendingEmail := some "new@example.com" }
    passwordResetTokens := empty.insert 0 ⟨1, "plain", 1000, none⟩
    emailChangeTokens := empty.insert 0 ⟨1, "new@example.com", "plain", 1000, none⟩ }

def twoResets (_ : Bool) : SessionCall := .resetPassword "plain" "fresh"

def twoChanges (_ : Bool) : SessionCall := .verifyEmailChange "plain"

theorem tokensMailed_unique : tokensMailed.UniqueHashes := by
  have first : ∀ ticket hash used, tokensMailed.ticket? ticket = some (hash, used) → ticket.id = 0 := by
    rintro ⟨kind, id⟩ hash used here
    by_contra other
    cases kind <;> simp [tokensMailed, ticket?, find?_insert, show id ≠ 0 from other] at here
  rintro ⟨kind, id⟩ ⟨kind', id'⟩ hash used used' here here' same
  obtain rfl : id = 0 := first _ _ _ here
  obtain rfl : id' = 0 := first _ _ _ here'
  exact congrArg (Ticket.mk · 0) same

/-- One after the other. -/
theorem used_once_small :
    EachStep (advance answer) PunchesUnused (sessions twoResets tokensMailed)
        (List.replicate 4 false ++ List.replicate 4 true) ∧
      Throughout (advance answer) (TokensUsedOnce twoResets) (sessions twoResets tokensMailed)
        (List.replicate 4 false ++ List.replicate 4 true) := by
  have steps : EachStep (advance answer) PunchesUnused (sessions twoResets tokensMailed)
      (List.replicate 4 false ++ List.replicate 4 true) := by
    decide +kernel
  exact ⟨steps, used_once twoResets tokensMailed tokensMailed_unique _ steps⟩

/-- Both calls look their token up before either commits. Both succeed, with either kind of token. -/
theorem token_used_twice :
    ¬ TokensUsedOnce twoResets (follow (advance answer) (sessions twoResets tokensMailed)
        ([false, true] ++ List.replicate 3 false ++ List.replicate 3 true)) ∧
      ¬ TokensUsedOnce twoChanges (follow (advance answer) (sessions twoChanges tokensMailed)
        ([false, true] ++ List.replicate 2 false ++ List.replicate 2 true)) := by
  constructor
  · intro once
    exact absurd (once .reset "plain" false true rfl rfl (by decide +kernel) (by decide +kernel)) (by decide)
  · intro once
    exact absurd (once .email "plain" false true rfl rfl (by decide +kernel) (by decide +kernel)) (by decide)

end Motogram.Auth
