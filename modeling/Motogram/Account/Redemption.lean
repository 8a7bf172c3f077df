import Motogram.Account.Deletion
import Motogram.Account.PasswordReset
import Motogram.Auth.Sessions

/-!
# How long a reset token can be redeemed

`forgotPassword` issues tokens to users whose deletion may still be taken back, as `login` lets them in.
`resetPassword` refuses every user whose row is soft-deleted (`deleted_user_refused`).

When the row of the user is not soft-deleted, the token can be redeemed at every time before it expires,
however the calls of other functions are interleaved, as long as none of them writes the row of the user or
its deletion record and none begins to issue a newer token (`reset_succeeds_iff`). What carries the proof is
that a function marks a token as used only together with the row of its owner: it has read the owner from the
token, and the owner of a token does not change (`Rely`).
-/

set_option autoImplicit false

namespace Motogram.PasswordReset

open Foundation Program Table Pool

variable {s s' s'' : State}

/-! ## The functions of the services -/

/-- A function of the services: `resetPassword`, or one that never sends its transaction. -/
inductive Operation where
  | resetPassword (token newPassword : String)
  | other (program : Flow Unit) (apart : program.Uses fun request => request.marks = none)

def Operation.program (deployment : Auth.Deployment) : Operation → Flow Unit
  | .resetPassword token newPassword => do
    let _ ← PasswordReset.resetPassword deployment token newPassword
    pure ()
  | .other program _ => program

variable {Index : Type}

abbrev ResetPool (Index : Type) := Pool Index ResetCall ResetReply ServiceError Unit State

/-- The functions have been called and have sent nothing yet. -/
def calls (deployment : Auth.Deployment) (operations : Index → Operation) (s : State) :
    ResetPool Index where
  threads := fun index => (operations index).program deployment
  store := s

/-- The call leaves the row of the user and its deletion record as they are, and does not begin to issue a
newer token to the user. -/
structure Spares (userId : UserId) (s : State) (request : ResetCall) : Prop where
  user : (answer request s).2.account.auth.users.find? userId = s.account.auth.users.find? userId
  deletion : (answer request s).2.account.auth.accountDeletions.find? userId =
    s.account.auth.accountDeletions.find? userId
  unwritten : ∀ id, request.marks ≠ some (id, userId)
  newest : request ≠ .passwordResetTokenDeleteMany userId

/-- The next call of the function spares the user. -/
def Undisturbed (userId : UserId) (pool : ResetPool Index) (index : Index) : Prop :=
  ∀ request, pool.next? index = some request → Spares userId pool.store request

/-! ## Owners do not change -/

/-- The ids of the tokens have been drawn. -/
def State.FreshTokens (s : State) : Prop :=
  ∀ id, (s.resetTokens.find? id).isSome → id < s.account.auth.fresh

/-- What calls may do to the tokens that are there: they keep their owners. -/
structure Owned (s s' : State) : Prop where
  drawn : s'.FreshTokens
  fresh : s.account.auth.fresh ≤ s'.account.auth.fresh
  owner : ∀ id stored', id < s.account.auth.fresh → s'.resetTokens.find? id = some stored' →
    ∃ stored, s.resetTokens.find? id = some stored ∧ stored.userId = stored'.userId

/-- What calls do to the store. -/
def Rely (s s' : State) : Prop := s.FreshTokens → Owned s s'

/-- A token is marked together with the row of its owner. -/
def Obliged (request : ResetCall) (s : State) : Prop :=
  ∀ id userId, request.marks = some (id, userId) → id < s.account.auth.fresh ∧
    ∀ stored, s.resetTokens.find? id = some stored → stored.userId = userId

theorem rely_refl (s : State) : Rely s s := fun fresh =>
  ⟨fresh, Nat.le_refl _, fun _ stored _ found => ⟨stored, found, rfl⟩⟩

theorem rely_trans (s s' s'' : State) (first : Rely s s') (second : Rely s' s'') : Rely s s'' := by
  intro fresh
  have here := first fresh
  have there := second here.drawn
  refine ⟨there.drawn, here.fresh.trans there.fresh, fun id stored'' below found => ?_⟩
  obtain ⟨stored', found', same'⟩ := there.owner id stored'' (Nat.lt_of_lt_of_le below here.fresh) found
  obtain ⟨stored, found, same⟩ := here.owner id stored' below found'
  exact ⟨stored, found, same.trans same'⟩

theorem fresh_le_account (request : Account.AccountCall) (s : Account.State) :
    s.auth.fresh ≤ (Account.answer request s).2.auth.fresh := by
  cases request with
  | auth own => exact (Auth.answer_steady own s.auth).fresh
  | randomBytes => exact Nat.le_succ _
  | cancelDeletionTransaction userId =>
    simp only [Account.answer]
    split <;> exact Nat.le_refl _
  | userCreate _ | userUpdateUsername _ _ _ | emailChangeRequestTransaction _ _ _ _
  | requestDeletionTransaction _ _ _ _ | accountDeletionSetJobId _ _ | userDelete _ | queueAdd _ _
  | queueGetJob _ | jobGetState _ | jobRemove _ | jobStart _ =>
    simp only [Account.answer]
    repeat' split
    all_goals first | exact Nat.le_refl _ | exact Nat.le_succ _
  | _ => exact Nat.le_refl _

theorem fresh_le_answer (request : ResetCall) (s : State) :
    s.account.auth.fresh ≤ (answer request s).2.account.auth.fresh := by
  cases request with
  | account request => exact fresh_le_account request s.account
  | passwordResetTokenCreate userId tokenHash expiresAt =>
    simp only [answer]
    split
    · exact Nat.le_refl _
    · split
      · exact Nat.le_refl _
      · exact Nat.le_succ _
  | _ => exact Nat.le_refl _

variable {request : ResetCall} {id : Auth.ResetTokenId} {token : Auth.PasswordResetToken}
  (deployment : Auth.Deployment) (userId : UserId)

/-- A token that is there after a call was there before, with the same owner, or has been drawn by it. -/
theorem token_answer {stored' : Auth.PasswordResetToken}
    (found : (answer request s).2.resetTokens.find? id = some stored') :
    (∃ stored, s.resetTokens.find? id = some stored ∧ stored.userId = stored'.userId) ∨
      (id = s.account.auth.fresh ∧ id < (answer request s).2.account.auth.fresh) := by
  have effect := tokenEffect_answer request s
  cases effect with
  | same _ tokens =>
    rw [tokens] at found
    exact .inl ⟨stored', found, rfl⟩
  | used other userId passwordHash tokens =>
    rw [tokens, find?_modify] at found
    split at found
    · obtain ⟨stored, before, rfl⟩ := Option.map_eq_some_iff.mp found
      exact .inl ⟨stored, before, rfl⟩
    · exact .inl ⟨stored', found, rfl⟩
  | unused userId tokens | cascade userId _ tokens =>
    rw [tokens, find?_eraseWhere] at found
    exact .inl ⟨stored', (Option.filter_eq_some_iff.mp found).1, rfl⟩
  | created userId tokenHash expiresAt free fresh tokens =>
    rw [tokens, find?_insert] at found
    split at found
    · rename_i new
      exact .inr ⟨new.1, by rw [new.1, fresh]; exact Nat.lt_succ_self _⟩
    · exact .inl ⟨stored', found, rfl⟩

theorem rely_answer (request : ResetCall) (s : State) : Rely s (answer request s).2 := by
  have grows := fresh_le_answer request s
  refine fun fresh => ⟨fun id present => ?_, grows, fun id stored' below found => ?_⟩
  · obtain ⟨stored', found⟩ := Option.isSome_iff_exists.mp present
    obtain ⟨stored, before, -⟩ | ⟨-, below⟩ := token_answer found
    · exact Nat.lt_of_lt_of_le (fresh id (Option.isSome_iff_exists.mpr ⟨stored, before⟩)) grows
    · exact below
  · obtain before | ⟨rfl, -⟩ := token_answer found
    · exact before
    · exact absurd below (Nat.lt_irrefl _)

theorem obliged_of_unmarked (unmarked : request.marks = none) (s : State) : Obliged request s := by
  intro id userId marks
  rw [unmarked] at marks
  cases marks

/-! ## `resetPassword` marks what it has read -/

/-- `resetPassword` after the transaction. -/
def dropSessions (userId : UserId) (updated : Except PrismaError Unit) : Flow Nat :=
  auth (Auth.rethrow updated >>= fun _ => Auth.revokeAllForUser userId)

/-- `resetPassword` after the token was read. -/
def redeemReset (newPassword : String) :
    Option (Auth.ResetTokenId × Auth.PasswordResetToken × Auth.User) → Flow Nat
  | none => .fail Auth.resetTokenInvalid
  | some (id, stored, user) =>
    if user.isBanned = true ∨ user.deletedAt.isSome then .fail Auth.resetTokenInvalid
    else .call (.account (.auth (.bcryptHash newPassword))) fun newHash =>
      .call (.account (.auth (.resetPasswordTransaction id stored.userId newHash)))
        (dropSessions stored.userId)

theorem resetPassword_eq (token newPassword : String) :
    resetPassword deployment token newPassword =
      .call (.account (.auth (.passwordResetTokenFindFirst (deployment.hashPasswordResetToken token))))
        (redeemReset newPassword) := by
  refine congrArg (Program.call _) (funext fun found => ?_)
  match found with
  | none => rfl
  | some (id, stored, user) =>
    change (throwIf _ _ >>= fun _ => _ : Auth.Flow Nat).embed _ _ = _
    rw [redeemReset]
    by_cases gone : user.isBanned = true ∨ user.deletedAt.isSome
    · rw [if_pos gone, throwIf_of gone]
      rfl
    · rw [if_neg gone, throwIf_of_not gone]
      rfl

theorem dropSessions_unmarked (updated : Except PrismaError Unit) :
    (dropSessions userId updated).Uses fun request => request.marks = none := by
  cases updated with
  | error error => trivial
  | ok _ =>
    refine .send rfl fun keys => ?_
    change (auth (if (keys : List Auth.RefreshKey).length = 0 then pure 0
      else Auth.call (.delRefreshTokens keys))).Uses _
    split
    · trivial
    · exact .send rfl fun _ => trivial

/-- `resetPassword` marks the token it has read together with the row of its owner, whatever the others do
meanwhile. -/
theorem resetPassword_promises (token newPassword : String) (fresh : s.FreshTokens) :
    (resetPassword deployment token newPassword).Promises answer Rely Obliged s := by
  rw [resetPassword_eq]
  intro read relied
  have before := relied fresh
  refine ⟨obliged_of_unmarked rfl read, ?_⟩
  generalize asked : (answer (.account (.auth (.passwordResetTokenFindFirst
    (deployment.hashPasswordResetToken token)))) read).1 = found
  cases found with
  | none => trivial
  | some entry =>
    obtain ⟨id, stored, user⟩ := entry
    have here : read.resetTokens.find? id = some stored := by
      obtain ⟨⟨id', stored'⟩, first, reply⟩ := Option.bind_eq_some_iff.mp asked
      obtain ⟨user', -, same⟩ := Option.map_eq_some_iff.mp reply
      cases same
      exact (mem_entries_iff _).mp (List.mem_of_find?_eq_some first)
    rw [redeemReset]
    split
    · trivial
    · intro hashed relied
      refine ⟨obliged_of_unmarked rfl hashed, fun last moved => ⟨?_, ?_⟩⟩
      · have drawn : id < read.account.auth.fresh :=
          before.drawn id (Option.isSome_iff_exists.mpr ⟨stored, here⟩)
        have since : Rely read last :=
          rely_trans _ _ _ relied (rely_trans _ _ _ (rely_answer _ hashed) moved)
        have kept := since before.drawn
        rintro id' userId ⟨⟩
        refine ⟨Nat.lt_of_lt_of_le drawn kept.fresh, fun stored' found => ?_⟩
        obtain ⟨stored'', found', same⟩ := kept.owner id stored' drawn found
        rw [here] at found'
        cases found'
        exact same.symm
      · exact (dropSessions_unmarked _ _).promises (fun _ unmarked => obliged_of_unmarked unmarked) _

theorem Operation.promises (operation : Operation) (fresh : s.FreshTokens) :
    (operation.program deployment).Promises answer Rely Obliged s := by
  cases operation with
  | resetPassword token newPassword =>
    exact (resetPassword_promises deployment token newPassword fresh).bind rely_refl rely_trans
      (fun request store _ => rely_answer request store) fun _ _ _ => trivial
  | other program apart => exact apart.promises (fun _ unmarked => obliged_of_unmarked unmarked) s

/-! ## The token stays usable -/

structure Usable (s : State) (id : Auth.ResetTokenId) (token : Auth.PasswordResetToken) : Prop where
  found : s.resetTokens.find? id = some token
  unused : token.usedAt = none
  only : ∀ other stored, s.resetTokens.find? other = some stored → stored.tokenHash = token.tokenHash →
    other = id

theorem usable_answer {user : Auth.User} (usable : Usable s id token)
    (owner : s.account.auth.users.find? token.userId = some user) (obliged : Obliged request s)
    (spares : Spares token.userId s request) : Usable (answer request s).2 id token := by
  have effect := tokenEffect_answer request s
  have users := spares.user
  cases effect with
  | same _ tokens => exact ⟨tokens ▸ usable.found, usable.unused, tokens ▸ usable.only⟩
  | used other userId passwordHash tokens =>
    have apart : id ≠ other := by
      rintro rfl
      have same := (obliged id userId rfl).2 token usable.found
      exact spares.unwritten id (by rw [same]; rfl)
    refine ⟨?_, usable.unused, fun other' stored found hash => ?_⟩
    · rw [tokens, find?_modify_of_ne _ apart]
      exact usable.found
    · rw [tokens, find?_modify] at found
      split at found
      · obtain ⟨before, earlier, rfl⟩ := Option.map_eq_some_iff.mp found
        exact usable.only other' before earlier hash
      · exact usable.only other' stored found hash
  | unused userId tokens =>
    have apart : token.userId ≠ userId := by
      rintro rfl
      exact spares.newest rfl
    refine ⟨?_, usable.unused, fun other stored found hash => ?_⟩
    · rw [tokens, find?_eraseWhere, usable.found, Option.filter_some, if_pos (by simp [apart])]
    · rw [tokens, find?_eraseWhere] at found
      exact usable.only other stored (Option.filter_eq_some_iff.mp found).1 hash
  | cascade userId erased tokens =>
    have apart : token.userId ≠ userId := by
      rintro rfl
      rw [erased, find?_erase, if_pos rfl, owner] at users
      cases users
    refine ⟨?_, usable.unused, fun other stored found hash => ?_⟩
    · rw [tokens, find?_eraseWhere, usable.found, Option.filter_some, if_pos (by simp [apart])]
    · rw [tokens, find?_eraseWhere] at found
      exact usable.only other stored (Option.filter_eq_some_iff.mp found).1 hash
  | created userId tokenHash expiresAt free fresh tokens =>
    refine ⟨?_, usable.unused, fun other stored found hash => ?_⟩
    · rw [tokens, find?_insert, if_neg]
      · exact usable.found
      · rintro ⟨rfl, absent⟩
        rw [usable.found] at absent
        cases absent
    · rw [tokens, find?_insert] at found
      split at found
      · cases found
        exact absurd hash.symm (free (id, token) ((mem_entries_iff _).mpr usable.found))
      · exact usable.only other stored found hash

/-! ## `forgotPassword` alone -/

/-- `forgotPassword` has issued a token to the user: a mail with the plain token was sent. -/
def Issues (deployment : Auth.Deployment) (email : String) (s s' : State) (userId : UserId)
    (plainToken : String) : Prop :=
  (forgotPassword deployment email).exec s = (.ok (), s') ∧
    ∃ address, s'.mails = s.mails ++ [(userId, address, plainToken)]

/-- The row of a token that is issued. -/
def newToken (deployment : Auth.Deployment) (now : Time) (userId : UserId) (plainToken : String) :
    Auth.PasswordResetToken :=
  ⟨userId, deployment.hashPasswordResetToken plainToken, now + passwordResetTtlMs, none⟩

/-- What is there once a token was issued. -/
structure Issued (deployment : Auth.Deployment) (s s' : State) (userId : UserId) (plainToken : String) :
    Prop where
  users : s'.account.auth.users = s.account.auth.users
  now : s'.account.auth.now = s.account.auth.now
  drawn : s'.FreshTokens
  usable : ∃ id, Usable s' id (newToken deployment s.account.auth.now userId plainToken)

/-- The unused tokens of the user are deleted and the text of a new one is drawn. -/
def State.cleared (s : State) (userId : UserId) : State :=
  (answer (.account .randomBytes) (answer (.passwordResetTokenDeleteMany userId) s).2).2

def State.nextToken (s : State) : String := s.account.deployment.randomHex s.account.auth.fresh

theorem exec_issueResetToken (email : String) (s : State) :
    (issueResetToken deployment userId email).exec s =
      match answer (.passwordResetTokenCreate userId (deployment.hashPasswordResetToken s.nextToken)
        (s.account.auth.now + passwordResetTtlMs)) (s.cleared userId) with
      | (.error error, after) => (.error (.prisma error), after)
      | (.ok _, after) => (.ok (), after.withMail userId email s.nextToken) := by
  change Program.run answer (rethrow (answer (.passwordResetTokenCreate userId
      (deployment.hashPasswordResetToken s.nextToken) (s.account.auth.now + passwordResetTtlMs))
      (s.cleared userId)).1 >>= fun _ => _) (answer (.passwordResetTokenCreate userId
        (deployment.hashPasswordResetToken s.nextToken) (s.account.auth.now + passwordResetTtlMs))
        (s.cleared userId)).2 = _
  generalize answer (.passwordResetTokenCreate userId (deployment.hashPasswordResetToken s.nextToken)
    (s.account.auth.now + passwordResetTtlMs)) (s.cleared userId) = reply
  obtain ⟨result, after⟩ := reply
  cases result <;> rfl

theorem cleared_drawn (fresh : s.FreshTokens) (userId : UserId) : (s.cleared userId).FreshTokens :=
  (rely_trans _ _ _ (rely_answer (.passwordResetTokenDeleteMany userId) s) (rely_answer _ _) fresh).drawn

theorem usable_created (fresh : s.FreshTokens) {token : Auth.PasswordResetToken} (unused : token.usedAt = none)
    (free : ∀ entry ∈ s.resetTokens.entries, entry.2.tokenHash ≠ token.tokenHash)
    (tokens : s'.resetTokens = s.resetTokens.insert s.account.auth.fresh token) :
    Usable s' s.account.auth.fresh token := by
  have vacant : s.resetTokens.find? s.account.auth.fresh = none := by
    by_contra taken
    exact absurd (fresh _ (Option.ne_none_iff_isSome.mp taken)) (Nat.lt_irrefl _)
  refine ⟨by rw [tokens, find?_insert_self vacant], unused, fun other stored found hash => ?_⟩
  rw [tokens, find?_insert] at found
  split at found
  · rename_i new
    exact new.1
  · exact absurd hash (free (other, stored) ((mem_entries_iff _).mpr found))

theorem issued_of_create {deployment : Auth.Deployment} {email : String} {userId : UserId}
    (fresh : s.FreshTokens) (ran : (issueResetToken deployment userId email).exec s = (.ok (), s')) :
    Issued deployment s s' userId s.nextToken ∧ s'.mails = s.mails ++ [(userId, email, s.nextToken)] := by
  rw [exec_issueResetToken] at ran
  have drawn := cleared_drawn fresh userId
  have later := (rely_answer (.passwordResetTokenCreate userId
    (deployment.hashPasswordResetToken s.nextToken) (s.account.auth.now + passwordResetTtlMs))
    (s.cleared userId) drawn).drawn
  generalize asked : answer (.passwordResetTokenCreate userId
    (deployment.hashPasswordResetToken s.nextToken) (s.account.auth.now + passwordResetTtlMs))
    (s.cleared userId) = reply at ran later
  simp only [answer] at asked
  split at asked
  · subst asked
    cases ran
  · split at asked
    · subst asked
      cases ran
    · rename_i free
      subst asked
      cases ran
      refine ⟨⟨rfl, rfl, later, _, usable_created drawn rfl (fun entry member same => free ?_) rfl⟩, rfl⟩
      exact List.any_eq_true.mpr ⟨entry, member, decide_eq_true same⟩

theorem not_mailed {userId : UserId} {plainToken : String} {ran : Except ServiceError Unit}
    (same : (ran, s) = (.ok (), s'))
    (mailed : ∃ address, s'.mails = s.mails ++ [(userId, address, plainToken)]) : False := by
  obtain ⟨address, mails⟩ := mailed
  cases same
  simp at mails

/-- **When `forgotPassword` issues a token**, the token is there, and belongs to a user who is not
banned. -/
theorem issued_of_issues {deployment : Auth.Deployment} {email : String} {userId : UserId}
    {plainToken : String} (fresh : s.FreshTokens) (issues : Issues deployment email s s' userId plainToken) :
    Issued deployment s s' userId plainToken ∧
      ∃ user, s.account.auth.users.find? userId = some user ∧ user.isBanned = false := by
  obtain ⟨ran, mailed⟩ := issues
  unfold forgotPassword Flow.exec at ran
  simp only [call_bind, done_bind] at ran
  rw [run_call_of_answer answer (rfl : answer (.userFindFirst (Auth.normalize deployment email)) s =
    (s.account.auth.users.entries.find? fun entry =>
      s.account.auth.deployment.equalsInsensitive entry.2.email (Auth.normalize deployment email), s))] at ran
  generalize looked : (s.account.auth.users.entries.find? fun entry =>
    s.account.auth.deployment.equalsInsensitive entry.2.email (Auth.normalize deployment email)) = found at ran
  cases found with
  | none => exact (not_mailed ran mailed).elim
  | some entry =>
    obtain ⟨owner, user⟩ := entry
    have stored : s.account.auth.users.find? owner = some user :=
      (mem_entries_iff _).mp (List.mem_of_find?_eq_some looked)
    have created : user.isBanned = false →
        (issueResetToken deployment owner user.email).exec s = (.ok (), s') →
        Issued deployment s s' userId plainToken ∧
          ∃ user, s.account.auth.users.find? userId = some user ∧ user.isBanned = false := by
      intro allowed ran
      obtain ⟨issued, mails⟩ := issued_of_create fresh ran
      obtain ⟨address, sent⟩ := mailed
      rw [mails] at sent
      cases List.append_cancel_left sent
      exact ⟨issued, user, stored, allowed⟩
    dsimp only at ran
    split at ran
    · exact (not_mailed ran mailed).elim
    · rename_i welcome
      have allowed : user.isBanned = false := Bool.eq_false_iff.mpr fun banned => welcome (.inr banned)
      split at ran
      · simp only [run_call] at ran
        split at ran
        · exact (not_mailed ran mailed).elim
        · exact created allowed ran
      · exact created allowed ran

/-! ## The token is redeemed -/

theorem dropSessions_succeeds (s : State) :
    ∃ revoked, ((dropSessions userId (.ok ())).exec s).1 = .ok revoked := by
  change ∃ revoked, (Program.run answer (auth (if (Auth.answer (.keysRefreshTokens userId)
    s.account.auth).1.length = 0 then pure 0 else Auth.call (.delRefreshTokens (Auth.answer
      (.keysRefreshTokens userId) s.account.auth).1))) s).1 = .ok revoked
  split
  · exact ⟨0, rfl⟩
  · exact ⟨_, rfl⟩

theorem read_usable {user : Auth.User} (usable : Usable s id token)
    (owner : s.account.auth.users.find? token.userId = some user) (early : s.account.auth.now < token.expiresAt) :
    (answer (.account (.auth (.passwordResetTokenFindFirst token.tokenHash))) s).1 = some (id, token, user) := by
  have first : (s.resetTokens.entries.find? fun entry => decide (entry.2.tokenHash = token.tokenHash) &&
      entry.2.usedAt.isNone && decide (s.account.auth.now < entry.2.expiresAt)) = some (id, token) := by
    have matching : (decide (token.tokenHash = token.tokenHash) && token.usedAt.isNone &&
        decide (s.account.auth.now < token.expiresAt)) = true := by
      rw [usable.unused, decide_eq_true rfl, decide_eq_true early]
      rfl
    have member := (mem_entries_iff _).mpr usable.found
    cases found : s.resetTokens.entries.find? fun entry =>
        decide (entry.2.tokenHash = token.tokenHash) && entry.2.usedAt.isNone &&
          decide (s.account.auth.now < entry.2.expiresAt) with
    | none => exact absurd matching (List.find?_eq_none.mp found (id, token) member)
    | some entry =>
      obtain ⟨other, stored⟩ := entry
      have here := (mem_entries_iff _).mp (List.mem_of_find?_eq_some found)
      have holds := List.find?_some found
      simp only [Bool.and_eq_true, decide_eq_true_eq] at holds
      obtain rfl := usable.only other stored here holds.1.1
      rw [usable.found] at here
      cases here
      rfl
  change (((s.resetTokens.entries.find? fun entry => decide (entry.2.tokenHash = token.tokenHash) &&
    entry.2.usedAt.isNone && decide (s.account.auth.now < entry.2.expiresAt))).bind fun entry =>
      (s.account.auth.users.find? entry.2.userId).map fun user => (entry.1, entry.2, user)) = _
  rw [first, Option.bind_some, owner, Option.map_some]

/-- `resetPassword` with a token that is usable and has not expired, of a user who is not banned: it
succeeds when the row of the user is not soft-deleted, and only then. -/
theorem exec_resetPassword {deployment : Auth.Deployment} {id : Auth.ResetTokenId}
    {token : Auth.PasswordResetToken} {user : Auth.User} {plainToken : String}
    (usable : Usable s id token) (hash : token.tokenHash = deployment.hashPasswordResetToken plainToken)
    (owner : s.account.auth.users.find? token.userId = some user) (allowed : user.isBanned = false)
    (early : s.account.auth.now < token.expiresAt) (newPassword : String) :
    (∃ revoked, ((resetPassword deployment plainToken newPassword).exec s).1 = .ok revoked) ↔
      user.deletedAt = none := by
  have read := read_usable usable owner early
  rw [hash] at read
  rw [resetPassword_eq, Flow.exec, run_call, read, redeemReset]
  by_cases deleted : user.deletedAt = none
  · rw [if_neg (by simp [allowed, deleted])]
    refine iff_of_true ?_ deleted
    -- reading the token changes nothing, and hashing the password draws a salt only
    have marked : ∀ newHash, (answer (.account (.auth (.resetPasswordTransaction id token.userId newHash)))
        (answer (.account (.auth (.bcryptHash newPassword))) s).2).1 = .ok () := by
      intro newHash
      simp only [answer, Account.answer, Auth.answer, State.withAccount_account,
        Account.State.withAuth_auth, Auth.State.withFresh_passwordResetTokens, Auth.State.withFresh_users]
      rw [if_neg]
      rw [usable.found, owner]
      exact Bool.false_ne_true
    change ∃ revoked, (Program.run answer (dropSessions token.userId (answer (.account (.auth
      (.resetPasswordTransaction id token.userId _))) (answer (.account (.auth (.bcryptHash newPassword)))
        s).2).1) _).1 = .ok revoked
    rw [marked]
    exact dropSessions_succeeds token.userId _
  · rw [if_pos (.inr (Option.isSome_iff_ne_none.mpr deleted))]
    exact iff_of_false (by rintro ⟨revoked, ⟨⟩⟩) deleted

section Run

variable [DecidableEq Index]

/-- What holds while the calls of the others spare the owner of the token. -/
structure Kept (id : Auth.ResetTokenId) (token : Auth.PasswordResetToken) (user : Auth.User)
    (pool : ResetPool Index) : Prop where
  drawn : pool.store.FreshTokens
  usable : Usable pool.store id token
  owner : pool.store.account.auth.users.find? token.userId = some user
  promise : pool.AllPromise answer Rely Obliged

theorem Kept.advance {id : Auth.ResetTokenId} {token : Auth.PasswordResetToken} {user : Auth.User}
    {pool : ResetPool Index} {index : Index} (kept : Kept id token user pool)
    (undisturbed : Undisturbed token.userId pool index) : Kept id token user (pool.advance answer index) := by
  have promise := kept.promise.advance rely_refl rely_trans (fun request store _ => rely_answer request store)
    index
  cases asked : pool.next? index with
  | none =>
    rw [store_advance_of_none asked]
    exact kept
  | some request =>
    have store : (pool.advance answer index).store = (answer request pool.store).2 := store_advance asked
    have spares := undisturbed request asked
    refine ⟨?_, ?_, ?_, promise⟩
    · rw [store]
      exact (rely_answer request pool.store kept.drawn).drawn
    · rw [store]
      exact usable_answer kept.usable kept.owner (kept.promise.obliged_next rely_refl index request asked)
        spares
    · rw [store, spares.user, kept.owner]

/-- At every later time before the token expires it can be redeemed, when nothing writes the row of the user
or its deletion record and no newer token is issued. -/
def Redeemed (Index : Type) [DecidableEq Index] (deployment : Auth.Deployment) (s : State) (userId : UserId)
    (plainToken : String) (expiresAt : Time) : Prop :=
  ∀ (operations : Index → Operation) (schedule : List Index),
    EachStep (advance answer) (Undisturbed userId) (calls deployment operations s) schedule →
    (follow (advance answer) (calls deployment operations s) schedule).store.account.auth.now < expiresAt →
    ∀ newPassword, ∃ revoked, ((resetPassword deployment plainToken newPassword).exec
      (follow (advance answer) (calls deployment operations s) schedule).store).1 = .ok revoked

/-- **A token that `forgotPassword` issues can be redeemed until it expires** when the row of the user is not
soft-deleted, and only then. -/
theorem reset_succeeds_iff (deployment : Auth.Deployment) (email : String) {userId : UserId}
    {plainToken : String} (fresh : s.FreshTokens)
    (issues : Issues deployment email s s' userId plainToken) :
    Redeemed Index deployment s' userId plainToken (s.account.auth.now + passwordResetTtlMs) ↔
      (s.account.auth.users.find? userId).bind Auth.User.deletedAt = none := by
  obtain ⟨issued, user, owner, allowed⟩ := issued_of_issues fresh issues
  obtain ⟨id, usable⟩ := issued.usable
  have present : s'.account.auth.users.find? userId = some user := by rw [issued.users, owner]
  rw [owner]
  constructor
  · intro redeemed
    have early : s'.account.auth.now < s.account.auth.now + passwordResetTtlMs := by
      rw [issued.now]
      exact Nat.lt_add_of_pos_right (by decide)
    refine (exec_resetPassword usable rfl present allowed early "").mp ?_
    exact redeemed (fun _ => .other (pure ()) trivial) [] trivial early ""
  · intro standing operations schedule undisturbed early newPassword
    have kept : Kept id (newToken deployment s.account.auth.now userId plainToken) user
        (follow (advance answer) (calls deployment operations s') schedule) := by
      refine last_of_keeps (fun pool index => Kept.advance) ?_ undisturbed
      exact ⟨issued.drawn, usable, present, fun index => (operations index).promises deployment issued.drawn⟩
    exact (exec_resetPassword kept.usable rfl kept.owner allowed early newPassword).mpr standing

end Run

/-! ## A rider in the grace period -/

/-- Riders 0 and 1; nothing was mailed. -/
def smallInstallation : State := ⟨Account.smallInstallation, []⟩

/-- Rider 0 has asked for the deletion of the account. -/
def deletionPending : State := ⟨((Account.requestDeletion 0 none).exec Account.smallInstallation).2, []⟩

/-- After rider 0 has asked for a new password. -/
def afterForgotten (s : State) : State :=
  ((forgotPassword Auth.smallDeployment "rider_0@example.com").exec s).2

theorem freshTokens_small : smallInstallation.FreshTokens := by
  rintro id ⟨⟩

/-- Rider 0 is not soft-deleted. -/
theorem reset_succeeds_small :
    Redeemed Bool Auth.smallDeployment (afterForgotten smallInstallation) 0 "2" (0 + passwordResetTtlMs) :=
  (reset_succeeds_iff Auth.smallDeployment "rider_0@example.com" freshTokens_small
    ⟨rfl, "rider_0@example.com", rfl⟩).mpr rfl

/-- Rider 0 is in the grace period: a token is issued, and is refused at once. -/
theorem deleted_user_refused :
    Issues Auth.smallDeployment "rider_0@example.com" deletionPending (afterForgotten deletionPending) 0 "2" ∧
      ((resetPassword Auth.smallDeployment "2" "fresh").exec (afterForgotten deletionPending)).1 =
        .error Auth.resetTokenInvalid ∧
      ¬ Redeemed Bool Auth.smallDeployment (afterForgotten deletionPending) 0 "2" (0 + passwordResetTtlMs) := by
  have refused : ((resetPassword Auth.smallDeployment "2" "fresh").exec (afterForgotten deletionPending)).1 =
      .error Auth.resetTokenInvalid := rfl
  refine ⟨⟨rfl, "rider_0@example.com", rfl⟩, refused, fun redeemed => ?_⟩
  obtain ⟨revoked, succeeded⟩ := redeemed (fun _ => .other (pure ()) trivial) [] trivial (by decide +kernel)
    "fresh"
  cases refused.symm.trans succeeded

end Motogram.PasswordReset
