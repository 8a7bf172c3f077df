import Motogram.Auth.Service
import Motogram.Foundation.Staging

/-!
# Sessions, call by call

The session endpoints as programs that share the stores, and what is left of each
of them at a stage. Before a call touches the refresh tokens it is quiet: what it
sends then changes no session. From there on the stages are those of the calls on
the refresh tokens: the check and the deletion of a refresh, the issue of a pair,
the listing and the deletion of every key of a user.

`stage_follows` says that the programs of the service make exactly the moves of
their stages.
-/

set_option autoImplicit false

namespace Motogram.Auth

open Foundation Program Function State

/-- What a client may ask of the session endpoints, and the passage of time. -/
inductive SessionCall where
  | refresh (presented : Option RefreshToken)
  | logout (userId : UserId) (presented : Option (Option RefreshToken)) (allDevices : Bool)
  | login (identifier password : String)
  | changePassword (userId : UserId) (currentPassword newPassword : String)
  | resetPassword (token newPassword : String)
  | verifyEmailChange (token : String)
  | elapse (milliseconds : Nat)

/-- The pair a session call returns, when it returns one. -/
abbrev SessionFlow := Flow (Option TokenPair)

def sessionProgram (deployment : Deployment) : SessionCall → SessionFlow
  | .refresh presented => do
    let pair ← refresh presented
    pure (some pair)
  | .logout userId presented allDevices => do
    logout userId presented allDevices
    pure none
  | .login identifier password => do
    let result ← login deployment identifier password
    pure (some result.2)
  | .changePassword userId currentPassword newPassword => do
    let _ ← changePassword userId currentPassword newPassword
    pure none
  | .resetPassword token newPassword => do
    let _ ← resetPassword deployment token newPassword
    pure none
  | .verifyEmailChange token => do
    verifyEmailChange deployment token
    pure none
  | .elapse milliseconds => do
    let _ : Unit ← call (.elapse milliseconds)
    pure none

def SessionCall.own : SessionCall → Option RefreshToken
  | .refresh presented => presented
  | _ => none

def SessionCall.isLogin : SessionCall → Bool
  | .login _ _ => true
  | _ => false

/-- The calls that are made to drop every session of a user. -/
def SessionCall.dropsAll : SessionCall → Bool
  | .logout _ _ allDevices => allDevices
  | .changePassword _ _ _ => true
  | .resetPassword _ _ => true
  | .verifyEmailChange _ => true
  | _ => false

/-- The users whose sessions such a call may drop: the caller, or the user the
token that came by mail was made for. -/
def SessionCall.Targets (deployment : Deployment) (s : State) (userId : UserId) :
    SessionCall → Prop
  | .logout caller _ allDevices => allDevices = true ∧ caller = userId
  | .changePassword caller _ _ => caller = userId
  | .resetPassword token _ => ∃ id stored, s.passwordResetTokens.find? id = some stored ∧
      stored.tokenHash = deployment.hashPasswordResetToken token ∧ stored.userId = userId
  | .verifyEmailChange token => ∃ id stored, s.emailChangeTokens.find? id = some stored ∧
      stored.tokenHash = deployment.hashPasswordResetToken token ∧ stored.userId = userId
  | _ => False

/-! ## Stages -/

/-- How far a session call has come: the call on the refresh tokens it sends next. -/
inductive Stage where
  | quiet (program : SessionFlow)
  | check (token : RefreshToken)
  | spend (token : RefreshToken)
  | lookup (token : RefreshToken)
  | draw (userId : UserId) (username : String) (role : UserRole)
  | sign (userId : UserId) (username : String) (role : UserRole) (jti : Jti)
  | countersign (userId : UserId) (username : String) (role : UserRole) (jti : Jti) (signedAt : Time)
  | store (key : RefreshKey) (pair : TokenPair)
  | list (userId : UserId)
  | drop (keys : List RefreshKey)
  | finished (outcome : Except ServiceError (Option TokenPair))

/-- `refresh` from the check of the key on. -/
def redeem (token : RefreshToken) : Flow TokenPair := do
  let active ← isRefreshActive token.key
  throwIf (active = false) refreshTokenRevoked
  rotate token

/-- `refresh` from the lookup of the user on. -/
def reissue (token : RefreshToken) : Flow TokenPair := do
  let user : Option User ← call (.userFindUnique token.sub)
  match user with
  | none => .fail userInactive
  | some user => do
    throwIf (user.isBanned = true ∨ user.deletedAt.isSome) userInactive
    issueTokenPair token.sub user.username user.role

/-- The pair `issueTokenPair` returns. -/
def pairOf (userId : UserId) (username : String) (role : UserRole) (jti : Jti)
    (signedAt refreshSignedAt : Time) : TokenPair where
  accessToken := ⟨userId, username, role, signedAt / 1000 + accessTtlSeconds⟩
  refreshToken := ⟨userId, jti, .refresh, refreshSignedAt / 1000 + refreshTtlSeconds⟩
  accessTokenExpiresIn := accessTtlSeconds
  refreshTokenExpiresIn := refreshTtlSeconds

def Stage.program : Stage → SessionFlow
  | .quiet program => program
  | .check token => redeem token >>= fun pair => pure (some pair)
  | .spend token => rotate token >>= fun pair => pure (some pair)
  | .lookup token => reissue token >>= fun pair => pure (some pair)
  | .draw userId username role => issueTokenPair userId username role >>= fun pair => pure (some pair)
  | .sign userId username role jti => do
    let signedAt : Time ← call .jwtSign
    let refreshSignedAt : Time ← call .jwtSign
    let _ : Unit ← call (.setRefreshToken ⟨userId, jti⟩ refreshTtlSeconds)
    pure (some (pairOf userId username role jti signedAt refreshSignedAt))
  | .countersign userId username role jti signedAt => do
    let refreshSignedAt : Time ← call .jwtSign
    let _ : Unit ← call (.setRefreshToken ⟨userId, jti⟩ refreshTtlSeconds)
    pure (some (pairOf userId username role jti signedAt refreshSignedAt))
  | .store key pair => do
    let _ : Unit ← call (.setRefreshToken key refreshTtlSeconds)
    pure (some pair)
  | .list userId => revokeAllForUser userId >>= fun _ => pure none
  | .drop keys => do
    let _ : Nat ← call (.delRefreshTokens keys)
    pure none
  | .finished (.ok result) => .done result
  | .finished (.error error) => .fail error

def State.activeUser (s : State) (userId : UserId) : Prop :=
  ∃ user, s.users.find? userId = some user ∧ ¬ (user.isBanned = true ∨ user.deletedAt.isSome)

instance (s : State) (userId : UserId) : Decidable (s.activeUser userId) :=
  decidable_of_iff ((s.users.find? userId).any fun user =>
    !(user.isBanned || user.deletedAt.isSome)) (by
      rw [activeUser]
      cases s.users.find? userId <;> simp)

/-- What a thread may come to: the token it presents, whether it logs in, whether
it may return before any of the stages below, whose sessions it drops, and what it
may count on in the store. -/
structure Role where
  own : Option RefreshToken
  logsIn : Prop
  returns : Prop
  drops : UserId → Prop
  counts : State → Prop

/-- A call that neither reads the refresh tokens nor adds one. Who presents no token
may delete one. -/
def Role.Quiet (role : Role) : AuthCall → Prop
  | .getRefreshToken _ | .setRefreshToken _ _ | .keysRefreshTokens _ | .delRefreshTokens _
  | .uuidv4 | .jwtSign => False
  | .delRefreshToken _ => role.own = none
  | _ => True

/-- A program that is quiet until it comes to what its role allows. -/
inductive Restful (role : Role) : SessionFlow → Prop where
  | done (returns : role.returns) : Restful role (.done none)
  | fail (error : ServiceError) : Restful role (.fail error)
  | quiet (request : AuthCall) {next : AuthReply request → SessionFlow} (quiet : role.Quiet request)
      (rest : ∀ s, role.counts s → Restful role (next (answer request s).1)) :
      Restful role (.call request next)
  | check (token : RefreshToken) (own : role.own = some token) :
      Restful role (Stage.check token).program
  | draw (userId : UserId) (username : String) (userRole : UserRole) (logsIn : role.logsIn) :
      Restful role (Stage.draw userId username userRole).program
  | list (userId : UserId) (drops : role.drops userId) : Restful role (Stage.list userId).program

def Poised (role : Role) (program : SessionFlow) : Prop :=
  ∃ request next, program = .call request next ∧ role.Quiet request ∧
    ∀ s, role.counts s → Restful role (next (answer request s).1)

/-- The stages a quiet call can lead to. -/
inductive Lands (role : Role) : Stage → Prop where
  | quiet {program : SessionFlow} (poised : Poised role program) : Lands role (.quiet program)
  | done (returns : role.returns) : Lands role (.finished (.ok none))
  | fail (error : ServiceError) : Lands role (.finished (.error error))
  | check (token : RefreshToken) (own : role.own = some token) : Lands role (.check token)
  | draw (userId : UserId) (username : String) (userRole : UserRole) (logsIn : role.logsIn) :
      Lands role (.draw userId username userRole)
  | list (userId : UserId) (drops : role.drops userId) : Lands role (.list userId)

theorem Restful.lands {role : Role} {program : SessionFlow} (restful : Restful role program) :
    ∃ stage : Stage, Lands role stage ∧ stage.program = program := by
  cases restful with
  | done returns => exact ⟨_, .done returns, rfl⟩
  | fail error => exact ⟨_, .fail error, rfl⟩
  | quiet request quiet rest => exact ⟨.quiet _, .quiet ⟨request, _, rfl, quiet, rest⟩, rfl⟩
  | check token own => exact ⟨_, .check token own, rfl⟩
  | draw userId username userRole logsIn => exact ⟨_, .draw userId username userRole logsIn, rfl⟩
  | list userId drops => exact ⟨_, .list userId drops, rfl⟩

/-- One call of a thread: the stage before it and the stage after it, in the store
that answers the call. -/
inductive Moves (role : Role) (s : State) : Stage → AuthCall → Stage → Prop where
  | quiet {program : SessionFlow} {request : AuthCall} {stage' : Stage} (quiet : role.Quiet request)
      (lands : Lands role stage') : Moves role s (.quiet program) request stage'
  | pass {token : RefreshToken}
      (present : (s.refreshTokens.get? s.now token.key).isSome) :
      Moves role s (.check token) (.getRefreshToken token.key) (.spend token)
  | refuse {token : RefreshToken}
      (absent : s.refreshTokens.get? s.now token.key = none) :
      Moves role s (.check token) (.getRefreshToken token.key)
        (.finished (.error refreshTokenRevoked))
  | spend {token : RefreshToken} :
      Moves role s (.spend token) (.delRefreshToken token.key) (.lookup token)
  | inactive {token : RefreshToken} (inactive : ¬ s.activeUser token.sub) :
      Moves role s (.lookup token) (.userFindUnique token.sub) (.finished (.error userInactive))
  | active {token : RefreshToken} (user : User) (active : s.activeUser token.sub) :
      Moves role s (.lookup token) (.userFindUnique token.sub)
        (.draw token.sub user.username user.role)
  | draw {userId : UserId} {username : String} {userRole : UserRole} :
      Moves role s (.draw userId username userRole) .uuidv4
        (.sign userId username userRole s.fresh)
  | sign {userId : UserId} {username : String} {userRole : UserRole} {jti : Jti} :
      Moves role s (.sign userId username userRole jti) .jwtSign
        (.countersign userId username userRole jti s.now)
  | countersign {userId : UserId} {username : String} {userRole : UserRole} {jti : Jti}
      {signedAt : Time} :
      Moves role s (.countersign userId username userRole jti signedAt) .jwtSign
        (.store ⟨userId, jti⟩ (pairOf userId username userRole jti signedAt s.now))
  | store {key : RefreshKey} {pair : TokenPair} :
      Moves role s (.store key pair) (.setRefreshToken key refreshTtlSeconds)
        (.finished (.ok (some pair)))
  | listNone {userId : UserId}
      (empty : (s.refreshTokens.keys s.now fun key => decide (key.userId = userId)) = []) :
      Moves role s (.list userId) (.keysRefreshTokens userId) (.finished (.ok none))
  | list {userId : UserId} :
      Moves role s (.list userId) (.keysRefreshTokens userId)
        (.drop (s.refreshTokens.keys s.now fun key => decide (key.userId = userId)))
  | drop {keys : List RefreshKey} :
      Moves role s (.drop keys) (.delRefreshTokens keys) (.finished (.ok none))

/-- **A session call makes the moves of its stages.** -/
theorem stage_follows (role : Role) (stage : Stage) {s : State} (counts : role.counts s)
    (poised : ∀ program, stage = .quiet program → Poised role program) :
    Follows answer Stage.program (Moves role) stage s := by
  cases stage with
  | quiet program =>
    obtain ⟨request, next, shape, quiet, rest⟩ := poised program rfl
    obtain ⟨stage', lands, same⟩ := (rest s counts).lands
    exact .inr ⟨request, next, stage', shape, .quiet quiet lands, same.symm⟩
  | check token =>
    cases present : s.refreshTokens.get? s.now token.key with
    | none =>
      refine .inr ⟨_, _, _, rfl, .refuse present, ?_⟩
      simp only [answer, present]
      rfl
    | some held =>
      refine .inr ⟨_, _, _, rfl, .pass (by rw [present]; rfl), ?_⟩
      simp only [answer, present]
      rfl
  | spend token => exact .inr ⟨_, _, _, rfl, .spend, rfl⟩
  | lookup token =>
    cases found : s.users.find? token.sub with
    | none =>
      refine .inr ⟨_, _, _, rfl, .inactive (by simp [activeUser, found]), ?_⟩
      simp only [answer, found]
      rfl
    | some user =>
      by_cases active : user.isBanned = true ∨ user.deletedAt.isSome
      · have gone : ¬ s.activeUser token.sub := by
          rintro ⟨same, found', acts⟩
          obtain rfl := Option.some.inj (found.symm.trans found')
          exact acts active
        refine .inr ⟨_, _, _, rfl, .inactive gone, ?_⟩
        simp only [answer, found, Program.bind, throwIf, if_pos active]
        rfl
      · refine .inr ⟨_, _, _, rfl, .active user ⟨user, found, active⟩, ?_⟩
        simp only [answer, found, Program.bind, throwIf, if_neg active]
        rfl
  | draw userId username userRole => exact .inr ⟨_, _, _, rfl, .draw, rfl⟩
  | sign userId username userRole jti => exact .inr ⟨_, _, _, rfl, .sign, rfl⟩
  | countersign userId username userRole jti signedAt => exact .inr ⟨_, _, _, rfl, .countersign, rfl⟩
  | store key pair => exact .inr ⟨_, _, _, rfl, .store, rfl⟩
  | list userId =>
    by_cases empty : (s.refreshTokens.keys s.now fun key => decide (key.userId = userId)) = []
    · refine .inr ⟨_, _, _, rfl, .listNone empty, ?_⟩
      simp only [answer, empty]
      rfl
    · refine .inr ⟨_, _, _, rfl, .list, ?_⟩
      simp only [answer, Program.bind, List.length_eq_zero_iff, if_neg empty]
      rfl
  | drop keys => exact .inr ⟨_, _, _, rfl, .drop, rfl⟩
  | finished outcome =>
    refine .inl ?_
    cases outcome <;> rfl

/-! ## What no call changes -/

/-- What lasts from one state to a later one, whatever is called between: the
deployment, who is an active user, and the owner of a token that came by mail.
The clock and the counter do not go back. -/
structure Steady (s s' : State) : Prop where
  deployment : s'.deployment = s.deployment
  now : s.now ≤ s'.now
  fresh : s.fresh ≤ s'.fresh
  active : ∀ userId, s'.activeUser userId ↔ s.activeUser userId
  resets : ∀ id stored, s'.passwordResetTokens.find? id = some stored →
    ∃ before, s.passwordResetTokens.find? id = some before ∧
      stored.tokenHash = before.tokenHash ∧ stored.userId = before.userId
  emails : ∀ id stored, s'.emailChangeTokens.find? id = some stored →
    ∃ before, s.emailChangeTokens.find? id = some before ∧
      stored.tokenHash = before.tokenHash ∧ stored.userId = before.userId

theorem find?_modify_keeps {Key Row : Type} [DecidableEq Key] {table : Table Key Row}
    {key other : Key} {change : Row → Row} (same : Row → Row → Prop) (refl : ∀ row, same row row)
    (keeps : ∀ row, same (change row) row) {row : Row}
    (found : (table.modify key change).find? other = some row) :
    ∃ before, table.find? other = some before ∧ same row before := by
  rw [Table.find?_modify] at found
  split at found
  · obtain ⟨before, present, rfl⟩ := Option.map_eq_some_iff.mp found
    exact ⟨before, present, keeps before⟩
  · exact ⟨row, found, refl row⟩

theorem activeUser_modifyWhere {s : State} {condition : UserId → User → Bool}
    {change : User → User} (banned : ∀ user, (change user).isBanned = user.isBanned)
    (deleted : ∀ user, (change user).deletedAt = user.deletedAt) (userId : UserId) :
    (∃ user, (s.users.modifyWhere condition change).find? userId = some user ∧
      ¬ (user.isBanned = true ∨ user.deletedAt.isSome)) ↔ s.activeUser userId := by
  rw [Table.find?_modifyWhere, activeUser]
  cases s.users.find? userId with
  | none => simp
  | some user => by_cases hit : condition userId user = true <;> simp [hit, banned, deleted]

section

variable {s s' : State}

theorem Steady.refl (s : State) : Steady s s where
  deployment := rfl
  now := Nat.le_refl _
  fresh := Nat.le_refl _
  active := fun _ => Iff.rfl
  resets := fun _ stored found => ⟨stored, found, rfl, rfl⟩
  emails := fun _ stored found => ⟨stored, found, rfl, rfl⟩

theorem Steady.ofUsers (deployment : s'.deployment = s.deployment) (now : s.now ≤ s'.now)
    (fresh : s.fresh ≤ s'.fresh) (users : ∀ userId, s'.activeUser userId ↔ s.activeUser userId)
    (resets : s'.passwordResetTokens = s.passwordResetTokens)
    (emails : s'.emailChangeTokens = s.emailChangeTokens) : Steady s s' where
  deployment := deployment
  now := now
  fresh := fresh
  active := users
  resets := fun _ stored found => ⟨stored, resets ▸ found, rfl, rfl⟩
  emails := fun _ stored found => ⟨stored, emails ▸ found, rfl, rfl⟩

theorem answer_steady (request : AuthCall) (s : State) : Steady s (answer request s).2 := by
  have same : Steady s s := .refl s
  cases request with
  | userUpdateLastSeen userId | userUpdatePasswordHash userId passwordHash =>
    simp only [answer]
    split
    · exact same
    · exact .ofUsers rfl (Nat.le_refl _) (Nat.le_refl _)
        (activeUser_modifyWhere (fun _ => rfl) fun _ => rfl) rfl rfl
  | userUpdateManyPhoneVerified phone at' =>
    exact .ofUsers rfl (Nat.le_refl _) (Nat.le_refl _)
      (activeUser_modifyWhere (fun _ => rfl) fun _ => rfl) rfl rfl
  | resetPasswordTransaction id userId passwordHash =>
    simp only [answer]
    split
    · exact same
    · refine { same with active := activeUser_modifyWhere (fun _ => rfl) fun _ => rfl, resets := ?_ }
      intro other stored found
      exact find?_modify_keeps (fun row before => row.tokenHash = before.tokenHash ∧
        row.userId = before.userId) (fun _ => ⟨rfl, rfl⟩) (fun _ => ⟨rfl, rfl⟩) found
  | emailChangeTransaction id userId email =>
    simp only [answer]
    split
    · exact same
    · split
      · exact same
      · refine { same with active := activeUser_modifyWhere (fun _ => rfl) fun _ => rfl, emails := ?_ }
        intro other stored found
        exact find?_modify_keeps (fun row before => row.tokenHash = before.tokenHash ∧
          row.userId = before.userId) (fun _ => ⟨rfl, rfl⟩) (fun _ => ⟨rfl, rfl⟩) found
  | otpCodeIncrementAttempts id | otpCodeMarkUsed id at' =>
    simp only [answer]
    split <;> exact { same with }
  | otpCodeCreate phone codeHash expiresAt | bcryptHash plain | uuidv4 =>
    exact { same with fresh := Nat.le_succ _ }
  | elapse milliseconds => exact { same with now := Nat.le_add_right _ _ }
  | _ => exact { same with }

theorem present_of_answer {request : AuthCall} (adds : ∀ key seconds, request ≠ .setRefreshToken key seconds)
    {time : Nat} {key : RefreshKey} (present : ((answer request s).2.refreshTokens.get? time key).isSome) :
    (s.refreshTokens.get? time key).isSome := by
  cases request with
  | setRefreshToken other seconds => exact absurd rfl (adds other seconds)
  | delRefreshToken other =>
    simp only [answer, withRefreshTokens_refreshTokens, Keyspace.get?_delete] at present
    split at present
    · cases present
    · exact present
  | delRefreshTokens keys =>
    simp only [answer, withRefreshTokens_refreshTokens, Keyspace.get?_deleteWhere] at present
    split at present
    · cases present
    · exact present
  | userUpdateLastSeen _ | userUpdatePasswordHash _ _ | resetPasswordTransaction _ _ _
  | otpCodeIncrementAttempts _ | otpCodeMarkUsed _ _ =>
    simp only [answer] at present
    split at present <;> exact present
  | emailChangeTransaction id userId email =>
    simp only [answer] at present
    split at present
    · exact present
    · split at present <;> exact present
  | _ => exact present

end

/-! ## Every session call is quiet at first -/

def SessionCall.role (drops : UserId → Prop) (counts : State → Prop) (request : SessionCall) :
    Role where
  own := request.own
  logsIn := request.isLogin = true
  returns := request.dropsAll = false
  drops := drops
  counts := counts

section

variable {drops : UserId → Prop} {counts : State → Prop}

theorem restful_refresh (presented : Option RefreshToken) :
    Restful ((SessionCall.refresh presented).role drops counts)
      (refresh presented >>= fun pair => pure (some pair)) := by
  refine .quiet _ trivial fun s _ => ?_
  simp only [answer, pure_eq, Program.bind]
  split
  · exact .fail _
  · rename_i token verified
    by_cases typ : token.typ ≠ .refresh
    · simp only [throwIf, if_pos typ]
      exact .fail _
    · simp only [throwIf, if_neg typ]
      exact .check token (Option.filter_eq_some_iff.mp verified).1

/-- Dropping every session of a user, whatever is returned. -/
theorem restful_list {role : Role} {userId : UserId} (drops : role.drops userId)
    {Value : Type} (finish : Nat → Value) :
    Restful role ((revokeAllForUser userId >>= fun count => pure (finish count)) >>= fun _ => pure none) := by
  have same : ((revokeAllForUser userId >>= fun count => pure (finish count)) >>=
      fun _ => pure none) = (Stage.list userId).program := bind_assoc _ _ _
  rw [same]
  exact .list userId drops

variable (userId : UserId) (deployment : Deployment)

theorem restful_logout (presented : Option (Option RefreshToken)) (allDevices : Bool)
    (allowed : allDevices = true → drops userId) :
    Restful ((SessionCall.logout userId presented allDevices).role drops counts)
      (logout userId presented allDevices >>= fun _ => pure none) := by
  cases allDevices with
  | true => exact restful_list (allowed rfl) fun _ => ()
  | false =>
    cases presented with
    | none => exact .done rfl
    | some presented =>
      refine .quiet _ trivial fun s _ => ?_
      simp only [answer, pure_eq, Program.bind]
      split
      · exact .done rfl
      · refine .quiet (.delRefreshToken _) rfl fun s _ => .done rfl

theorem restful_completeLogin {role : Role} (logsIn : role.logsIn) (userId : UserId) (user : User)
    (password passwordHash : String) :
    Restful role (completeLogin userId user password passwordHash >>= fun result => pure (some result.2)) := by
  refine .quiet _ trivial fun s _ => ?_
  simp only [pure_eq, Program.bind]
  by_cases wrong : (answer (.bcryptCompare password passwordHash) s).1 = false
  · simp only [throwIf, if_pos wrong]
    exact .fail _
  · simp only [throwIf, if_neg wrong]
    refine .quiet _ trivial fun s _ => ?_
    cases (answer (.userUpdateLastSeen userId) s).1 with
    | error error => exact .fail _
    | ok _ =>
      refine .quiet _ trivial fun s _ => .quiet _ trivial fun s _ => ?_
      exact .draw userId user.username user.role logsIn

theorem restful_login (identifier password : String) :
    Restful ((SessionCall.login identifier password).role drops counts)
      (login deployment identifier password >>= fun result => pure (some result.2)) := by
  refine .quiet _ trivial fun s _ => ?_
  simp only [pure_eq, Program.bind]
  cases (answer (.userFindFirstByIdentifier (deployment.toLowerCase (jsTrim identifier))) s).1 with
  | none => exact .fail _
  | some found =>
    obtain ⟨userId, user⟩ := found
    cases hash : user.passwordHash with
    | none =>
      simp only [hash]
      exact .fail _
    | some passwordHash =>
      simp only [hash]
      by_cases banned : user.isBanned = true
      · simp only [throwIf, if_pos banned]
        exact .fail _
      · simp only [throwIf, if_neg banned]
        by_cases deleted : user.deletedAt.isSome = true
        · simp only [if_pos deleted]
          refine .quiet _ trivial fun s _ => .quiet _ trivial fun s' _ => ?_
          simp only [Program.bind]
          by_cases gone : ((answer (.accountDeletionFindUnique userId) s).1.any fun stored =>
              stored.canRestore (answer .dateNow s').1) = false
          · simp only [if_pos gone]
            exact .fail _
          · simp only [if_neg gone]
            exact restful_completeLogin rfl userId user password passwordHash
        · simp only [if_neg deleted]
          exact restful_completeLogin rfl userId user password passwordHash

theorem restful_changePassword (currentPassword newPassword : String) (allowed : drops userId) :
    Restful ((SessionCall.changePassword userId currentPassword newPassword).role drops counts)
      (changePassword userId currentPassword newPassword >>= fun _ => pure none) := by
  refine .quiet _ trivial fun s _ => ?_
  simp only [pure_eq, Program.bind]
  split
  · exact .fail _
  · rename_i passwordHash _
    refine .quiet (.bcryptCompare currentPassword passwordHash) trivial fun s _ => ?_
    simp only [Program.bind]
    by_cases wrong : (answer (.bcryptCompare currentPassword passwordHash) s).1 = false
    · simp only [throwIf, if_pos wrong]
      exact .fail _
    · simp only [throwIf, if_neg wrong]
      refine .quiet (.bcryptHash newPassword) trivial fun s _ => ?_
      refine .quiet (.userUpdatePasswordHash userId _) trivial fun s' _ => ?_
      cases (answer (.userUpdatePasswordHash userId (answer (.bcryptHash newPassword) s).1) s').1 with
      | error error => exact .fail _
      | ok _ => exact .list userId allowed

theorem find?_of_findFirst {Id Row : Type} [DecidableEq Id] {table : Table Id Row}
    {test : Id × Row → Bool} (userOf : Row → Option User) {id : Id} {row : Row} {user : User}
    (found : ((table.entries.find? test).bind fun entry =>
      (userOf entry.2).map fun user => (entry.1, entry.2, user)) = some (id, row, user)) :
    table.find? id = some row ∧ test (id, row) = true := by
  obtain ⟨⟨id', row'⟩, first, named⟩ := Option.bind_eq_some_iff.mp found
  obtain ⟨user', -, same⟩ := Option.map_eq_some_iff.mp named
  cases same
  exact ⟨(Table.mem_entries_iff table).mp (List.mem_of_find?_eq_some first),
    List.find?_some first⟩

theorem restful_resetPassword (token newPassword : String)
    (allowed : ∀ s, counts s → ∀ userId, (SessionCall.resetPassword token newPassword).Targets deployment s userId → drops userId)
    :
    Restful ((SessionCall.resetPassword token newPassword).role drops counts)
      (resetPassword deployment token newPassword >>= fun _ => pure none) := by
  refine .quiet _ trivial fun s counted => ?_
  simp only [pure_eq, Program.bind]
  split
  · exact .fail _
  · rename_i id stored user found
    have target : drops stored.userId := by
      obtain ⟨present, test⟩ :=
        find?_of_findFirst (fun row : PasswordResetToken => s.users.find? row.userId) found
      simp only [Bool.and_eq_true, decide_eq_true_eq] at test
      exact allowed s counted stored.userId ⟨id, stored, present, test.1.1, rfl⟩
    by_cases inactive : user.isBanned = true ∨ user.deletedAt.isSome
    · simp only [throwIf, if_pos inactive]
      exact .fail _
    · simp only [throwIf, if_neg inactive]
      refine .quiet (.bcryptHash newPassword) trivial fun s _ => ?_
      refine .quiet (.resetPasswordTransaction id stored.userId _) trivial fun s' _ => ?_
      cases (answer (.resetPasswordTransaction id stored.userId
        (answer (.bcryptHash newPassword) s).1) s').1 with
      | error error => exact .fail _
      | ok _ => exact .list stored.userId target

theorem restful_verifyEmailChange (token : String)
    (allowed : ∀ s, counts s → ∀ userId, (SessionCall.verifyEmailChange token).Targets deployment s userId → drops userId)
    :
    Restful ((SessionCall.verifyEmailChange token).role drops counts)
      (verifyEmailChange deployment token >>= fun _ => pure none) := by
  refine .quiet _ trivial fun s counted => ?_
  simp only [pure_eq, Program.bind]
  split
  · exact .fail _
  · rename_i id stored user found
    have target : drops stored.userId := by
      obtain ⟨present, test⟩ :=
        find?_of_findFirst (fun row : EmailChangeToken => s.users.find? row.userId) found
      simp only [Bool.and_eq_true, decide_eq_true_eq] at test
      exact allowed s counted stored.userId ⟨id, stored, present, test.1.1, rfl⟩
    by_cases inactive : user.isBanned = true ∨ user.deletedAt.isSome
    · simp only [throwIf, if_pos inactive]
      exact .fail _
    · simp only [throwIf, if_neg inactive]
      by_cases apart : pendingMatches deployment stored user = false
      · simp only [if_pos apart]
        exact .fail _
      · simp only [if_neg apart]
        refine .quiet (.emailChangeTransaction id stored.userId _) trivial fun s _ => ?_
        cases (answer (.emailChangeTransaction id stored.userId
          (normalize deployment stored.newEmail)) s).1 with
        | error error => exact .fail _
        | ok _ => exact restful_list target fun _ => ()

/-- **Every session call is quiet until it comes to the refresh tokens.** -/
theorem restful_sessionProgram (request : SessionCall)
    (allowed : ∀ s, counts s → ∀ userId, request.Targets deployment s userId → drops userId)
    (possible : ∃ s, counts s) : Restful (request.role drops counts) (sessionProgram deployment request) := by
  obtain ⟨s, counted⟩ := possible
  cases request with
  | refresh presented => exact restful_refresh presented
  | logout userId presented allDevices =>
    exact restful_logout userId presented allDevices fun all => allowed s counted userId ⟨all, rfl⟩
  | login identifier password => exact restful_login deployment identifier password
  | changePassword userId currentPassword newPassword =>
    exact restful_changePassword userId currentPassword newPassword (allowed s counted userId rfl)
  | resetPassword token newPassword => exact restful_resetPassword deployment token newPassword allowed
  | verifyEmailChange token => exact restful_verifyEmailChange deployment token allowed
  | elapse milliseconds => exact .quiet _ trivial fun s _ => .done rfl

end

/-! ## Threads at their stages -/

/-- The token a refresh is about to redeem. -/
def Stage.token? : Stage → Option RefreshToken
  | .check token => some token
  | .spend token => some token
  | .lookup token => some token
  | _ => none

section

variable {role : Role} {s : State} {stage stage' : Stage} {request : AuthCall}

theorem Lands.poised (lands : Lands role stage) {program : SessionFlow}
    (quiet : stage = .quiet program) : Poised role program := by
  subst quiet
  cases lands with
  | quiet poised => exact poised

theorem Lands.token (lands : Lands role stage) {token : RefreshToken}
    (named : stage.token? = some token) : role.own = some token := by
  cases lands with
  | check other own =>
    cases named
    exact own
  | _ => cases named

theorem Moves.token (moves : Moves role s stage request stage') {token : RefreshToken}
    (named : stage'.token? = some token) : stage.token? = some token ∨ role.own = some token := by
  cases moves with
  | quiet quiet lands => exact .inr (lands.token named)
  | pass | spend => exact .inl named
  | _ => cases named

theorem Moves.poised (moves : Moves role s stage request stage') {program : SessionFlow}
    (quiet : stage' = .quiet program) : Poised role program := by
  cases moves with
  | quiet _ lands => exact lands.poised quiet
  | _ => cases quiet

theorem Stage.finished_of_done {role : Role} {stage : Stage} {value : Option TokenPair}
    (done : stage.program = .done value)
    (poised : ∀ program, stage = .quiet program → Poised role program) : stage = .finished (.ok value) := by
  cases stage with
  | quiet program =>
    obtain ⟨request, next, rfl, -⟩ := poised program rfl
    cases done
  | finished outcome =>
    cases outcome with
    | ok result =>
      cases done
      rfl
    | error error => cases done
  | _ => cases done

end

section

variable {Index : Type}

def sessions (calls : Index → SessionCall) (s : State) :
    Pool Index AuthCall AuthReply ServiceError (Option TokenPair) State where
  threads := fun index => sessionProgram s.deployment (calls index)
  store := s

/-- Every thread is where its role lets it be. -/
structure Located (roles : Index → Role) (stages : Index → Stage) : Prop where
  poised : ∀ index program, stages index = .quiet program → Poised (roles index) program
  tokens : ∀ index token, (stages index).token? = some token → (roles index).own = some token

/-- What is said of every thread before and of the moved one after is said of every
thread after. -/
theorem forall_update [DecidableEq Index] {stages : Index → Stage} {index : Index} {stage' : Stage}
    (property : Index → Stage → Prop) (before : ∀ other, property other (stages other))
    (moved : property index stage') : ∀ other, property other (update stages index stage' other) := by
  intro other
  by_cases same : other = index
  · subst same
    rwa [update_self]
  · rw [update_of_ne same]
    exact before other

theorem Located.advance [DecidableEq Index] {roles : Index → Role} {stages : Index → Stage}
    (located : Located roles stages) {s : State} {index : Index} {request : AuthCall}
    {stage' : Stage} (moves : Moves (roles index) s (stages index) request stage') :
    Located roles (update stages index stage') where
  poised :=
    forall_update (fun index stage => ∀ program, stage = .quiet program →
      Poised (roles index) program) located.poised fun program quiet => moves.poised quiet
  tokens := by
    refine forall_update (fun index stage => ∀ token, stage.token? = some token →
      (roles index).own = some token) located.tokens fun token named => ?_
    obtain before | own := moves.token named
    · exact located.tokens index token before
    · exact own

/-- Threads start where their calls are quiet, or at once on the refresh tokens. -/
theorem sessions_land (calls : Index → SessionCall) (s : State) (drops : Index → UserId → Prop)
    (counts : Index → State → Prop) (counted : ∀ index, counts index s)
    (allowed : ∀ index s', counts index s' → ∀ userId,
      (calls index).Targets s.deployment s' userId → drops index userId) :
    ∃ stages, (sessions calls s).InStages (fun _ => Stage.program) stages ∧
      ∀ index, Lands ((calls index).role (drops index) (counts index)) (stages index) := by
  have initial (index : Index) :
      ∃ stage, Lands ((calls index).role (drops index) (counts index)) stage ∧
        stage.program = sessionProgram s.deployment (calls index) :=
    (restful_sessionProgram s.deployment (calls index) (allowed index) ⟨s, counted index⟩).lands
  choose stages lands programs using initial
  exact ⟨stages, fun index => (programs index).symm, lands⟩

theorem located_of_lands {roles : Index → Role} {stages : Index → Stage}
    (lands : ∀ index, Lands (roles index) (stages index)) : Located roles stages where
  poised := fun index _ quiet => (lands index).poised quiet
  tokens := fun index _ named => (lands index).token named

end

end Motogram.Auth
