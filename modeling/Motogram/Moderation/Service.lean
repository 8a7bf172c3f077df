import Motogram.Auth.Store

/-!
# Reports and moderation

`reports.service.ts`, the mutations of `admin.service.ts`, and the roles that `admin.controller.ts` asks of
whoever sends them. A mutation first reads the row it is about; its transaction writes the row and appends an
entry to the audit log.
-/

set_option autoImplicit false

namespace Motogram.Moderation

open Foundation Program
open Auth (UserRole)

abbrev ReportId := Nat

/-! ## Rows -/

inductive ReportTargetType where
  | user | post | comment | message | group | event
  deriving DecidableEq

inductive ReportStatus where
  | pending | reviewing | resolved | dismissed
  deriving DecidableEq

/-- `status.toLowerCase()`. -/
def ReportStatus.toLowerCase : ReportStatus → String
  | .pending => "pending"
  | .reviewing => "reviewing"
  | .resolved => "resolved"
  | .dismissed => "dismissed"

structure Report where
  reporterId : UserId
  targetType : ReportTargetType
  targetId : Nat
  reason : String
  description : Option String
  status : ReportStatus
  reviewedBy : Option UserId
  reviewedAt : Option Time
  createdAt : Time
  deriving DecidableEq

/-- The columns of `AdminUserDto`. -/
structure User where
  username : String
  email : String
  role : UserRole
  isBanned : Bool
  shadowBanned : Bool
  isVerified : Bool
  deletedAt : Option Time
  (xp level followersCount postsCount : Nat)
  createdAt : Time
  lastSeenAt : Option Time
  deriving DecidableEq

inductive AuditMetadata where
  | note (note : String)
  | reason (reason : String)
  -- `{ from, to }`
  | change (before after : UserRole)
  deriving DecidableEq

/-- What a transaction gives of an entry; its date is the default. -/
structure AuditData where
  actorUserId : UserId
  action : String
  targetType : String
  targetId : Nat
  metadata : Option AuditMetadata
  deriving DecidableEq

structure AuditLog extends AuditData where
  createdAt : Time
  deriving DecidableEq

/-! ## Requests -/

structure CreateReportDto where
  targetType : ReportTargetType
  targetId : Nat
  reason : String
  description : Option String

/-- What `ReviewReportSchema` accepts. -/
structure ReviewReportDto where
  status : ReportStatus
  resolutionNote : Option String
  decided : status ≠ .pending

/-- A body that `BanUserSchema` accepts; the controller passes it on as it came, without the default. -/
structure BanUserDto where
  reason : String
  shadowOnly : Option Bool

structure SetUserRoleDto where
  role : UserRole

/-- What the token says of the caller. -/
structure AuthenticatedUser where
  userId : UserId
  role : UserRole

/-! ## The database -/

structure State where
  users : Table UserId User
  reports : Table ReportId Report
  auditLog : List AuditLog
  fresh : ReportId
  now : Time

/-- Nobody has sent a report, and no moderator has done anything. -/
def State.initial (users : Table UserId User) (now : Time) : State := ⟨users, .empty, [], 0, now⟩

/-- The columns an update names. -/
structure UserUpdate where
  role : Option UserRole
  isBanned : Option Bool
  shadowBanned : Option Bool

def UserUpdate.apply (data : UserUpdate) (user : User) : User :=
  { user with
    role := data.role.getD user.role
    isBanned := data.isBanned.getD user.isBanned
    shadowBanned := data.shadowBanned.getD user.shadowBanned }

inductive ModerationCall where
  | dateNow
  | reportFindDuplicate (reporterId : UserId) (targetType : ReportTargetType) (targetId : Nat) (since : Time)
  | reportCreate (reporterId : UserId) (dto : CreateReportDto)
  | reportFindUnique (reportId : ReportId)
  | reviewTransaction (reportId : ReportId) (status : ReportStatus) (reviewedBy : UserId) (entry : AuditData)
  | userFindUnique (userId : UserId)
  | userTransaction (userId : UserId) (data : UserUpdate) (entry : AuditData)
  -- time passes
  | elapse (milliseconds : Nat)

@[reducible] def ModerationReply : ModerationCall → Type
  | .dateNow => Time
  | .reportFindDuplicate _ _ _ _ => Bool
  | .reportCreate _ _ => ReportId × Report
  | .reportFindUnique _ => Option Report
  | .reviewTransaction _ _ _ _ => Except PrismaError Report
  | .userFindUnique _ => Option User
  | .userTransaction _ _ _ => Except PrismaError User
  | .elapse _ => Unit

/-- The report has been sent by this rider on this target. -/
def Report.concerns (report : Report) (reporterId : UserId) (targetType : ReportTargetType) (targetId : Nat) : Bool :=
  decide (report.reporterId = reporterId ∧ report.targetType = targetType ∧ report.targetId = targetId)

def newReport (now : Time) (reporterId : UserId) (dto : CreateReportDto) : Report where
  reporterId := reporterId
  targetType := dto.targetType
  targetId := dto.targetId
  reason := dto.reason
  description := dto.description
  status := .pending
  reviewedBy := none
  reviewedAt := none
  createdAt := now

def State.audited (s : State) (entry : AuditData) : State :=
  { s with auditLog := s.auditLog ++ [⟨entry, s.now⟩] }

def Report.reviewed (status : ReportStatus) (reviewedBy : UserId) (now : Time) (report : Report) : Report :=
  { report with status := status, reviewedBy := some reviewedBy, reviewedAt := some now }

/-- A transaction that finds no row to update is rolled back. -/
def answer : (request : ModerationCall) → State → ModerationReply request × State
  | .dateNow, s => (s.now, s)
  | .reportFindDuplicate reporterId targetType targetId since, s =>
    (s.reports.entries.any fun entry =>
      entry.2.concerns reporterId targetType targetId && decide (since ≤ entry.2.createdAt), s)
  | .reportCreate reporterId dto, s =>
    let report := newReport s.now reporterId dto
    ((s.fresh, report), { s with reports := s.reports.insert s.fresh report, fresh := s.fresh + 1 })
  | .reportFindUnique reportId, s => (s.reports.find? reportId, s)
  | .reviewTransaction reportId status reviewedBy entry, s =>
    match s.reports.find? reportId with
    | none => (.error .recordNotFound, s)
    | some report =>
      (.ok (report.reviewed status reviewedBy s.now),
        { s with reports := s.reports.modify reportId (Report.reviewed status reviewedBy s.now) }.audited entry)
  | .userFindUnique userId, s => (s.users.find? userId, s)
  | .userTransaction userId data entry, s =>
    match s.users.find? userId with
    | none => (.error .recordNotFound, s)
    | some user => (.ok (data.apply user), { s with users := s.users.modify userId data.apply }.audited entry)
  | .elapse milliseconds, s => ((), { s with now := s.now + milliseconds })

abbrev Flow (Value : Type) := Program ModerationCall ModerationReply ServiceError Value

abbrev call (request : ModerationCall) : Flow (ModerationReply request) := .call request .done

def rethrow {Value : Type} : Except PrismaError Value → Flow Value
  | .ok value => .done value
  | .error error => .fail (.prisma error)

/-! ## Reports -/

/-- `REPORT_DEDUPE_WINDOW_MS`. -/
def reportDedupeWindowMs : Nat := 24 * 60 * 60 * 1000

def reportDuplicate : ServiceError := .http .conflict "report_duplicate" .conflict none

/-- `ReportsService.create`. -/
def createReport (reporterId : UserId) (dto : CreateReportDto) : Flow (ReportId × Report) := do
  let now : Time ← call .dateNow
  let duplicate : Bool ← call (.reportFindDuplicate reporterId dto.targetType dto.targetId (now - reportDedupeWindowMs))
  throwIf (duplicate = true) reportDuplicate
  call (.reportCreate reporterId dto)

/-! ## Mutations -/

def reportNotFound : ServiceError := .http .notFound "report_not_found" .notFound none
def userNotFound : ServiceError := .http .notFound "user_not_found" .notFound none

def reviewReport (reportId : ReportId) (actorId : UserId) (dto : ReviewReportDto) : Flow Report := do
  let existing : Option Report ← call (.reportFindUnique reportId)
  throwIf (existing = none) reportNotFound
  let updated : Except PrismaError Report ← call (.reviewTransaction reportId dto.status actorId
    ⟨actorId, "report." ++ dto.status.toLowerCase, "report", reportId, (dto.resolutionNote.filter (· ≠ "")).map .note⟩)
  rethrow updated

/-- What the three functions on users share: the row is read, and what it is changed to may depend on it. -/
def moderate (userId : UserId) (change : User → UserUpdate × AuditData) : Flow User := do
  let user : Option User ← call (.userFindUnique userId)
  match user with
  | none => .fail userNotFound
  | some user => do
    let updated : Except PrismaError User ← call (.userTransaction userId (change user).1 (change user).2)
    rethrow updated

def banUser (userId actorId : UserId) (dto : BanUserDto) : Flow User :=
  moderate userId fun _ =>
    if dto.shadowOnly = some true then
      (⟨none, none, some true⟩, ⟨actorId, "user.shadow_banned", "user", userId, some (.reason dto.reason)⟩)
    else (⟨none, some true, some true⟩, ⟨actorId, "user.banned", "user", userId, some (.reason dto.reason)⟩)

def unbanUser (userId actorId : UserId) : Flow User :=
  moderate userId fun _ => (⟨none, some false, some false⟩, ⟨actorId, "user.unbanned", "user", userId, none⟩)

def setUserRole (userId actorId : UserId) (dto : SetUserRoleDto) : Flow User :=
  moderate userId fun user =>
    (⟨some dto.role, none, none⟩,
      ⟨actorId, "user.role_changed", "user", userId, some (.change user.role dto.role)⟩)

/-! ## Routes -/

def insufficientRole : ServiceError := .http .forbidden "insufficient_role" .forbidden none

/-- `RolesGuard`, after the token has been verified. -/
def rolesGuard (required : List UserRole) (user : AuthenticatedUser) : Flow Unit :=
  throwIf (user.role ∉ required) insufficientRole

inductive AdminRequest where
  | createReport (dto : CreateReportDto)
  | reviewReport (reportId : ReportId) (dto : ReviewReportDto)
  | banUser (userId : UserId) (dto : BanUserDto)
  | unbanUser (userId : UserId)
  | setRole (userId : UserId) (dto : SetUserRoleDto)
  | pause (milliseconds : Nat)

/-- The roles that the decorator of a route names; everyone may send a report. -/
def AdminRequest.roles : AdminRequest → List UserRole
  | .reviewReport _ _ | .banUser _ _ | .unbanUser _ => [.admin, .moderator]
  | .setRole _ _ => [.admin]
  | .createReport _ | .pause _ => [.user, .moderator, .admin]

def AdminRequest.handler (actor : UserId) : AdminRequest → Flow Unit
  | .createReport dto => Moderation.createReport actor dto >>= fun _ => pure ()
  | .reviewReport reportId dto => Moderation.reviewReport reportId actor dto >>= fun _ => pure ()
  | .banUser userId dto => Moderation.banUser userId actor dto >>= fun _ => pure ()
  | .unbanUser userId => Moderation.unbanUser userId actor >>= fun _ => pure ()
  | .setRole userId dto => Moderation.setUserRole userId actor dto >>= fun _ => pure ()
  | .pause milliseconds => call (.elapse milliseconds)

def AdminRequest.program (request : AdminRequest) (user : AuthenticatedUser) : Flow Unit := do
  rolesGuard request.roles user
  request.handler user.userId

end Motogram.Moderation
