import Mathlib.Data.Fintype.Basic
import Motogram.Emergency.Service
import Motogram.Foundation.Staging
import Motogram.System

/-!
# A closed alert stays closed

`respond` refuses an alert that is resolved or cancelled, and not one that was a false
alarm; `resolve` refuses none. Both read the alert and write it, or a responder row, in
later calls. So a false alarm gains responders (`false_alarm_gains_responder`), a resolved
alert is cancelled, and an alert that is closed between the read and the writes of an
answer is opened again.

When every call that goes on to write has read an alert that is not closed, and an alert
is closed only while no other call is between its read and its writes, no step changes
a closed alert or its responder rows (`closed_stays_closed`).
-/

set_option autoImplicit false

namespace Motogram.Emergency

open Foundation Program Function Table Pool State

variable {Index : Type}

/-! ## Calls -/

/-- A call about an alert, or the passage of time. -/
inductive AlertCall where
  | respond (responderId : UserId) (alertId : AlertId) (dto : RespondEmergencyAlertDto)
  | resolve (userId : UserId) (alertId : AlertId) (resolution : Resolution)
  | elapse (milliseconds : Nat)

def alertProgram : AlertCall → Flow Unit
  | .respond responderId alertId dto => do
    let _ ← respond responderId alertId dto
    pure ()
  | .resolve userId alertId resolution => do
    let _ ← resolve userId alertId resolution
    pure ()
  | .elapse milliseconds => call (.elapse milliseconds)

def AlertCall.alertId? : AlertCall → Option AlertId
  | .respond _ alertId _ => some alertId
  | .resolve _ alertId _ => some alertId
  | .elapse _ => none

abbrev AlertPool (Index : Type) := Pool Index EmergencyCall EmergencyReply EmergencyError Unit State

/-- Calls about alerts that share the stores. -/
def alertCalls (calls : Index → AlertCall) (s : State) : AlertPool Index where
  threads := fun index => alertProgram (calls index)
  store := s

/-! ## Closed alerts -/

def EmergencyStatus.closed : EmergencyStatus → Bool
  | .resolved => true
  | .cancelled => true
  | .falseAlarm => true
  | _ => false

def State.Closed (s : State) (alertId : AlertId) : Prop :=
  ∃ alert, s.emergencyAlerts.find? alertId = some alert ∧ alert.status.closed = true

instance (s : State) (alertId : AlertId) : Decidable (s.Closed alertId) :=
  decidable_of_iff
    ((s.emergencyAlerts.find? alertId).any (fun alert => alert.status.closed) = true) (by
      rw [Closed, Option.any_eq_true])

/-- The status of an alert and the dates of its end. -/
def State.verdict (s : State) (alertId : AlertId) :
    Option (EmergencyStatus × Option Time × Option Time) :=
  (s.emergencyAlerts.find? alertId).map fun alert =>
    (alert.status, alert.resolvedAt, alert.cancelledAt)

/-- Neither the verdict of the alert nor a responder row of it differs. -/
def Unchanged (alertId : AlertId) (s s' : State) : Prop :=
  s'.verdict alertId = s.verdict alertId ∧ ∀ responderId,
    s'.emergencyResponders.find? (alertId, responderId) =
      s.emergencyResponders.find? (alertId, responderId)

/-- No step of the run changes the alert once it is closed. -/
def StaysClosed [DecidableEq Index] (alertId : AlertId) (pool : AlertPool Index)
    (schedule : List Index) : Prop :=
  EachStep (advance answer)
    (fun pool index => pool.store.Closed alertId →
      Unchanged alertId pool.store (pool.advance answer index).store) pool schedule

/-! ## The condition -/

/-- The calls of `respond` and `resolve` between the read of the alert and the last write. -/
def EmergencyCall.pending : EmergencyCall → Bool
  | .emergencyResponderFindUnique _ _ => true
  | .dateNow => true
  | .emergencyResponderUpsert _ _ _ => true
  | .emergencyAlertUpdate _ _ => true
  | _ => false

/-- The call has read the alert and is still to write. -/
def Pending (calls : Index → AlertCall) (pool : AlertPool Index) (alertId : AlertId)
    (index : Index) : Prop :=
  (calls index).alertId? = some alertId ∧ (pool.next? index).any EmergencyCall.pending = true

instance (calls : Index → AlertCall) (pool : AlertPool Index) (alertId : AlertId) (index : Index) :
    Decidable (Pending calls pool alertId index) :=
  inferInstanceAs (Decidable (_ ∧ _))

/-- The call reads an alert that it goes on to write, and that is closed though the call
does not refuse it. -/
def AlertCall.Reopens (request : AlertCall) (alert : EmergencyAlert) : Prop :=
  match request with
  | .respond responderId _ _ => alert.userId ≠ responderId ∧ alert.status = .falseAlarm
  | .resolve userId _ _ => alert.userId = userId ∧ alert.status.closed = true
  | .elapse _ => False

instance (request : AlertCall) (alert : EmergencyAlert) : Decidable (request.Reopens alert) := by
  unfold AlertCall.Reopens
  split <;> infer_instance

/-- A call reads no closed alert to write it, and closes an alert only while no other call
is between its read and its writes. -/
def RespectsClosing (calls : Index → AlertCall) (pool : AlertPool Index) (index : Index) : Prop :=
  match pool.next? index with
  | some (.emergencyAlertFindFirst alertId) =>
    ∀ alert ∈ (pool.store.emergencyAlerts.find? alertId).filter fun alert => alert.deletedAt.isNone,
      ¬ (calls index).Reopens alert
  | some (.emergencyAlertUpdate alertId (.close _ _ _)) =>
    ∀ other, other ≠ index → ¬ Pending calls pool alertId other
  | _ => True

instance [Fintype Index] [DecidableEq Index] (calls : Index → AlertCall) (pool : AlertPool Index)
    (index : Index) : Decidable (RespectsClosing calls pool index) := by
  unfold RespectsClosing
  split <;> infer_instance

/-! ## Stages -/

/-- A call that neither reads an alert nor writes one or a responder row. -/
def EmergencyCall.Quiet : EmergencyCall → Prop
  | .emergencyResponderFindMany _ | .notificationPreferenceFindUnique _ | .notificationCreate _
  | .emit _ | .elapse _ => True
  | _ => False

/-- How far a call has come. After its last write it is quiet. -/
inductive AlertStage where
  | quiet (program : Flow Unit)
  | readToRespond (responderId : UserId) (alertId : AlertId) (dto : RespondEmergencyAlertDto)
  | lookup (responderId : UserId) (alertId : AlertId) (dto : RespondEmergencyAlertDto)
      (alert : EmergencyAlert)
  | clockResponse (responderId : UserId) (alertId : AlertId) (dto : RespondEmergencyAlertDto)
      (alert : EmergencyAlert) (existing : Option EmergencyResponder)
  | save (responderId : UserId) (alertId : AlertId) (dto : RespondEmergencyAlertDto)
      (alert : EmergencyAlert) (existing : Option EmergencyResponder) (now : Time)
  | acknowledge (responderId : UserId) (alertId : AlertId) (dto : RespondEmergencyAlertDto)
      (alert : EmergencyAlert) (existing : Option EmergencyResponder) (saved : EmergencyResponder)
  | readToResolve (userId : UserId) (alertId : AlertId) (resolution : Resolution)
  | clockClosing (alertId : AlertId) (resolution : Resolution)
  | close (alertId : AlertId) (resolution : Resolution) (now : Time)

/-- The alert a stage is still to write. -/
def AlertStage.pending? : AlertStage → Option AlertId
  | .lookup _ alertId _ _ => some alertId
  | .clockResponse _ alertId _ _ _ => some alertId
  | .save _ alertId _ _ _ _ => some alertId
  | .acknowledge _ alertId _ _ _ _ => some alertId
  | .clockClosing alertId _ => some alertId
  | .close alertId _ _ => some alertId
  | _ => none

/-- `respond` from the lookup of the row on. -/
def respondAfterRead (responderId : UserId) (alertId : AlertId) (dto : RespondEmergencyAlertDto)
    (alert : EmergencyAlert) : Flow EmergencyResponderDto := do
  let existing : Option EmergencyResponder ←
    call (.emergencyResponderFindUnique alertId responderId)
  let now : Time ← call .dateNow
  saveResponse responderId alertId dto alert existing now

/-- `respond` from the update of the alert on. -/
def acknowledgeAlert (responderId : UserId) (alertId : AlertId) (dto : RespondEmergencyAlertDto)
    (alert : EmergencyAlert) (existing : Option EmergencyResponder) (saved : EmergencyResponder) :
    Flow EmergencyResponderDto := do
  let updated : Except PrismaError EmergencyAlert ← call (.emergencyAlertUpdate alertId .acknowledge)
  let _ ← rethrow updated
  announceResponse responderId alertId dto alert.userId existing saved

def AlertStage.program : AlertStage → Flow Unit
  | .quiet program => program
  | .readToRespond responderId alertId dto =>
    respond responderId alertId dto >>= fun _ => pure ()
  | .lookup responderId alertId dto alert =>
    respondAfterRead responderId alertId dto alert >>= fun _ => pure ()
  | .clockResponse responderId alertId dto alert existing =>
    (call .dateNow >>= fun now : Time =>
      saveResponse responderId alertId dto alert existing now) >>= fun _ => pure ()
  | .save responderId alertId dto alert existing now =>
    saveResponse responderId alertId dto alert existing now >>= fun _ => pure ()
  | .acknowledge responderId alertId dto alert existing saved =>
    acknowledgeAlert responderId alertId dto alert existing saved >>= fun _ => pure ()
  | .readToResolve userId alertId resolution =>
    resolve userId alertId resolution >>= fun _ => pure ()
  | .clockClosing alertId resolution =>
    (call .dateNow >>= fun now : Time => closeAlert alertId resolution now) >>= fun _ => pure ()
  | .close alertId resolution now =>
    closeAlert alertId resolution now >>= fun _ => pure ()

/-- One call of a thread: the stage before it and the stage after it, in the store that
answers the call. -/
inductive AlertMoves (s : State) : AlertStage → EmergencyCall → AlertStage → Prop where
  | quiet {program program' : Flow Unit} {request : EmergencyCall} (quiet : request.Quiet)
      (rest : program'.Uses EmergencyCall.Quiet) :
      AlertMoves s (.quiet program) request (.quiet program')
  | refuseResponse {responderId : UserId} {alertId : AlertId} {dto : RespondEmergencyAlertDto}
      {error : EmergencyError} :
      AlertMoves s (.readToRespond responderId alertId dto) (.emergencyAlertFindFirst alertId)
        (.quiet (.fail error))
  | readToRespond {responderId : UserId} {alertId : AlertId} {dto : RespondEmergencyAlertDto}
      {alert : EmergencyAlert}
      (found : (s.emergencyAlerts.find? alertId).filter (fun alert => alert.deletedAt.isNone) =
        some alert)
      (other : alert.userId ≠ responderId)
      (unrefused : ¬ (alert.status = .resolved ∨ alert.status = .cancelled)) :
      AlertMoves s (.readToRespond responderId alertId dto) (.emergencyAlertFindFirst alertId)
        (.lookup responderId alertId dto alert)
  | lookup {responderId : UserId} {alertId : AlertId} {dto : RespondEmergencyAlertDto}
      {alert : EmergencyAlert} (existing : Option EmergencyResponder) :
      AlertMoves s (.lookup responderId alertId dto alert)
        (.emergencyResponderFindUnique alertId responderId)
        (.clockResponse responderId alertId dto alert existing)
  | clockResponse {responderId : UserId} {alertId : AlertId} {dto : RespondEmergencyAlertDto}
      {alert : EmergencyAlert} {existing : Option EmergencyResponder} :
      AlertMoves s (.clockResponse responderId alertId dto alert existing) .dateNow
        (.save responderId alertId dto alert existing s.base.now)
  | saveLast {responderId : UserId} {alertId : AlertId} {dto : RespondEmergencyAlertDto}
      {alert : EmergencyAlert} {existing : Option EmergencyResponder} {now : Time}
      {patch : ResponderPatch} {program' : Flow Unit} (rest : program'.Uses EmergencyCall.Quiet) :
      AlertMoves s (.save responderId alertId dto alert existing now)
        (.emergencyResponderUpsert alertId responderId patch) (.quiet program')
  | save {responderId : UserId} {alertId : AlertId} {dto : RespondEmergencyAlertDto}
      {alert : EmergencyAlert} {existing : Option EmergencyResponder} {now : Time}
      {patch : ResponderPatch} (saved : EmergencyResponder) :
      AlertMoves s (.save responderId alertId dto alert existing now)
        (.emergencyResponderUpsert alertId responderId patch)
        (.acknowledge responderId alertId dto alert existing saved)
  | acknowledge {responderId : UserId} {alertId : AlertId} {dto : RespondEmergencyAlertDto}
      {alert : EmergencyAlert} {existing : Option EmergencyResponder} {saved : EmergencyResponder}
      {program' : Flow Unit} (rest : program'.Uses EmergencyCall.Quiet) :
      AlertMoves s (.acknowledge responderId alertId dto alert existing saved)
        (.emergencyAlertUpdate alertId .acknowledge) (.quiet program')
  | refuseClosing {userId : UserId} {alertId : AlertId} {resolution : Resolution}
      {error : EmergencyError} :
      AlertMoves s (.readToResolve userId alertId resolution) (.emergencyAlertFindFirst alertId)
        (.quiet (.fail error))
  | readToResolve {userId : UserId} {alertId : AlertId} {resolution : Resolution}
      {alert : EmergencyAlert}
      (found : (s.emergencyAlerts.find? alertId).filter (fun alert => alert.deletedAt.isNone) =
        some alert)
      (own : alert.userId = userId) :
      AlertMoves s (.readToResolve userId alertId resolution) (.emergencyAlertFindFirst alertId)
        (.clockClosing alertId resolution)
  | clockClosing {alertId : AlertId} {resolution : Resolution} :
      AlertMoves s (.clockClosing alertId resolution) .dateNow (.close alertId resolution s.base.now)
  | close {alertId : AlertId} {resolution : Resolution} {now : Time} {program' : Flow Unit}
      (rest : program'.Uses EmergencyCall.Quiet) :
      AlertMoves s (.close alertId resolution now)
        (.emergencyAlertUpdate alertId (closingPatch resolution now)) (.quiet program')

/-- A notification is no alert and no responder row. -/
theorem createNotification_uses (notification : Notification) :
    (createNotification notification).Uses EmergencyCall.Quiet := by
  refine Uses.send trivial fun stored => ?_
  split
  · refine Uses.send trivial fun created => ?_
    cases created <;> trivial
  · trivial

theorem announceResponse_uses (responderId : UserId) (alertId : AlertId) (dto : RespondEmergencyAlertDto)
    (ownerId : UserId) (existing : Option EmergencyResponder) (saved : EmergencyResponder) :
    (announceResponse responderId alertId dto ownerId existing saved).Uses EmergencyCall.Quiet := by
  refine Uses.send trivial fun _ => ?_
  split
  · refine Uses.send trivial fun _ => ?_
    exact (createNotification_uses _).bind fun _ => trivial
  · trivial

/-- What follows an upsert: the update of the alert, or the end of the answer. -/
theorem saved_moves (s : State) (responderId : UserId) (alertId : AlertId)
    (dto : RespondEmergencyAlertDto) (alert : EmergencyAlert) (existing : Option EmergencyResponder)
    (now : Time) (reply : Except PrismaError EmergencyResponder) :
    ∃ stage', AlertMoves s (.save responderId alertId dto alert existing now)
        (.emergencyResponderUpsert alertId responderId (responderPatch dto now)) stage' ∧
      ((rethrow reply >>= fun saved =>
        if dto.status = .acknowledged ∧ alert.status = .opened then
          acknowledgeAlert responderId alertId dto alert existing saved
        else announceResponse responderId alertId dto alert.userId existing saved) >>=
          fun _ => pure ()) = stage'.program := by
  cases reply with
  | error error => exact ⟨.quiet (.fail (.prisma error)), .saveLast trivial, rfl⟩
  | ok saved =>
    by_cases first : dto.status = .acknowledged ∧ alert.status = .opened
    · refine ⟨.acknowledge responderId alertId dto alert existing saved, .save saved, ?_⟩
      rw [rethrow, done_bind, if_pos first]
      rfl
    · refine ⟨.quiet _, .saveLast ?_, rfl⟩
      rw [rethrow, done_bind, if_neg first]
      exact (announceResponse_uses _ _ _ _ _ _).bind fun _ => trivial

/-- **A call makes the moves of its stages.** -/
theorem alert_follows (stage : AlertStage) (s : State)
    (quiet : ∀ program, stage = .quiet program → program.Uses EmergencyCall.Quiet) :
    Follows answer AlertStage.program AlertMoves stage s := by
  cases stage with
  | quiet program =>
    cases program with
    | done | fail => exact .inl rfl
    | call request next =>
      obtain ⟨permitted, rest⟩ := quiet _ rfl
      exact .inr ⟨request, next, .quiet _, rfl, .quiet permitted (rest _), rfl⟩
  | readToRespond responderId alertId dto =>
    cases found : (s.emergencyAlerts.find? alertId).filter fun alert => alert.deletedAt.isNone with
    | none =>
      refine .inr ⟨_, _, .quiet (.fail alertNotFound), rfl, .refuseResponse, ?_⟩
      simp only [answer, found]
      rfl
    | some alert =>
      by_cases own : alert.userId = responderId
      · refine .inr ⟨_, _, .quiet (.fail cannotRespondToOwnAlert), rfl, .refuseResponse, ?_⟩
        simp only [answer, found, Program.bind, throwIf, if_pos own]
        rfl
      · by_cases refused : alert.status = .resolved ∨ alert.status = .cancelled
        · refine .inr ⟨_, _, .quiet (.fail alertClosed), rfl, .refuseResponse, ?_⟩
          simp only [answer, found, Program.bind, throwIf, if_neg own, if_pos refused]
          rfl
        · refine .inr ⟨_, _, .lookup responderId alertId dto alert, rfl,
            .readToRespond found own refused, ?_⟩
          simp only [answer, found, Program.bind, throwIf, if_neg own, if_neg refused]
          rfl
  | lookup responderId alertId dto alert => exact .inr ⟨_, _, _, rfl, .lookup _, rfl⟩
  | clockResponse responderId alertId dto alert existing =>
    exact .inr ⟨_, _, _, rfl, .clockResponse, rfl⟩
  | save responderId alertId dto alert existing now =>
    obtain ⟨stage', moves, rest⟩ := saved_moves s responderId alertId dto alert existing now
      (answer (.emergencyResponderUpsert alertId responderId (responderPatch dto now)) s).1
    exact .inr ⟨_, _, stage', rfl, moves, rest⟩
  | acknowledge responderId alertId dto alert existing saved =>
    refine .inr ⟨_, _, .quiet _, rfl, .acknowledge ?_, rfl⟩
    cases (answer (.emergencyAlertUpdate alertId .acknowledge) s).1 with
    | error error => trivial
    | ok alert' => exact (announceResponse_uses _ _ _ _ _ _).bind fun _ => trivial
  | readToResolve userId alertId resolution =>
    cases found : (s.emergencyAlerts.find? alertId).filter fun alert => alert.deletedAt.isNone with
    | none =>
      refine .inr ⟨_, _, .quiet (.fail alertNotFound), rfl, .refuseClosing, ?_⟩
      simp only [answer, found]
      rfl
    | some alert =>
      by_cases own : alert.userId = userId
      · refine .inr ⟨_, _, .clockClosing alertId resolution, rfl, .readToResolve found own, ?_⟩
        simp only [answer, found, Program.bind, throwIf, if_neg (not_not.mpr own)]
        rfl
      · refine .inr ⟨_, _, .quiet (.fail notAlertOwner), rfl, .refuseClosing, ?_⟩
        simp only [answer, found, Program.bind, throwIf, if_pos own]
        rfl
  | clockClosing alertId resolution => exact .inr ⟨_, _, _, rfl, .clockClosing, rfl⟩
  | close alertId resolution now =>
    refine .inr ⟨_, _, .quiet _, rfl, .close ?_, rfl⟩
    cases (answer (.emergencyAlertUpdate alertId (closingPatch resolution now)) s).1 with
    | error error => trivial
    | ok alert' => exact ⟨trivial, fun _ => ⟨trivial, fun _ => trivial⟩⟩

theorem alertProgram_starts (request : AlertCall) :
    ∃ stage : AlertStage, stage.program = alertProgram request ∧ stage.pending? = none ∧
      (∀ program, stage = .quiet program → program.Uses EmergencyCall.Quiet) ∧
      (∀ responderId alertId dto, stage = .readToRespond responderId alertId dto →
        request = .respond responderId alertId dto) ∧
      ∀ userId alertId resolution, stage = .readToResolve userId alertId resolution →
        request = .resolve userId alertId resolution := by
  cases request with
  | respond responderId alertId dto =>
    refine ⟨.readToRespond responderId alertId dto, rfl, rfl, fun _ => by rintro ⟨⟩, ?_, ?_⟩
    · rintro _ _ _ ⟨⟩
      rfl
    · rintro _ _ _ ⟨⟩
  | resolve userId alertId resolution =>
    refine ⟨.readToResolve userId alertId resolution, rfl, rfl, fun _ => by rintro ⟨⟩, ?_, ?_⟩
    · rintro _ _ _ ⟨⟩
    · rintro _ _ _ ⟨⟩
      rfl
  | elapse milliseconds =>
    refine ⟨.quiet _, rfl, rfl, fun program same => ?_, ?_, ?_⟩
    · cases same
      exact ⟨trivial, fun _ => trivial⟩
    · rintro _ _ _ ⟨⟩
    · rintro _ _ _ ⟨⟩

/-! ## What a move changes -/

section Moves

variable {s : State} {stage stage' : AlertStage} {request : EmergencyCall} {alertId : AlertId}

theorem EmergencyCall.Quiet.kept (quiet : request.Quiet) :
    (answer request s).2.emergencyAlerts = s.emergencyAlerts ∧
      (answer request s).2.emergencyResponders = s.emergencyResponders := by
  cases request with
  | notificationCreate notification =>
    simp only [answer]
    split <;> exact ⟨rfl, rfl⟩
  | emergencyResponderFindMany | notificationPreferenceFindUnique | emit | elapse =>
    exact ⟨rfl, rfl⟩
  | _ => cases quiet

theorem unchanged_of_kept (alerts : (answer request s).2.emergencyAlerts = s.emergencyAlerts)
    (responders : (answer request s).2.emergencyResponders = s.emergencyResponders) :
    Unchanged alertId s (answer request s).2 := by
  refine ⟨?_, fun responderId => ?_⟩
  · rw [verdict, verdict, alerts]
  · rw [responders]

theorem unchanged_update {other : AlertId} (different : other ≠ alertId) (patch : AlertPatch) :
    Unchanged alertId s (answer (.emergencyAlertUpdate other patch) s).2 := by
  simp only [answer]
  split
  · exact ⟨rfl, fun _ => rfl⟩
  · refine ⟨?_, fun _ => rfl⟩
    rw [verdict, verdict, withAlerts_emergencyAlerts,
      find?_modify_of_ne _ (Ne.symm different)]

theorem unchanged_upsert {other : AlertId} (different : other ≠ alertId) (responderId : UserId)
    (patch : ResponderPatch) :
    Unchanged alertId s (answer (.emergencyResponderUpsert other responderId patch) s).2 := by
  have apart : ∀ rider, (alertId, rider) ≠ (other, responderId) :=
    fun rider same => different (congrArg Prod.fst same).symm
  simp only [answer]
  split
  · refine ⟨rfl, fun rider => ?_⟩
    rw [withResponders_emergencyResponders, find?_modify_of_ne _ (apart rider)]
  · split
    · refine ⟨rfl, fun rider => ?_⟩
      rw [withFresh_emergencyResponders, withResponders_emergencyResponders,
        find?_insert_of_ne _ (apart rider)]
    · exact ⟨rfl, fun _ => rfl⟩

/-- **A thread that is not about to write an alert leaves it as it is.** -/
theorem AlertMoves.unchanged (moves : AlertMoves s stage request stage')
    (idle : stage.pending? ≠ some alertId) : Unchanged alertId s (answer request s).2 := by
  cases moves with
  | quiet quiet _ => exact unchanged_of_kept quiet.kept.1 quiet.kept.2
  | refuseResponse | readToRespond | lookup | clockResponse | refuseClosing | readToResolve
  | clockClosing => exact unchanged_of_kept rfl rfl
  | saveLast _ | save _ => exact unchanged_upsert (fun same => idle (congrArg some same)) _ _
  | acknowledge _ | close _ => exact unchanged_update (fun same => idle (congrArg some same)) _

theorem closed_update {other : AlertId} {patch : AlertPatch}
    (closed : (answer (.emergencyAlertUpdate other patch) s).2.Closed alertId) :
    s.Closed alertId ∨ other = alertId ∧ ∃ alert, (patch.apply alert).status.closed = true := by
  obtain ⟨alert', found', isClosed⟩ := closed
  by_cases here : other = alertId
  · subst here
    cases found : s.emergencyAlerts.find? other with
    | none =>
      simp only [answer, found] at found'
      cases found'
    | some alert =>
      simp only [answer, found, withAlerts_emergencyAlerts, find?_modify_self,
        Option.map_some] at found'
      cases found'
      exact .inr ⟨rfl, alert, isClosed⟩
  · refine .inl ⟨alert', ?_, isClosed⟩
    simp only [answer] at found'
    split at found'
    · exact found'
    · rwa [withAlerts_emergencyAlerts, find?_modify_of_ne _ (Ne.symm here)] at found'

/-- **An alert is closed by an update that closes it**, and by nothing else. -/
theorem AlertMoves.closes (moves : AlertMoves s stage request stage')
    (closed : (answer request s).2.Closed alertId) :
    s.Closed alertId ∨ ∃ resolution resolvedAt cancelledAt,
      request = .emergencyAlertUpdate alertId (.close resolution resolvedAt cancelledAt) := by
  have same : (answer request s).2.emergencyAlerts = s.emergencyAlerts → s.Closed alertId := by
    intro kept
    rwa [Closed, kept] at closed
  cases moves with
  | quiet quiet _ => exact .inl (same quiet.kept.1)
  | refuseResponse | readToRespond | lookup | clockResponse | refuseClosing | readToResolve
  | clockClosing => exact .inl closed
  | saveLast _ | save _ =>
    refine .inl (same ?_)
    simp only [answer]
    split
    · rfl
    · split <;> rfl
  | acknowledge _ =>
    obtain before | ⟨-, alert, isClosed⟩ := closed_update closed
    · exact .inl before
    · cases isClosed
  | close _ =>
    obtain before | ⟨rfl, -⟩ := closed_update closed
    · exact .inl before
    · exact .inr ⟨_, _, _, rfl⟩

/-- A thread that is about to write an alert was so before, or has just read it. -/
theorem AlertMoves.pending (moves : AlertMoves s stage request stage')
    (pending : stage'.pending? = some alertId) :
    stage.pending? = some alertId ∨ ∃ alert,
      request = .emergencyAlertFindFirst alertId ∧
      (s.emergencyAlerts.find? alertId).filter (fun alert => alert.deletedAt.isNone) = some alert ∧
        ((∃ responderId dto, stage = .readToRespond responderId alertId dto ∧
            alert.userId ≠ responderId ∧ ¬ (alert.status = .resolved ∨ alert.status = .cancelled)) ∨
          ∃ userId resolution, stage = .readToResolve userId alertId resolution ∧
            alert.userId = userId) := by
  cases moves with
  | lookup | clockResponse | save | clockClosing => exact .inl pending
  | readToRespond found other unrefused =>
    cases pending
    exact .inr ⟨_, rfl, found, .inl ⟨_, _, rfl, other, unrefused⟩⟩
  | readToResolve found own =>
    cases pending
    exact .inr ⟨_, rfl, found, .inr ⟨_, _, rfl, own⟩⟩
  | quiet | refuseResponse | saveLast | acknowledge | refuseClosing | close => cases pending

theorem AlertMoves.idle_after_close (moves : AlertMoves s stage request stage')
    {resolution : Resolution} {resolvedAt cancelledAt : Option Time}
    (closes : request = .emergencyAlertUpdate alertId (.close resolution resolvedAt cancelledAt)) :
    stage'.pending? = none := by
  cases moves with
  | close _ => rfl
  | quiet quiet _ =>
    cases closes
    cases quiet
  | refuseResponse | readToRespond | lookup | clockResponse | saveLast | save | acknowledge
  | refuseClosing | readToResolve | clockClosing => cases closes

theorem AlertMoves.quiet_stays (moves : AlertMoves s stage request stage') {program : Flow Unit}
    (quiet : stage' = .quiet program) : program.Uses EmergencyCall.Quiet := by
  cases moves with
  | quiet _ rest | saveLast rest | acknowledge rest | close rest =>
    cases quiet
    exact rest
  | refuseResponse | refuseClosing =>
    cases quiet
    trivial
  | readToRespond | lookup | clockResponse | save | readToResolve | clockClosing => cases quiet

theorem AlertMoves.not_reading (moves : AlertMoves s stage request stage') :
    (∀ responderId alertId dto, stage' ≠ .readToRespond responderId alertId dto) ∧
      ∀ userId alertId resolution, stage' ≠ .readToResolve userId alertId resolution := by
  cases moves <;> exact ⟨fun _ _ _ => by rintro ⟨⟩, fun _ _ _ => by rintro ⟨⟩⟩

end Moves

/-- A thread that is about to write an alert is between its read and its writes. -/
theorem AlertStage.next?_pending {stage : AlertStage} {alertId : AlertId}
    (pending : stage.pending? = some alertId) : stage.program.next?.any EmergencyCall.pending = true := by
  cases stage with
  | lookup | clockResponse | save | acknowledge | clockClosing | close => rfl
  | quiet | readToRespond | readToResolve => cases pending

/-! ## The invariant -/

section Invariant

variable {calls : Index → AlertCall} {stages : Index → AlertStage} {s : State}

/-- Every thread is where its call can be, and no thread is about to write a closed
alert. -/
structure Settled (calls : Index → AlertCall) (stages : Index → AlertStage) (s : State) : Prop where
  quiet : ∀ index program, stages index = .quiet program → program.Uses EmergencyCall.Quiet
  responds : ∀ index responderId alertId dto, stages index = .readToRespond responderId alertId dto →
    calls index = .respond responderId alertId dto
  resolves : ∀ index userId alertId resolution,
    stages index = .readToResolve userId alertId resolution →
      calls index = .resolve userId alertId resolution
  about : ∀ index alertId, (stages index).pending? = some alertId →
    (calls index).alertId? = some alertId
  idle : ∀ alertId, s.Closed alertId → ∀ index, (stages index).pending? ≠ some alertId

variable [DecidableEq Index] {pool : AlertPool Index} {index : Index} {request : EmergencyCall}
  {stage' : AlertStage}

theorem Settled.advance (settled : Settled calls stages pool.store)
    (staged : pool.InStages (fun _ => AlertStage.program) stages)
    (respects : RespectsClosing calls pool index) (asked : pool.next? index = some request)
    (moves : AlertMoves pool.store (stages index) request stage') :
    Settled calls (update stages index stage') (answer request pool.store).2 where
  quiet := by
    intro other program quiet
    obtain ⟨rfl, quiet'⟩ | ⟨-, quiet'⟩ := eq_of_update quiet
    · exact moves.quiet_stays quiet'
    · exact settled.quiet other program quiet'
  responds := by
    intro other responderId alertId dto reads
    obtain ⟨rfl, reads'⟩ | ⟨-, reads'⟩ := eq_of_update reads
    · exact absurd reads' (moves.not_reading.1 _ _ _)
    · exact settled.responds other responderId alertId dto reads'
  resolves := by
    intro other userId alertId resolution reads
    obtain ⟨rfl, reads'⟩ | ⟨-, reads'⟩ := eq_of_update reads
    · exact absurd reads' (moves.not_reading.2 _ _ _)
    · exact settled.resolves other userId alertId resolution reads'
  about := by
    intro other alertId pending
    by_cases same : other = index
    · subst same
      rw [update_self] at pending
      obtain before | ⟨alert, -, -, ⟨responderId, dto, reads, -⟩ | ⟨userId, resolution, reads, -⟩⟩ :=
        moves.pending pending
      · exact settled.about other alertId before
      · rw [settled.responds _ _ _ _ reads]
        rfl
      · rw [settled.resolves _ _ _ _ reads]
        rfl
    · rw [update_of_ne same] at pending
      exact settled.about other alertId pending
  idle := by
    intro alertId closed other pending
    rw [RespectsClosing, asked] at respects
    obtain before | ⟨resolution, resolvedAt, cancelledAt, rfl⟩ := moves.closes closed
    · by_cases same : other = index
      · -- the thread has just read the alert, which is closed
        subst same
        rw [update_self] at pending
        obtain idle | ⟨alert, rfl, found, reads⟩ := moves.pending pending
        · exact settled.idle alertId before other idle
        · obtain ⟨stored, found', isClosed⟩ := before
          have here : stored = alert := by
            have kept := Option.eq_some_of_filter_eq_some found
            exact Option.some.inj (found'.symm.trans kept)
          subst here
          refine respects stored found ?_
          obtain ⟨responderId, dto, reads, notOwn, unrefused⟩ | ⟨userId, resolution, reads, own⟩ := reads
          · rw [settled.responds _ _ _ _ reads]
            refine ⟨notOwn, ?_⟩
            cases status : stored.status with
            | falseAlarm => rfl
            | resolved => exact absurd (.inl status) unrefused
            | cancelled => exact absurd (.inr status) unrefused
            | opened | acknowledged =>
              rw [status] at isClosed
              cases isClosed
          · rw [settled.resolves _ _ _ _ reads]
            exact ⟨own, isClosed⟩
      · rw [update_of_ne same] at pending
        exact settled.idle alertId before other pending
    · by_cases same : other = index
      · subst same
        rw [update_self, moves.idle_after_close rfl] at pending
        cases pending
      · rw [update_of_ne same] at pending
        refine respects other same ⟨settled.about other alertId pending, ?_⟩
        rw [staged.next? other]
        exact AlertStage.next?_pending pending

omit [DecidableEq Index] in
/-- Before they have run, the calls are about to read. -/
theorem alertCalls_starts (calls : Index → AlertCall) (s : State) :
    ∃ stages, (alertCalls calls s).InStages (fun _ => AlertStage.program) stages ∧ Settled calls stages s := by
  choose stages programs idle quiet responds resolves using
    fun index => alertProgram_starts (calls index)
  refine ⟨stages, fun index => (programs index).symm, quiet, responds, resolves, ?_, ?_⟩
  · intro index alertId pending
    rw [idle index] at pending
    cases pending
  · intro alertId _ index pending
    rw [idle index] at pending
    cases pending

/-- **When no call reads a closed alert to write it, and none is closed between the read
and the writes of another call, a closed alert stays as it is.** -/
theorem closed_stays_closed (calls : Index → AlertCall) (alertId : AlertId) (s : State)
    (schedule : List Index)
    (steps : EachStep (advance answer) (RespectsClosing calls) (alertCalls calls s) schedule) :
    StaysClosed alertId (alertCalls calls s) schedule := by
  obtain ⟨stages, staged, settled⟩ := alertCalls_starts calls s
  have follows : ∀ stages s index, Settled calls stages s →
      Follows answer AlertStage.program AlertMoves (stages index) s :=
    fun stages s index settled => alert_follows (stages index) s (settled.quiet index)
  have throughout := throughout_of_stages (fun _ => AlertMoves) (Settled calls)
    (RespectsClosing calls) follows
    (fun pool stages index request stage' staged settled respects asked moves =>
      settled.advance staged respects asked moves) staged settled steps
  refine throughout.eachStep fun pool index described closed => ?_
  obtain ⟨stages, staged, settled⟩ := described
  obtain ⟨-, same⟩ | ⟨request, stage', -, moves, store, -⟩ :=
    staged.advance (fun _ => AlertMoves) (follows stages pool.store index settled)
  · rw [same]
    exact ⟨rfl, fun _ => rfl⟩
  · rw [store]
    exact moves.unchanged (settled.idle alertId closed index)

end Invariant

/-! ## A small installation -/

/-- An alert for five kilometres around. -/
def smallAlert : CreateEmergencyAlertDto where
  type := .general
  description := none
  latitude := 0
  longitude := 0
  accuracyMeters := none
  holdDurationMs := some 3000
  radiusMeters := 5000
  radiusMeters_range := by decide

/-- Rider 1 has asked for help, and no rider is near. -/
def alerted : State :=
  ((createAlert smallDeployment 1 smallAlert ⟨"rider", none, false⟩).exec
    (.initial smallInstallation fun _ => none)).2

/-- Rider 2 is on the way, and rider 1 says that it was a false alarm. -/
def helpAndFalseAlarm : Bool → AlertCall
  | false => .respond 2 0 ⟨.acknowledged, none⟩
  | true => .resolve 1 0 .falseAlarm

/-- Rider 2 answers before rider 1 ends the alert. -/
theorem closed_stays_closed_small :
    EachStep (advance answer) (RespectsClosing helpAndFalseAlarm)
        (alertCalls helpAndFalseAlarm alerted) (List.replicate 9 false ++ List.replicate 5 true) ∧
      StaysClosed 0 (alertCalls helpAndFalseAlarm alerted)
        (List.replicate 9 false ++ List.replicate 5 true) := by
  have steps : EachStep (advance answer) (RespectsClosing helpAndFalseAlarm)
      (alertCalls helpAndFalseAlarm alerted)
        (List.replicate 9 false ++ List.replicate 5 true) := by
    decide +kernel
  exact ⟨steps, closed_stays_closed helpAndFalseAlarm 0 alerted _ steps⟩

/-- Rider 1 ends the false alarm before rider 2 reads it. -/
def endedFirst : List Bool := List.replicate 5 true ++ List.replicate 3 false

/-- Rider 1 ends the false alarm after rider 2 has read it. -/
def endedMeanwhile : List Bool := List.replicate 1 false ++ List.replicate 5 true ++ List.replicate 3 false

/-- A false alarm that is ended gains a responder, and is counted as acknowledged when the
answer had read it before. -/
theorem closed_alert_changes :
    ¬ StaysClosed 0 (alertCalls helpAndFalseAlarm alerted) (endedFirst ++ [false]) ∧
      ¬ StaysClosed 0 (alertCalls helpAndFalseAlarm alerted) (endedMeanwhile ++ [false]) := by
  refine ⟨fun stays => ?_, fun stays => ?_⟩
  · obtain ⟨-, last, -⟩ := eachStep_append.mp stays
    exact absurd ((last (by decide +kernel)).2 2) (by decide +kernel)
  · obtain ⟨-, last, -⟩ := eachStep_append.mp stays
    exact absurd (last (by decide +kernel)).1 (by decide +kernel)

end Motogram.Emergency
