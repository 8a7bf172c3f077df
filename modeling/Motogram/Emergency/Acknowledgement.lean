import Motogram.Emergency.Closing

/-!
# The reward of an acknowledgement

The first acknowledgement of an alert earns its rider experience. `respond` takes it for the
first when the responder row it has read has no `acknowledgedAt`; the row gets one by the
upsert, two calls later. The date is never taken back, so calls one after the other reward a
rider once, whatever the statuses between; but two calls that both read the row before either
has written it both reward the rider.

`acknowledged_once` is that no interleaving rewards a rider twice in which no acknowledging
call reads an unacknowledged row while another is between its read and its upsert.
-/

set_option autoImplicit false

namespace Motogram.Emergency

open Foundation Program Function Table Pool

variable {Index : Type} {alertId : AlertId} {responderId : UserId} {s t : State}

/-! ## Rewards -/

/-- How often the rider has been rewarded for the alert. -/
def State.rewards (s : State) (alertId : AlertId) (responderId : UserId) : Nat :=
  s.emissions.count (.gamificationTrigger responderId alertId)

/-- The date of the acknowledgement in the responder row. -/
def State.acknowledgedAt (s : State) (alertId : AlertId) (responderId : UserId) : Option Time :=
  (s.emergencyResponders.find? (alertId, responderId)).bind EmergencyResponder.acknowledgedAt

def AlertCall.Acknowledges (alertId : AlertId) (responderId : UserId) : AlertCall → Prop
  | .respond rider alert dto => rider = responderId ∧ alert = alertId ∧ dto.status = .acknowledged
  | _ => False

instance (request : AlertCall) : Decidable (request.Acknowledges alertId responderId) :=
  match request with
  | .respond _ _ _ => inferInstanceAs (Decidable (_ ∧ _ ∧ _))
  | .resolve _ _ _ | .elapse _ => inferInstanceAs (Decidable False)

/-- The lookup of the responder row. -/
def EmergencyCall.looksUp (alertId : AlertId) (responderId : UserId) : EmergencyCall → Bool
  | .emergencyResponderFindUnique alert rider => decide (alert = alertId ∧ rider = responderId)
  | _ => false

/-- The calls of `respond` between the lookup of the responder row and its upsert, the upsert
included. -/
def EmergencyCall.unsaved : EmergencyCall → Bool
  | .dateNow => true
  | .emergencyResponderUpsert _ _ _ => true
  | _ => false

/-- An acknowledging call reads an unacknowledged row only while no other acknowledging call is
between its read and its upsert. -/
def ReadsAlone (calls : Index → AlertCall) (alertId : AlertId) (responderId : UserId)
    (pool : AlertPool Index) (index : Index) : Prop :=
  (calls index).Acknowledges alertId responderId ∧
      (pool.next? index).any (EmergencyCall.looksUp alertId responderId) = true ∧
      pool.store.acknowledgedAt alertId responderId = none →
    ∀ other, other ≠ index → (calls other).Acknowledges alertId responderId →
      ¬ (pool.next? other).any EmergencyCall.unsaved = true

instance [Fintype Index] [DecidableEq Index] (calls : Index → AlertCall) (pool : AlertPool Index)
    (index : Index) : Decidable (ReadsAlone calls alertId responderId pool index) :=
  inferInstanceAs (Decidable (_ → _))

/-! ## Stages -/

/-- A call that neither writes the responder row nor rewards the rider. -/
def EmergencyCall.Foreign (alertId : AlertId) (responderId : UserId) : EmergencyCall → Prop
  | .emergencyResponderUpsert alert rider _ => (alert, rider) ≠ (alertId, responderId)
  | .emergencyResponderCreateMany _ _ => False
  | .emit emission => emission ≠ .gamificationTrigger responderId alertId
  | _ => True

/-- How far a call about the alert and the rider has come. -/
inductive AckStage where
  | foreign (program : Flow Unit)
  | read (dto : RespondEmergencyAlertDto)
  | lookup (dto : RespondEmergencyAlertDto) (alert : EmergencyAlert)
  | clock (dto : RespondEmergencyAlertDto) (alert : EmergencyAlert)
      (existing : Option EmergencyResponder)
  | save (dto : RespondEmergencyAlertDto) (alert : EmergencyAlert)
      (existing : Option EmergencyResponder) (now : Time)
  | update (dto : RespondEmergencyAlertDto) (alert : EmergencyAlert)
      (existing : Option EmergencyResponder) (saved : EmergencyResponder)
  | announce (dto : RespondEmergencyAlertDto) (alert : EmergencyAlert)
      (existing : Option EmergencyResponder) (saved : EmergencyResponder)
  | reward (alert : EmergencyAlert) (saved : EmergencyResponder)

/-- `respond` from the reward on. -/
def rewardResponse (responderId : UserId) (alertId : AlertId) (ownerId : UserId)
    (saved : EmergencyResponder) : Flow EmergencyResponderDto := do
  let _ : Unit ← call (.emit (.gamificationTrigger responderId alertId))
  createNotification (.helpComing ownerId alertId responderId)
  pure ⟨alertId, responderId, saved⟩

def AckStage.program (alertId : AlertId) (responderId : UserId) : AckStage → Flow Unit
  | .foreign program => program
  | .read dto => respond responderId alertId dto >>= fun _ => pure ()
  | .lookup dto alert => respondAfterRead responderId alertId dto alert >>= fun _ => pure ()
  | .clock dto alert existing =>
    (call .dateNow >>= fun now : Time =>
      saveResponse responderId alertId dto alert existing now) >>= fun _ => pure ()
  | .save dto alert existing now =>
    saveResponse responderId alertId dto alert existing now >>= fun _ => pure ()
  | .update dto alert existing saved =>
    acknowledgeAlert responderId alertId dto alert existing saved >>= fun _ => pure ()
  | .announce dto alert existing saved =>
    announceResponse responderId alertId dto alert.userId existing saved >>= fun _ => pure ()
  | .reward alert saved =>
    rewardResponse responderId alertId alert.userId saved >>= fun _ => pure ()

/-- The call takes its acknowledgement for the first. -/
def First (dto : RespondEmergencyAlertDto) (existing : Option EmergencyResponder) : Prop :=
  dto.status = .acknowledged ∧ existing.bind EmergencyResponder.acknowledgedAt = none

/-- The call is going to reward the rider, and has not written the row yet. -/
def AckStage.Unsaved : AckStage → Prop
  | .clock dto _ existing => First dto existing
  | .save dto _ existing _ => First dto existing
  | _ => False

/-- The call is going to reward the rider, and has written the row. -/
def AckStage.Saved : AckStage → Prop
  | .update dto _ existing _ => First dto existing
  | .announce dto _ existing _ => First dto existing
  | .reward _ _ => True
  | _ => False

/-- The call is going to reward the rider. -/
def AckStage.Rewards (stage : AckStage) : Prop := stage.Unsaved ∨ stage.Saved

inductive AckMoves (alertId : AlertId) (responderId : UserId) (s : State) :
    AckStage → EmergencyCall → AckStage → Prop where
  | foreign {program program' : Flow Unit} {request : EmergencyCall}
      (foreign : request.Foreign alertId responderId)
      (rest : program'.Uses (EmergencyCall.Foreign alertId responderId)) :
      AckMoves alertId responderId s (.foreign program) request (.foreign program')
  | refuse {dto : RespondEmergencyAlertDto} {error : EmergencyError} :
      AckMoves alertId responderId s (.read dto) (.emergencyAlertFindFirst alertId)
        (.foreign (.fail error))
  | read {dto : RespondEmergencyAlertDto} (alert : EmergencyAlert) :
      AckMoves alertId responderId s (.read dto) (.emergencyAlertFindFirst alertId)
        (.lookup dto alert)
  | lookup {dto : RespondEmergencyAlertDto} {alert : EmergencyAlert} :
      AckMoves alertId responderId s (.lookup dto alert)
        (.emergencyResponderFindUnique alertId responderId)
        (.clock dto alert (s.emergencyResponders.find? (alertId, responderId)))
  | clock {dto : RespondEmergencyAlertDto} {alert : EmergencyAlert}
      {existing : Option EmergencyResponder} :
      AckMoves alertId responderId s (.clock dto alert existing) .dateNow
        (.save dto alert existing s.base.now)
  | lost {dto : RespondEmergencyAlertDto} {alert : EmergencyAlert}
      {existing : Option EmergencyResponder} {now : Time} {error : EmergencyError} :
      AckMoves alertId responderId s (.save dto alert existing now)
        (.emergencyResponderUpsert alertId responderId (responderPatch dto now))
        (.foreign (.fail error))
  | save {dto : RespondEmergencyAlertDto} {alert : EmergencyAlert}
      {existing : Option EmergencyResponder} {now : Time} (saved : EmergencyResponder)
      (written : (answer (.emergencyResponderUpsert alertId responderId (responderPatch dto now)) s).1 =
        .ok saved) {stage : AckStage}
      (next : stage = .update dto alert existing saved ∨ stage = .announce dto alert existing saved) :
      AckMoves alertId responderId s (.save dto alert existing now)
        (.emergencyResponderUpsert alertId responderId (responderPatch dto now)) stage
  | update {dto : RespondEmergencyAlertDto} {alert : EmergencyAlert}
      {existing : Option EmergencyResponder} {saved : EmergencyResponder} {stage : AckStage}
      (next : (∃ error, stage = .foreign (.fail error)) ∨ stage = .announce dto alert existing saved) :
      AckMoves alertId responderId s (.update dto alert existing saved)
        (.emergencyAlertUpdate alertId .acknowledge) stage
  | announce {dto : RespondEmergencyAlertDto} {alert : EmergencyAlert}
      {existing : Option EmergencyResponder} {saved : EmergencyResponder}
      {payload : EmergencyResponderDto} {stage : AckStage}
      (next : First dto existing ∧ stage = .reward alert saved ∨
        ¬ First dto existing ∧ stage = .foreign (.done ())) :
      AckMoves alertId responderId s (.announce dto alert existing saved)
        (.emit (.responderUpdate alertId alert.userId payload)) stage
  | reward {alert : EmergencyAlert} {saved : EmergencyResponder} {program : Flow Unit}
      (rest : program.Uses (EmergencyCall.Foreign alertId responderId)) :
      AckMoves alertId responderId s (.reward alert saved)
        (.emit (.gamificationTrigger responderId alertId)) (.foreign program)

theorem createNotification_foreign (alertId : AlertId) (responderId : UserId) (notification : Notification) :
    (createNotification notification).Uses (EmergencyCall.Foreign alertId responderId) := by
  refine Uses.send trivial fun stored => ?_
  split
  · refine Uses.send trivial fun created => ?_
    cases created <;> trivial
  · trivial

theorem acknowledged_moves (alertId : AlertId) (responderId : UserId) (dto : RespondEmergencyAlertDto) (alert : EmergencyAlert)
    (existing : Option EmergencyResponder) (saved : EmergencyResponder) :
    ∃ stage : AckStage, (stage = .update dto alert existing saved ∨ stage = .announce dto alert existing saved) ∧
      ((rethrow (.ok saved) >>= fun saved =>
        if dto.status = .acknowledged ∧ alert.status = .opened then
          acknowledgeAlert responderId alertId dto alert existing saved
        else announceResponse responderId alertId dto alert.userId existing saved) >>=
          fun _ => pure ()) = stage.program alertId responderId := by
  by_cases opens : dto.status = .acknowledged ∧ alert.status = .opened
  · refine ⟨_, .inl rfl, ?_⟩
    rw [rethrow, done_bind, if_pos opens]
    rfl
  · refine ⟨_, .inr rfl, ?_⟩
    rw [rethrow, done_bind, if_neg opens]
    rfl

/-- What follows the announcement: the reward, or nothing. -/
theorem announced_moves (alertId : AlertId) (responderId : UserId) (dto : RespondEmergencyAlertDto) (alert : EmergencyAlert)
    (existing : Option EmergencyResponder) (saved : EmergencyResponder) :
    ∃ stage : AckStage,
      (First dto existing ∧ stage = .reward alert saved ∨
        ¬ First dto existing ∧ stage = .foreign (.done ())) ∧
      ((if dto.status = .acknowledged ∧ existing.bind EmergencyResponder.acknowledgedAt = none then
          rewardResponse responderId alertId alert.userId saved
        else pure ⟨alertId, responderId, saved⟩) >>= fun _ => pure ()) =
          stage.program alertId responderId := by
  by_cases first : dto.status = .acknowledged ∧ existing.bind EmergencyResponder.acknowledgedAt = none
  · refine ⟨_, .inl ⟨first, rfl⟩, ?_⟩
    rw [if_pos first]
    rfl
  · refine ⟨_, .inr ⟨first, rfl⟩, ?_⟩
    rw [if_neg first]
    rfl

/-- **A call makes the moves of its stages.** -/
theorem ack_follows (stage : AckStage) (s : State)
    (foreign : ∀ program, stage = .foreign program → program.Uses (EmergencyCall.Foreign alertId responderId)) :
    Follows answer (AckStage.program alertId responderId) (AckMoves alertId responderId) stage s := by
  cases stage with
  | foreign program =>
    cases program with
    | done | fail => exact .inl rfl
    | call request next =>
      obtain ⟨permitted, rest⟩ := foreign _ rfl
      exact .inr ⟨request, next, .foreign _, rfl, .foreign permitted (rest _), rfl⟩
  | read dto =>
    cases found : (s.emergencyAlerts.find? alertId).filter fun alert => alert.deletedAt.isNone with
    | none =>
      refine .inr ⟨_, _, .foreign (.fail alertNotFound), rfl, .refuse, ?_⟩
      simp only [answer, found]
      rfl
    | some alert =>
      by_cases own : alert.userId = responderId
      · refine .inr ⟨_, _, .foreign (.fail cannotRespondToOwnAlert), rfl, .refuse, ?_⟩
        simp only [answer, found, Program.bind, throwIf, if_pos own]
        rfl
      · by_cases refused : alert.status = .resolved ∨ alert.status = .cancelled
        · refine .inr ⟨_, _, .foreign (.fail alertClosed), rfl, .refuse, ?_⟩
          simp only [answer, found, Program.bind, throwIf, if_neg own, if_pos refused]
          rfl
        · refine .inr ⟨_, _, .lookup dto alert, rfl, .read alert, ?_⟩
          simp only [answer, found, Program.bind, throwIf, if_neg own, if_neg refused]
          rfl
  | lookup dto alert => exact .inr ⟨_, _, _, rfl, .lookup, rfl⟩
  | clock dto alert existing => exact .inr ⟨_, _, _, rfl, .clock, rfl⟩
  | save dto alert existing now =>
    cases written : (answer (.emergencyResponderUpsert alertId responderId
        (responderPatch dto now)) s).1 with
    | error error =>
      refine .inr ⟨_, _, .foreign (.fail (.prisma error)), rfl, .lost, ?_⟩
      rw [written]
      rfl
    | ok saved =>
      obtain ⟨stage, next, rest⟩ :=
        acknowledged_moves alertId responderId dto alert existing saved
      refine .inr ⟨_, _, stage, rfl, .save saved written next, ?_⟩
      rw [written]
      exact rest
  | update dto alert existing saved =>
    cases written : (answer (.emergencyAlertUpdate alertId .acknowledge) s).1 with
    | error error =>
      refine .inr ⟨_, _, .foreign (.fail (.prisma error)), rfl, .update (.inl ⟨_, rfl⟩), ?_⟩
      rw [written]
      rfl
    | ok alert' =>
      refine .inr ⟨_, _, .announce dto alert existing saved, rfl, .update (.inr rfl), ?_⟩
      rw [written]
      rfl
  | announce dto alert existing saved =>
    obtain ⟨stage, next, rest⟩ :=
      announced_moves alertId responderId dto alert existing saved
    exact .inr ⟨_, _, stage, rfl, .announce next, rest⟩
  | reward alert saved =>
    refine .inr ⟨_, _, .foreign _, rfl, .reward ?_, rfl⟩
    exact ((createNotification_foreign _ _ _).bind fun _ => uses_done _).bind fun _ =>
      uses_done _

/-! ## What a call changes -/

section Answers

variable {request : EmergencyCall}

/-- The reward of the rider and the date of the acknowledgement are as they were. -/
def SameAcknowledgement (alertId : AlertId) (responderId : UserId) (s s' : State) : Prop :=
  s'.rewards alertId responderId = s.rewards alertId responderId ∧
    s'.acknowledgedAt alertId responderId = s.acknowledgedAt alertId responderId

theorem sameAcknowledgement_sent {emission : EmergencyEmission}
    (other : emission ≠ .gamificationTrigger responderId alertId) :
    SameAcknowledgement alertId responderId s (s.sent emission) := by
  refine ⟨?_, rfl⟩
  rw [State.rewards, State.sent_emissions, List.count_append, List.count_singleton,
    if_neg (by simpa using other)]
  rfl

theorem sameAcknowledgement_upsert {alert : AlertId} {rider : UserId}
    (other : (alert, rider) ≠ (alertId, responderId)) (patch : ResponderPatch) :
    SameAcknowledgement alertId responderId s (answer (.emergencyResponderUpsert alert rider patch) s).2 := by
  simp only [answer]
  split
  · refine ⟨rfl, ?_⟩
    rw [State.acknowledgedAt, State.withResponders_emergencyResponders,
      find?_modify_of_ne _ (Ne.symm other)]
    rfl
  · split
    · refine ⟨rfl, ?_⟩
      rw [State.acknowledgedAt, State.withFresh_emergencyResponders,
        State.withResponders_emergencyResponders, find?_insert_of_ne _ (Ne.symm other)]
      rfl
    · exact ⟨rfl, rfl⟩

theorem EmergencyCall.Foreign.same (foreign : request.Foreign alertId responderId) (s : State) :
    SameAcknowledgement alertId responderId s (answer request s).2 := by
  cases request with
  | emergencyResponderUpsert alert rider patch => exact sameAcknowledgement_upsert foreign patch
  | emergencyResponderCreateMany alert recipients => cases foreign
  | emit emission => exact sameAcknowledgement_sent foreign
  | emergencyAlertCreate | emergencyAlertUpdate | notificationCreate | setAdminNotifyLockNx =>
    simp only [answer]
    split <;> exact ⟨rfl, rfl⟩
  | _ => exact ⟨rfl, rfl⟩

/-- An upsert of the row takes no date back, and rewards nobody. -/
theorem upsert_keeps (alertId : AlertId) (responderId : UserId) (s : State) (patch : ResponderPatch) :
    (answer (.emergencyResponderUpsert alertId responderId patch) s).2.rewards alertId responderId =
        s.rewards alertId responderId ∧
      (s.acknowledgedAt alertId responderId ≠ none →
        (answer (.emergencyResponderUpsert alertId responderId patch) s).2.acknowledgedAt
          alertId responderId ≠ none) := by
  cases found : s.emergencyResponders.find? (alertId, responderId) with
  | none =>
    refine ⟨?_, fun dated => absurd ?_ dated⟩
    · simp only [answer, found]
      split <;> rfl
    · rw [State.acknowledgedAt, found]
      rfl
  | some row =>
    refine ⟨?_, fun dated => ?_⟩
    · simp only [answer, found]
      rfl
    · rw [State.acknowledgedAt, found] at dated
      simp only [answer, found, State.acknowledgedAt, State.withResponders_emergencyResponders,
        find?_modify_self, Option.map_some, Option.bind_some, ResponderPatch.update]
      intro none
      exact dated (Option.or_eq_none_iff.mp none).2

theorem upsert_dates {dto : RespondEmergencyAlertDto} {now : Time} {saved : EmergencyResponder}
    (acknowledges : dto.status = .acknowledged)
    (written : (answer (.emergencyResponderUpsert alertId responderId (responderPatch dto now)) s).1 =
      .ok saved) :
    (answer (.emergencyResponderUpsert alertId responderId (responderPatch dto now)) s).2.acknowledgedAt
      alertId responderId ≠ none := by
  have dated : (responderPatch dto now).acknowledgedAt = some now := if_pos acknowledges
  cases found : s.emergencyResponders.find? (alertId, responderId) with
  | none =>
    simp only [answer, found] at written ⊢
    split at written
    · rename_i known
      rw [if_pos known, State.acknowledgedAt, State.withFresh_emergencyResponders,
        State.withResponders_emergencyResponders, find?_insert_self found, ResponderPatch.create, dated]
      exact Option.some_ne_none now
    · cases written
  | some row =>
    simp only [answer, found, State.acknowledgedAt, State.withResponders_emergencyResponders,
      find?_modify_self, Option.map_some, Option.bind_some, ResponderPatch.update, dated]
    exact Option.some_ne_none now

end Answers

/-! ## The other calls -/

theorem respond_foreign {alert : AlertId} {rider : UserId} (other : (alert, rider) ≠ (alertId, responderId))
    (dto : RespondEmergencyAlertDto) :
    (respond rider alert dto).Uses (EmergencyCall.Foreign alertId responderId) := by
  have unrewarded : EmergencyEmission.gamificationTrigger rider alert ≠ .gamificationTrigger responderId alertId := by
    intro same
    cases same
    exact other rfl
  have announced : ∀ ownerId existing saved, (announceResponse rider alert dto ownerId existing saved).Uses
      (EmergencyCall.Foreign alertId responderId) := by
    intro ownerId existing saved
    refine Uses.send (by rintro ⟨⟩) fun _ => ?_
    split
    · refine Uses.send unrewarded fun _ => ?_
      exact (createNotification_foreign _ _ _).bind fun _ => uses_done _
    · exact uses_done _
  refine Uses.send trivial fun found => ?_
  split
  · trivial
  · refine (uses_throwIf _ _).bind fun _ => (uses_throwIf _ _).bind fun _ => ?_
    refine Uses.send trivial fun existing => Uses.send trivial fun now => ?_
    refine Uses.send other fun upserted => ?_
    refine (show (rethrow upserted).Uses _ by cases upserted <;> trivial).bind fun saved => ?_
    split
    · refine Uses.send trivial fun updated => ?_
      exact (show (rethrow updated).Uses _ by cases updated <;> trivial).bind fun _ =>
        announced _ _ _
    · exact announced _ _ _

theorem resolve_foreign (userId : UserId) (alert : AlertId) (resolution : Resolution) :
    (resolve userId alert resolution).Uses (EmergencyCall.Foreign alertId responderId) := by
  refine Uses.send trivial fun found => ?_
  split
  · trivial
  · refine (uses_throwIf _ _).bind fun _ => Uses.send trivial fun now => ?_
    refine Uses.send trivial fun closed => ?_
    refine (show (rethrow closed).Uses _ by cases closed <;> trivial).bind fun _ => ?_
    exact Uses.send trivial fun responders =>
      Uses.send (by rintro ⟨⟩) fun _ => uses_done _

/-- The answer a stage belongs to. -/
def AckStage.dto? : AckStage → Option RespondEmergencyAlertDto
  | .read dto => some dto
  | .lookup dto _ => some dto
  | .clock dto _ _ => some dto
  | .save dto _ _ _ => some dto
  | _ => none

/-- Before it has run, a call is an answer of the rider to the alert, or has nothing to do
with the two. -/
theorem alertProgram_ackStage (alertId : AlertId) (responderId : UserId) (request : AlertCall) :
    ∃ stage : AckStage, stage.program alertId responderId = alertProgram request ∧ ¬ stage.Rewards ∧
      (∀ program, stage = .foreign program →
        program.Uses (EmergencyCall.Foreign alertId responderId)) ∧
      ∀ dto, stage.dto? = some dto → request = .respond responderId alertId dto := by
  cases request with
  | respond rider alert dto =>
    by_cases same : (alert, rider) = (alertId, responderId)
    · cases same
      refine ⟨.read dto, rfl, by rintro (⟨⟨⟩⟩ | ⟨⟨⟩⟩), by rintro _ ⟨⟩, ?_⟩
      rintro _ ⟨⟩
      rfl
    · refine ⟨.foreign _, rfl, by rintro (⟨⟨⟩⟩ | ⟨⟨⟩⟩), ?_, by rintro _ ⟨⟩⟩
      rintro _ ⟨⟩
      exact (respond_foreign same dto).bind fun _ => uses_done _
  | resolve userId alert resolution =>
    refine ⟨.foreign _, rfl, by rintro (⟨⟨⟩⟩ | ⟨⟨⟩⟩), ?_, by rintro _ ⟨⟩⟩
    rintro _ ⟨⟩
    exact (resolve_foreign userId alert resolution).bind fun _ => uses_done _
  | elapse milliseconds =>
    refine ⟨.foreign _, rfl, by rintro (⟨⟨⟩⟩ | ⟨⟨⟩⟩), ?_, by rintro _ ⟨⟩⟩
    rintro _ ⟨⟩
    exact ⟨trivial, fun _ => trivial⟩

/-! ## The invariant -/

section Invariant

variable {calls : Index → AlertCall} {stages : Index → AckStage}

/-- At most one call is going to reward the rider, and then nobody has; once the rider has been
rewarded, or a call that rewards has written the row, the row has its date. -/
structure RewardedOnce (alertId : AlertId) (responderId : UserId) (calls : Index → AlertCall)
    (stages : Index → AckStage) (s : State) : Prop where
  foreign : ∀ index program, stages index = .foreign program →
    program.Uses (EmergencyCall.Foreign alertId responderId)
  about : ∀ index dto, (stages index).dto? = some dto → calls index = .respond responderId alertId dto
  alone : ∀ first second, (stages first).Rewards → (stages second).Rewards → first = second
  unrewarded : ∀ index, (stages index).Rewards → s.rewards alertId responderId = 0
  once : s.rewards alertId responderId ≤ 1
  rewarded : s.rewards alertId responderId ≠ 0 → s.acknowledgedAt alertId responderId ≠ none
  saved : ∀ index, (stages index).Saved → s.acknowledgedAt alertId responderId ≠ none

variable {stage stage' : AckStage} {request : EmergencyCall}

/-- A thread becomes foreign with what it has left only. -/
theorem AckMoves.foreign_stays (moves : AckMoves alertId responderId s stage request stage') {program : Flow Unit}
    (foreign : stage' = .foreign program) : program.Uses (EmergencyCall.Foreign alertId responderId) := by
  cases moves with
  | foreign _ rest | reward rest =>
    cases foreign
    exact rest
  | refuse | lost =>
    cases foreign
    trivial
  | read | lookup | clock => cases foreign
  | save saved written next => obtain rfl | rfl := next <;> cases foreign
  | update next =>
    obtain ⟨error, rfl⟩ | rfl := next
    · cases foreign
      trivial
    · cases foreign
  | announce next =>
    obtain ⟨-, rfl⟩ | ⟨-, rfl⟩ := next
    · cases foreign
    · cases foreign
      trivial

/-- A thread keeps its answer until it has written it. -/
theorem AckMoves.about_stays (moves : AckMoves alertId responderId s stage request stage')
    {dto : RespondEmergencyAlertDto} (about : stage'.dto? = some dto) : stage.dto? = some dto := by
  cases moves with
  | read | lookup | clock => exact about
  | foreign | refuse | lost | reward => cases about
  | save saved written next => obtain rfl | rfl := next <;> cases about
  | update next => obtain ⟨error, rfl⟩ | rfl := next <;> cases about
  | announce next => obtain ⟨-, rfl⟩ | ⟨-, rfl⟩ := next <;> cases about

variable [DecidableEq Index] {index : Index}

/-- A thread that is going to reward after a step of another kind than a reading or a reward was
going to before it. -/
structure Steady (alertId : AlertId) (responderId : UserId) (stage stage' : AckStage) (s s' : State) :
    Prop where
  rewards : stage'.Rewards → stage.Rewards
  saved : stage'.Saved → stage.Saved ∨ s'.acknowledgedAt alertId responderId ≠ none
  same : s'.rewards alertId responderId = s.rewards alertId responderId
  dated : s.acknowledgedAt alertId responderId ≠ none → s'.acknowledgedAt alertId responderId ≠ none

theorem steady_of_same {s' : State} (rewards : stage'.Rewards → stage.Rewards)
    (saved : stage'.Saved → stage.Saved) (same : SameAcknowledgement alertId responderId s s') :
    Steady alertId responderId stage stage' s s' where
  rewards := rewards
  saved := fun after => .inl (saved after)
  same := same.1
  dated := fun dated => same.2 ▸ dated

/-- A call reads the row, rewards the rider, or does neither. -/
theorem AckMoves.cases_on (moves : AckMoves alertId responderId s stage request stage') :
    (∃ dto alert, stage = .lookup dto alert ∧
        request = .emergencyResponderFindUnique alertId responderId ∧
        stage' = .clock dto alert (s.emergencyResponders.find? (alertId, responderId))) ∨
      (∃ alert saved program, stage = .reward alert saved ∧
        request = .emit (.gamificationTrigger responderId alertId) ∧ stage' = .foreign program) ∨
      Steady alertId responderId stage stage' s (answer request s).2 := by
  have idle : ∀ {stage : AckStage} {program : Flow Unit}, (AckStage.foreign program).Rewards → stage.Rewards :=
    fun rewards => rewards.elim False.elim False.elim
  cases moves with
  | foreign foreign _ => exact .inr (.inr (steady_of_same idle False.elim (foreign.same s)))
  | refuse => exact .inr (.inr (steady_of_same idle False.elim ⟨rfl, rfl⟩))
  | read alert =>
    exact .inr (.inr (steady_of_same (fun rewards => rewards.elim False.elim False.elim) False.elim
      ⟨rfl, rfl⟩))
  | lookup => exact .inl ⟨_, _, rfl, rfl, rfl⟩
  | clock => exact .inr (.inr (steady_of_same id id ⟨rfl, rfl⟩))
  | lost =>
    obtain ⟨same, dated⟩ := upsert_keeps alertId responderId s _
    exact .inr (.inr ⟨idle, False.elim, same, dated⟩)
  | save saved written next =>
    obtain ⟨same, dated⟩ := upsert_keeps alertId responderId s _
    refine .inr (.inr ⟨fun rewards => .inl ?_, fun first => .inr ?_, same, dated⟩)
    · obtain rfl | rfl := next <;> exact rewards.elim False.elim id
    · obtain rfl | rfl := next <;> exact upsert_dates first.1 written
  | update next =>
    have same : SameAcknowledgement alertId responderId s
        (answer (.emergencyAlertUpdate alertId .acknowledge) s).2 := by
      simp only [answer]
      split <;> exact ⟨rfl, rfl⟩
    obtain ⟨error, rfl⟩ | rfl := next
    · exact .inr (.inr (steady_of_same idle False.elim same))
    · exact .inr (.inr (steady_of_same id id same))
  | announce next =>
    have same : ∀ ownerId payload, SameAcknowledgement alertId responderId s
        (answer (.emit (.responderUpdate alertId ownerId payload)) s).2 :=
      fun ownerId payload => sameAcknowledgement_sent (by rintro ⟨⟩)
    obtain ⟨first, rfl⟩ | ⟨-, rfl⟩ := next
    · exact .inr (.inr (steady_of_same (fun _ => .inr first) (fun _ => first) (same _ _)))
    · exact .inr (.inr (steady_of_same idle False.elim (same _ _)))
  | reward rest => exact .inr (.inl ⟨_, _, _, rfl, rfl, rfl⟩)

/-- A step of neither kind. -/
theorem RewardedOnce.steady {s' : State} (held : RewardedOnce alertId responderId calls stages s)
    (foreign : ∀ program, stage' = .foreign program → program.Uses (EmergencyCall.Foreign alertId responderId))
    (about : ∀ dto, stage'.dto? = some dto → (stages index).dto? = some dto)
    (steady : Steady alertId responderId (stages index) stage' s s') :
    RewardedOnce alertId responderId calls (update stages index stage') s' := by
  have before : ∀ other, (update stages index stage' other).Rewards → (stages other).Rewards := by
    intro other rewards
    obtain ⟨rfl, rewards'⟩ | ⟨-, rewards'⟩ := of_update rewards
    · exact steady.rewards rewards'
    · exact rewards'
  refine ⟨?_, ?_, ?_, ?_, ?_, ?_, ?_⟩
  · intro other program isForeign
    obtain ⟨rfl, isForeign'⟩ | ⟨-, isForeign'⟩ := eq_of_update isForeign
    · exact foreign program isForeign'
    · exact held.foreign other program isForeign'
  · intro other dto isAbout
    by_cases same : other = index
    · subst same
      rw [update_self] at isAbout
      exact held.about other dto (about dto isAbout)
    · rw [update_of_ne same] at isAbout
      exact held.about other dto isAbout
  · exact fun first second one two => held.alone first second (before first one) (before second two)
  · intro other rewards
    rw [steady.same]
    exact held.unrewarded other (before other rewards)
  · rw [steady.same]
    exact held.once
  · intro rewarded
    rw [steady.same] at rewarded
    exact steady.dated (held.rewarded rewarded)
  · intro other saved
    obtain ⟨rfl, saved'⟩ | ⟨-, saved'⟩ := of_update saved
    · exact (steady.saved saved').elim (fun earlier => steady.dated (held.saved other earlier)) id
    · exact steady.dated (held.saved other saved')

variable {pool : AlertPool Index}

/-- A stage that has not written the row is about to read the clock or to write. -/
theorem AckStage.Unsaved.next? (unsaved : stage.Unsaved) :
    (stage.program alertId responderId).next?.any EmergencyCall.unsaved = true := by
  cases stage with
  | clock | save => rfl
  | foreign | read | lookup | update | announce | reward => cases unsaved

omit [DecidableEq Index] in
theorem RewardedOnce.acknowledges (held : RewardedOnce alertId responderId calls stages s) {other : Index}
    (unsaved : (stages other).Unsaved) : (calls other).Acknowledges alertId responderId := by
  cases isStage : stages other with
  | clock dto alert existing | save dto alert existing now =>
    rw [isStage] at unsaved
    rw [held.about other dto (by rw [isStage]; rfl)]
    exact ⟨rfl, rfl, unsaved.1⟩
  | foreign | read | lookup | update | announce | reward =>
    rw [isStage] at unsaved
    cases unsaved

theorem RewardedOnce.read (held : RewardedOnce alertId responderId calls stages pool.store)
    (staged : pool.InStages (fun _ => AckStage.program alertId responderId) stages)
    {dto : RespondEmergencyAlertDto} {alert : EmergencyAlert}
    (isStage : stages index = .lookup dto alert)
    (alone : ReadsAlone calls alertId responderId pool index) :
    RewardedOnce alertId responderId calls
      (update stages index
        (.clock dto alert (pool.store.emergencyResponders.find? (alertId, responderId))))
      pool.store := by
  have isCall : calls index = .respond responderId alertId dto :=
    held.about index dto (by rw [isStage]; rfl)
  have asks : (pool.next? index).any (EmergencyCall.looksUp alertId responderId) = true := by
    rw [staged.next?, isStage]
    exact decide_eq_true ⟨rfl, rfl⟩
  -- Whoever else is going to reward has not written the row, or the row has a date.
  have nobody : First dto (pool.store.emergencyResponders.find? (alertId, responderId)) →
      ∀ other, other ≠ index → ¬ (stages other).Rewards := by
    intro first other different rewards
    obtain unsaved | saved := rewards
    · have acknowledges : (calls index).Acknowledges alertId responderId := by
        rw [isCall]
        exact ⟨rfl, rfl, first.1⟩
      refine alone ⟨acknowledges, asks, first.2⟩ other different (held.acknowledges unsaved) ?_
      rw [staged.next?]
      exact unsaved.next?
    · exact held.saved other saved first.2
  have own : ∀ {existing}, (AckStage.clock dto alert existing).Rewards → First dto existing :=
    fun rewards => rewards.elim id False.elim
  refine ⟨?_, ?_, ?_, ?_, held.once, held.rewarded, ?_⟩
  · intro other program foreign
    obtain ⟨rfl, foreign'⟩ | ⟨-, foreign'⟩ := eq_of_update foreign
    · cases foreign'
    · exact held.foreign other program foreign'
  · intro other dto' about
    by_cases same : other = index
    · subst same
      rw [update_self] at about
      cases about
      exact isCall
    · rw [update_of_ne same] at about
      exact held.about other dto' about
  · intro first second one two
    by_cases isFirst : first = index
    · by_cases isSecond : second = index
      · rw [isFirst, isSecond]
      · rw [isFirst, update_self] at one
        rw [update_of_ne isSecond] at two
        exact absurd two (nobody (own one) second isSecond)
    · rw [update_of_ne isFirst] at one
      obtain ⟨rfl, two'⟩ | ⟨-, two'⟩ := of_update two
      · exact absurd one (nobody (own two') first isFirst)
      · exact held.alone first second one two'
  · intro other rewards
    obtain ⟨rfl, rewards'⟩ | ⟨-, rewards'⟩ := of_update rewards
    · by_contra rewarded
      exact held.rewarded rewarded (own rewards').2
    · exact held.unrewarded other rewards'
  · intro other saved
    obtain ⟨rfl, saved'⟩ | ⟨-, saved'⟩ := of_update saved
    · cases saved'
    · exact held.saved other saved'

/-- The call that was going to reward has done so, and no other is going to. -/
theorem RewardedOnce.reward (held : RewardedOnce alertId responderId calls stages s)
    {alert : EmergencyAlert} {saved : EmergencyResponder} (isStage : stages index = .reward alert saved)
    {program : Flow Unit} (rest : program.Uses (EmergencyCall.Foreign alertId responderId)) :
    RewardedOnce alertId responderId calls (update stages index (.foreign program))
      (s.sent (.gamificationTrigger responderId alertId)) := by
  have rewards : (stages index).Rewards := by
    rw [isStage]
    exact .inr trivial
  have rewarded : (s.sent (.gamificationTrigger responderId alertId)).rewards alertId responderId = 1 := by
    have none := held.unrewarded index rewards
    rw [State.rewards] at none
    rw [State.rewards, State.sent_emissions, List.count_append, none, List.count_singleton_self]
  have dated : s.acknowledgedAt alertId responderId ≠ none :=
    held.saved index (by rw [isStage]; trivial)
  have nobody : ∀ other, ¬ (update stages index (AckStage.foreign program) other).Rewards := by
    intro other isRewarding
    obtain ⟨rfl, isRewarding'⟩ | ⟨same, isRewarding'⟩ := of_update isRewarding
    · exact isRewarding'.elim False.elim False.elim
    · exact same (held.alone other index isRewarding' rewards)
  refine ⟨?_, ?_, fun first _ one => absurd one (nobody first),
    fun other isRewarding => absurd isRewarding (nobody other), rewarded.le, fun _ => dated,
    fun other isSaved => absurd (.inr isSaved) (nobody other)⟩
  · intro other program' foreign
    obtain ⟨rfl, foreign'⟩ | ⟨-, foreign'⟩ := eq_of_update foreign
    · cases foreign'
      exact rest
    · exact held.foreign other program' foreign'
  · intro other dto about
    by_cases same : other = index
    · subst same
      rw [update_self] at about
      cases about
    · rw [update_of_ne same] at about
      exact held.about other dto about

/-- **Every step keeps the invariant in which acknowledging calls read alone.** -/
theorem RewardedOnce.advance (held : RewardedOnce alertId responderId calls stages pool.store)
    (staged : pool.InStages (fun _ => AckStage.program alertId responderId) stages)
    (alone : ReadsAlone calls alertId responderId pool index)
    (moves : AckMoves alertId responderId pool.store (stages index) request stage') :
    RewardedOnce alertId responderId calls (update stages index stage') (answer request pool.store).2 := by
  obtain ⟨dto, alert, isStage, rfl, rfl⟩ | ⟨alert, saved, program, isStage, rfl, rfl⟩ | steady :=
    moves.cases_on
  · exact held.read staged isStage alone
  · exact held.reward isStage (moves.foreign_stays rfl)
  · exact held.steady (fun _ => moves.foreign_stays) (fun _ => moves.about_stays) steady

end Invariant

/-! ## The reward is given once -/

variable [DecidableEq Index]

/-- **A rider is rewarded for an alert at most once**, in every interleaving in which an
acknowledging call reads an unacknowledged row only while no other acknowledging call is between
its read and its upsert. -/
theorem acknowledged_once (calls : Index → AlertCall) (s : State) (alertId : AlertId)
    (responderId : UserId) (unrewarded : s.rewards alertId responderId = 0) (schedule : List Index)
    (alone : EachStep (advance answer) (ReadsAlone calls alertId responderId)
      (alertCalls calls s) schedule) :
    Throughout (advance answer) (fun pool => pool.store.rewards alertId responderId ≤ 1)
      (alertCalls calls s) schedule := by
  choose start isProgram idle foreign about using fun index =>
    alertProgram_ackStage alertId responderId (calls index)
  have staged : (alertCalls calls s).InStages (fun _ => AckStage.program alertId responderId) start :=
    fun index => (isProgram index).symm
  have initially : RewardedOnce alertId responderId calls start s :=
    { foreign := foreign
      about := about
      alone := fun first _ rewards => absurd rewards (idle first)
      unrewarded := fun index rewards => absurd rewards (idle index)
      once := unrewarded.le.trans (Nat.zero_le 1)
      rewarded := fun rewarded => absurd unrewarded rewarded
      saved := fun index saved => absurd (.inr saved) (idle index) }
  have throughout := throughout_of_stages (fun _ => AckMoves alertId responderId)
    (RewardedOnce alertId responderId calls) (ReadsAlone calls alertId responderId)
    (fun stages store index held => ack_follows (stages index) store (held.foreign index))
    (fun pool stages index request stage' staged held alone _ moves => held.advance staged alone moves)
    staged initially alone
  refine throughout.mono fun pool held => ?_
  obtain ⟨stages, -, held⟩ := held
  exact held.once

/-- Rider 2 acknowledges the alert of rider 1, says that they cannot come, and acknowledges it
again. -/
def changesMind : Fin 3 → AlertCall
  | 0 => .respond 2 0 ⟨.acknowledged, none⟩
  | 1 => .respond 2 0 ⟨.declined, none⟩
  | 2 => .respond 2 0 ⟨.acknowledged, none⟩

/-- One answer after the other. -/
def oneByOne : List (Fin 3) := (List.finRange 3).flatMap (List.replicate 10)

theorem acknowledged_once_small :
    Throughout (advance answer) (fun pool => pool.store.rewards 0 2 ≤ 1)
        (alertCalls changesMind alerted) oneByOne ∧
      (follow (advance answer) (alertCalls changesMind alerted) oneByOne).store.rewards 0 2 = 1 :=
  ⟨acknowledged_once changesMind alerted 0 2 (by decide +kernel) oneByOne (by decide +kernel),
    by decide +kernel⟩

/-- **A doubled acknowledgement is rewarded twice**: both read the row before either writes it. -/
theorem acknowledged_twice :
    ¬ Throughout (advance answer) (fun pool => pool.store.rewards 0 2 ≤ 1)
      (alertCalls (fun _ : Bool => .respond 2 0 ⟨.acknowledged, none⟩) alerted)
      (List.replicate 3 false ++ List.replicate 3 true ++ List.replicate 5 false ++
        List.replicate 5 true) :=
  fun once => absurd once.last (by decide +kernel)

end Motogram.Emergency
