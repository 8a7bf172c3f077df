import Motogram.Account.Store

/-!
# The account service

`account.service.ts` and `deletion.queue.ts`: a deletion is requested, cancelled and executed,
by the hourly batch and by the delayed job of the queue. Every function is a program over the
calls of the store, in the order of the source.
-/

set_option autoImplicit false

namespace Motogram.Account

open Foundation Program

/-! ## Exceptions -/

def userNotFound : ServiceError := .http .notFound "user_not_found" .notFound none
def noActiveDeletion : ServiceError := .http .badRequest "no_active_deletion" .validationFailed none

/-! ## The status -/

structure AccountDeletionStatusDto where
  pending : Bool
  requestedAt : Option Time
  scheduledFor : Option Time
  daysRemaining : Option Nat
  deriving DecidableEq

/-- `Math.max(0, Math.ceil(remainingMs / day))`. -/
def daysRemaining (scheduledFor now : Time) : Nat :=
  (scheduledFor - now + (24 * 3600 * 1000 - 1)) / (24 * 3600 * 1000)

def toStatus (record : Option Auth.AccountDeletion) : Flow AccountDeletionStatusDto :=
  match record with
  | none => pure ⟨false, none, none, none⟩
  | some record =>
    if record.cancelledAt.isSome ∨ record.executedAt.isSome then pure ⟨false, none, none, none⟩
    else do
      let now : Time ← call (.auth .dateNow)
      pure ⟨true, some record.requestedAt, some record.scheduledFor,
        some (daysRemaining record.scheduledFor now)⟩

/-! ## The queue -/

/-- `cancelByJobId`. -/
def cancelByJobId (jobId : JobId) : Flow (Except QueueError Bool) := do
  let found : Except QueueError Bool ← call (.queueGetJob jobId)
  match found with
  | .error error => pure (.error error)
  | .ok false => pure (.ok false)
  | .ok true => do
    let state : Except QueueError (Option JobState) ← call (.jobGetState jobId)
    match state with
    | .error error => pure (.error error)
    | .ok state =>
      if state = some .completed ∨ state = some .failed ∨ state = some .active then
        pure (.ok false)
      else do
        let removed : Except QueueError Unit ← call (.jobRemove jobId)
        match removed with
        | .error error => pure (.error error)
        | .ok _ => pure (.ok true)

/-- The job of a record is cancelled; an error of the queue is logged only. -/
def cancelJob (jobId : Option JobId) : Flow Unit :=
  match jobId with
  | none => pure ()
  | some jobId => do
    let _ ← cancelByJobId jobId
    pure ()

/-! ## Requesting -/

/-- The end of `requestDeletion`: the job is added and its id stored; an error of either is
logged only. -/
def enqueueDeletion (userId : UserId) (scheduledFor now : Time) : Flow Unit := do
  let added : Except QueueError Unit ← call (.queueAdd (userId, scheduledFor) (scheduledFor - now))
  match added with
  | .error _ => pure ()
  | .ok _ => do
    let _ : Except PrismaError Unit ←
      call (.accountDeletionSetJobId userId (userId, scheduledFor))
    pure ()

/-- `requestDeletion` when no deletion is pending. -/
def scheduleDeletion (userId : UserId) (reason : Option String) : Flow AccountDeletionStatusDto := do
  let now : Time ← call (.auth .dateNow)
  let requested : Except PrismaError Auth.AccountDeletion ←
    call (.requestDeletionTransaction userId now (now + deletionGraceMs) reason)
  let record ← rethrow requested
  enqueueDeletion userId (now + deletionGraceMs) now
  toStatus (some record)

/-- `requestDeletion`. The row of the user is read together with its deletion. -/
def requestDeletion (userId : UserId) (reason : Option String) : Flow AccountDeletionStatusDto := do
  let user : Option Auth.User ← call (.auth (.userFindUnique userId))
  match user with
  | none => .fail userNotFound
  | some _ => do
    let deletion : Option Auth.AccountDeletion ← call (.auth (.accountDeletionFindUnique userId))
    match deletion with
    | none => scheduleDeletion userId reason
    | some deletion =>
      if deletion.executedAt.isNone ∧ deletion.cancelledAt.isNone then toStatus (some deletion)
      else scheduleDeletion userId reason

/-! ## Cancelling -/

def cancelDeletionOnLogin (userId : UserId) : Flow Bool := do
  let record : Option Auth.AccountDeletion ← call (.auth (.accountDeletionFindUnique userId))
  match record with
  | none => pure false
  | some record =>
    if record.executedAt.isSome ∨ record.cancelledAt.isSome then pure false
    else do
      let cancelled : Except PrismaError Auth.AccountDeletion ← call (.cancelDeletionTransaction userId)
      let _ ← rethrow cancelled
      cancelJob record.jobId
      pure true

/-- `onAuthLogin`: an exception is logged only. -/
def onAuthLogin (userId : UserId) : Flow Unit :=
  rescue (do
    let _ ← cancelDeletionOnLogin userId
    pure ()) fun _ => pure ()

def cancelDeletion (userId : UserId) : Flow AccountDeletionStatusDto := do
  let record : Option Auth.AccountDeletion ← call (.auth (.accountDeletionFindUnique userId))
  match record with
  | none => .fail noActiveDeletion
  | some record =>
    if record.executedAt.isSome then .fail noActiveDeletion
    else if record.cancelledAt.isSome then toStatus (some record)
    else do
      let cancelled : Except PrismaError Auth.AccountDeletion ← call (.cancelDeletionTransaction userId)
      let updated ← rethrow cancelled
      cancelJob record.jobId
      toStatus (some updated)

/-! ## Executing -/

def executeSingleDeletion (userId : UserId) : Flow Unit := do
  let deleted : Except PrismaError Unit ← call (.userDelete userId)
  rethrow deleted

/-- The processor of the queue. -/
def processDeletion (userId : UserId) : Flow Unit := do
  let record : Option Auth.AccountDeletion ← call (.auth (.accountDeletionFindUnique userId))
  match record with
  | none => pure ()
  | some record =>
    if record.cancelledAt.isSome then pure ()
    else if record.executedAt.isSome then pure ()
    else executeSingleDeletion userId

/-- The worker takes a job whose delay has passed, runs the processor, and marks the job. -/
def runJob (jobId : JobId) : Flow Unit := do
  let started : Bool ← call (.jobStart jobId)
  if started = true then
    rescue (processDeletion jobId.1 >>= fun _ => call (.jobCompleted jobId))
      fun _ => call (.jobFailed jobId)
  else pure ()

/-- The loop of `executeDeletions`: `processed` and `errors`. -/
def deletePending : List UserId → Flow (Nat × Nat)
  | [] => pure (0, 0)
  | userId :: rest => do
    let deleted : Except PrismaError Unit ← call (.userDelete userId)
    let (processed, errors) ← deletePending rest
    match deleted with
    | .ok _ => pure (processed + 1, errors)
    | .error _ => pure (processed, errors + 1)

def executeDeletions : Flow (Nat × Nat) := do
  let now : Time ← call (.auth .dateNow)
  let pending : List UserId ← call (.accountDeletionFindPending now)
  deletePending pending

/-! ## The calls of a cancellation -/

inductive AccountCall.Cancels : AccountCall → Prop where
  | dateNow : Cancels (.auth .dateNow)
  | accountDeletionFindUnique (userId : UserId) : Cancels (.auth (.accountDeletionFindUnique userId))
  | cancelDeletionTransaction (userId : UserId) : Cancels (.cancelDeletionTransaction userId)
  | queueGetJob (jobId : JobId) : Cancels (.queueGetJob jobId)
  | jobGetState (jobId : JobId) : Cancels (.jobGetState jobId)
  | jobRemove (jobId : JobId) : Cancels (.jobRemove jobId)

theorem rethrow_uses {Value : Type} (reply : Except PrismaError Value) (permitted : AccountCall → Prop) :
    (rethrow reply).Uses permitted := by
  cases reply <;> trivial

theorem toStatus_cancels (record : Option Auth.AccountDeletion) : (toStatus record).Uses AccountCall.Cancels := by
  cases record with
  | none => trivial
  | some record =>
    unfold toStatus
    dsimp only
    split
    · trivial
    · exact Uses.send .dateNow fun now => trivial

theorem cancelJob_cancels (jobId : Option JobId) : (cancelJob jobId).Uses AccountCall.Cancels := by
  cases jobId with
  | none => trivial
  | some jobId =>
    refine Uses.bind ?_ fun _ => trivial
    refine Uses.send (.queueGetJob jobId) fun found => ?_
    obtain error | found := found
    · trivial
    · cases found with
      | false => trivial
      | true =>
        refine Uses.send (.jobGetState jobId) fun state => ?_
        obtain error | state := state
        · trivial
        · dsimp only
          split
          · trivial
          · refine Uses.send (.jobRemove jobId) fun removed => ?_
            cases removed <;> trivial

theorem cancelDeletionOnLogin_cancels (userId : UserId) :
    (cancelDeletionOnLogin userId).Uses AccountCall.Cancels := by
  refine Uses.send (.accountDeletionFindUnique userId) fun record => ?_
  cases record with
  | none => trivial
  | some record =>
    dsimp only
    split
    · trivial
    · refine Uses.send (.cancelDeletionTransaction userId) fun cancelled => ?_
      refine Uses.bind (rethrow_uses cancelled _) fun _ => ?_
      exact Uses.bind (cancelJob_cancels record.jobId) fun _ => trivial

theorem cancelDeletion_cancels (userId : UserId) : (cancelDeletion userId).Uses AccountCall.Cancels := by
  refine Uses.send (.accountDeletionFindUnique userId) fun record => ?_
  cases record with
  | none => trivial
  | some record =>
    dsimp only
    split
    · trivial
    · split
      · exact toStatus_cancels _
      · refine Uses.send (.cancelDeletionTransaction userId) fun cancelled => ?_
        refine Uses.bind (rethrow_uses cancelled _) fun updated => ?_
        exact Uses.bind (cancelJob_cancels record.jobId) fun _ => toStatus_cancels _

/-! ## What they leave behind -/

/-- The user is deleted with all that hangs on the row; one that is not there stays away. -/
def State.hardDelete (s : State) (userId : UserId) : State :=
  if (s.auth.users.find? userId).isNone then s
  else s.withRiders (cascadeAuth s.auth userId) (cascade s.social userId)

/-- The users whose deletion is due, those of one batch. -/
def State.pendingDeletions (s : State) : List UserId :=
  (answer (.accountDeletionFindPending s.auth.now) s).1

def State.deletionPending (s : State) (userId : UserId) : Bool :=
  (s.auth.accountDeletions.find? userId).any fun record =>
    record.cancelledAt.isNone && record.executedAt.isNone

/-- The delay of the job has passed, and the worker takes it. -/
def State.starts (s : State) (jobId : JobId) : Bool :=
  (s.jobs.find? jobId).any fun job => decide (job.state = .delayed ∧ job.runAt ≤ s.auth.now)

variable {s : State} {userId : UserId} {jobId : JobId}

theorem answer_userDelete (userId : UserId) (s : State) :
    (answer (.userDelete userId) s).2 = s.hardDelete userId := by
  simp only [answer, State.hardDelete]
  split <;> rfl

theorem run_executeSingleDeletion (userId : UserId) (s : State) :
    run answer (executeSingleDeletion userId) s =
      (if (s.auth.users.find? userId).isNone then .error (.prisma .recordNotFound) else .ok (),
        s.hardDelete userId) := by
  rw [executeSingleDeletion, run_sends, answer_userDelete]
  by_cases missing : (s.auth.users.find? userId).isNone
  · have reply : (answer (.userDelete userId) s).1 = .error .recordNotFound := by
      simp only [answer]
      rw [if_pos missing]
    rw [reply, if_pos missing]
    rfl
  · have reply : (answer (.userDelete userId) s).1 = .ok () := by
      simp only [answer]
      rw [if_neg missing]
    rw [reply, if_neg missing]
    rfl

theorem exec_deletePending (userIds : List UserId) (s : State) :
    ((deletePending userIds).exec s).2 = Foundation.follow State.hardDelete s userIds := by
  induction userIds generalizing s with
  | nil => rfl
  | cons userId rest ih =>
    have later := ih (s.hardDelete userId)
    rw [follow_cons, ← later, Flow.exec, Flow.exec, deletePending, call_bind, run_call,
      done_bind, run_bind, answer_userDelete]
    generalize run answer (deletePending rest) (s.hardDelete userId) = outcome
    obtain ⟨error | ⟨processed, errors⟩, after⟩ := outcome
    · rfl
    · cases (answer (.userDelete userId) s).1 <;> rfl

theorem exec_executeDeletions (s : State) :
    (executeDeletions.exec s).2 = Foundation.follow State.hardDelete s s.pendingDeletions :=
  exec_deletePending s.pendingDeletions s

/-- What a job that was taken leaves in the queue: it is completed, or tried again later when
the user it is to delete is not there. -/
def State.jobsAfter (s : State) (jobId : JobId) : Table JobId DeletionJob :=
  (s.jobs.modify jobId (DeletionJob.withState .active)).modify jobId
    (if s.deletionPending jobId.1 && (s.auth.users.find? jobId.1).isNone then
      DeletionJob.retry s.auth.now else DeletionJob.withState .completed)

theorem run_processDeletion (userId : UserId) (s : State) :
    run answer (processDeletion userId) s =
      if s.deletionPending userId then run answer (executeSingleDeletion userId) s
      else (.ok (), s) := by
  have read : answer (.auth (.accountDeletionFindUnique userId)) s =
      (s.auth.accountDeletions.find? userId, s) := rfl
  rw [processDeletion, run_sends_of read,
    State.deletionPending]
  cases s.auth.accountDeletions.find? userId with
  | none => rfl
  | some record =>
    dsimp only
    rw [Option.any_some]
    cases cancelled : record.cancelledAt with
    | some at' => rfl
    | none =>
      cases executed : record.executedAt with
      | some | none => rfl

theorem exec_runJob_of_starts (starts : s.starts jobId = true) :
    ((runJob jobId).exec s).2 =
      (if s.deletionPending jobId.1 then s.hardDelete jobId.1 else s).withJobs (s.jobsAfter jobId) := by
  have taken : answer (.jobStart jobId) s =
      (true, s.withJobs (s.jobs.modify jobId (DeletionJob.withState .active))) := by
    rw [State.starts, Option.any_eq_true] at starts
    obtain ⟨job, found, due⟩ := starts
    simp only [answer, found]
    rw [if_pos (of_decide_eq_true due)]
  have same : (s.withJobs (s.jobs.modify jobId (DeletionJob.withState .active))).deletionPending jobId.1 =
      s.deletionPending jobId.1 := rfl
  rw [Flow.exec, runJob, run_sends_of taken,
    if_pos rfl, run_rescue, run_bind, run_processDeletion, same, State.jobsAfter]
  by_cases pending : s.deletionPending jobId.1
  · rw [run_executeSingleDeletion, State.hardDelete, State.hardDelete]
    by_cases missing : (s.auth.users.find? jobId.1).isNone
    · simp only [State.withJobs_auth, pending, missing, if_true, Bool.and_self]
      rfl
    · simp only [State.withJobs_auth, pending, missing, Bool.and_false]
      rfl
  · simp only [pending, Bool.false_and]
    rfl

theorem exec_runJob_of_not_starts (starts : s.starts jobId = false) : ((runJob jobId).exec s).2 = s := by
  have left : answer (.jobStart jobId) s = (false, s) := by
    simp only [answer]
    rw [State.starts] at starts
    split
    · rfl
    · rename_i job found
      rw [found, Option.any_some, decide_eq_false_iff_not] at starts
      rw [if_neg starts]
  rw [Flow.exec, runJob, call_bind, run_call_of_answer _ left]
  rfl

/-! ## A small installation -/

/-- An installation with one client id for each provider. -/
def smallDeployment : Deployment where
  appleClientId := some "app"
  googleClientIds := ["web"]
  applePlaceholderEmail := fun sub => "apple_" ++ sub ++ "@oauth.motogram.local"
  randomHex := fun draw => toString draw

/-- A rider with a password. -/
def newcomer (username : String) : NewUser where
  email := username ++ "@example.com"
  username := username
  passwordHash := some "secret"
  appleSub := none
  googleSub := none
  name := none

/-- An installation without riders. -/
def emptyInstallation : State :=
  .initial smallDeployment (.initial Auth.smallDeployment 0 .empty)
    (.initial Social.smallDeployment 0 .empty)

def smallInstallation : State :=
  (answer (.userCreate (newcomer "rider_1")) (answer (.userCreate (newcomer "rider_0"))
    emptyInstallation).2).2

end Motogram.Account
