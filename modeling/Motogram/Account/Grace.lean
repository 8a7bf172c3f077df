import Motogram.Account.Deletion

/-!
# The days of grace

A request for the deletion of an account is put in a record with the date it is due, and a job
of the queue is added for that date. The batch reads the dates. The processor of the job reads
whether the deletion is cancelled or executed, and no date: the delay of the job is to see to
it. When the job of an earlier request is still in the queue, because its id was not stored or
the queue was out of order when it was to be cancelled, it deletes the account of a later
request before that is due (`leftover_job_deletes`).

So no account is deleted before it is due exactly when, at every step that runs a job for a
pending deletion, the job has the date of the record or the record is due
(`grace_kept_iff`).
-/

set_option autoImplicit false

namespace Motogram.Account

open Foundation Program Table State

variable {s : State} {userId : UserId} {jobId : JobId}

/-! ## Runs -/

inductive DeletionOp where
  | requestDeletion (userId : UserId) (reason : Option String)
  | cancelDeletion (userId : UserId)
  | cancelDeletionOnLogin (userId : UserId)
  | executeDeletions
  | runJob (jobId : JobId)
  | elapse (milliseconds : Nat)
  -- the queue and the column of the job's id fail from here on, or no longer
  | setFaults (faults : Faults)

/-- Finish an operation before the next one begins. -/
def State.step (s : State) : DeletionOp → State
  | .requestDeletion userId reason => ((requestDeletion userId reason).exec s).2
  | .cancelDeletion userId => ((cancelDeletion userId).exec s).2
  | .cancelDeletionOnLogin userId => ((cancelDeletionOnLogin userId).exec s).2
  | .executeDeletions => (executeDeletions.exec s).2
  | .runJob jobId => ((runJob jobId).exec s).2
  | .elapse milliseconds => (answer (.auth (.elapse milliseconds)) s).2
  | .setFaults faults => s.withFaults faults

/-- A user who is deleted at the step has no deletion record that is not cancelled and not
yet due. -/
def State.KeepsGrace (s : State) (op : DeletionOp) : Prop :=
  ∀ userId record, (s.auth.users.find? userId).isSome →
    (s.step op).auth.users.find? userId = none →
      s.auth.accountDeletions.find? userId = some record → record.cancelledAt = none →
        record.scheduledFor ≤ s.auth.now

/-- A job that is run for a pending deletion has the date of the record, or the record is due. -/
def State.RunsOwnJobs (s : State) (op : DeletionOp) : Prop :=
  ∀ jobId record, op = .runJob jobId → s.starts jobId = true →
    (s.auth.users.find? jobId.1).isSome → s.auth.accountDeletions.find? jobId.1 = some record →
      record.cancelledAt = none → record.executedAt = none →
        jobId.2 = record.scheduledFor ∨ record.scheduledFor ≤ s.auth.now

/-! ## Flows that delete nobody -/

/-- The calls of a request and of a cancellation. A job is added to run at its date, when the
clock is read at `now`. -/
inductive AccountCall.Schedules (now : Time) : AccountCall → Prop where
  | dateNow : Schedules now (.auth .dateNow)
  | userFindUnique (userId : UserId) : Schedules now (.auth (.userFindUnique userId))
  | accountDeletionFindUnique (userId : UserId) :
      Schedules now (.auth (.accountDeletionFindUnique userId))
  | requestDeletionTransaction (userId : UserId) (at' scheduledFor : Time) (reason : Option String) :
      Schedules now (.requestDeletionTransaction userId at' scheduledFor reason)
  | accountDeletionSetJobId (userId : UserId) (jobId : JobId) :
      Schedules now (.accountDeletionSetJobId userId jobId)
  | cancelDeletionTransaction (userId : UserId) : Schedules now (.cancelDeletionTransaction userId)
  | queueAdd (jobId : JobId) (delayMs : Nat) (later : jobId.2 ≤ now + delayMs) :
      Schedules now (.queueAdd jobId delayMs)
  | queueGetJob (jobId : JobId) : Schedules now (.queueGetJob jobId)
  | jobGetState (jobId : JobId) : Schedules now (.jobGetState jobId)
  | jobRemove (jobId : JobId) : Schedules now (.jobRemove jobId)

variable {now : Time}

theorem AccountCall.Cancels.schedules {request : AccountCall} (cancels : request.Cancels) :
    request.Schedules now := by
  cases cancels <;> constructor

theorem toStatus_schedules (record : Option Auth.AccountDeletion) :
    (toStatus record).Uses (AccountCall.Schedules now) :=
  (toStatus_cancels record).mono fun _ => AccountCall.Cancels.schedules

/-- What is left of `scheduleDeletion` when the clock has been read. -/
theorem scheduled_schedules (userId : UserId) (reason : Option String) :
    (call (.requestDeletionTransaction userId now (now + deletionGraceMs) reason) >>=
      fun requested => rethrow requested >>= fun record =>
        enqueueDeletion userId (now + deletionGraceMs) now >>= fun _ =>
          toStatus (some record)).Uses (AccountCall.Schedules now) := by
  refine Uses.send (.requestDeletionTransaction userId now _ reason) fun requested => ?_
  refine Uses.bind (rethrow_uses requested _) fun record => ?_
  refine Uses.bind ?_ fun _ => toStatus_schedules (some record)
  have later : now + deletionGraceMs ≤ now + (now + deletionGraceMs - now) := by
    rw [Nat.add_sub_cancel_left]
  refine Uses.send (.queueAdd _ _ later) fun added => ?_
  cases added with
  | error error => trivial
  | ok value => exact Uses.send (.accountDeletionSetJobId userId _) fun _ => trivial

/-! ## The queue -/

def State.QueueSound (s : State) : Prop :=
  ∀ jobId job, s.jobs.find? jobId = some job → jobId.2 ≤ job.runAt

/-- Nobody is deleted from the first state to the second, and jobs are added for their dates. -/
structure Spares (s t : State) : Prop where
  clock : t.auth.now = s.auth.now
  riders : ∀ userId, (t.auth.users.find? userId).isSome = (s.auth.users.find? userId).isSome
  queue : s.QueueSound → t.QueueSound

theorem Spares.refl (s : State) : Spares s s := ⟨rfl, fun _ => rfl, id⟩

theorem Spares.trans {t u : State} (first : Spares s t) (second : Spares t u) : Spares s u :=
  ⟨second.clock.trans first.clock, fun userId => (second.riders userId).trans (first.riders userId),
    fun sound => second.queue (first.queue sound)⟩

/-- The columns of a user change, and the records. -/
theorem spares_withDeletedAt (s : State) (userId : UserId) (deletedAt : Option Time)
    (accountDeletions : Table UserId Auth.AccountDeletion) :
    Spares s (s.withDeletedAt userId deletedAt accountDeletions) :=
  ⟨rfl, fun _ => isSome_find?_modify _ _ _ _, id⟩

theorem spares_answer {request : AccountCall} (schedules : request.Schedules s.auth.now) :
    Spares s (answer request s).2 := by
  cases schedules with
  | dateNow | userFindUnique | accountDeletionFindUnique => exact ⟨rfl, fun _ => rfl, id⟩
  | requestDeletionTransaction userId at' scheduledFor reason =>
    simp only [answer]
    split
    · exact .refl s
    · exact spares_withDeletedAt s userId _ _
  | accountDeletionSetJobId userId jobId =>
    simp only [answer]
    split
    · exact .refl s
    · exact ⟨rfl, fun _ => rfl, id⟩
  | cancelDeletionTransaction userId =>
    simp only [answer]
    split
    · exact spares_withDeletedAt s userId _ _
    · exact .refl s
  | queueAdd jobId delayMs later =>
    simp only [answer]
    split
    · exact .refl s
    · refine ⟨rfl, fun _ => rfl, fun sound other job found => ?_⟩
      rw [withJobs_jobs, find?_insert] at found
      split at found
      · rename_i new
        cases found
        rw [new.1]
        exact later
      · exact sound other job found
  | queueGetJob | jobGetState =>
    simp only [answer]
    split <;> exact .refl s
  | jobRemove jobId =>
    simp only [answer]
    split
    · exact .refl s
    · split
      · exact .refl s
      · refine ⟨rfl, fun _ => rfl, fun sound other job found => ?_⟩
        rw [withJobs_jobs, find?_erase] at found
        split at found
        · cases found
        · exact sound other job found

theorem spares_run {Value : Type} {flow : Flow Value}
    (uses : flow.Uses (AccountCall.Schedules s.auth.now)) : Spares s (flow.exec s).2 := by
  refine Uses.run_keeps answer uses (fun request t permitted spares => ?_) (Spares.refl s)
  rw [← spares.clock] at permitted
  exact spares.trans (spares_answer permitted)

/-- A cancellation deletes nobody. -/
theorem spares_cancel {Value : Type} {flow : Flow Value} (cancels : flow.Uses AccountCall.Cancels)
    (s : State) : Spares s (flow.exec s).2 :=
  spares_run (cancels.mono fun _ => AccountCall.Cancels.schedules)

theorem spares_scheduleDeletion (userId : UserId) (reason : Option String) (s : State) :
    Spares s ((scheduleDeletion userId reason).exec s).2 := by
  have clock : answer (.auth .dateNow) s = (s.auth.now, s) := rfl
  rw [Flow.exec, scheduleDeletion, call_bind, run_call_of_answer _ clock]
  exact spares_run (scheduled_schedules userId reason)

theorem spares_requestDeletion (userId : UserId) (reason : Option String) (s : State) :
    Spares s ((requestDeletion userId reason).exec s).2 := by
  have user : answer (.auth (.userFindUnique userId)) s = (s.auth.users.find? userId, s) := rfl
  have deletion : answer (.auth (.accountDeletionFindUnique userId)) s =
      (s.auth.accountDeletions.find? userId, s) := rfl
  rw [Flow.exec, requestDeletion, run_sends_of user]
  cases s.auth.users.find? userId with
  | none => exact .refl s
  | some found =>
    rw [run_sends_of deletion]
    cases s.auth.accountDeletions.find? userId with
    | none => exact spares_scheduleDeletion userId reason s
    | some record =>
      dsimp only
      split
      · exact spares_run (toStatus_schedules _)
      · exact spares_scheduleDeletion userId reason s

/-! ## Deletions -/

theorem find?_follow_hardDelete (s : State) (userIds : List UserId) (userId : UserId) :
    (Foundation.follow hardDelete s userIds).auth.users.find? userId =
      if userId ∈ userIds then none else s.auth.users.find? userId := by
  induction userIds generalizing s with
  | nil => rfl
  | cons first rest ih =>
    rw [follow_cons, ih, hardDelete]
    by_cases later : userId ∈ rest
    · rw [if_pos later, if_pos (List.mem_cons_of_mem _ later)]
    · rw [if_neg later]
      by_cases same : userId = first
      · subst same
        rw [if_pos (List.mem_cons_self ..)]
        split
        · rename_i missing
          exact Option.isNone_iff_eq_none.mp missing
        · simp [withRiders_auth, cascadeAuth]
      · rw [if_neg fun listed => (List.mem_cons.mp listed).elim same later]
        split
        · rfl
        · simp [withRiders_auth, cascadeAuth, same]

theorem follow_hardDelete_keeps (s : State) (userIds : List UserId) :
    (Foundation.follow hardDelete s userIds).jobs = s.jobs ∧
      (Foundation.follow hardDelete s userIds).auth.now = s.auth.now := by
  induction userIds generalizing s with
  | nil => exact ⟨rfl, rfl⟩
  | cons first rest ih =>
    rw [follow_cons, (ih _).1, (ih _).2, hardDelete]
    split <;> exact ⟨rfl, rfl⟩

theorem due_of_mem_pendingDeletions (member : userId ∈ s.pendingDeletions) :
    ∃ record, s.auth.accountDeletions.find? userId = some record ∧ record.scheduledFor ≤ s.auth.now := by
  obtain ⟨⟨key, record⟩, taken, rfl⟩ := List.mem_map.mp member
  obtain ⟨found, selected⟩ := mem_select.mp (List.mem_of_mem_take taken)
  simp only [Bool.and_eq_true, decide_eq_true_eq] at selected
  exact ⟨record, found, selected.1.1⟩

/-- A job that was taken, and one that is tried again, keep their dates. -/
theorem queueSound_jobsAfter (sound : s.QueueSound) (starts : s.starts jobId = true) :
    ∀ other job, (s.jobsAfter jobId).find? other = some job → other.2 ≤ job.runAt := by
  intro other job found
  rw [jobsAfter, find?_modify] at found
  by_cases same : other = jobId
  · subst same
    rw [if_pos rfl, find?_modify_self, Option.map_map, Option.map_eq_some_iff] at found
    obtain ⟨before, stored, after⟩ := found
    have date := sound other before stored
    rw [State.starts, stored, Option.any_some, decide_eq_true_eq] at starts
    subst after
    rw [Function.comp_apply]
    split
    · -- a retry is later than the attempt that failed
      rw [DeletionJob.retry]
      split
      · exact le_trans date (le_trans starts.2 (Nat.le_add_right _ _))
      · exact date
    · exact date
  · rw [if_neg same, find?_modify_of_ne _ same] at found
    exact sound other job found

theorem State.QueueSound.step (sound : s.QueueSound) (op : DeletionOp) : (s.step op).QueueSound := by
  cases op with
  | requestDeletion userId reason => exact (spares_requestDeletion userId reason s).queue sound
  | cancelDeletion userId => exact (spares_cancel (cancelDeletion_cancels userId) s).queue sound
  | cancelDeletionOnLogin userId =>
    exact (spares_cancel (cancelDeletionOnLogin_cancels userId) s).queue sound
  | executeDeletions =>
    intro jobId job found
    rw [State.step, exec_executeDeletions, (follow_hardDelete_keeps s _).1] at found
    exact sound jobId job found
  | runJob jobId =>
    rw [State.step]
    cases starts : s.starts jobId with
    | false => rwa [exec_runJob_of_not_starts starts]
    | true =>
      rw [exec_runJob_of_starts starts]
      exact queueSound_jobsAfter sound starts
  | elapse | setFaults => exact sound

theorem keepsGrace_of_riders {op : DeletionOp}
    (riders : ∀ userId, ((s.step op).auth.users.find? userId).isSome =
      (s.auth.users.find? userId).isSome) : s.KeepsGrace op := by
  intro userId record present absent
  have kept := riders userId
  rw [absent, present] at kept
  cases kept

theorem find?_runJob (s : State) (jobId : JobId) (userId : UserId) :
    ((runJob jobId).exec s).2.auth.users.find? userId =
      if s.starts jobId = true ∧ s.deletionPending jobId.1 = true ∧ userId = jobId.1 then none
      else s.auth.users.find? userId := by
  cases starts : s.starts jobId with
  | false => rw [exec_runJob_of_not_starts starts, if_neg (by simp)]
  | true =>
    rw [exec_runJob_of_starts starts]
    cases pending : s.deletionPending jobId.1 with
    | false => simp
    | true =>
      have deleted := find?_follow_hardDelete s [jobId.1] userId
      rw [follow_cons, follow_nil] at deleted
      simp [deleted]

theorem deletionPending_iff : s.deletionPending userId = true ↔
    ∃ record, s.auth.accountDeletions.find? userId = some record ∧ record.cancelledAt = none ∧
      record.executedAt = none := by
  rw [deletionPending, Option.any_eq_true]
  simp only [Bool.and_eq_true, Option.isNone_iff_eq_none]

theorem State.QueueSound.due (sound : s.QueueSound) (starts : s.starts jobId = true) : jobId.2 ≤ s.auth.now := by
  rw [State.starts, Option.any_eq_true] at starts
  obtain ⟨job, found, due⟩ := starts
  exact le_trans (sound jobId job found) (of_decide_eq_true due).2

/-- A step keeps the days of grace exactly when it runs no job of another date too early. -/
theorem State.QueueSound.keepsGrace_iff (sound : s.QueueSound) (op : DeletionOp) :
    s.KeepsGrace op ↔ s.RunsOwnJobs op := by
  cases op with
  | requestDeletion userId reason =>
    exact iff_of_true (keepsGrace_of_riders (spares_requestDeletion userId reason s).riders) (by rintro _ _ ⟨⟩)
  | cancelDeletion userId =>
    exact iff_of_true (keepsGrace_of_riders (spares_cancel (cancelDeletion_cancels userId) s).riders)
      (by rintro _ _ ⟨⟩)
  | cancelDeletionOnLogin userId =>
    exact iff_of_true (keepsGrace_of_riders (spares_cancel (cancelDeletionOnLogin_cancels userId) s).riders)
      (by rintro _ _ ⟨⟩)
  | executeDeletions =>
    refine iff_of_true (fun userId record present absent found live => ?_) (by rintro _ _ ⟨⟩)
    rw [State.step, exec_executeDeletions, find?_follow_hardDelete] at absent
    split at absent
    · rename_i pending
      obtain ⟨stored, found', due⟩ := due_of_mem_pendingDeletions pending
      cases found.symm.trans found'
      exact due
    · rw [absent] at present
      cases present
  | runJob jobId =>
    constructor
    · rintro keeps _ record ⟨⟩ starts present found live unexecuted
      refine .inr (keeps jobId.1 record present ?_ found live)
      rw [State.step, find?_runJob,
        if_pos ⟨starts, deletionPending_iff.mpr ⟨record, found, live, unexecuted⟩, rfl⟩]
    · intro own userId record present absent found live
      rw [State.step, find?_runJob] at absent
      split at absent
      · rename_i runs
        obtain ⟨starts, pending, rfl⟩ := runs
        obtain ⟨stored, found', -, unexecuted⟩ := deletionPending_iff.mp pending
        cases found.symm.trans found'
        obtain same | due := own jobId record rfl starts present found live unexecuted
        · rw [← same]
          exact sound.due starts
        · exact due
      · rw [absent] at present
        cases present
  | elapse | setFaults =>
    exact iff_of_true (keepsGrace_of_riders fun _ => rfl) (by rintro _ _ ⟨⟩)

/-- **No account is deleted before it is due exactly when no job with another date than the
record's is run for a pending deletion that is not due.** -/
theorem grace_kept_iff (deployment : Deployment) (auth : Auth.State) (social : Social.State)
    (ops : List DeletionOp) :
    EachStep State.step State.KeepsGrace (.initial deployment auth social) ops ↔
      EachStep State.step State.RunsOwnJobs (.initial deployment auth social) ops := by
  have initially : (State.initial deployment auth social).QueueSound := by
    rintro jobId job ⟨⟩
  constructor
  · intro keeps
    exact eachStep_of_keeps (fun s op sound _ => sound.step op)
      (fun s op sound kept => (sound.keepsGrace_iff op).mp kept) initially keeps
  · intro own
    exact eachStep_of_keeps (fun s op sound _ => sound.step op)
      (fun s op sound runs => (sound.keepsGrace_iff op).mpr runs) initially own

/-! ## A small installation -/

/-- Two riders, and no deletions yet. -/
def smallStart : State := .initial smallDeployment smallInstallation.auth smallInstallation.social

/-- The first request of rider 0 leaves its job in the queue, because the id of it is not stored.
Rider 0 cancels the request, and makes another one a day later. -/
def leftoverJob : List DeletionOp :=
  [.setFaults ⟨false, true, false⟩, .requestDeletion 0 none, .setFaults ⟨false, false, false⟩,
    .cancelDeletion 0, .elapse (24 * 3600 * 1000), .requestDeletion 0 none,
    .elapse (29 * 24 * 3600 * 1000), .runJob (0, deletionGraceMs)]

def secondRequest : Auth.AccountDeletion where
  requestedAt := 24 * 3600 * 1000
  scheduledFor := 24 * 3600 * 1000 + deletionGraceMs
  reason := none
  cancelledAt := none
  executedAt := none
  jobId := some (0, 24 * 3600 * 1000 + deletionGraceMs)

/-- The job of the first request deletes the account a day before the second one is due. -/
theorem leftover_job_deletes : ¬ EachStep State.step State.KeepsGrace smallStart leftoverJob := by
  intro keeps
  obtain ⟨-, -, -, -, -, -, -, last, -⟩ := keeps
  have due := last 0 secondRequest (by decide +kernel) (by decide +kernel) (by decide +kernel) rfl
  exact absurd due (by decide +kernel)

end Motogram.Account
