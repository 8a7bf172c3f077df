import Motogram.Account.Deletion
import Motogram.Foundation.Commitment

/-!
# Cancelling while a deletion is executed

The batch reads which deletions are pending, fifty at most, and then deletes the accounts one by
one. The processor of a job reads that its deletion is pending, and then deletes the account.
Neither reads again. When a cancellation commits between the reading and the deletion, the
account is deleted all the same (`cancelled_account_deleted`).

A batch that has read an account is bound to delete it, and so is a job. When no call is bound
to delete the account at the moment a cancellation commits, a cancelled account is not deleted;
and of calls that have all ended, a cancellation under a call that was bound has lost its
account (`cancelled_account_stays`).
-/

set_option autoImplicit false

namespace Motogram.Account

open Foundation Program Table Pool

variable {Index : Type} {s : State} {userId : UserId}

/-! ## Calls -/

inductive DeletionCall where
  | executeDeletions
  | runJob (jobId : JobId)
  | cancelDeletion (userId : UserId)
  | cancelDeletionOnLogin (userId : UserId)
  | elapse (milliseconds : Nat)

def deletionProgram : DeletionCall → Flow Unit
  | .executeDeletions => do
    let _ ← executeDeletions
    pure ()
  | .runJob jobId => runJob jobId
  | .cancelDeletion userId => do
    let _ ← cancelDeletion userId
    pure ()
  | .cancelDeletionOnLogin userId => do
    let _ ← cancelDeletionOnLogin userId
    pure ()
  | .elapse milliseconds => call (.auth (.elapse milliseconds))

abbrev AccountPool (Index : Type) := Pool Index AccountCall AccountReply ServiceError Unit State

/-- Calls about deletions that share the stores. -/
def deletionCalls (calls : Index → DeletionCall) (s : State) : AccountPool Index where
  threads := fun index => deletionProgram (calls index)
  store := s

/-! ## The property and the condition -/

def State.Reprieved (s : State) (userId : UserId) : Prop :=
  (s.auth.users.find? userId).isSome ∧
    ∃ record, s.auth.accountDeletions.find? userId = some record ∧ record.cancelledAt ≠ none

/-- An account whose deletion is cancelled is not deleted at the step. -/
def KeepsReprieved [DecidableEq Index] (pool : AccountPool Index) (index : Index) : Prop :=
  ∀ userId, pool.store.Reprieved userId →
    ((pool.advance answer index).store.auth.users.find? userId).isSome

/-- Where a cancellation commits, no call is bound to delete the account. -/
def CancelsInTime (pool : AccountPool Index) (index : Index) : Prop :=
  ∀ userId, pool.next? index = some (.cancelDeletionTransaction userId) →
    (pool.store.auth.users.find? userId).isSome →
      (pool.store.auth.accountDeletions.find? userId).isSome →
        ∀ other, ¬ (pool.threads other).BoundTo (.userDelete userId)

/-! ## The calls of deletions and cancellations -/

inductive AccountCall.OfDeletion : AccountCall → Prop where
  | dateNow : OfDeletion (.auth .dateNow)
  | elapse (milliseconds : Nat) : OfDeletion (.auth (.elapse milliseconds))
  | accountDeletionFindUnique (userId : UserId) : OfDeletion (.auth (.accountDeletionFindUnique userId))
  | accountDeletionFindPending (now : Time) : OfDeletion (.accountDeletionFindPending now)
  | cancelDeletionTransaction (userId : UserId) : OfDeletion (.cancelDeletionTransaction userId)
  | userDelete (userId : UserId) : OfDeletion (.userDelete userId)
  | queueGetJob (jobId : JobId) : OfDeletion (.queueGetJob jobId)
  | jobGetState (jobId : JobId) : OfDeletion (.jobGetState jobId)
  | jobRemove (jobId : JobId) : OfDeletion (.jobRemove jobId)
  | jobStart (jobId : JobId) : OfDeletion (.jobStart jobId)
  | jobCompleted (jobId : JobId) : OfDeletion (.jobCompleted jobId)
  | jobFailed (jobId : JobId) : OfDeletion (.jobFailed jobId)

variable {request : AccountCall}

theorem AccountCall.Cancels.ofDeletion (cancels : request.Cancels) : request.OfDeletion := by
  cases cancels <;> constructor

theorem AccountCall.Cancels.deletes_nobody (cancels : request.Cancels) (userId : UserId) :
    request ≠ .userDelete userId := by
  cases cancels <;> rintro ⟨⟩

theorem accountReply_nonempty (request : AccountCall) : Nonempty (AccountReply request) :=
  ⟨(answer request emptyInstallation).1⟩

/-! ## What the calls do to a cancelled account -/

theorem rows_answer (ofDeletion : request.OfDeletion) :
    ((answer request s).2.auth.users = s.auth.users ∧
      (answer request s).2.auth.accountDeletions = s.auth.accountDeletions) ∨
    (∃ other deletion, request = .cancelDeletionTransaction other ∧
      (s.auth.users.find? other).isSome ∧ s.auth.accountDeletions.find? other = some deletion ∧
      (answer request s).2.auth.users =
        s.auth.users.modify other (fun user => { user with deletedAt := none }) ∧
      (answer request s).2.auth.accountDeletions =
        s.auth.accountDeletions.upsert other { deletion with cancelledAt := some s.auth.now }) ∨
    (∃ other, request = .userDelete other ∧
      (answer request s).2.auth.users = s.auth.users.erase other ∧
      (answer request s).2.auth.accountDeletions = s.auth.accountDeletions.erase other) := by
  cases ofDeletion with
  | dateNow | elapse | accountDeletionFindUnique | accountDeletionFindPending | jobCompleted | jobFailed =>
    exact .inl ⟨rfl, rfl⟩
  | cancelDeletionTransaction other =>
    simp only [answer]
    split
    · rename_i user deletion present found
      refine .inr (.inl ⟨other, deletion, rfl, ?_, found, rfl, rfl⟩)
      rw [present]
      rfl
    · exact .inl ⟨rfl, rfl⟩
  | userDelete other =>
    simp only [answer]
    split
    · exact .inl ⟨rfl, rfl⟩
    · exact .inr (.inr ⟨other, rfl, rfl, rfl⟩)
  | queueGetJob | jobGetState =>
    simp only [answer]
    split <;> exact .inl ⟨rfl, rfl⟩
  | jobRemove | jobStart =>
    simp only [answer]
    split
    · exact .inl ⟨rfl, rfl⟩
    · split <;> exact .inl ⟨rfl, rfl⟩

/-- An account is deleted by `userDelete` only. -/
theorem present_answer (ofDeletion : request.OfDeletion) (present : (s.auth.users.find? userId).isSome)
    (spared : request ≠ .userDelete userId) : ((answer request s).2.auth.users.find? userId).isSome := by
  obtain ⟨users, -⟩ | ⟨other, deletion, -, -, -, users, -⟩ | ⟨other, rfl, users, -⟩ :=
    rows_answer (s := s) ofDeletion
  · rwa [users]
  · rwa [users, isSome_find?_modify]
  · have apart : userId ≠ other := by
      rintro rfl
      exact spared rfl
    rwa [users, find?_erase, if_neg apart]

/-- An account that is there loses no cancellation. -/
theorem stays_reprieved (ofDeletion : request.OfDeletion) (reprieved : s.Reprieved userId)
    (present : ((answer request s).2.auth.users.find? userId).isSome) :
    (answer request s).2.Reprieved userId := by
  obtain ⟨-, record, found, cancelled⟩ := reprieved
  obtain ⟨-, records⟩ | ⟨other, deletion, -, -, -, -, records⟩ | ⟨other, rfl, users, records⟩ :=
    rows_answer (s := s) ofDeletion
  · exact ⟨present, record, by rwa [records], cancelled⟩
  · by_cases same : userId = other
    · subst same
      refine ⟨present, { deletion with cancelledAt := some s.auth.now }, ?_, by rintro ⟨⟩⟩
      rw [records, find?_upsert, if_pos rfl]
    · exact ⟨present, record, by rwa [records, find?_upsert, if_neg same], cancelled⟩
  · by_cases same : userId = other
    · rw [users, find?_erase, if_pos same] at present
      cases present
    · exact ⟨present, record, by rwa [records, find?_erase, if_neg same], cancelled⟩

theorem reprieved_answer (ofDeletion : request.OfDeletion) (after : (answer request s).2.Reprieved userId) :
    s.Reprieved userId ∨ (request = .cancelDeletionTransaction userId ∧
      (s.auth.users.find? userId).isSome ∧ (s.auth.accountDeletions.find? userId).isSome) := by
  obtain ⟨present, record, found, cancelled⟩ := after
  obtain ⟨users, records⟩ | ⟨other, deletion, rfl, here, stored, users, records⟩ |
      ⟨other, rfl, users, records⟩ := rows_answer (s := s) ofDeletion
  · rw [users] at present
    rw [records] at found
    exact .inl ⟨present, record, found, cancelled⟩
  · by_cases same : userId = other
    · subst same
      exact .inr ⟨rfl, here, Option.isSome_iff_exists.mpr ⟨deletion, stored⟩⟩
    · rw [users, isSome_find?_modify] at present
      rw [records, find?_upsert, if_neg same] at found
      exact .inl ⟨present, record, found, cancelled⟩
  · by_cases same : userId = other
    · rw [users, find?_erase, if_pos same] at present
      cases present
    · rw [users, find?_erase, if_neg same] at present
      rw [records, find?_erase, if_neg same] at found
      exact .inl ⟨present, record, found, cancelled⟩

theorem reprieved_of_commits (present : (s.auth.users.find? userId).isSome)
    (recorded : (s.auth.accountDeletions.find? userId).isSome) :
    (answer (.cancelDeletionTransaction userId) s).2.Reprieved userId := by
  obtain ⟨user, here⟩ := Option.isSome_iff_exists.mp present
  obtain ⟨deletion, found⟩ := Option.isSome_iff_exists.mp recorded
  have written : (answer (.cancelDeletionTransaction userId) s).2 = s.withDeletedAt userId none
      (s.auth.accountDeletions.upsert userId { deletion with cancelledAt := some s.auth.now }) := by
    simp only [answer, here, found]
  rw [written]
  refine ⟨(isSome_find?_modify _ _ _ _).trans present,
    { deletion with cancelledAt := some s.auth.now }, ?_, by rintro ⟨⟩⟩
  exact (find?_upsert _ _ _ _).trans (if_pos rfl)

/-! ## What binds a call to a deletion -/

def Shows : (request : AccountCall) → AccountReply request → UserId → Prop
  | .auth (.accountDeletionFindUnique other), reply, userId =>
    other = userId ∧ ∃ record, reply = some record ∧ record.cancelledAt = none
  | .accountDeletionFindPending _, reply, userId => userId ∈ (reply : List UserId)
  | _, _, _ => False

/-- A reply that shows an account proves that its deletion is not cancelled. -/
theorem not_reprieved_of_shows (request : AccountCall) (s : State) (userId : UserId)
    (shown : Shows request (answer request s).1 userId) : ¬ (answer request s).2.Reprieved userId := by
  rintro ⟨-, record, found, cancelled⟩
  cases request with
  | auth request =>
    cases request with
    | accountDeletionFindUnique other =>
      obtain ⟨rfl, stored, read, live⟩ := shown
      have same : stored = record := Option.some.inj (read.symm.trans found)
      exact cancelled (same ▸ live)
    | _ => exact shown
  | accountDeletionFindPending now =>
    obtain ⟨⟨key, stored⟩, taken, rfl⟩ := List.mem_map.mp shown
    obtain ⟨read, selected⟩ := mem_select.mp (List.mem_of_mem_take taken)
    simp only [Bool.and_eq_true, Option.isNone_iff_eq_none] at selected
    have same : stored = record := Option.some.inj (read.symm.trans found)
    exact cancelled (same ▸ selected.2)
  | _ => exact shown

/-- What the worker does with a job that has deleted the account, or has failed to. -/
def markJob (jobId : JobId) : Except PrismaError Unit → Flow Unit
  | .ok _ => call (.jobCompleted jobId)
  | .error _ => call (.jobFailed jobId)

/-- What a job does once it has read the record. -/
def finishJob (jobId : JobId) (record : Option Auth.AccountDeletion) : Flow Unit :=
  if record.any fun record => record.cancelledAt.isNone && record.executedAt.isNone then
    .call (.userDelete jobId.1) (markJob jobId)
  else call (.jobCompleted jobId)

theorem runJob_eq (jobId : JobId) :
    runJob jobId = .call (.jobStart jobId) fun started =>
      if started = true then .call (.auth (.accountDeletionFindUnique jobId.1)) (finishJob jobId)
      else .done () := by
  rw [runJob, call_bind]
  congr 1
  funext started
  cases started with
  | false => rfl
  | true =>
    rw [done_bind, if_pos rfl, processDeletion, call_bind, call_bind,
      rescue]
    congr 1
    funext record
    cases record with
    | none => rfl
    | some record =>
      rw [finishJob, Option.any_some, done_bind]
      dsimp only
      cases cancelled : record.cancelledAt with
      | some at' => rfl
      | none =>
        cases executed : record.executedAt with
        | some at' => rfl
        | none =>
          rw [if_neg (by simp), if_neg (by simp), executeSingleDeletion]
          simp only [Option.isNone_none, Bool.and_self, if_true, call_bind,
            done_bind, rescue]
          congr 1
          funext deleted
          cases deleted <;> rfl

theorem deletePending_uses (userIds : List UserId) : (deletePending userIds).Uses AccountCall.OfDeletion := by
  induction userIds with
  | nil => trivial
  | cons first rest ih =>
    refine Uses.send (.userDelete first) fun deleted => Uses.bind ih fun sums => ?_
    cases deleted <;> trivial

theorem finishJob_uses (jobId : JobId) (record : Option Auth.AccountDeletion) :
    (finishJob jobId record).Uses AccountCall.OfDeletion := by
  unfold finishJob
  split
  · refine ⟨.userDelete jobId.1, fun deleted => ?_⟩
    cases deleted with
    | ok value => exact ⟨.jobCompleted jobId, fun _ => trivial⟩
    | error error => exact ⟨.jobFailed jobId, fun _ => trivial⟩
  · exact ⟨.jobCompleted jobId, fun _ => trivial⟩

/-! ## Every call is warranted -/

variable {Value : Type} {flow : Flow Value}

theorem warranted_of_spares (uses : flow.Uses fun request => ∀ userId, request ≠ .userDelete userId) :
    flow.Warranted AccountCall.userDelete Shows :=
  uses.warranted accountReply_nonempty

theorem deletePending_boundTo {userIds : List UserId} (member : userId ∈ userIds) :
    (deletePending userIds).BoundTo (.userDelete userId) := by
  induction userIds with
  | nil => cases member
  | cons first rest ih =>
    rcases List.mem_cons.mp member with rfl | later
    · exact .inl rfl
    · exact .inr fun deleted => boundTo_bind (ih later) _

/-- A deletion of the batch is counted with those after it. -/
def countOutcome (deleted : Except PrismaError Unit) : Nat × Nat → Flow (Nat × Nat)
  | (processed, errors) =>
    match deleted with
    | .ok _ => pure (processed + 1, errors)
    | .error _ => pure (processed, errors + 1)

theorem countOutcome_uses (deleted : Except PrismaError Unit) (sums : Nat × Nat)
    (permitted : AccountCall → Prop) : (countOutcome deleted sums).Uses permitted := by
  cases deleted <;> trivial

theorem mem_of_deletePending_boundTo {userIds : List UserId}
    (bound : (deletePending userIds).BoundTo (.userDelete userId)) : userId ∈ userIds := by
  induction userIds with
  | nil => exact bound.elim
  | cons first rest ih =>
    obtain same | later := bound
    · cases same
      exact List.mem_cons_self ..
    · have bound := boundTo_of_bind accountReply_nonempty
        (fun sums => countOutcome_uses (.ok ()) sums _) (later (.ok ()))
      exact List.mem_cons_of_mem _ (ih bound)

theorem deletePending_warranted (userIds : List UserId) :
    (deletePending userIds).Warranted AccountCall.userDelete Shows := by
  induction userIds with
  | nil => trivial
  | cons first rest ih =>
    refine fun deleted => ⟨fun userId bound => ?_, ?_⟩
    · have later := boundTo_of_bind accountReply_nonempty
        (fun sums => countOutcome_uses deleted sums _) bound
      have listed := mem_of_deletePending_boundTo later
      exact .inl (deletePending_boundTo (List.mem_cons_of_mem first listed))
    · exact ih.bind accountReply_nonempty fun sums => countOutcome_uses deleted sums _

theorem executeDeletions_warranted : executeDeletions.Warranted AccountCall.userDelete Shows := by
  refine fun now => ⟨fun userId bound => ?_, fun pending => ⟨fun userId bound => ?_, ?_⟩⟩
  · -- the batch may find nobody
    obtain ⟨⟨⟩⟩ | later := bound
    exact absurd (mem_of_deletePending_boundTo (later ([] : List UserId))) (List.not_mem_nil)
  · exact .inr (mem_of_deletePending_boundTo bound)
  · exact deletePending_warranted pending

theorem finishJob_boundTo {jobId : JobId} {record : Option Auth.AccountDeletion}
    (bound : (finishJob jobId record).BoundTo (.userDelete userId)) :
    jobId.1 = userId ∧ ∃ row, record = some row ∧ row.cancelledAt = none := by
  unfold finishJob at bound
  split at bound
  · rename_i live
    obtain ⟨row, same, live⟩ := (Option.any_eq_true _ _).mp live
    simp only [Bool.and_eq_true, Option.isNone_iff_eq_none] at live
    obtain same' | later := bound
    · cases same'
      exact ⟨rfl, row, same, live.1⟩
    · obtain ⟨⟨⟩⟩ | ended := later (.ok ())
      exact (ended ()).elim
  · obtain ⟨⟨⟩⟩ | ended := bound
    exact (ended ()).elim

variable (jobId : JobId) (request : DeletionCall)

theorem markJob_spares (deleted : Except PrismaError Unit) :
    (markJob jobId deleted).Uses fun request => ∀ userId, request ≠ .userDelete userId := by
  cases deleted with
  | ok | error => exact ⟨by rintro _ ⟨⟩, fun _ => trivial⟩

theorem finishJob_warranted (record : Option Auth.AccountDeletion) :
    (finishJob jobId record).Warranted AccountCall.userDelete Shows := by
  unfold finishJob
  split
  · refine fun deleted => ⟨fun userId bound => ?_, warranted_of_spares (markJob_spares jobId deleted)⟩
    have spares := (markJob_spares jobId deleted).mono fun request apart => apart userId
    exact absurd bound (spares.not_boundTo accountReply_nonempty)
  · exact warranted_of_spares (markJob_spares jobId (.ok ()))

theorem runJob_warranted : (runJob jobId).Warranted AccountCall.userDelete Shows := by
  rw [runJob_eq]
  intro started
  cases started with
  | false => exact ⟨fun userId bound => bound.elim, trivial⟩
  | true =>
    refine ⟨fun userId bound => ?_, fun record => ⟨fun userId bound => ?_, finishJob_warranted jobId record⟩⟩
    · -- the record may be gone
      obtain ⟨⟨⟩⟩ | later := bound
      obtain ⟨-, row, absent, -⟩ := finishJob_boundTo (later (none : Option Auth.AccountDeletion))
      cases absent
    · exact .inr (finishJob_boundTo bound)

theorem deletionProgram_warranted : (deletionProgram request).Warranted AccountCall.userDelete Shows := by
  cases request with
  | executeDeletions =>
    exact executeDeletions_warranted.bind accountReply_nonempty fun _ => trivial
  | runJob jobId => exact runJob_warranted jobId
  | cancelDeletion userId =>
    refine warranted_of_spares (Uses.bind ?_ fun _ => trivial)
    exact (cancelDeletion_cancels userId).mono fun _ cancels => cancels.deletes_nobody
  | cancelDeletionOnLogin userId =>
    refine warranted_of_spares (Uses.bind ?_ fun _ => trivial)
    exact (cancelDeletionOnLogin_cancels userId).mono fun _ cancels => cancels.deletes_nobody
  | elapse milliseconds => exact warranted_of_spares ⟨by rintro _ ⟨⟩, fun _ => trivial⟩

theorem deletionProgram_free (userId : UserId) : ¬ (deletionProgram request).BoundTo (.userDelete userId) := by
  cases request with
  | executeDeletions =>
    intro bound
    have alone : executeDeletions.BoundTo (.userDelete userId) := by
      refine boundTo_of_bind accountReply_nonempty ?_ bound
      exact fun _ => trivial
    obtain ⟨⟨⟩⟩ | later := alone
    obtain ⟨⟨⟩⟩ | later := later (0 : Time)
    exact absurd (mem_of_deletePending_boundTo (later ([] : List UserId))) (List.not_mem_nil)
  | runJob jobId =>
    rintro (⟨⟨⟩⟩ | later)
    exact later false
  | cancelDeletion other =>
    refine Uses.not_boundTo accountReply_nonempty (Uses.bind ?_ fun _ => trivial)
    exact (cancelDeletion_cancels other).mono fun _ cancels => cancels.deletes_nobody userId
  | cancelDeletionOnLogin other =>
    refine Uses.not_boundTo accountReply_nonempty (Uses.bind ?_ fun _ => trivial)
    exact (cancelDeletionOnLogin_cancels other).mono fun _ cancels => cancels.deletes_nobody userId
  | elapse milliseconds =>
    rintro (⟨⟨⟩⟩ | later)
    exact later ()

theorem deletionProgram_uses : (deletionProgram request).Uses AccountCall.OfDeletion := by
  cases request with
  | executeDeletions =>
    refine Uses.bind ?_ fun _ => trivial
    refine ⟨.dateNow, fun now => ⟨.accountDeletionFindPending _, fun pending => ?_⟩⟩
    exact deletePending_uses pending
  | runJob jobId =>
    rw [deletionProgram, runJob_eq]
    refine ⟨.jobStart jobId, fun started => ?_⟩
    cases started with
    | false => trivial
    | true => exact ⟨.accountDeletionFindUnique jobId.1, fun record => finishJob_uses jobId record⟩
  | cancelDeletion other =>
    refine Uses.bind ?_ fun _ => trivial
    exact (cancelDeletion_cancels other).mono fun _ cancels => cancels.ofDeletion
  | cancelDeletionOnLogin other =>
    refine Uses.bind ?_ fun _ => trivial
    exact (cancelDeletionOnLogin_cancels other).mono fun _ cancels => cancels.ofDeletion
  | elapse milliseconds => exact ⟨.elapse milliseconds, fun _ => trivial⟩

/-! ## Interleavings -/

variable [DecidableEq Index]

/-- No call is bound to delete an account whose deletion is cancelled. -/
structure Reprieving (pool : AccountPool Index) : Prop where
  uses : pool.AllUse AccountCall.OfDeletion
  warranted : pool.AllWarranted AccountCall.userDelete Shows
  clear : pool.Clear AccountCall.userDelete State.Reprieved

omit [DecidableEq Index] in
theorem reprieving_start (calls : Index → DeletionCall) (s : State) : Reprieving (deletionCalls calls s) :=
  ⟨fun index => deletionProgram_uses (calls index), fun index => deletionProgram_warranted (calls index),
    fun userId _ index => deletionProgram_free (calls index) userId⟩

variable {pool : AccountPool Index}

theorem Reprieving.advance {index : Index} (sound : Reprieving pool) (inTime : CancelsInTime pool index) :
    Reprieving (pool.advance answer index) := by
  refine ⟨sound.uses.advance index, sound.warranted.advance index,
    sound.clear.advance sound.warranted (fun request _ => not_reprieved_of_shows request pool.store)
      fun userId after before other => ?_⟩
  cases asked : pool.next? index with
  | none =>
    rw [store_advance_of_none asked] at after
    exact absurd after before
  | some request =>
    rw [store_advance asked] at after
    obtain already | ⟨rfl, present, recorded⟩ := reprieved_answer (sound.uses.next asked) after
    · exact absurd already before
    · exact inTime userId asked present recorded other

theorem Reprieving.keepsReprieved (sound : Reprieving pool) (index : Index) : KeepsReprieved pool index := by
  intro userId reprieved
  cases asked : pool.next? index with
  | none =>
    rw [store_advance_of_none asked]
    exact reprieved.1
  | some request =>
    rw [store_advance asked]
    refine present_answer (sound.uses.next asked) reprieved.1 fun deletes => ?_
    subst deletes
    exact sound.clear userId reprieved index (boundTo_of_next asked)

theorem unsent_of_keepsReprieved {schedule : List Index} (uses : pool.AllUse AccountCall.OfDeletion)
    (reprieved : pool.store.Reprieved userId) (keeps : EachStep (advance answer) KeepsReprieved pool schedule) :
    EachStep (advance answer) (fun pool index => pool.next? index ≠ some (.userDelete userId)) pool schedule := by
  have steps : ∀ (pool : AccountPool Index) index,
      (pool.AllUse AccountCall.OfDeletion ∧ pool.store.Reprieved userId) → KeepsReprieved pool index →
        (pool.advance answer index).AllUse AccountCall.OfDeletion ∧
          (pool.advance answer index).store.Reprieved userId := by
    rintro pool index ⟨uses, reprieved⟩ kept
    refine ⟨uses.advance index, ?_⟩
    have present := kept userId reprieved
    cases asked : pool.next? index with
    | none => rwa [store_advance_of_none asked]
    | some request =>
      rw [store_advance asked] at present ⊢
      exact stays_reprieved (uses.next asked) reprieved present
  have gives : ∀ (pool : AccountPool Index) index,
      (pool.AllUse AccountCall.OfDeletion ∧ pool.store.Reprieved userId) → KeepsReprieved pool index →
        pool.next? index ≠ some (.userDelete userId) := by
    rintro pool index ⟨uses, reprieved⟩ kept asked
    have present := kept userId reprieved
    have here : ¬ (pool.store.auth.users.find? userId).isNone := by
      rw [← Option.not_isSome, reprieved.1]
      decide
    rw [store_advance asked, answer_userDelete, State.hardDelete, if_neg here] at present
    simp [State.withRiders_auth, cascadeAuth] at present
  exact eachStep_of_keeps steps gives ⟨uses, reprieved⟩ keeps

theorem cancelsInTime_of_keepsReprieved {schedule : List Index} (uses : pool.AllUse AccountCall.OfDeletion)
    (ended : ∀ index, ((Foundation.follow (advance answer) pool schedule).threads index).Ended)
    (keeps : EachStep (advance answer) KeepsReprieved pool schedule) :
    EachStep (advance answer) CancelsInTime pool schedule := by
  induction schedule generalizing pool with
  | nil => trivial
  | cons index rest ih =>
    refine ⟨fun userId asked present recorded other bound => ?_, ih (uses.advance index) ended keeps.2⟩
    have reprieved : (pool.advance answer index).store.Reprieved userId := by
      rw [store_advance asked]
      exact reprieved_of_commits present recorded
    have another : pool.next? index ≠ some (.userDelete userId) := by
      rw [asked]
      rintro ⟨⟩
    have still : ((pool.advance answer index).threads other).BoundTo (.userDelete userId) :=
      boundTo_advance bound another
    have unsent := unsent_of_keepsReprieved (uses.advance index) reprieved keeps.2
    have last := boundTo_of_unsent still unsent
    exact not_boundTo_of_ended (ended other) _ last

/-- **When no call is bound to delete an account at the moment its cancellation commits, no
cancelled account is deleted; and when all calls have ended, only then.** -/
theorem cancelled_account_stays (calls : Index → DeletionCall) (s : State) (schedule : List Index) :
    (EachStep (advance answer) CancelsInTime (deletionCalls calls s) schedule →
        EachStep (advance answer) KeepsReprieved (deletionCalls calls s) schedule) ∧
      ((∀ index, ((Foundation.follow (advance answer) (deletionCalls calls s) schedule).threads
          index).Ended) →
        (EachStep (advance answer) KeepsReprieved (deletionCalls calls s) schedule ↔
          EachStep (advance answer) CancelsInTime (deletionCalls calls s) schedule)) := by
  have start := reprieving_start calls s
  have enough : EachStep (advance answer) CancelsInTime (deletionCalls calls s) schedule →
      EachStep (advance answer) KeepsReprieved (deletionCalls calls s) schedule := fun inTime =>
    eachStep_of_keeps (fun _ _ sound inTime => Reprieving.advance sound inTime)
      (fun _ index sound _ => Reprieving.keepsReprieved sound index) start inTime
  exact ⟨enough, fun ended => ⟨cancelsInTime_of_keepsReprieved start.uses ended, enough⟩⟩

/-! ## A small installation -/

/-- Rider 0 has asked for the deletion, and the days of grace are over. -/
def graceOver : State :=
  (answer (.auth (.elapse deletionGraceMs)) ((requestDeletion 0 none).exec smallInstallation).2).2

/-- Rider 0 cancels, and the batch runs. -/
def cancelAndBatch : Bool → DeletionCall
  | false => .cancelDeletion 0
  | true => .executeDeletions

/-- The cancellation is over before the batch reads. -/
theorem cancelled_account_stays_small :
    EachStep (advance answer) KeepsReprieved (deletionCalls cancelAndBatch graceOver)
        (List.replicate 5 false ++ [true, true]) ∧
      (EachStep (advance answer) KeepsReprieved (deletionCalls cancelAndBatch graceOver)
          (List.replicate 5 false ++ [true, true]) ↔
        EachStep (advance answer) CancelsInTime (deletionCalls cancelAndBatch graceOver)
          (List.replicate 5 false ++ [true, true])) := by
  obtain ⟨enough, exactly⟩ := cancelled_account_stays cancelAndBatch graceOver
    (List.replicate 5 false ++ [true, true])
  refine ⟨enough ⟨?_, ?_, ?_, ?_, ?_, ?_, ?_, trivial⟩, exactly (by decide +kernel)⟩
  · rintro userId ⟨⟩
  · rintro userId - - - other bound
    cases other with
    | false =>
      obtain ⟨⟨⟩⟩ | later := bound
      exact later (.error .recordNotFound)
    | true => exact deletionProgram_free .executeDeletions userId bound
  all_goals rintro userId ⟨⟩

/-- The record of rider 0 after the cancellation. -/
def cancelledRequest : Auth.AccountDeletion where
  requestedAt := 0
  scheduledFor := deletionGraceMs
  reason := none
  cancelledAt := some deletionGraceMs
  executedAt := none
  jobId := some (0, deletionGraceMs)

/-- The batch has read the account of rider 0 when the cancellation commits. Both calls return,
and the account is deleted. -/
theorem cancelled_account_deleted :
    (∀ index, ((Foundation.follow (advance answer) (deletionCalls cancelAndBatch graceOver)
        ([true, true] ++ List.replicate 5 false ++ [true])).threads index).Ended) ∧
      ¬ EachStep (advance answer) KeepsReprieved (deletionCalls cancelAndBatch graceOver)
        ([true, true] ++ List.replicate 5 false ++ [true]) := by
  refine ⟨by decide +kernel, fun keeps => ?_⟩
  obtain ⟨-, -, -, -, -, -, -, last, -⟩ := keeps
  have present := last 0 ⟨by decide +kernel, cancelledRequest, by decide +kernel, by rintro ⟨⟩⟩
  exact absurd present (by decide +kernel)

end Motogram.Account
