import Motogram.Social.Service

/-!
# The follow counters

`followersCount` and `followingCount` are kept beside the rows they count, the accepted
follows to a rider and from one. `unfollow` changes the counters as it changes the rows. A
`follow` does so only where it does not find an accepted row: it counts every follow it
accepts, the one that is there already too, and when the rider has become private it takes
an accepted row back to pending and counts nothing (`follow_again_counts_twice`).

So the counters agree with the rows throughout a run, and a repeated follow changes nothing,
exactly when no follow of the run finds an accepted row (`counters_agree_iff`).
-/

set_option autoImplicit false

namespace Motogram.Social

open Foundation Table

variable {s t : State} {followerId followingId : UserId}

/-! ## The counters and the rows -/

/-- The number of accepted follows to a rider. -/
def State.followers (s : State) (userId : UserId) : Nat :=
  s.follows.count fun pair status => decide (pair.2 = userId) && decide (status = .accepted)

/-- The number of accepted follows from a rider. -/
def State.following (s : State) (userId : UserId) : Nat :=
  s.follows.count fun pair status => decide (pair.1 = userId) && decide (status = .accepted)

/-- The counters of every rider are the numbers of the rows. -/
def State.CountersAgree (s : State) : Prop :=
  ∀ userId user, s.users.find? userId = some user →
    user.followersCount = s.followers userId ∧ user.followingCount = s.following userId

/-- What an accepted row counts. -/
def weight (status : Option FollowStatus) : Int := if status = some .accepted then 1 else 0

/-- One follow was counted by one number, and its row by another. -/
structure Recounts (s t : State) (followerId followingId : UserId) (counted rows : Int) : Prop where
  users : ∀ userId, (t.users.find? userId).map (fun user => (user.followersCount, user.followingCount)) =
    (s.users.find? userId).map fun user =>
      (user.followersCount + (if userId = followingId then counted else 0),
        user.followingCount + if userId = followerId then counted else 0)
  followers : ∀ userId, (t.followers userId : Int) =
    s.followers userId + if userId = followingId then rows else 0
  following : ∀ userId, (t.following userId : Int) =
    s.following userId + if userId = followerId then rows else 0

namespace Recounts

variable {counted rows : Int}

theorem agree (recounts : Recounts s t followerId followingId counted rows) (same : counted = rows)
    (agree : s.CountersAgree) : t.CountersAgree := by
  intro userId user found
  have written := recounts.users userId
  rw [found] at written
  obtain ⟨before, found', counts⟩ := Option.map_eq_some_iff.mp written.symm
  obtain ⟨followers, following⟩ := agree userId before found'
  obtain ⟨first, second⟩ := Prod.mk.inj counts
  rw [recounts.followers, recounts.following, ← first, ← second, followers, following, same]
  exact ⟨rfl, rfl⟩

theorem breaks (recounts : Recounts s t followerId followingId counted rows) (different : counted ≠ rows)
    (present : (s.users.find? followingId).isSome) (agree : s.CountersAgree) : ¬ t.CountersAgree := by
  intro agree'
  obtain ⟨before, found⟩ := Option.isSome_iff_exists.mp present
  have written := recounts.users followingId
  rw [found] at written
  obtain ⟨user, found', counts⟩ := Option.map_eq_some_iff.mp written
  have first := (Prod.mk.inj counts).1
  have after := (agree' followingId user found').1
  rw [recounts.followers, first, (agree followingId before found).1, if_pos rfl, if_pos rfl] at after
  omega

end Recounts

/-! ## What the calls count -/

theorem find?_countFollow (users : Table UserId User) (change : Int) (userId : UserId) :
    ((countFollow users followerId followingId change).find? userId).map
        (fun user => (user.followersCount, user.followingCount)) =
      (users.find? userId).map fun user =>
        (user.followersCount + (if userId = followingId then change else 0),
          user.followingCount + if userId = followerId then change else 0) := by
  rw [countFollow, find?_modify, find?_modify]
  cases users.find? userId with
  | none => by_cases follower : userId = followerId <;> by_cases following : userId = followingId <;>
      simp only [follower, following, if_true, if_false, Option.map_none, ite_self]
  | some user =>
    by_cases follower : userId = followerId
    · rw [if_pos follower, if_pos follower]
      by_cases following : userId = followingId
      · rw [if_pos following, if_pos following]
        rfl
      · rw [if_neg following, if_neg following]
        simp only [Int.add_zero]
        rfl
    · rw [if_neg follower, if_neg follower]
      simp only [Int.add_zero]
      by_cases following : userId = followingId
      · rw [if_pos following, if_pos following]
        rfl
      · rw [if_neg following, if_neg following]
        simp only [Int.add_zero]

theorem weight_toNat (found : Option FollowStatus) (held : Prop) [Decidable held] :
    ((found.any fun status => decide held && decide (status = .accepted)).toNat : Int) =
      if held then weight found else 0 := by
  cases found with
  | none => by_cases here : held <;> simp [here, weight]
  | some status => by_cases here : held <;> cases status <;> simp [here, weight]

variable (userId initiatorId targetId : UserId) {status : FollowStatus}

/-- The row of a follow is written, and the follow is counted when it is accepted. -/
theorem followTransaction_recounts
    (ok : (answer (.followTransaction followerId followingId status) s).1 = .ok ()) :
    Recounts s (answer (.followTransaction followerId followingId status) s).2 followerId followingId
      (weight (some status)) (weight (some status) - weight (s.follows.find? (followerId, followingId))) := by
  simp only [answer] at ok ⊢
  split at ok
  · cases ok
  · rename_i present
    rw [if_neg present]
    have counted : ∀ (test : UserId × UserId → Prop) [DecidablePred test],
        (((s.follows.upsert (followerId, followingId) status).count fun pair status =>
          decide (test pair) && decide (status = .accepted) : Nat) : Int) =
        (s.follows.count fun pair status => decide (test pair) && decide (status = .accepted) : Nat) +
          if test (followerId, followingId) then
            weight (some status) - weight (s.follows.find? (followerId, followingId)) else 0 := by
      intro test _
      have new := weight_toNat (some status) (test (followerId, followingId))
      rw [Option.any_some] at new
      rw [count_upsert, new, weight_toNat]
      split <;> omega
    refine ⟨fun userId => ?_, fun userId => ?_, fun userId => ?_⟩
    · by_cases accepted : status = .accepted
      · rw [accepted]
        exact find?_countFollow s.users 1 userId
      · have nothing : weight (some status) = 0 := if_neg fun same => accepted (Option.some.inj same)
        simp [accepted, nothing]
    · have rows := counted fun pair => pair.2 = userId
      rwa [if_congr eq_comm rfl rfl] at rows
    · have rows := counted fun pair => pair.1 = userId
      rwa [if_congr eq_comm rfl rfl] at rows

/-- The row of a follow is removed, and taken out of the counters by the status it was read with. -/
theorem unfollowTransaction_recounts {existing : FollowStatus}
    (ok : (answer (.unfollowTransaction followerId followingId existing) s).1 = .ok ()) :
    Recounts s (answer (.unfollowTransaction followerId followingId existing) s).2 followerId followingId
      (-weight (some existing)) (-weight (s.follows.find? (followerId, followingId))) := by
  have counted : ∀ (test : UserId × UserId → Prop) [DecidablePred test],
      (((s.follows.erase (followerId, followingId)).count fun pair status =>
        decide (test pair) && decide (status = .accepted) : Nat) : Int) =
      (s.follows.count fun pair status => decide (test pair) && decide (status = .accepted) : Nat) +
        if test (followerId, followingId) then -weight (s.follows.find? (followerId, followingId)) else 0 := by
    intro test _
    rw [count_erase, weight_toNat]
    split <;> omega
  have recounts : ∀ users : Table UserId User,
      (∀ userId, (users.find? userId).map (fun user => (user.followersCount, user.followingCount)) =
        (s.users.find? userId).map fun user =>
          (user.followersCount + (if userId = followingId then -weight (some existing) else 0),
            user.followingCount + if userId = followerId then -weight (some existing) else 0)) →
      Recounts s (s.withFollows users (s.follows.erase (followerId, followingId))) followerId followingId
        (-weight (some existing)) (-weight (s.follows.find? (followerId, followingId))) := by
    intro users same
    refine ⟨same, fun userId => ?_, fun userId => ?_⟩
    · have rows := counted fun pair => pair.2 = userId
      rwa [if_congr eq_comm rfl rfl] at rows
    · have rows := counted fun pair => pair.1 = userId
      rwa [if_congr eq_comm rfl rfl] at rows
  by_cases absent : (s.follows.find? (followerId, followingId)).isNone
  · simp [answer, absent] at ok
  simp only [answer, absent] at ok ⊢
  by_cases accepted : existing = .accepted
  · by_cases missing : (s.users.find? followerId).isNone || (s.users.find? followingId).isNone
    · simp [accepted, missing] at ok
    · subst accepted
      simp only [missing]
      exact recounts _ fun userId => find?_countFollow s.users (-1) userId
  · have nothing : weight (some existing) = 0 := if_neg fun same => accepted (Option.some.inj same)
    simp only [accepted]
    refine recounts _ fun userId => ?_
    simp [nothing]

/-- What writes neither counters nor follows. -/
theorem recounts_nothing (follows : t.follows = s.follows)
    (users : ∀ userId,
      (t.users.find? userId).map (fun user => (user.followersCount, user.followingCount)) =
        (s.users.find? userId).map fun user => (user.followersCount, user.followingCount)) :
    Recounts s t followerId followingId 0 0 := by
  refine ⟨fun userId => ?_, fun userId => ?_, fun userId => ?_⟩
  · simpa using users userId
  · simp [State.followers, follows]
  · simp [State.following, follows]

/-! ## Flows that keep the counters right -/

def KeepsCounters {Value : Type} (flow : Flow Value) : Prop :=
  ∀ s : State, s.CountersAgree → (flow.exec s).2.CountersAgree

namespace KeepsCounters

variable {Value Value' : Type}

theorem done (value : Value) : KeepsCounters (.done value) := fun _ agree => agree

theorem fail (error : ServiceError) : KeepsCounters (.fail error : Flow Value) := fun _ agree => agree

theorem bind {flow : Flow Value} {next : Value → Flow Value'} (first : KeepsCounters flow)
    (rest : ∀ value, KeepsCounters (next value)) : KeepsCounters (flow >>= next) := by
  intro s agree
  have kept := first s agree
  unfold Flow.exec at kept ⊢
  rw [Program.run_bind]
  generalize Program.run answer flow s = outcome at kept ⊢
  obtain ⟨error | value, after⟩ := outcome
  · exact kept
  · exact rest value after kept

theorem throwIf (condition : Prop) [Decidable condition] (error : ServiceError) :
    KeepsCounters (Program.throwIf condition error) := by
  unfold Program.throwIf
  split
  · exact fail error
  · exact done ()

theorem rethrow (reply : Except PrismaError Value) : KeepsCounters (Social.rethrow reply) := by
  cases reply with
  | ok value => exact done value
  | error error => exact fail _

theorem send {request : SocialCall}
    (counts : ∀ s : State, Recounts s (answer request s).2 0 0 0 0) : KeepsCounters (call request) :=
  fun s agree => (counts s).agree rfl agree

end KeepsCounters

theorem userFindActive_recounts (s : State) : Recounts s (answer (.userFindActive userId) s).2 0 0 0 0 :=
  recounts_nothing rfl fun _ => rfl

theorem blockUpsert_recounts (s : State) :
    Recounts s (answer (.blockUpsert initiatorId targetId) s).2 0 0 0 0 := by
  simp only [answer]
  split
  · exact recounts_nothing rfl fun _ => rfl
  · split <;> exact recounts_nothing rfl fun _ => rfl

theorem userUpdate_recounts (dto : UpdateProfileDto) (s : State) :
    Recounts s (answer (.userUpdate userId dto) s).2 0 0 0 0 := by
  simp only [answer]
  split
  · exact recounts_nothing rfl fun _ => rfl
  · refine recounts_nothing rfl fun other => ?_
    rw [State.withUsers_users, find?_modify]
    by_cases same : other = userId
    · rw [if_pos same, Option.map_map]
      rfl
    · rw [if_neg same]

theorem unfollowTransaction_failed {existing : FollowStatus} {error : PrismaError}
    (failed : (answer (.unfollowTransaction followerId followingId existing) s).1 = .error error) :
    (answer (.unfollowTransaction followerId followingId existing) s).2 = s := by
  simp only [answer] at failed ⊢
  split at failed
  · rename_i absent
    rw [if_pos absent]
  · rename_i present
    rw [if_neg present]
    split at failed
    · rename_i accepted
      rw [if_pos accepted]
      split at failed
      · rename_i missing
        rw [if_pos missing]
      · cases failed
    · cases failed

/-- What `unfollow` leaves behind. -/
theorem exec_unfollow (followerId followingId : UserId) (s : State) :
    ((unfollow followerId followingId).exec s).2 =
      match s.follows.find? (followerId, followingId) with
      | none => s
      | some existing => (answer (.unfollowTransaction followerId followingId existing) s).2 := by
  unfold unfollow Flow.exec
  rw [Program.call_bind, Program.run_call_of_answer _ (rfl : answer (.followFindUnique followerId
    followingId) s = (s.follows.find? (followerId, followingId), s)), Program.done_bind]
  cases s.follows.find? (followerId, followingId) with
  | none => rfl
  | some existing =>
    rw [Program.run_sends]
    cases (answer (.unfollowTransaction followerId followingId existing) s).1 <;> rfl

theorem unfollow_keepsCounters (followerId followingId : UserId) :
    KeepsCounters (unfollow followerId followingId) := by
  intro s agree
  rw [exec_unfollow]
  cases found : s.follows.find? (followerId, followingId) with
  | none => exact agree
  | some existing =>
    cases outcome : (answer (.unfollowTransaction followerId followingId existing) s).1 with
    | error error =>
      dsimp only
      rwa [unfollowTransaction_failed outcome]
    | ok value => exact (unfollowTransaction_recounts outcome).agree (by rw [found]) agree

theorem blockUser_keepsCounters : KeepsCounters (blockUser initiatorId targetId) := by
  refine .bind (.throwIf _ _) fun _ => .bind (.send (userFindActive_recounts targetId)) fun target => ?_
  cases target with
  | none => exact .fail _
  | some user =>
    refine .bind (unfollow_keepsCounters initiatorId targetId) fun _ => ?_
    refine .bind (unfollow_keepsCounters targetId initiatorId) fun _ => ?_
    refine .bind (.send (blockUpsert_recounts initiatorId targetId)) fun upserted => ?_
    exact .bind (.rethrow upserted) fun _ => .done _

theorem unblockUser_keepsCounters : KeepsCounters (unblockUser initiatorId targetId) :=
  .send fun _ => recounts_nothing rfl fun _ => rfl

theorem updateProfile_keepsCounters (dto : UpdateProfileDto) : KeepsCounters (updateProfile userId dto) :=
  .bind (.send (userUpdate_recounts userId dto)) fun updated => .rethrow updated

/-! ## Following -/

/-- The status a `follow` writes, when it is not refused: the rider is active, no block
stands between the two, and the follower exists and is another rider. -/
def State.admits (s : State) (followerId followingId : UserId) : Option FollowStatus :=
  match (answer (.userFindActive followingId) s).1 with
  | none => none
  | some target =>
    if followerId = followingId ∨ (answer (.blockFindBetween followerId followingId) s).1 = true ∨
        s.users.find? followerId = none then none
    else some (followStatus target)

theorem followTransaction_failed (missing : s.users.find? followerId = none) :
    answer (.followTransaction followerId followingId status) s = (.error .foreignKeyViolation, s) := by
  simp [answer, missing]

theorem followTransaction_ok (follower : s.users.find? followerId ≠ none)
    (following : s.users.find? followingId ≠ none) :
    (answer (.followTransaction followerId followingId status) s).1 = .ok () := by
  simp [answer, follower, following]

/-- What the end of `follow` leaves behind. -/
theorem exec_saveFollow (status : FollowStatus) (s : State) :
    ((saveFollow followerId followingId status).exec s).2 =
      if (answer (.followTransaction followerId followingId status) s).1 = .ok () ∧
          status = .accepted then
        ((answer (.followTransaction followerId followingId status) s).2).withFollowGained followingId
          followerId
      else (answer (.followTransaction followerId followingId status) s).2 := by
  unfold saveFollow Flow.exec
  rw [Program.run_sends]
  cases outcome : (answer (.followTransaction followerId followingId status) s).1 with
  | error error => rfl
  | ok value => cases status <;> rfl

theorem present_of_active {userId : UserId} {user : User}
    (active : (answer (.userFindActive userId) s).1 = some user) : s.users.find? userId = some user :=
  (Option.filter_eq_some_iff.mp active).1

/-- **What `follow` leaves behind**: nothing when it is refused. -/
theorem exec_follow (followerId followingId : UserId) (s : State) :
    ((follow followerId followingId).exec s).2 =
      match s.admits followerId followingId with
      | none => s
      | some status => ((saveFollow followerId followingId status).exec s).2 := by
  unfold follow State.admits
  rw [Flow.exec, Program.run_throwIf_bind]
  by_cases own : followerId = followingId
  · rw [if_pos own]
    cases (answer (.userFindActive followingId) s).1 with
    | none => rfl
    | some target =>
      dsimp only
      rw [if_pos (.inl own)]
  · rw [if_neg own, Program.run_sends]
    have same : (answer (.userFindActive followingId) s).2 = s := rfl
    rw [same]
    cases active : (answer (.userFindActive followingId) s).1 with
    | none => rfl
    | some target =>
      dsimp only
      rw [Program.run_sends]
      have same : (answer (.blockFindBetween followerId followingId) s).2 = s := rfl
      rw [same, Program.run_throwIf_bind]
      by_cases between : (answer (.blockFindBetween followerId followingId) s).1 = true
      · rw [if_pos between, if_pos (.inr (.inl between))]
      · rw [if_neg between]
        by_cases missing : s.users.find? followerId = none
        · rw [if_pos (.inr (.inr missing))]
          have failed : ((saveFollow followerId followingId (followStatus target)).exec s).2 = _ :=
            exec_saveFollow (followStatus target) s
          rw [followTransaction_failed missing] at failed
          exact failed
        · rw [if_neg fun any => any.elim own fun later => later.elim between missing]

theorem State.admits_some (admits : s.admits followerId followingId = some status) :
    s.users.find? followerId ≠ none ∧ s.users.find? followingId ≠ none ∧
      (status = .accepted ∨ status = .pending) := by
  unfold State.admits at admits
  split at admits
  · cases admits
  · rename_i target active
    split at admits
    · cases admits
    · rename_i refused
      cases admits
      have present := present_of_active active
      refine ⟨fun missing => refused (.inr (.inr missing)), by simp [present], ?_⟩
      unfold followStatus
      split
      · exact .inr rfl
      · exact .inl rfl

/-- A follow that is not refused is counted by its status, and its row by what it replaces. -/
theorem follow_recounts (admits : s.admits followerId followingId = some status) :
    Recounts s ((follow followerId followingId).exec s).2 followerId followingId (weight (some status))
      (weight (some status) - weight (s.follows.find? (followerId, followingId))) := by
  obtain ⟨follower, following, -⟩ := State.admits_some admits
  have ok : (answer (.followTransaction followerId followingId status) s).1 = .ok () :=
    followTransaction_ok follower following
  have recounts := followTransaction_recounts ok
  rw [exec_follow, admits]
  dsimp only
  rw [exec_saveFollow]
  split
  · exact ⟨recounts.users, recounts.followers, recounts.following⟩
  · exact recounts

/-! ## Runs -/

inductive FollowOp where
  | follow (followerId followingId : UserId)
  | unfollow (followerId followingId : UserId)
  | blockUser (initiatorId targetId : UserId)
  | unblockUser (initiatorId targetId : UserId)
  | updateProfile (userId : UserId) (dto : UpdateProfileDto)

/-- Finish an operation before the next one begins. -/
def State.step (s : State) : FollowOp → State
  | .follow followerId followingId => ((follow followerId followingId).exec s).2
  | .unfollow followerId followingId => ((unfollow followerId followingId).exec s).2
  | .blockUser initiatorId targetId => ((blockUser initiatorId targetId).exec s).2
  | .unblockUser initiatorId targetId => ((unblockUser initiatorId targetId).exec s).2
  | .updateProfile userId dto => ((updateProfile userId dto).exec s).2

/-- No counter is negative. -/
def State.CountersNonnegative (s : State) : Prop :=
  ∀ userId user, s.users.find? userId = some user → 0 ≤ user.followersCount ∧ 0 ≤ user.followingCount

theorem State.CountersAgree.nonnegative (agree : s.CountersAgree) : s.CountersNonnegative := by
  intro userId user found
  obtain ⟨followers, following⟩ := agree userId user found
  rw [followers, following]
  exact ⟨Int.natCast_nonneg _, Int.natCast_nonneg _⟩

/-- A follow that finds its own row, with the status it writes, changes nothing. -/
def State.RepeatChangesNothing (s : State) (op : FollowOp) : Prop :=
  ∀ followerId followingId status, op = .follow followerId followingId →
    s.admits followerId followingId = some status →
      s.follows.find? (followerId, followingId) = some status → s.step op = s

structure FollowsCounted (s : State) (ops : List FollowOp) : Prop where
  counters : Throughout State.step (fun s => s.CountersAgree ∧ s.CountersNonnegative) s ops
  repeats : EachStep State.step State.RepeatChangesNothing s ops

/-- A follow that is not refused finds no accepted row. -/
def State.FindsNotAccepted (s : State) (op : FollowOp) : Prop :=
  ∀ followerId followingId status, op = .follow followerId followingId →
    s.admits followerId followingId = some status →
      s.follows.find? (followerId, followingId) ≠ some .accepted

theorem State.step_keeps {op : FollowOp} (agree : s.CountersAgree) (finds : s.FindsNotAccepted op) :
    (s.step op).CountersAgree := by
  cases op with
  | follow followerId followingId =>
    cases admits : s.admits followerId followingId with
    | none =>
      have unchanged : s.step (.follow followerId followingId) = s := by
        rw [State.step, exec_follow, admits]
      rwa [unchanged]
    | some status =>
      have free : weight (s.follows.find? (followerId, followingId)) = 0 :=
        if_neg (finds followerId followingId status rfl admits)
      exact (follow_recounts admits).agree (by omega) agree
  | unfollow followerId followingId => exact unfollow_keepsCounters followerId followingId s agree
  | blockUser initiatorId targetId => exact blockUser_keepsCounters initiatorId targetId s agree
  | unblockUser initiatorId targetId => exact unblockUser_keepsCounters initiatorId targetId s agree
  | updateProfile userId dto => exact updateProfile_keepsCounters userId dto s agree

/-- A follow that finds an accepted row counts it again, or no longer counts it. -/
theorem State.step_breaks {op : FollowOp} (agree : s.CountersAgree) (finds : ¬ s.FindsNotAccepted op) :
    ¬ (s.step op).CountersAgree := by
  intro agree'
  refine finds fun followerId followingId status same admits accepted => ?_
  subst same
  have recounts := follow_recounts admits
  have counted : weight (s.follows.find? (followerId, followingId)) = 1 := by
    rw [accepted]
    rfl
  obtain ⟨-, following, -⟩ := State.admits_some admits
  exact recounts.breaks (by omega) (Option.isSome_iff_ne_none.mpr following) agree agree'

theorem State.repeat_changes_nothing {op : FollowOp} (finds : s.FindsNotAccepted op) :
    s.RepeatChangesNothing op := by
  rintro followerId followingId status rfl admits found
  have pending : status ≠ .accepted := fun accepted =>
    finds followerId followingId status rfl admits (accepted ▸ found)
  obtain ⟨follower, following, -⟩ := State.admits_some admits
  have unchanged : (answer (.followTransaction followerId followingId status) s).2 = s := by
    simp only [answer, follower, following, pending, Option.isNone_iff_eq_none, Bool.or_eq_true,
      or_self, if_false, upsert_of_find? found]
    rfl
  rw [State.step, exec_follow, admits]
  dsimp only
  rw [exec_saveFollow, if_neg fun both => pending both.2, unchanged]

/-- **The follow counters agree with the rows throughout a run, and repeating a follow changes
nothing, exactly when no follow of the run finds an accepted row.** -/
theorem counters_agree_iff (s : State) (agree : s.CountersAgree) (ops : List FollowOp) :
    FollowsCounted s ops ↔ EachStep State.step State.FindsNotAccepted s ops := by
  have throughout : Throughout State.step (fun s => s.CountersAgree ∧ s.CountersNonnegative) s ops ↔
      EachStep State.step State.FindsNotAccepted s ops :=
    throughout_iff_eachStep (fun _ agree => ⟨agree, agree.nonnegative⟩)
      (fun _ _ agree finds => State.step_keeps agree finds)
      (fun _ _ agree finds kept => State.step_breaks agree finds kept.1) agree ops
  constructor
  · exact fun counted => throughout.mp counted.counters
  · intro finds
    exact ⟨throughout.mpr finds, finds.mono fun _ _ finds => State.repeat_changes_nothing finds⟩

/-! ## A small installation -/

theorem countersAgree_of_zero (zero : ∀ entry ∈ s.users.entries,
    entry.2.followersCount = 0 ∧ entry.2.followingCount = 0) (nobody : s.follows = .empty) :
    s.CountersAgree := by
  intro userId user found
  have counts := zero (userId, user) ((mem_entries_iff _).mpr found)
  rw [State.followers, State.following, nobody]
  exact counts

/-- Rider 2 follows rider 1, takes it back, and follows rider 1 again. -/
theorem counters_agree_small :
    FollowsCounted smallInstallation [.follow 2 1, .unfollow 2 1, .follow 2 1] ↔
      EachStep State.step State.FindsNotAccepted smallInstallation
        [.follow 2 1, .unfollow 2 1, .follow 2 1] :=
  counters_agree_iff smallInstallation (countersAgree_of_zero (by decide) rfl) _

/-- Rider 2 follows rider 1 twice, and rider 1 has two followers. -/
theorem follow_again_counts_twice : ¬ FollowsCounted smallInstallation [.follow 2 1, .follow 2 1] := by
  intro counted
  have last := counted.counters.last.1
  obtain ⟨user, found⟩ : ∃ user, (Foundation.follow State.step smallInstallation
      [.follow 2 1, .follow 2 1]).users.find? 1 = some user := ⟨_, rfl⟩
  have agree := (last 1 user found).1
  cases found
  exact absurd agree (by decide +kernel)

end Motogram.Social
