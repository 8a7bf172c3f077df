import Motogram.Store

/-!
# Leader election

`leader-election.service.ts`: the choice of the next leader, which is a pure
function of the candidates, and the election, which guards the choice with a
lock in Redis.

The choice prefers the first co-leader who is online, in the order of the
co-leader list, and otherwise takes the member who joined first, ties going to
the smaller user id.
-/

set_option autoImplicit false

namespace Motogram

open Foundation

structure PartyMemberLite where
  userId : UserId
  joinedAt : Time
  leftAt : Option Time
  isOnline : Bool
  deriving DecidableEq

structure ElectionInput where
  partyId : PartyId
  coLeaderIds : List UserId
  onlineMembers : List PartyMemberLite

inductive ElectionReason where
  | coLeader
  | oldestMember
  | hashFallback
  | noCandidates
  | lockFailed
  deriving DecidableEq

structure ElectionResult where
  newLeaderId : Option UserId
  locked : Bool
  reason : ElectionReason
  deriving DecidableEq

/-- The order of the candidates: by `joinedAt`, ties by user id. -/
abbrev PartyMemberLite.before (first second : PartyMemberLite) : Prop :=
  first.joinedAt < second.joinedAt ∨
    first.joinedAt = second.joinedAt ∧ first.userId ≤ second.userId

/-- `pickNextLeader`. -/
def pickNextLeader (input : ElectionInput) : Option UserId × ElectionReason :=
  if input.onlineMembers.isEmpty then (none, .noCandidates)
  else
    match input.coLeaderIds.find? fun coLeader =>
        input.onlineMembers.any fun member => decide (member.userId = coLeader) with
    | some coLeader => (some coLeader, .coLeader)
    | none =>
      match input.onlineMembers.insertionSort PartyMemberLite.before with
      | [] => (none, .noCandidates)
      | oldest :: _ => (some oldest.userId, .oldestMember)

/-- `elect`: the lock is `SET … NX EX 5` with the chosen leader as its value. -/
def elect (input : ElectionInput) : Flow ElectionResult :=
  match pickNextLeader input with
  | (none, reason) => pure ⟨none, false, reason⟩
  | (some userId, reason) => do
    let locked : Bool ← call (.setLeaderLockNx input.partyId userId leaderLockSeconds)
    if locked then pure ⟨some userId, true, reason⟩
    else pure ⟨none, false, .lockFailed⟩

/-- `release`: the lock is deleted only when it still holds the expected value. -/
def release (partyId : PartyId) (expectedLeaderId : UserId) : Flow Bool :=
  call (.releaseLeaderLock partyId expectedLeaderId)

/-! ## What is chosen -/

theorem pickNextLeader_eq_none {input : ElectionInput} :
    (pickNextLeader input).1 = none ↔ input.onlineMembers = [] := by
  unfold pickNextLeader
  split
  · rename_i empty
    simpa using empty
  · rename_i nonempty
    have present : input.onlineMembers ≠ [] := by simpa using nonempty
    split
    · simpa using present
    · split
      · rename_i sorted
        have same := (List.perm_insertionSort PartyMemberLite.before input.onlineMembers).length_eq
        rw [sorted] at same
        exact absurd (List.length_eq_zero_iff.mp same.symm) present
      · simpa using present

theorem pickNextLeader_mem {input : ElectionInput} {userId : UserId}
    (picked : (pickNextLeader input).1 = some userId) :
    ∃ member ∈ input.onlineMembers, member.userId = userId := by
  unfold pickNextLeader at picked
  split at picked
  · cases picked
  · split at picked
    · rename_i coLeader found
      cases picked
      simpa using List.find?_some found
    · split at picked
      · cases picked
      · rename_i oldest rest sorted
        cases picked
        refine ⟨oldest, ?_, rfl⟩
        rw [← List.mem_insertionSort PartyMemberLite.before, sorted]
        exact List.mem_cons_self ..

end Motogram
