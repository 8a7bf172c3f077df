import Motogram.Social.Follows

/-!
# Follow counters when calls overlap

`unfollow` counts by the status that it has read before its transaction, and `follow` by the one that it
writes. Between the look and the transaction the row may have become another. So whatever calls overlap, the
counters agree with the rows throughout exactly when each transaction that goes through finds the row it counts:
a follow none that is accepted, an unfollow one that is accepted if and only if it has read so.
-/

set_option autoImplicit false

namespace Motogram.Social

open Foundation Program Pool

variable {Index : Type} {s : State}

/-- The counters agree with the rows, and the riders of each row are there. -/
structure State.Consistent (s : State) : Prop where
  counters : s.CountersAgree
  present : ∀ pair, (s.follows.find? pair).isSome →
    (s.users.find? pair.1).isSome ∧ (s.users.find? pair.2).isSome

section Recounts

variable {t : State} {followerId followingId : UserId} {counted rows : Int}

/-- The riders stay. -/
theorem Recounts.isSome (recounts : Recounts s t followerId followingId counted rows) (userId : UserId) :
    (t.users.find? userId).isSome = (s.users.find? userId).isSome := by
  simpa using congrArg Option.isSome (recounts.users userId)

theorem Recounts.consistent (recounts : Recounts s t followerId followingId counted rows) (same : counted = rows)
    (consistent : s.Consistent) (riders : ∀ pair, (t.follows.find? pair).isSome →
      (s.users.find? pair.1).isSome ∧ (s.users.find? pair.2).isSome) : t.Consistent := by
  refine ⟨recounts.agree same consistent.counters, fun pair found => ?_⟩
  rw [recounts.isSome, recounts.isSome]
  exact riders pair found

end Recounts

/-! ## Requests -/

variable {followerId followingId : UserId}

/-- The service function of an operation. -/
def FollowOp.program : FollowOp → Flow Unit
  | .follow followerId followingId => Social.follow followerId followingId >>= fun _ => pure ()
  | .unfollow followerId followingId => Social.unfollow followerId followingId
  | .blockUser initiatorId targetId => Social.blockUser initiatorId targetId >>= fun _ => pure ()
  | .unblockUser initiatorId targetId => Social.unblockUser initiatorId targetId
  | .updateProfile userId dto => Social.updateProfile userId dto >>= fun _ => pure ()

end Motogram.Social
