import Motogram.Location.Hiding
import Motogram.Social.Blocks

/-!
# The cached privacy mode

An update writes the privacy mode of the rider into the status hash, and the nearby query reads it
there. `PUT /location/sharing` writes the row of the rider and leaves the hash as it is, so a rider
who narrows the mode is returned to viewers whom only the wider one permits, until the next update
or until the hash expires (`narrowed_mode_ignored`).

The riders that are listed are those whom the cache lets through; what it must not do is to permit
more than the row. Updates bring the two together, and nothing but a change of the mode takes them
apart, so the cached modes stay within the stored ones exactly in the runs in which no mode is
narrowed below the cached one of a rider who stays listed (`modes_within_iff`). In these runs every
query returns only riders that the viewer may see (`returned_riders_permitted`).
-/

set_option autoImplicit false

namespace Motogram

open Foundation Program Function

/-! ## The services over one database -/

/-- The location and map services, and the follow and block services. -/
structure Network where
  map : State
  social : Social.State

/-- What the location and map services see: the follows and blocks are those of the social services. -/
def Network.view (n : Network) : State :=
  { n.map with
    follows := n.social.follows
    blocks := n.social.blocks.entries.map Prod.fst }

/-- An operation of the map, or of the follows and blocks. -/
inductive NetworkOp where
  | map (op : Op)
  | social (op : Social.FollowOp)

/-- Finish an operation before the next one begins. -/
def Network.step (n : Network) : NetworkOp → Network
  | .map op => { n with map := Motogram.step n.view op }
  | .social op => { n with social := n.social.step op }

/-- No query returns a rider whom a block keeps from the viewer, or whose stored mode does not permit
the viewer. -/
def Network.Permitted (n : Network) : Prop :=
  ∀ viewerId query riders, ((nearby n.view.deployment viewerId query).exec n.view).1 = .ok riders →
    ∀ rider ∈ riders, ¬ n.social.Blocks viewerId rider.userId ∧
      ∃ user, n.view.users rider.userId = some user ∧
        user.locationSharing.Permits n.social.follows viewerId rider.userId

/-! ## Modes and their audiences -/

/-- How wide the audience of a mode is; the modes that permit nobody have none. -/
def LocationSharingMode.audience : LocationSharingMode → Nat
  | .publicMode => 3
  | .followersOnly => 2
  | .mutualFollowers => 1
  | _ => 0

theorem permits_of_audience_le {narrow wide : LocationSharingMode}
    {follows : Table (UserId × UserId) FollowStatus} {viewerId riderId : UserId}
    (within : narrow.audience ≤ wide.audience) (permits : narrow.Permits follows viewerId riderId) :
    wide.Permits follows viewerId riderId := by
  cases narrow with
  | off | groupMembers | partyOnly => exact permits.elim
  | mutualFollowers =>
    cases wide with
    | mutualFollowers => exact permits
    | followersOnly => exact permits.1
    | publicMode => trivial
    | off | groupMembers | partyOnly => exact absurd within (by decide)
  | followersOnly =>
    cases wide with
    | followersOnly => exact permits
    | publicMode => trivial
    | off | groupMembers | partyOnly | mutualFollowers => exact absurd within (by decide)
  | publicMode =>
    cases wide with
    | publicMode => trivial
    | _ => exact absurd within (by decide)

/-- The cached mode of every rider that is listed has no wider audience than the stored one. -/
def State.ModesWithin (s : State) : Prop :=
  ∀ userId user ping, s.users userId = some user → (∃ shard, s.positions.Lists userId shard) →
    s.ping? userId = some ping → ping.privacyMode.audience ≤ user.locationSharing.audience

/-- The mode is not narrower than the cached one of a rider who stays listed: switching the sharing
off takes the rider out of the shard of the profile. -/
def State.NotNarrowed (s : State) (userId : UserId) (mode : LocationSharingMode) : Prop :=
  ∀ ping shard, s.users userId ≠ none → s.ping? userId = some ping → s.positions.Lists userId shard →
    (mode = .off → shard ≠ s.profileShard userId) → ping.privacyMode.audience ≤ mode.audience

/-- A change of the mode does not narrow it below the cached one. -/
def Network.Clear (n : Network) : NetworkOp → Prop
  | .map (.updateSharing userId mode) => n.map.NotNarrowed userId mode
  | _ => True

theorem Network.permitted_of_within {n : Network} (within : n.map.ModesWithin) : n.Permitted := by
  intro viewerId query riders ran rider returned
  obtain ⟨lists, free, ⟨user, here⟩, ping, found, permits⟩ := mem_nearby (Prod.ext ran rfl) rider returned
  refine ⟨fun blocks => free ?_, user, here, ?_⟩
  · have listed : ∀ first second, (n.social.blocks.find? (first, second)).isSome →
        (first, second) ∈ n.view.blocks := by
      intro first second some
      obtain ⟨since, row⟩ := Option.isSome_iff_exists.mp some
      exact List.mem_map.mpr ⟨((first, second), since), (Table.mem_entries_iff _).mpr row, rfl⟩
    exact blocks.imp (listed _ _) (listed _ _)
  · exact permits_of_audience_le (within rider.userId user ping here lists found) permits

/-! ## The rows of the users -/

theorem answer_keepsUsers {call : StoreCall}
    (other : ∀ userId mode, call ≠ .userUpdateLocationSharing userId mode) (s : State) :
    (answer call s).2.users = s.users := by
  cases call with
  | userUpdateLocationSharing userId mode => exact absurd rfl (other userId mode)
  | redis command => cases command <;> rfl
  | multi commands =>
    refine List.foldlRecOn (motive := fun t => t.users = s.users) commands State.redis rfl ?_
    intro t same command _
    cases command <;> exact same
  | environment event =>
    cases event with
    | elapse milliseconds => rfl
    | relist rows index =>
      simp only [answer]
      split <;> rfl
  | createPartyTransaction | partyMemberCreate | partyInviteCreate =>
    simp only [answer]
    split
    · rfl
    · split <;> rfl
  | changeLeaderTransaction | endPartyTransaction | partyMemberUpdate | partyInviteDecline
  | setLeaderLockNx | releaseLeaderLock | socketConnect =>
    simp only [answer]
    split <;> rfl
  | _ => rfl

theorem removed_users (s : State) (userId : UserId) (city : Option String) :
    (s.removed userId city).users = s.users := by
  simp [State.removed, State.redis]

theorem step_keepsUsers {op : Op} (other : ∀ userId mode, op ≠ .updateSharing userId mode) (s : State) :
    (step s op).users = s.users := by
  by_cases profiles : .profiles ∈ op.regions
  · cases op with
    | updateSharing userId mode => exact absurd rfl (other userId mode)
    | stopSession userId =>
      obtain ⟨t, users, -, ran⟩ := exec_stopSession s userId
      rw [step_stopSession, ran, removed_users, users]
    | updateLocation userId dto => cases named : dto.partyId <;> simp [named] at profiles
    | _ => simp at profiles
  · let keeps (t : State) := t.users = s.users
    have each : ∀ call (t : State), call.regions ⊆ op.regions → keeps t → keeps (answer call t).2 := by
      intro call t within same
      refine (answer_keepsUsers (fun userId mode => ?_) t).trans same
      rintro rfl
      exact profiles (within (by simp))
    exact step_keeps (rfl : keeps s) each

variable {s : State} {userId : UserId}

/-- A change of the mode by a stranger is refused. -/
theorem step_updateSharing_unknown (unknown : s.users userId = none) (mode : LocationSharingMode) :
    step s (.updateSharing userId mode) = s := by
  have refused : answer (.userUpdateLocationSharing userId mode) s = (.error .recordNotFound, s) := by
    simp only [answer, unknown]
  rw [step_updateSharing]
  unfold updateSharing Flow.exec
  rw [call_bind, run_call_of_answer _ refused]
  rfl

/-- A change of the mode writes the row, and `off` removes the position besides. -/
theorem step_updateSharing_known {user : User} (known : s.users userId = some user)
    (mode : LocationSharingMode) :
    step s (.updateSharing userId mode) =
      if mode = .off then
        (s.withUser userId (some { user with locationSharing := mode })).removed userId user.city
      else s.withUser userId (some { user with locationSharing := mode }) := by
  rw [step_updateSharing]
  by_cases off : mode = .off
  · subst off
    rw [if_pos rfl, exec_updateSharing_off known]
  · have updated : answer (.userUpdateLocationSharing userId mode) s =
        (.ok (), s.withUser userId (some { user with locationSharing := mode })) := by
      simp only [answer, known]
    unfold updateSharing Flow.exec
    rw [if_neg off, run_sends_of updated, rethrow_ok,
      if_neg off]
    rfl

/-! ## What a removal leaves -/

theorem removed_ping? (s : State) (userId : UserId) (city : Option String) (other : UserId) :
    (s.removed userId city).ping? other = s.ping? other := by
  have status : (s.removed userId city).userStatus = update s.userStatus userId
      (UserStatus.hsetOffline (Expiring.live s.now (s.userStatus userId))) := by
    simp [State.removed, State.redis]
  have now : (s.removed userId city).now = s.now := by simp [State.removed, State.redis]
  rw [State.ping?, State.ping?, status, now]
  by_cases same : other = userId
  · subst same
    rw [update_self]
    cases alive : Expiring.live s.now (s.userStatus other) with
    | none => rfl
    | some stored =>
      obtain ⟨-, lives⟩ := Option.filter_eq_some_iff.mp alive
      have still : Expiring.live s.now (UserStatus.hsetOffline (some stored)) =
          some { stored with value := { stored.value with online := false } } :=
        Option.filter_eq_some_iff.mpr ⟨rfl, lives⟩
      rw [still]
      rfl
  · rw [update_of_ne same]

theorem removed_lists {city : Option String} {shard : String}
    (elsewhere : shard ≠ userLocationShard s.deployment city) (lists : s.positions.Lists userId shard) :
    (s.removed userId city).positions.Lists userId shard := by
  obtain ⟨coordinates, listed⟩ := lists
  have keys : (s.removed userId city).locationKeys shard = s.locationKeys shard := by
    simp [State.removed, State.redis, update_of_ne elsewhere]
  refine ⟨coordinates, ?_⟩
  rwa [State.positions, keys]

/-! ## Steps -/

theorem Op.accepted?_user {op : Op} {update : Update} (accepted : op.accepted? s = some update) :
    s.users update.userId = some update.user := by
  have asks := (Option.filter_eq_some_iff.mp accepted).1
  cases op with
  | updateLocation userId dto =>
    obtain ⟨user, known, rfl⟩ := Option.map_eq_some_iff.mp asks
    exact known
  | partyUpdateLocation socket payload =>
    cases payload with
    | none => cases asks
    | some payload =>
      rw [Op.update?] at asks
      cases connected : s.sockets socket with
      | none =>
        rw [connected] at asks
        cases asks
      | some identity =>
        rw [connected] at asks
        dsimp only at asks
        split at asks
        · obtain ⟨user, known, rfl⟩ := Option.map_eq_some_iff.mp asks
          exact known
        · cases asks
  | _ => cases asks

/-- An operation that changes no mode keeps the cached modes within the stored ones. -/
theorem State.ModesWithin.step (within : s.ModesWithin) {op : Op}
    (other : ∀ userId mode, op ≠ .updateSharing userId mode) : (step s op).ModesWithin := by
  have kept := step_positions s op
  intro userId user ping known listed found
  rw [step_keepsUsers other s] at known
  obtain ⟨shard, lists⟩ := listed
  cases accepted : op.accepted? s with
  | none =>
    rw [accepted] at kept
    exact within userId user ping known ⟨shard, kept.positions.lists lists⟩ (kept.ping userId ping found)
  | some update =>
    rw [accepted] at kept
    by_cases own : userId = update.userId
    · -- The update has just written the stored mode.
      subst own
      rw [kept.own] at found
      obtain rfl := Option.some.inj found
      obtain rfl : user = update.user := by
        rw [Op.accepted?_user accepted] at known
        exact (Option.some.inj known).symm
      exact Nat.le_refl _
    · rw [kept.others userId own] at found
      exact within userId user ping known ⟨shard, kept.lists own lists⟩ found

/-- A change of the mode keeps the cached modes within the stored ones when it narrows nothing that
stays listed. -/
theorem State.ModesWithin.updateSharing (within : s.ModesWithin) {userId : UserId} {mode : LocationSharingMode}
    (clear : s.NotNarrowed userId mode) : (Motogram.step s (.updateSharing userId mode)).ModesWithin := by
  cases known : s.users userId with
  | none =>
    rw [step_updateSharing_unknown known]
    exact within
  | some row =>
    have kept : Retreats s (Motogram.step s (.updateSharing userId mode)) :=
      step_positions s (.updateSharing userId mode)
    have users : (Motogram.step s (.updateSharing userId mode)).users =
        update s.users userId (some { row with locationSharing := mode }) := by
      rw [step_updateSharing_known known]
      split <;> rfl
    intro other user ping here listed found
    obtain ⟨shard, lists⟩ := listed
    rw [users] at here
    obtain ⟨rfl, here'⟩ | ⟨-, here'⟩ := eq_of_update here
    · obtain rfl := Option.some.inj here'
      refine clear ping shard (by rw [known]; exact Option.some_ne_none _) (kept.ping other ping found)
        (kept.positions.lists lists) ?_
      rintro rfl rfl
      have hides : Op.hides? s (.updateSharing other .off) = some other := by
        rw [Op.hides?, known]
        rfl
      exact step_unlists hides lists
    · exact within other user ping here' ⟨shard, kept.positions.lists lists⟩ (kept.ping other ping found)

/-- A change of the mode that narrows it below the cached one leaves the cached one in place. -/
theorem not_within_of_narrowed {mode : LocationSharingMode} (narrowed : ¬ s.NotNarrowed userId mode) :
    ¬ (Motogram.step s (.updateSharing userId mode)).ModesWithin := by
  intro within
  refine narrowed fun ping shard some found lists elsewhere => ?_
  obtain ⟨row, known⟩ := Option.ne_none_iff_exists'.mp some
  have after := step_updateSharing_known known mode
  have here : (Motogram.step s (.updateSharing userId mode)).users userId =
      Option.some { row with locationSharing := mode } := by
    rw [after]
    split <;> exact update_self ..
  refine within userId _ ping here ⟨shard, ?_⟩ ?_
  · rw [after]
    split
    · rename_i off
      have profile := elsewhere off
      rw [State.profileShard, known] at profile
      exact removed_lists profile lists
    · exact lists
  · rw [after]
    split
    · rw [removed_ping?]
      exact found
    · exact found

/-- **In every state of a run the cached modes are within the stored ones exactly when no step narrows
a mode below the cached one of a rider who stays listed.** -/
theorem modes_within_iff (n : Network) (within : n.map.ModesWithin) (ops : List NetworkOp) :
    Throughout Network.step (fun m => m.map.ModesWithin) n ops ↔ EachStep Network.step Network.Clear n ops := by
  have keeps : ∀ (m : Network) (op : NetworkOp), m.map.ModesWithin → m.Clear op → (m.step op).map.ModesWithin := by
    intro m op within clear
    cases op with
    | social op => exact within
    | map op =>
      have within' : m.view.ModesWithin := within
      by_cases change : ∃ userId mode, op = .updateSharing userId mode
      · obtain ⟨userId, mode, rfl⟩ := change
        have clear' : m.view.NotNarrowed userId mode := clear
        exact within'.updateSharing clear'
      · exact within'.step fun userId mode same => change ⟨userId, mode, same⟩
  have breaks : ∀ (m : Network) (op : NetworkOp), m.map.ModesWithin → ¬ m.Clear op →
      ¬ (m.step op).map.ModesWithin := by
    intro m op _ unclear
    cases op with
    | social op => exact absurd trivial unclear
    | map op =>
      by_cases change : ∃ userId mode, op = .updateSharing userId mode
      · obtain ⟨userId, mode, rfl⟩ := change
        have narrowed : ¬ m.view.NotNarrowed userId mode := unclear
        exact not_within_of_narrowed narrowed
      · refine absurd ?_ unclear
        cases op with
        | updateSharing userId mode => exact absurd ⟨userId, mode, rfl⟩ change
        | _ => trivial
  exact throughout_iff_eachStep (fun _ within => within) keeps breaks within ops

/-- **In a run in which no mode is narrowed below the cached one of a rider who stays listed, every
query returns only riders whose stored mode permits the viewer, and whom no block keeps away.** -/
theorem returned_riders_permitted (n : Network) (within : n.map.ModesWithin) (ops : List NetworkOp)
    (clear : EachStep Network.step Network.Clear n ops) : Throughout Network.step Network.Permitted n ops :=
  ((modes_within_iff n within ops).mpr clear).mono fun _ within => Network.permitted_of_within within

/-! ## A small network -/

/-- Nobody has sent a position yet. -/
def smallNetwork : Network := ⟨smallInstallation, Social.smallInstallation⟩

theorem smallNetwork_within : smallNetwork.map.ModesWithin := by
  rintro userId user ping - ⟨shard, coordinates, listed⟩
  cases listed

theorem returned_riders_permitted_small :
    Throughout Network.step Network.Permitted smallNetwork
      [.map (.updateLocation 1 (updateAt 0 0 (some "ankara"))), .social (.follow 2 1),
        .map (.updateSharing 1 .publicMode), .social (.blockUser 1 3)] := by
  refine returned_riders_permitted smallNetwork smallNetwork_within _ ⟨trivial, trivial, ?_, trivial, trivial⟩
  intro ping shard _ _ _ _
  cases ping.privacyMode <;> decide

/-- A rider who is public sends a position and then shows it to followers only; a rider who follows
nobody asks for it. -/
theorem narrowed_mode_ignored :
    ¬ Throughout Network.step Network.Permitted smallNetwork
      [.map (.updateLocation 1 (updateAt 0 0 (some "ankara"))), .map (.updateSharing 1 .followersOnly)] := by
  intro holds
  let n := follow Network.step smallNetwork
    [.map (.updateLocation 1 (updateAt 0 0 (some "ankara"))), .map (.updateSharing 1 .followersOnly)]
  have permitted : n.Permitted := holds.last
  have returned : ((nearby n.view.deployment 2 ankaraQuery).exec n.view).1.toOption.map
      (fun riders => riders.map NearbyRider.userId) = some [1] := by decide +kernel
  cases ran : ((nearby n.view.deployment 2 ankaraQuery).exec n.view).1 with
  | error error =>
    rw [ran] at returned
    cases returned
  | ok riders =>
    rw [ran] at returned
    have ids : riders.map NearbyRider.userId = [1] := Option.some.inj returned
    have listed : 1 ∈ riders.map NearbyRider.userId := by simp [ids]
    obtain ⟨rider, member, same⟩ := List.mem_map.mp listed
    obtain ⟨-, user, here, permits⟩ := permitted 2 ankaraQuery riders ran rider member
    rw [same] at here permits
    have stored : (n.view.users 1).map User.locationSharing = some .followersOnly := by decide +kernel
    have mode : user.locationSharing = .followersOnly := by
      rw [here] at stored
      exact Option.some.inj stored
    have stranger : n.social.follows.find? (2, 1) = none := by decide +kernel
    rw [mode] at permits
    cases permits

end Motogram
