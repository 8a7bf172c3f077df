import Motogram.Location.Nearby

/-!
# Whom the nearby query shows

`canViewBasedOnPrivacy` looks for a block, and reads the follows that the mode asks for. Viewer
and rider are in no common party here: the controller passes no party for the viewer.

Every function of the query leaves the state as it is, so what it returns is a function of the
state: the riders of the shard whose mode, as the status hash has it, permits the viewer, and
whom no block keeps from the viewer (`mem_nearby`).
-/

set_option autoImplicit false

namespace Motogram

open Foundation Program

/-! ## Permission -/

def LocationSharingMode.Permits (mode : LocationSharingMode) (follows : Table (UserId × UserId) FollowStatus)
    (viewerId riderId : UserId) : Prop :=
  match mode with
  | .publicMode => True
  | .followersOnly => follows.find? (viewerId, riderId) = some .accepted
  | .mutualFollowers => follows.find? (viewerId, riderId) = some .accepted ∧
      follows.find? (riderId, viewerId) = some .accepted
  | _ => False

/-- A block stands between the two, in either direction. -/
def State.Blocks (s : State) (first second : UserId) : Prop :=
  (first, second) ∈ s.blocks ∨ (second, first) ∈ s.blocks

instance (mode : LocationSharingMode) (follows : Table (UserId × UserId) FollowStatus)
    (viewerId riderId : UserId) : Decidable (mode.Permits follows viewerId riderId) :=
  match mode with
  | .publicMode => inferInstanceAs (Decidable True)
  | .followersOnly => inferInstanceAs (Decidable (_ = _))
  | .mutualFollowers => inferInstanceAs (Decidable (_ ∧ _))
  | .off | .groupMembers | .partyOnly => inferInstanceAs (Decidable False)

instance (s : State) (first second : UserId) : Decidable (s.Blocks first second) :=
  inferInstanceAs (Decidable (_ ∨ _))

section Permission

variable {s : State} {viewerId riderId : UserId}

theorem exec_hasBlock (s : State) (viewerId riderId : UserId) :
    (hasBlock viewerId riderId).exec s = (.ok (decide (s.Blocks viewerId riderId)), s) := by
  have found : (s.blocks.contains (viewerId, riderId) || s.blocks.contains (riderId, viewerId)) =
      decide (s.Blocks viewerId riderId) := by
    rw [Bool.eq_iff_iff, Bool.or_eq_true, List.contains_iff_mem, List.contains_iff_mem, decide_eq_true_eq]
    rfl
  rw [← found]
  rfl

theorem exec_isAcceptedFollow (s : State) (followerId followingId : UserId) :
    (isAcceptedFollow followerId followingId).exec s =
      (.ok (decide (s.follows.find? (followerId, followingId) = some .accepted)), s) := rfl

/-- What lets the viewer see a rider: a common party, or a mode that permits it where no block stands
between. -/
def State.CanSee (s : State) (viewerId : UserId) (partyId : Option PartyId) (raw : NearbyRiderRaw) :
    Prop :=
  (sameParty partyId raw.partyId && raw.inParty) = true ∨
    ¬ s.Blocks viewerId raw.userId ∧ raw.privacyMode.Permits s.follows viewerId raw.userId

instance (s : State) (viewerId : UserId) (partyId : Option PartyId) (raw : NearbyRiderRaw) :
    Decidable (s.CanSee viewerId partyId raw) :=
  inferInstanceAs (Decidable (_ ∨ _))

/-- **Outside a common party a rider can be seen when no block stands between and the mode permits.** -/
theorem exec_canView (other : riderId ≠ viewerId) (mode : LocationSharingMode) {inParty same : Bool}
    (apart : (same && inParty) = false) :
    (canViewBasedOnPrivacy viewerId riderId mode inParty same).exec s =
      (.ok (decide (¬ s.Blocks viewerId riderId ∧ mode.Permits s.follows viewerId riderId)), s) := by
  have searched := exec_hasBlock s viewerId riderId
  have forth := exec_isAcceptedFollow s viewerId riderId
  have back := exec_isAcceptedFollow s riderId viewerId
  unfold canViewBasedOnPrivacy
  rw [if_neg other.symm, apart, if_neg Bool.false_ne_true]
  unfold Flow.exec at searched forth back ⊢
  cases mode with
  | off | partyOnly => simp [LocationSharingMode.Permits]
  | groupMembers | publicMode =>
    rw [run_bind_of_ok _ searched]
    simp [LocationSharingMode.Permits]
  | followersOnly =>
    rw [run_bind_of_ok _ searched]
    by_cases blocked : s.Blocks viewerId riderId
    · simp [blocked]
    · simp [blocked, forth, LocationSharingMode.Permits]
  | mutualFollowers =>
    rw [run_bind_of_ok _ searched]
    by_cases blocked : s.Blocks viewerId riderId
    · simp [blocked]
    · simp only [blocked, decide_false, Bool.false_eq_true, if_false]
      rw [run_bind_of_ok _ forth, run_bind_of_ok _ back]
      simp [LocationSharingMode.Permits]

theorem exec_canViewBasedOnPrivacy {raw : NearbyRiderRaw} (other : raw.userId ≠ viewerId)
    (partyId : Option PartyId) :
    (canViewBasedOnPrivacy viewerId raw.userId raw.privacyMode raw.inParty
        (sameParty partyId raw.partyId)).exec s =
      (.ok (decide (s.CanSee viewerId partyId raw)), s) := by
  by_cases joined : (sameParty partyId raw.partyId && raw.inParty) = true
  · have sees : s.CanSee viewerId partyId raw := .inl joined
    unfold canViewBasedOnPrivacy
    rw [if_neg other.symm, if_pos joined, decide_eq_true sees]
    rfl
  · have rule : s.CanSee viewerId partyId raw ↔
        ¬ s.Blocks viewerId raw.userId ∧ raw.privacyMode.Permits s.follows viewerId raw.userId :=
      or_iff_right joined
    rw [exec_canView other raw.privacyMode (Bool.eq_false_iff.mpr joined), decide_eq_decide.mpr rule]

end Permission

/-! ## The loop over the candidates -/

/-- What the loop makes of a candidate. -/
def State.visible? (s : State) (viewerId : UserId) (filter : MapFilter) (allowed : Option (List UserId))
    (raw : NearbyRiderRaw) : Option NearbyRider :=
  if (∀ ids ∈ allowed, raw.userId ∈ ids) ∧ (filter = .parties → raw.inParty = true) ∧
      ¬ s.Blocks viewerId raw.userId ∧ raw.privacyMode.Permits s.follows viewerId raw.userId then
    ((s.users raw.userId).filter fun user => user.deletedAt.isNone && !user.isBanned).map (nearbyRider raw)
  else none

/-- What the loop makes of a candidate for a viewer who rides with the given party. -/
def State.shown? (s : State) (viewerId : UserId) (filter : MapFilter) (partyId : Option PartyId)
    (allowed : Option (List UserId)) (raw : NearbyRiderRaw) : Option NearbyRider :=
  if (∀ ids ∈ allowed, raw.userId ∈ ids) ∧ (filter = .parties → raw.inParty = true) ∧
      s.CanSee viewerId partyId raw then
    ((s.users raw.userId).filter fun user => user.deletedAt.isNone && !user.isBanned).map (nearbyRider raw)
  else none

theorem State.visible?_eq (s : State) (viewerId : UserId) (filter : MapFilter) (allowed : Option (List UserId)) :
    s.visible? viewerId filter allowed = s.shown? viewerId filter none allowed := by
  funext raw
  have rule : s.CanSee viewerId none raw ↔
      ¬ s.Blocks viewerId raw.userId ∧ raw.privacyMode.Permits s.follows viewerId raw.userId :=
    or_iff_right (by rw [sameParty, Option.isSome_none]; simp)
  rw [State.visible?, State.shown?]
  simp only [rule]

/-- **The loop returns what is visible of the candidates**, and leaves the state as it is. -/
theorem exec_visibleRiders (s : State) (viewerId : UserId) (filter : MapFilter) (context : ViewerContext)
    (allowed : Option (List UserId)) {raws : List NearbyRiderRaw}
    (others : ∀ raw ∈ raws, raw.userId ≠ viewerId) :
    (visibleRiders viewerId filter context allowed raws).exec s =
      (.ok (raws.filterMap (s.shown? viewerId filter context.partyId allowed)), s) := by
  induction raws with
  | nil => rfl
  | cons raw rest ih =>
    rw [List.forall_mem_cons] at others
    have later := ih others.2
    rw [visibleRiders, List.filterMap_cons]
    by_cases listed : ∀ ids ∈ allowed, raw.userId ∈ ids
    · rw [if_neg (by simpa [Option.any_eq_true] using listed)]
      by_cases shown : filter = .parties ∧ raw.inParty = false
      · have hidden : s.shown? viewerId filter context.partyId allowed raw = none :=
          if_neg fun all => Bool.false_ne_true (shown.2.symm.trans (all.2.1 shown.1))
        rw [if_pos shown, later, hidden]
      · rw [if_neg shown]
        have joins : filter = .parties → raw.inParty = true := by
          intro parties
          exact Bool.of_not_eq_false fun outside => shown ⟨parties, outside⟩
        have viewed := exec_canViewBasedOnPrivacy (s := s) others.1 context.partyId
        unfold Flow.exec at later viewed ⊢
        rw [run_bind_of_ok _ viewed]
        by_cases sees : s.CanSee viewerId context.partyId raw
        · have visible : s.shown? viewerId filter context.partyId allowed raw = ((s.users raw.userId).filter fun user =>
              user.deletedAt.isNone && !user.isBanned).map (nearbyRider raw) :=
            if_pos ⟨listed, joins, sees⟩
          have found : answer (.userFindUnique raw.userId) s = (s.users raw.userId, s) := rfl
          rw [decide_eq_true sees, if_neg Bool.true_eq_false.mp, call_bind,
            run_call_of_answer _ found, done_bind, run_bind_of_ok _ later, visible]
          cases s.users raw.userId with
          | none => rfl
          | some user =>
            by_cases gone : user.deletedAt.isSome ∨ user.isBanned = true
            · have dropped : (user.deletedAt.isNone && !user.isBanned) = false := by
                rcases gone with deleted | banned
                · rw [Option.isNone_eq_false_iff.mpr deleted, Bool.false_and]
                · rw [banned, Bool.not_true, Bool.and_false]
              dsimp only
              rw [if_pos gone, Option.filter_some, if_neg (by rw [dropped]; exact Bool.false_ne_true)]
              rfl
            · have kept : (user.deletedAt.isNone && !user.isBanned) = true := by
                simpa using gone
              dsimp only
              rw [if_neg gone, Option.filter_some, if_pos kept]
              rfl
        · have hidden : s.shown? viewerId filter context.partyId allowed raw = none := if_neg fun all => sees all.2.2
          rw [decide_eq_false sees, if_pos rfl, later, hidden]
    · have hidden : s.shown? viewerId filter context.partyId allowed raw = none := if_neg fun all => listed all.1
      rw [if_pos (by simpa [Option.any_eq_true] using listed), later, hidden]

/-- What is visible has been let through by the rule, and is a rider of the table. -/
theorem State.visible?_eq_some {s : State} {viewerId : UserId} {filter : MapFilter}
    {allowed : Option (List UserId)} {raw : NearbyRiderRaw} {rider : NearbyRider}
    (visible : s.visible? viewerId filter allowed raw = some rider) :
    rider.userId = raw.userId ∧ ¬ s.Blocks viewerId raw.userId ∧
      raw.privacyMode.Permits s.follows viewerId raw.userId ∧ ∃ user, s.users raw.userId = some user := by
  rw [State.visible?] at visible
  split at visible
  · rename_i all
    obtain ⟨user, found, rfl⟩ := Option.map_eq_some_iff.mp visible
    exact ⟨rfl, all.2.2.1, all.2.2.2, user, (Option.filter_eq_some_iff.mp found).1⟩
  · cases visible

theorem exec_getMutualFollowerIds (s : State) (userId : UserId) :
    ∃ ids, (getMutualFollowerIds userId).exec s = (.ok ids, s) := by
  unfold getMutualFollowerIds Flow.exec
  rw [run_sends]
  split
  · exact ⟨[], rfl⟩
  · exact ⟨_, rfl⟩

/-! ## The query -/

theorem mem_query {s : State} {shard : String} {center : Coordinates} {radius : ℚ} {limit : Nat}
    {hits : List GeoHit} (searched : s.geosearchKey shard center radius limit = .ok hits)
    {raw : NearbyRiderRaw} (returned : raw ∈ s.readHits hits) :
    (∃ shard, s.positions.Lists raw.userId shard) ∧
      raw.privacyMode = ((s.ping? raw.userId).map StatusPing.privacyMode).getD .off := by
  obtain ⟨hit, found, stored, lives, rfl⟩ := mem_readHits.mp returned
  rw [geosearchKey_eq_ok searched] at found
  obtain ⟨⟨entry, listed, rfl⟩, -⟩ := mem_within.mp (within_of_mem_geosearch found)
  refine ⟨⟨shard, entry.2, listed⟩, ?_⟩
  have status : s.ping? entry.1 = stored.value.ping := by
    exact congrArg (fun found => Option.bind found fun stored => stored.value.ping) lives
  rw [nearbyRiderRaw]
  dsimp only [State.hit]
  rw [status]

/-- **Whoever is returned is listed, has a status whose mode permits the viewer, and is kept from the
viewer by no block.** -/
theorem mem_nearby {s after : State} {viewerId : UserId} {query : NearbyQuery} {riders : List NearbyRider}
    (ran : (nearby s.deployment viewerId query).exec s = (.ok riders, after)) :
    ∀ rider ∈ riders, (∃ shard, s.positions.Lists rider.userId shard) ∧
      ¬ s.Blocks viewerId rider.userId ∧ (∃ user, s.users rider.userId = some user) ∧
        ∃ ping, s.ping? rider.userId = some ping ∧
          ping.privacyMode.Permits s.follows viewerId rider.userId := by
  unfold nearby Flow.exec at ran
  rw [call_bind, run_call_of_answer _ (rfl : answer (.userFindUnique viewerId) s = (_, _)),
    done_bind] at ran
  cases known : s.users viewerId with
  | none =>
    rw [known] at ran
    cases ran
  | some viewer =>
    rw [known] at ran
    dsimp only [getNearbyRiders] at ran
    have queried := exec_queryNearbyRaw s ⟨query.lat, query.lng⟩ query.radius
      (query.city.or viewer.city) query.limit
    cases searched : s.geosearchKey (userLocationShard s.deployment (query.city.or viewer.city))
        ⟨query.lat, query.lng⟩ query.radius query.limit with
    | error error =>
      rw [searched] at queried
      rw [run_bind, show run answer _ s = _ from queried] at ran
      cases ran
    | ok hits =>
      rw [searched] at queried
      rw [run_bind_of_ok _ queried] at ran
      have visible : ∀ allowed : Option (List UserId),
          (visibleRiders viewerId query.filter ⟨viewer.city, none⟩ allowed
            ((s.readHits hits).filter fun raw => decide (raw.userId ≠ viewerId))).exec s =
              (.ok riders, after) →
          ∀ rider ∈ riders, (∃ shard, s.positions.Lists rider.userId shard) ∧
            ¬ s.Blocks viewerId rider.userId ∧ (∃ user, s.users rider.userId = some user) ∧
              ∃ ping, s.ping? rider.userId = some ping ∧
                ping.privacyMode.Permits s.follows viewerId rider.userId := by
        intro allowed ran rider returned
        rw [exec_visibleRiders s viewerId query.filter ⟨viewer.city, none⟩ allowed fun raw member =>
          of_decide_eq_true (List.mem_filter.mp member).2, ← State.visible?_eq] at ran
        obtain ⟨⟩ := ran
        obtain ⟨raw, member, visible⟩ := List.mem_filterMap.mp returned
        obtain ⟨same, free, permits, user, here⟩ := State.visible?_eq_some visible
        obtain ⟨lists, mode⟩ := mem_query searched (List.mem_filter.mp member).1
        rw [same]
        refine ⟨lists, free, ⟨user, here⟩, ?_⟩
        cases status : s.ping? raw.userId with
        | none =>
          rw [mode, status] at permits
          exact permits.elim
        | some ping =>
          rw [mode, status] at permits
          exact ⟨ping, rfl, permits⟩
      split at ran
      · cases ran
        simp
      · split at ran
        · obtain ⟨ids, mutuals⟩ := exec_getMutualFollowerIds s viewerId
          rw [run_bind_of_ok _ mutuals] at ran
          exact visible (some ids) ran
        · exact visible none ran

end Motogram
