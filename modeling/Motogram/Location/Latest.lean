import Motogram.Location.Nearby

/-!
# The latest position of a user

An accepted update writes the position of its user into the shard of the city it names,
and leaves the shards of other cities alone. So a user who changes the city stays listed
where the last update was made, with the coordinates of that update, and the status of the
user makes the old entry as fresh as the new one.

`Tracked` adds to a state the coordinates of the latest accepted update of each user. The
shards list every user once and every query returns the latest coordinates in exactly the
runs whose accepted updates find no other position of their user
(`nearby_answers_latest_iff`); an update from another city is enough to break both.
-/

set_option autoImplicit false

namespace Motogram

open Foundation

structure Tracked where
  state : State
  latest : UserId → Option Coordinates

def Tracked.step (t : Tracked) (op : Op) : Tracked where
  state := Motogram.step t.state op
  latest :=
    match op.accepted? t.state with
    | none => t.latest
    | some update => Function.update t.latest update.userId (some update.dto.coordinates)

/-- Before any update has been accepted. -/
def State.tracked (s : State) : Tracked := ⟨s, fun _ => none⟩

/-- No user is listed in two shards, and whatever query returns a user returns the
coordinates of the latest accepted update. -/
structure Tracked.AnswersLatest (t : Tracked) : Prop where
  exclusive : t.state.positions.Exclusive
  answers : ∀ center radius city limit riders,
    ((queryNearbyRaw t.state.deployment center radius city limit).exec t.state).1 = .ok riders →
      ∀ rider ∈ riders, t.latest rider.userId = some rider.coordinates

structure Update.Replaces (s : State) (update : Update) : Prop where
  alone : s.Takes (update.shard s.deployment) update.dto.coordinates →
    ∀ other, s.positions.Lists update.userId other → other = update.shard s.deployment
  same : ¬ s.Takes (update.shard s.deployment) update.dto.coordinates →
    ∀ other old, (update.userId, old) ∈ s.positions other → old = update.dto.coordinates

def Op.ReplacesPosition (t : Tracked) (op : Op) : Prop :=
  ∀ update, op.accepted? t.state = some update → update.Replaces t.state

/-! ## The invariant -/

/-- The shards list every user once with the latest coordinates, which the geo index takes,
and each of them is the shard of some city. -/
structure Tracked.Sound (t : Tracked) : Prop where
  exclusive : t.state.positions.Exclusive
  current : t.state.positions.Current t.latest
  indexable : ∀ shard userId coordinates, (userId, coordinates) ∈ t.state.positions shard →
    coordinates.Indexable
  named : ∀ shard userId, t.state.positions.Lists userId shard →
    ∃ city, userLocationShard t.state.deployment city = shard

theorem Tracked.Sound.answersLatest {t : Tracked} (sound : t.Sound) : t.AnswersLatest := by
  refine ⟨sound.exclusive, fun center radius city limit riders ran rider returned => ?_⟩
  rw [exec_queryNearbyRaw] at ran
  cases searched : t.state.geosearchKey (userLocationShard t.state.deployment city) center radius
      limit with
  | error error =>
    rw [searched] at ran
    cases ran
  | ok hits =>
    rw [searched] at ran
    cases ran
    obtain ⟨hit, found, stored, -, rfl⟩ := mem_readHits.mp returned
    rw [geosearchKey_eq_ok searched] at found
    obtain ⟨⟨entry, listed, rfl⟩, -⟩ := mem_within.mp (within_of_mem_geosearch found)
    exact sound.current _ _ _ listed

theorem Tracked.step_of_none {t : Tracked} {op : Op} (none : op.accepted? t.state = none) :
    Retreats t.state (t.step op).state ∧ (t.step op).latest = t.latest := by
  have kept := step_positions t.state op
  rw [none] at kept
  exact ⟨kept, by rw [Tracked.step, none]⟩

theorem Tracked.step_of_some {t : Tracked} {op : Op} {update : Update}
    (accepted : op.accepted? t.state = some update) :
    Locates t.state (t.step op).state update ∧ (t.step op).latest =
      Function.update t.latest update.userId (some update.dto.coordinates) := by
  have kept := step_positions t.state op
  rw [accepted] at kept
  exact ⟨kept, by rw [Tracked.step, accepted]⟩

/-- **A step that replaces keeps the invariant.** -/
theorem Tracked.Sound.step {t : Tracked} (sound : t.Sound) {op : Op}
    (replaces : op.ReplacesPosition t) : (t.step op).Sound := by
  cases accepted : op.accepted? t.state with
  | none =>
    obtain ⟨retreats, latest⟩ := Tracked.step_of_none accepted
    refine ⟨sound.exclusive.within retreats.positions, ?_, ?_, ?_⟩
    · rw [latest]
      exact sound.current.within retreats.positions
    · intro shard userId coordinates listed
      exact sound.indexable shard userId coordinates (retreats.positions shard listed)
    · intro shard userId listed
      rw [retreats.deployment]
      exact sound.named shard userId (retreats.positions.lists listed)
  | some update =>
    obtain ⟨locates, latest⟩ := Tracked.step_of_some accepted
    obtain ⟨alone, same⟩ := replaces update accepted
    by_cases takes : t.state.Takes (update.shard t.state.deployment) update.dto.coordinates
    · have puts := locates.taken takes
      obtain ⟨exclusive, current⟩ := (puts.keeps_iff sound.exclusive sound.current).mpr (alone takes)
      refine ⟨exclusive, latest ▸ current, ?_, ?_⟩
      · intro shard userId coordinates listed
        rcases puts.mem listed with ⟨-, written⟩ | ⟨kept, -⟩
        · cases written
          exact takes.1
        · exact sound.indexable shard userId coordinates kept
      · rintro shard userId ⟨coordinates, listed⟩
        rw [locates.deployment]
        rcases puts.mem listed with ⟨here, -⟩ | ⟨kept, -⟩
        · exact ⟨_, here.symm⟩
        · exact sound.named shard userId ⟨coordinates, kept⟩
    · have positions := locates.refused takes
      refine ⟨positions ▸ sound.exclusive, ?_, ?_, ?_⟩
      · rw [latest, positions]
        exact sound.current.update_iff.mpr (same takes)
      · rw [positions]
        exact sound.indexable
      · rw [positions, locates.deployment]
        exact sound.named

/-! ## What another step breaks -/

theorem query_returns {s : State} {shard : String} {userId : UserId} {coordinates : Coordinates}
    (listed : (userId, coordinates) ∈ s.positions shard) (indexable : coordinates.Indexable)
    (named : ∃ city, userLocationShard s.deployment city = shard) {ping : StatusPing}
    (fresh : s.ping? userId = some ping) :
    ∃ center radius city limit riders,
      ((queryNearbyRaw s.deployment center radius city limit).exec s).1 = .ok riders ∧
        ∃ rider ∈ riders, rider.userId = userId ∧ rider.coordinates = coordinates := by
  obtain ⟨city, rfl⟩ := named
  obtain ⟨stored, lives, -⟩ := Option.bind_eq_some_iff.mp fresh
  have takes : s.Takes (userLocationShard s.deployment city) coordinates := by
    refine ⟨indexable, fun names taken => ?_⟩
    rw [State.positions, taken] at listed
    cases listed
  have within : s.hit coordinates (userId, coordinates) ∈
      s.within (s.positions (userLocationShard s.deployment city)) coordinates
        (s.deployment.distance coordinates coordinates) :=
    mem_within.mpr ⟨⟨_, listed, rfl⟩, le_refl _⟩
  have ran : ∀ limit, ((queryNearbyRaw s.deployment coordinates
      (s.deployment.distance coordinates coordinates) city limit).exec s).1 =
        .ok (s.readHits (s.geosearch (s.positions (userLocationShard s.deployment city)) coordinates
          (s.deployment.distance coordinates coordinates) limit)) := by
    intro limit
    rw [exec_queryNearbyRaw, geosearchKey_of_takes takes]
  have found := mem_geosearch_of_length_le within (le_refl _)
  exact ⟨_, _, city, _, _, ran _,
    nearbyRiderRaw (s.hit coordinates (userId, coordinates)) stored.value,
    mem_readHits.mpr ⟨_, found, stored, lives, rfl⟩, rfl, rfl⟩

/-- **A step that does not replace leaves a user in two shards, or an old position.** -/
theorem Tracked.Sound.breaks {t : Tracked} (sound : t.Sound) {op : Op}
    (stays : ¬ op.ReplacesPosition t) : ¬ (t.step op).AnswersLatest := by
  rintro ⟨exclusive, answers⟩
  refine stays fun update accepted =>
    ⟨fun takes other listed => ?_, fun refuses other old listed => ?_⟩
  · obtain ⟨locates, -⟩ := Tracked.step_of_some accepted
    exact (locates.taken takes).alone_of_exclusive exclusive listed
  · obtain ⟨locates, latest⟩ := Tracked.step_of_some accepted
    have positions := locates.refused refuses
    have named : ∃ city, userLocationShard (t.step op).state.deployment city = other := by
      rw [locates.deployment]
      exact sound.named other update.userId ⟨old, listed⟩
    have indexable := sound.indexable other update.userId old listed
    rw [← positions] at listed
    obtain ⟨center, radius, city, limit, riders, ran, rider, returned, own, at'⟩ :=
      query_returns listed indexable named locates.own
    have answered := answers center radius city limit riders ran rider returned
    rw [latest, own, Function.update_self, at'] at answered
    exact (Option.some.inj answered).symm

/-- **The shards list every user once and the queries return the latest coordinates, in
every state of a run, exactly when every accepted update replaces the position of its
user.** -/
theorem nearby_answers_latest_iff (s : State) (unlocated : ∀ shard, s.positions shard = [])
    (ops : List Op) :
    Throughout Tracked.step Tracked.AnswersLatest s.tracked ops ↔
      EachStep Tracked.step (fun t op => op.ReplacesPosition t) s.tracked ops := by
  have initially : s.tracked.Sound := by
    have nowhere : ∀ shard entry, entry ∉ s.tracked.state.positions shard := by
      intro shard entry listed
      rw [State.tracked, unlocated shard] at listed
      cases listed
    exact ⟨fun _ _ _ one => absurd one.choose_spec (nowhere _ _),
      fun _ _ _ listed => absurd listed (nowhere _ _),
      fun _ _ _ listed => absurd listed (nowhere _ _),
      fun _ _ listed => absurd listed.choose_spec (nowhere _ _)⟩
  exact throughout_iff_eachStep (fun _ sound => sound.answersLatest)
    (fun _ _ sound replaces => sound.step replaces) (fun _ _ sound stays => sound.breaks stays)
    initially ops

/-! ## A small installation -/

/-- An update outside parties. -/
def updateAt (lat lng : ℚ) (city : Option String) : UpdateLocationDto where
  lat := lat
  lng := lng
  heading := none
  speed := none
  city := city
  partyId := none
  source := none

theorem nearby_answers_latest_small :
    Throughout Tracked.step Tracked.AnswersLatest smallInstallation.tracked
        [.updateLocation 1 (updateAt 0 0 none), .environment (.elapse 1000),
          .updateLocation 1 (updateAt 1 1 none), .sweepZombies] ↔
      EachStep Tracked.step (fun t op => op.ReplacesPosition t) smallInstallation.tracked
        [.updateLocation 1 (updateAt 0 0 none), .environment (.elapse 1000),
          .updateLocation 1 (updateAt 1 1 none), .sweepZombies] :=
  nearby_answers_latest_iff smallInstallation (fun _ => rfl) _

/-- A rider who is in one city, and a second later in another. -/
def travels : List Op :=
  [.updateLocation 1 (updateAt 0 0 (some "ankara")), .environment (.elapse 1000),
    .updateLocation 1 (updateAt 1 1 (some "izmir"))]

/-- The rider is then in both shards, and the query of the first city returns where the
rider was. -/
theorem nearby_answers_old :
    ¬ Throughout Tracked.step Tracked.AnswersLatest smallInstallation.tracked travels ∧
      (follow Tracked.step smallInstallation.tracked travels).latest 1 = some ⟨1, 1⟩ ∧
      ((queryNearbyRaw smallDeployment ⟨0, 0⟩ 5 (some "ankara") 50).exec
        (follow Tracked.step smallInstallation.tracked travels).state).1.toOption.map
          (fun riders => riders.map fun rider => (rider.userId, rider.coordinates)) =
            some [(1, ⟨0, 0⟩)] := by
  refine ⟨fun holds => ?_, by decide +kernel, by decide +kernel⟩
  have same := holds.last.exclusive 1 "ankara" "izmir" ⟨⟨0, 0⟩, by decide +kernel⟩
    ⟨⟨1, 1⟩, by decide +kernel⟩
  exact absurd same (by decide)

end Motogram
