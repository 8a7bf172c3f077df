import Motogram.Foundation.Nearest
import Motogram.Location.Hiding

/-!
# Whether the nearest visible riders are returned

The geo query cuts the shard at the limit of the request. Only then the service drops the
viewer, the riders without a status, those whom the privacy rule or a block hides, and those
whose account is deleted or banned. So what is returned is in order, names nobody twice and
not the viewer; but every rider that is dropped has taken a place.

`exec_getNearbyRiders` says what the query returns, and `getNearbyRiders_nearest_iff` when
these are the nearest of the visible riders, as many as the limit allows.
-/

set_option autoImplicit false

namespace Motogram

open Foundation

variable {s : State} {viewerId : UserId} {query : NearbyQuery} {context : ViewerContext}

/-! ## What the query returns -/

/-- A hit of the search as the viewer is shown it, under the filter `NEARBY`. -/
def State.shownHit? (s : State) (viewerId : UserId) (partyId : Option PartyId) (hit : GeoHit) :
    Option NearbyRider :=
  ((Expiring.live s.now (s.userStatus hit.userId)).map fun stored =>
    nearbyRiderRaw hit stored.value).bind fun raw =>
      if raw.userId = viewerId then none else s.shown? viewerId .nearby partyId none raw

variable {partyId : Option PartyId} {hit : GeoHit} {rider : NearbyRider}

theorem shownHit?_eq_some_iff :
    s.shownHit? viewerId partyId hit = some rider ↔
      ∃ stored user, Expiring.live s.now (s.userStatus hit.userId) = some stored ∧
        hit.userId ≠ viewerId ∧ s.CanSee viewerId partyId (nearbyRiderRaw hit stored.value) ∧
          s.users hit.userId = some user ∧ user.deletedAt = none ∧ user.isBanned = false ∧
            nearbyRider (nearbyRiderRaw hit stored.value) user = rider := by
  have shows : ∀ raw, s.shown? viewerId .nearby partyId none raw = some rider ↔
      s.CanSee viewerId partyId raw ∧ ∃ user, s.users raw.userId = some user ∧
        user.deletedAt = none ∧ user.isBanned = false ∧ nearbyRider raw user = rider := by
    intro raw
    rw [State.shown?]
    simp [and_assoc]
  rw [State.shownHit?]
  cases Expiring.live s.now (s.userStatus hit.userId) with
  | none => simp
  | some stored =>
    rw [Option.map_some, Option.bind_some]
    by_cases own : (nearbyRiderRaw hit stored.value).userId = viewerId
    · rw [if_pos own]
      constructor
      · intro impossible
        cases impossible
      · rintro ⟨_, _, _, other, _⟩
        exact absurd own other
    · rw [if_neg own, shows]
      constructor
      · rintro ⟨sees, user, known, kept, allowed, same⟩
        exact ⟨stored, user, rfl, own, sees, known, kept, allowed, same⟩
      · rintro ⟨_, user, ⟨⟩, -, sees, known, kept, allowed, same⟩
        exact ⟨sees, user, known, kept, allowed, same⟩

theorem shownHit?_distance (shown : s.shownHit? viewerId partyId hit = some rider) :
    rider.distance = hit.distance := by
  obtain ⟨stored, user, -, -, -, -, -, -, rfl⟩ := shownHit?_eq_some_iff.mp shown
  rfl

theorem shownHit?_userId (shown : s.shownHit? viewerId partyId hit = some rider) :
    rider.userId = hit.userId ∧ rider.userId ≠ viewerId := by
  obtain ⟨stored, user, -, other, -, -, -, -, rfl⟩ := shownHit?_eq_some_iff.mp shown
  exact ⟨rfl, other⟩

def State.queriedShard (s : State) (query : NearbyQuery) (context : ViewerContext) : String :=
  userLocationShard s.deployment (query.city.or context.city)

/-- **The query returns what is shown of the hits**, and leaves the state as it is. -/
theorem exec_getNearbyRiders (near : query.filter = .nearby) (s : State) (viewerId : UserId)
    (context : ViewerContext) :
    (getNearbyRiders s.deployment viewerId query context).exec s =
      match s.geosearchKey (s.queriedShard query context) ⟨query.lat, query.lng⟩ query.radius
          query.limit with
      | .error error => (.error (.redis error), s)
      | .ok hits => (.ok (hits.filterMap (s.shownHit? viewerId context.partyId)), s) := by
  have queried := exec_queryNearbyRaw s ⟨query.lat, query.lng⟩ query.radius
    (query.city.or context.city) query.limit
  unfold getNearbyRiders
  rw [State.queriedShard]
  cases searched : s.geosearchKey (userLocationShard s.deployment (query.city.or context.city))
      ⟨query.lat, query.lng⟩ query.radius query.limit with
  | error error =>
    rw [searched] at queried
    exact Program.run_bind_of_error answer queried _
  | ok hits =>
    rw [searched] at queried
    have shown : ((s.readHits hits).filter fun rider => decide (rider.userId ≠ viewerId)).filterMap
        (s.shown? viewerId .nearby context.partyId none) =
          hits.filterMap (s.shownHit? viewerId context.partyId) := by
      rw [State.readHits, List.filterMap_filter, List.filterMap_filterMap]
      refine List.filterMap_congr fun hit _ => ?_
      rw [State.shownHit?]
      simp only [decide_eq_true_eq, ite_not]
    rw [Flow.exec, Program.run_bind_of_ok _ queried]
    dsimp only
    rw [← shown]
    by_cases empty : (s.readHits hits).isEmpty = true
    · rw [List.isEmpty_iff.mp empty]
      rfl
    · rw [if_neg empty, near]
      exact exec_visibleRiders s viewerId .nearby context none fun raw member =>
        of_decide_eq_true (List.mem_filter.mp member).2

/-! ## The nearest visible riders -/

def State.ranked (s : State) (query : NearbyQuery) (context : ViewerContext) : List GeoHit :=
  (s.within (s.positions (s.queriedShard query context)) ⟨query.lat, query.lng⟩
    query.radius).insertionSort fun first second => first.distance ≤ second.distance

def State.visibleWithin (s : State) (viewerId : UserId) (query : NearbyQuery)
    (context : ViewerContext) : List NearbyRider :=
  (s.within (s.positions (s.queriedShard query context)) ⟨query.lat, query.lng⟩
    query.radius).filterMap (s.shownHit? viewerId context.partyId)

/-- The request returns the nearest of the visible riders, as many as the limit allows, each of
them once, and not the viewer. -/
def State.AnswersNearest (s : State) (viewerId : UserId) (query : NearbyQuery)
    (context : ViewerContext) : Prop :=
  ∃ riders, (getNearbyRiders s.deployment viewerId query context).exec s = (.ok riders, s) ∧
    Nearest NearbyRider.distance (s.visibleWithin viewerId query context) query.limit riders ∧
      (riders.map NearbyRider.userId).Nodup ∧ ∀ rider ∈ riders, rider.userId ≠ viewerId

theorem ranked_pairwise (s : State) (query : NearbyQuery) (context : ViewerContext) :
    (s.ranked query context).Pairwise fun first second => first.distance ≤ second.distance :=
  List.pairwise_insertionSort _ _

theorem shown_distinct {hits : List GeoHit} (distinct : (hits.map GeoHit.userId).Nodup) :
    ((hits.filterMap (s.shownHit? viewerId partyId)).map NearbyRider.userId).Nodup := by
  induction hits with
  | nil => exact List.nodup_nil
  | cons hit hits ih =>
    rw [List.map_cons, List.nodup_cons] at distinct
    rw [List.filterMap_cons]
    cases shown : s.shownHit? viewerId partyId hit with
    | none => exact ih distinct.2
    | some rider =>
      rw [List.map_cons, List.nodup_cons]
      refine ⟨fun again => distinct.1 ?_, ih distinct.2⟩
      obtain ⟨other, listed, same⟩ := List.mem_map.mp again
      obtain ⟨hit', member, shown'⟩ := List.mem_filterMap.mp listed
      refine List.mem_map.mpr ⟨hit', member, ?_⟩
      rw [← (shownHit?_userId shown').1, same, (shownHit?_userId shown).1]

theorem ranked_distinct {shard : List (UserId × Coordinates)} (sorted : (shard.map Prod.fst).Nodup)
    (center : Coordinates) (radius : ℚ) : ((s.within shard center radius).map GeoHit.userId).Nodup := by
  have all : ((shard.map (s.hit center)).map GeoHit.userId) = shard.map Prod.fst := by
    rw [List.map_map]
    rfl
  refine List.Nodup.sublist (List.Sublist.map _ List.filter_sublist) ?_
  rw [all]
  exact sorted

/-- A search that the geo index does not take fails. -/
theorem geosearchKey_of_not_takes {shard : String} {center : Coordinates} (refuses : ¬ s.Takes shard center)
    (radius : ℚ) (count : Nat) : ∃ error, s.geosearchKey shard center radius count = .error error := by
  rw [State.geosearchKey]
  split
  · exact ⟨_, rfl⟩
  · rename_i other
    rw [if_neg fun indexable => refuses ⟨indexable, other⟩]
    exact ⟨_, rfl⟩

/-- **The request returns the nearest visible riders, as many as the limit allows, exactly when
the geo index takes the search, and either every one of the nearest entries up to the limit is
visible or no entry beyond them is.** The entries of the shard are those of a sorted set. -/
theorem getNearbyRiders_nearest_iff (near : query.filter = .nearby) (s : State) (viewerId : UserId)
    (context : ViewerContext)
    (sorted : ((s.positions (s.queriedShard query context)).map Prod.fst).Nodup) :
    s.AnswersNearest viewerId query context ↔
      s.Takes (s.queriedShard query context) ⟨query.lat, query.lng⟩ ∧
        Undisplaced (s.shownHit? viewerId context.partyId) query.limit (s.ranked query context) := by
  have ran := exec_getNearbyRiders near s viewerId context
  rw [State.AnswersNearest]
  by_cases takes : s.Takes (s.queriedShard query context) ⟨query.lat, query.lng⟩
  · rw [geosearchKey_of_takes takes] at ran
    have order : (s.ranked query context).Perm (s.within (s.positions (s.queriedShard query context))
        ⟨query.lat, query.lng⟩ query.radius) := List.perm_insertionSort _ _
    have names : ((s.ranked query context).map GeoHit.userId).Nodup :=
      (order.map _).nodup_iff.mpr (ranked_distinct sorted _ _)
    have shown : ∀ hits : List GeoHit, (hits.map GeoHit.userId).Nodup →
        ((hits.filterMap (s.shownHit? viewerId context.partyId)).map NearbyRider.userId).Nodup :=
      fun hits distinct => shown_distinct distinct
    have agrees : ∀ hit rider, s.shownHit? viewerId context.partyId hit = some rider →
        rider.distance = hit.distance := fun hit rider visible => shownHit?_distance visible
    have all : ((s.ranked query context).filterMap (s.shownHit? viewerId context.partyId)).Perm
        (s.visibleWithin viewerId query context) := order.filterMap _
    have limited := nearest_take_iff agrees (ranked_pairwise s query context) all
      (all.nodup_iff.mp (shown _ names).of_map) (.refl _)
      (pairwise_filterMap_take agrees (ranked_pairwise s query context) query.limit)
    constructor
    · rintro ⟨riders, returned, nearest, -⟩
      rw [ran] at returned
      cases returned
      exact ⟨takes, limited.mp nearest⟩
    · rintro ⟨-, undisplaced⟩
      refine ⟨_, ran, limited.mpr undisplaced,
        shown _ (names.sublist ((List.take_sublist _ _).map _)), fun rider returned => ?_⟩
      obtain ⟨hit, -, visible⟩ := List.mem_filterMap.mp returned
      exact (shownHit?_userId visible).2
  · obtain ⟨error, failed⟩ := geosearchKey_of_not_takes takes query.radius query.limit
    rw [failed] at ran
    rw [ran]
    constructor
    · rintro ⟨riders, returned, -⟩
      cases returned
    · rintro ⟨taken, -⟩
      exact absurd taken takes

/-! ## A small shard -/

/-- Two riders with public positions in one city. -/
def ridersInAnkara : State :=
  follow step smallInstallation
    [.updateLocation 1 (updateAt 0 0 (some "ankara")), .updateLocation 2 (updateAt 0 1 (some "ankara"))]

theorem getNearbyRiders_nearest_small :
    ridersInAnkara.AnswersNearest 1 ankaraQuery ⟨none, none⟩ ↔
      ridersInAnkara.Takes (ridersInAnkara.queriedShard ankaraQuery ⟨none, none⟩) ⟨0, 0⟩ ∧
        Undisplaced (ridersInAnkara.shownHit? 1 none) 50
          (ridersInAnkara.ranked ankaraQuery ⟨none, none⟩) :=
  getNearbyRiders_nearest_iff rfl ridersInAnkara 1 ⟨none, none⟩ (by decide +kernel)

/-- A request for one rider. -/
def onlyOne : NearbyQuery := { ankaraQuery with limit := 1 }

/-- The viewer is the nearest entry and takes the only place: the other rider, who is visible,
is not returned. -/
theorem viewer_displaces_rider :
    ((ridersInAnkara.positions "ankara").map Prod.fst).Nodup ∧
      (∀ userId ∈ (ridersInAnkara.positions "ankara").map Prod.fst,
        (Expiring.live ridersInAnkara.now (ridersInAnkara.userStatus userId)).isSome = true) ∧
      ¬ ridersInAnkara.AnswersNearest 1 onlyOne ⟨none, none⟩ := by
  refine ⟨by decide +kernel, by decide +kernel, ?_⟩
  rintro ⟨riders, ran, nearest, -⟩
  have answered : ((getNearbyRiders ridersInAnkara.deployment 1 onlyOne ⟨none, none⟩).exec
      ridersInAnkara).1.toOption.map List.length = some 0 := by decide +kernel
  have visible : (ridersInAnkara.visibleWithin 1 onlyOne ⟨none, none⟩).length = 1 := by
    decide +kernel
  rw [ran] at answered
  have full := nearest.full
  rw [visible, Option.some.inj answered] at full
  exact absurd full (by decide)

end Motogram
