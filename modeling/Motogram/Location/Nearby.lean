import Motogram.Location.Positions

/-!
# What the nearby query returns

`queryNearbyRaw` searches one shard and reads the status of every hit. What it returns
are entries of that shard within the radius whose users have a status; the limit cuts off
the farthest entries, whether or not they have one.
-/

set_option autoImplicit false

namespace Motogram

open Foundation Program

variable {s : State} {entries : List (UserId × Coordinates)} {center : Coordinates} {radius : ℚ}
  {count : Nat}

/-! ## The search -/

/-- The entry of a shard as a hit of a search. -/
def State.hit (s : State) (center : Coordinates) (entry : UserId × Coordinates) : GeoHit :=
  ⟨entry.1, s.deployment.distance center entry.2, entry.2⟩

def State.within (s : State) (entries : List (UserId × Coordinates)) (center : Coordinates)
    (radius : ℚ) : List GeoHit :=
  (entries.map (s.hit center)).filter fun hit => decide (hit.distance ≤ radius)

theorem geosearch_eq :
    s.geosearch entries center radius count =
      ((s.within entries center radius).insertionSort
        fun first second => first.distance ≤ second.distance).take count := rfl

theorem mem_within {hit : GeoHit} :
    hit ∈ s.within entries center radius ↔
      (∃ entry ∈ entries, s.hit center entry = hit) ∧ hit.distance ≤ radius := by
  rw [State.within, List.mem_filter, List.mem_map, decide_eq_true_eq]

theorem within_of_mem_geosearch {hit : GeoHit} (found : hit ∈ s.geosearch entries center radius count) :
    hit ∈ s.within entries center radius :=
  (List.perm_insertionSort _ _).mem_iff.mp (List.mem_of_mem_take found)

/-- A limit that is not reached cuts nothing off. -/
theorem mem_geosearch_of_length_le {hit : GeoHit} (within : hit ∈ s.within entries center radius)
    (few : (s.within entries center radius).length ≤ count) : hit ∈ s.geosearch entries center radius count := by
  rw [geosearch_eq, List.take_of_length_le (by rwa [List.length_insertionSort])]
  exact (List.perm_insertionSort _ _).mem_iff.mpr within

instance : Std.Total fun first second : GeoHit => first.distance ≤ second.distance :=
  ⟨fun first second => le_total first.distance second.distance⟩

instance : IsTrans GeoHit fun first second => first.distance ≤ second.distance :=
  ⟨fun _ _ _ => le_trans⟩

def State.readHits (s : State) (hits : List GeoHit) : List NearbyRiderRaw :=
  hits.filterMap fun hit =>
    (Expiring.live s.now (s.userStatus hit.userId)).map fun stored => nearbyRiderRaw hit stored.value

theorem exec_readStatuses (s : State) (hits : List GeoHit) :
    (readStatuses hits).exec s = (.ok (s.readHits hits), s) := by
  induction hits with
  | nil => rfl
  | cons hit hits ih =>
    unfold readStatuses Flow.exec
    simp only [run_sends, answer]
    rw [run_bind_of_ok _ ih]
    simp only [State.readHits, List.filterMap_cons]
    cases Expiring.live s.now (s.userStatus hit.userId) with
    | none | some => rfl

theorem exec_queryNearbyRaw (s : State) (center : Coordinates) (radius : ℚ) (city : Option String)
    (limit : Nat) :
    (queryNearbyRaw s.deployment center radius city limit).exec s =
      match s.geosearchKey (userLocationShard s.deployment city) center radius limit with
      | .error error => (.error (.redis error), s)
      | .ok hits => (.ok (s.readHits hits), s) := by
  unfold queryNearbyRaw Flow.exec
  simp only [run_sends, answer]
  cases s.geosearchKey (userLocationShard s.deployment city) center radius limit with
  | error error => rfl
  | ok hits => exact exec_readStatuses s hits

theorem geosearchKey_eq_ok {shard : String} {hits : List GeoHit}
    (ok : s.geosearchKey shard center radius count = .ok hits) :
    hits = s.geosearch (s.positions shard) center radius count := by
  rw [State.geosearchKey] at ok
  split at ok
  · cases ok
  · split at ok
    · exact (Except.ok.inj ok).symm
    · cases ok

theorem geosearchKey_of_takes {shard : String} (takes : s.Takes shard center) :
    s.geosearchKey shard center radius count = .ok (s.geosearch (s.positions shard) center radius count) := by
  rw [State.geosearchKey]
  split
  · rename_i names here
    exact absurd here (takes.2 names)
  · rw [if_pos takes.1]
    rfl

theorem mem_readHits {hits : List GeoHit} {rider : NearbyRiderRaw} :
    rider ∈ s.readHits hits ↔ ∃ hit ∈ hits, ∃ stored,
      Expiring.live s.now (s.userStatus hit.userId) = some stored ∧
        nearbyRiderRaw hit stored.value = rider := by
  simp only [State.readHits, List.mem_filterMap, Option.map_eq_some_iff]

end Motogram
