import Mathlib.Algebra.Order.Ring.Unbundled.Rat
import Motogram.Events.Runs
import Motogram.Foundation.Nearest

/-!
# Whether the nearest events are listed

`listNearby` asks the database for the events within the radius, cut at the limit; then for
those of them that start in the window; and sorts these by distance. An event outside the
window takes a place within the limit all the same. And when nothing is within the radius,
the list falls back to the events that start first, wherever they meet.

`listNearby_nearest_iff` says when the list holds the nearest events of the window, as many
as the limit allows.
-/

set_option autoImplicit false

namespace Motogram.Events

open Foundation Program Table State List

variable {s : State} {dto : NearbyEventsQueryDto}

/-! ## What is asked for -/

/-- The start of an event lies in the window of the request. -/
def NearbyEventsQueryDto.admits (dto : NearbyEventsQueryDto) (now : Time) (event : Event) : Bool :=
  event.startsBetween (dto.fromTime.getD now) dto.toTime

/-- The filter of `find_events_within`. -/
def State.isWithin (s : State) (dto : NearbyEventsQueryDto) (event : Event) : Bool :=
  event.deletedAt.isNone && decide (event.visibility = .isPublic) &&
    s.deployment.stDWithin (event.meetingPointLat, event.meetingPointLng) (dto.lat, dto.lng) dto.radius

def State.distanceTo (s : State) (dto : NearbyEventsQueryDto) (event : Event) : ℚ :=
  s.deployment.stDistance (event.meetingPointLat, event.meetingPointLng) (dto.lat, dto.lng)

/-- The public events within the radius that start in the window, with their distances. -/
def State.eventsNearby (s : State) (dto : NearbyEventsQueryDto) : List (EventSummary × Option ℚ) :=
  (s.events.select fun _ event => s.isWithin dto event && dto.admits s.now event).map fun entry =>
    (toSummary entry.1 entry.2, some (s.distanceTo dto entry.2))

/-- The list holds the nearest of these, as many as the limit allows, the nearest first. -/
def State.ListsNearest (s : State) (dto : NearbyEventsQueryDto) : Prop :=
  ∃ list, (listNearby dto).exec s = (.ok list, s) ∧
    Nearest distanceOf (s.eventsNearby dto) dto.limit list

/-- The events that the fallback chooses from. -/
def State.eventsAnywhere (s : State) (dto : NearbyEventsQueryDto) : List (EventId × Event) :=
  s.events.select fun _ event => event.deletedAt.isNone && decide (event.visibility = .isPublic) &&
    dto.admits s.now event

/-! ## The two steps of the list -/

/-- A row of the first step, as the second step shows it. -/
def State.shownRow? (s : State) (dto : NearbyEventsQueryDto) (row : EventId × ℚ) :
    Option (EventSummary × Option ℚ) :=
  ((s.events.find? row.1).filter (dto.admits s.now)).map fun event => (toSummary row.1 event, some row.2)

/-- The rows of the first step, before the limit. -/
abbrev State.ranked (s : State) (dto : NearbyEventsQueryDto) : List (EventId × ℚ) :=
  s.eventsWithin (dto.lat, dto.lng) dto.radius

theorem ranked_perm (s : State) (dto : NearbyEventsQueryDto) :
    (s.ranked dto).Perm ((s.events.select fun _ event => s.isWithin dto event).map fun entry =>
      (entry.1, s.distanceTo dto entry.2)) :=
  perm_insertionSort _ _

theorem ranked_pairwise (s : State) (dto : NearbyEventsQueryDto) :
    (s.ranked dto).Pairwise fun first second => first.2 ≤ second.2 := by
  exact pairwise_insertionSort _ _

variable {row : EventId × ℚ} {rows : List (EventId × ℚ)}

theorem mem_ranked (listed : row ∈ s.ranked dto) :
    ∃ event, s.events.find? row.1 = some event ∧ s.isWithin dto event = true ∧
      s.distanceTo dto event = row.2 := by
  obtain ⟨⟨eventId, event⟩, selected, rfl⟩ := mem_map.mp ((ranked_perm s dto).mem_iff.mp listed)
  obtain ⟨found, within⟩ := mem_select.mp selected
  exact ⟨event, found, within, rfl⟩

theorem ranked_distinct (s : State) (dto : NearbyEventsQueryDto) : ((s.ranked dto).map Prod.fst).Nodup := by
  refine ((ranked_perm s dto).map _).nodup_iff.mpr ?_
  rw [map_map]
  exact nodup_select _ _

/-- Everything within the radius that starts in the window is shown. -/
theorem shown_perm (s : State) (dto : NearbyEventsQueryDto) :
    ((s.ranked dto).filterMap (s.shownRow? dto)).Perm (s.eventsNearby dto) := by
  refine ((ranked_perm s dto).filterMap _).trans (.of_eq ?_)
  have both : (s.events.select fun _ event => s.isWithin dto event && dto.admits s.now event) =
      (s.events.select fun _ event => s.isWithin dto event).filter fun entry =>
        dto.admits s.now entry.2 := by
    rw [select, select, filter_filter]
    simp only [Bool.and_comm]
  rw [eventsNearby, filterMap_map, both, ← filterMap_eq_map, filterMap_filter]
  refine filterMap_congr fun entry selected => ?_
  have found := (mem_select.mp selected).1
  rw [Function.comp_apply, shownRow?, found, Option.filter_some]
  split <;> rfl

theorem shownRow?_eq_some {entry : EventSummary × Option ℚ} (shown : s.shownRow? dto row = some entry) :
    entry.1.id = row.1 ∧ distanceOf entry = row.2 := by
  obtain ⟨event, -, rfl⟩ := Option.map_eq_some_iff.mp shown
  exact ⟨rfl, rfl⟩

theorem shown_distinct (distinct : (rows.map Prod.fst).Nodup) : (rows.filterMap (s.shownRow? dto)).Nodup := by
  refine List.Nodup.filterMap (fun row row' entry shown shown' => ?_) (List.Nodup.of_map _ distinct)
  obtain ⟨same, near⟩ := shownRow?_eq_some shown
  obtain ⟨same', near'⟩ := shownRow?_eq_some shown'
  exact Prod.ext (same.symm.trans same') (near.symm.trans near')

theorem lookup_of_mem (distinct : (rows.map Prod.fst).Nodup) {row : EventId × ℚ} (listed : row ∈ rows) :
    rows.lookup row.1 = some row.2 := by
  induction rows with
  | nil => cases listed
  | cons first rows ih =>
    rw [map_cons, nodup_cons] at distinct
    rcases mem_cons.mp listed with rfl | later
    · rw [lookup_cons, beq_self_eq_true]
    · have apart : row.1 ≠ first.1 := by
        intro same
        exact distinct.1 (same ▸ mem_map_of_mem later)
      rw [lookup_cons, beq_false_of_ne apart]
      exact ih distinct.2 later

/-- The second step shows the rows of the first that start in the window. -/
theorem listed_perm (distinct : (rows.map Prod.fst).Nodup) (within : rows ⊆ s.ranked dto) :
    ((s.events.select fun eventId event => decide (eventId ∈ rows.map Prod.fst) &&
        event.deletedAt.isNone && dto.admits s.now event).map fun entry =>
          (toSummary entry.1 entry.2, rows.lookup entry.1)).Perm
      (rows.filterMap (s.shownRow? dto)) := by
  refine (perm_ext_iff_of_nodup ?_ (shown_distinct distinct)).mpr ?_
  · refine List.Nodup.of_map (fun entry => entry.1.id) ?_
    rw [map_map]
    exact nodup_select _ _
  · intro entry
    rw [mem_map, mem_filterMap]
    constructor
    · rintro ⟨⟨eventId, event⟩, selected, rfl⟩
      obtain ⟨found, passes⟩ := mem_select.mp selected
      rw [Bool.and_eq_true, Bool.and_eq_true, decide_eq_true_eq] at passes
      obtain ⟨row, listed, rfl⟩ := mem_map.mp passes.1.1
      refine ⟨row, listed, ?_⟩
      rw [shownRow?, found, Option.filter_some, if_pos passes.2, lookup_of_mem distinct listed]
      rfl
    · rintro ⟨row, listed, shown⟩
      obtain ⟨event, admitted, rfl⟩ := Option.map_eq_some_iff.mp shown
      obtain ⟨found, admits⟩ := Option.filter_eq_some_iff.mp admitted
      obtain ⟨event', found', inside, -⟩ := mem_ranked (within listed)
      cases found.symm.trans found'
      rw [isWithin, Bool.and_eq_true, Bool.and_eq_true] at inside
      refine ⟨(row.1, event), mem_select.mpr ⟨found, ?_⟩, ?_⟩
      · rw [Bool.and_eq_true, Bool.and_eq_true, decide_eq_true_eq]
        exact ⟨⟨mem_map_of_mem listed, inside.1.1⟩, admits⟩
      · rw [lookup_of_mem distinct listed]

/-! ## The list -/

theorem insertionSort_distanceOf (list : List (EventSummary × Option ℚ)) :
    (list.insertionSort fun first second => distanceOf first ≤ distanceOf second).Pairwise
      fun first second => distanceOf first ≤ distanceOf second := by
  exact pairwise_insertionSort _ _

theorem exec_listNearby_of_found (call : s.deployment.postgis = true)
    (found : (s.ranked dto).take dto.limit ≠ []) :
    ∃ list, (listNearby dto).exec s = (.ok list, s) ∧
      list.Perm (((s.ranked dto).take dto.limit).filterMap (s.shownRow? dto)) ∧
        list.Pairwise fun first second => distanceOf first ≤ distanceOf second := by
  have queried : answer (.queryEventsWithin dto.lat dto.lng dto.radius dto.limit) s =
      (some ((s.ranked dto).take dto.limit), s) := by
    rw [answer, if_pos call]
  have part : ((s.ranked dto).take dto.limit).Sublist (s.ranked dto) := take_sublist _ _
  have listed := listed_perm ((ranked_distinct s dto).sublist (part.map _)) part.subset
  unfold listNearby Flow.exec
  rw [run_sends_of queried]
  simp only [run_sends, Option.getD_some]
  rw [if_neg found]
  exact ⟨_, rfl, (perm_insertionSort _ _).trans listed, insertionSort_distanceOf _⟩

theorem exec_listNearby_of_nothing (call : s.deployment.postgis = true)
    (nothing : (s.ranked dto).take dto.limit = []) :
    (listNearby dto).exec s = (.ok ((((s.eventsAnywhere dto).insertionSort fun first second =>
      first.2.startTime ≤ second.2.startTime).take dto.limit).map fun entry =>
        (toSummary entry.1 entry.2, none)), s) := by
  have queried : answer (.queryEventsWithin dto.lat dto.lng dto.radius dto.limit) s =
      (some [], s) := by
    rw [answer, if_pos call]
    exact congrArg (fun rows => (some rows, s)) nothing
  unfold listNearby Flow.exec
  rw [run_sends_of queried]
  rfl

/-- **When the function of the database answers, the list holds the nearest events of the
window, as many as the limit allows, exactly when either all of the nearest events within the
radius up to the limit start in the window or none beyond them does; and, with no event within
the radius, when no public event at all starts in the window.** -/
theorem listNearby_nearest_iff (s : State) (call : s.deployment.postgis = true)
    (dto : NearbyEventsQueryDto) :
    s.ListsNearest dto ↔
      Undisplaced (s.shownRow? dto) dto.limit (s.ranked dto) ∧
        (s.ranked dto = [] → dto.limit = 0 ∨ s.eventsAnywhere dto = []) := by
  have all := shown_perm s dto
  have distinct : (s.eventsNearby dto).Nodup :=
    all.nodup_iff.mp (shown_distinct (ranked_distinct s dto))
  by_cases found : (s.ranked dto).take dto.limit = []
  · have ran := exec_listNearby_of_nothing call found
    by_cases limitless : dto.limit = 0
    · have unlimited : Undisplaced (s.shownRow? dto) dto.limit (s.ranked dto) := by
        left
        rw [limitless]
        simp
      rw [limitless, List.take_zero] at ran
      exact ⟨fun _ => ⟨unlimited, fun _ => .inl limitless⟩,
        fun _ => ⟨[], ran, nearest_nil_iff.mpr (.inl limitless)⟩⟩
    · have nowhere : s.ranked dto = [] := (List.take_eq_nil_iff.mp found).resolve_left limitless
      have nothing : s.eventsNearby dto = [] := by
        rw [nowhere] at all
        exact all.nil_eq.symm
      have untouched : Undisplaced (s.shownRow? dto) dto.limit (s.ranked dto) := by
        left
        rw [nowhere]
        simp
      constructor
      · rintro ⟨list, returned, nearest⟩
        rw [ran] at returned
        cases returned
        have full := nearest.full
        rw [nothing, List.length_nil, Nat.min_zero, List.length_eq_zero_iff, List.map_eq_nil_iff,
          List.take_eq_nil_iff] at full
        have none := full.resolve_left limitless
        rw [← List.length_eq_zero_iff, List.length_insertionSort, List.length_eq_zero_iff] at none
        exact ⟨untouched, fun _ => .inr none⟩
      · rintro ⟨-, fallback⟩
        rw [(fallback nowhere).resolve_left limitless, List.insertionSort_nil, List.take_nil] at ran
        exact ⟨[], ran, nearest_nil_iff.mpr (.inr nothing)⟩
  · obtain ⟨list, ran, same, ordered⟩ := exec_listNearby_of_found call found
    have limited := nearest_take_iff (fun row entry shown => (shownRow?_eq_some shown).2)
      (ranked_pairwise s dto) all distinct same.symm ordered
    have some : s.ranked dto ≠ [] := by
      intro nothing
      rw [nothing, List.take_nil] at found
      exact found rfl
    constructor
    · rintro ⟨list', returned, nearest⟩
      rw [ran] at returned
      cases returned
      exact ⟨limited.mp nearest, fun nothing => absurd nothing some⟩
    · rintro ⟨undisplaced, -⟩
      exact ⟨list, ran, limited.mpr undisplaced⟩

/-! ## Two events -/

/-- A public event that meets nearby and starts soon, and one that meets farther off and starts
later. -/
def twoEvents : State :=
  follow eventStep smallInstallation
    [.createEvent 1 (smallEvent .isPublic none 6 (by decide)),
      .createEvent 1 { smallEvent .isPublic none 6 (by decide) with
        meetingPointLat := 42, startTime := 300, endTime := none }]

/-- A request for one event from the given time on. -/
def oneEventFrom (fromTime : Time) : NearbyEventsQueryDto := ⟨41, 29, 5, 1, some fromTime, none⟩

theorem listNearby_nearest_small :
    twoEvents.ListsNearest (oneEventFrom 50) ↔
      Undisplaced (twoEvents.shownRow? (oneEventFrom 50)) 1 (twoEvents.ranked (oneEventFrom 50)) ∧
        (twoEvents.ranked (oneEventFrom 50) = [] →
          1 = 0 ∨ twoEvents.eventsAnywhere (oneEventFrom 50) = []) :=
  listNearby_nearest_iff twoEvents (by decide +kernel) (oneEventFrom 50)

/-- The event that starts before the window takes the only place, and the event of the window is
not listed; and far from both of them, one of them is listed all the same. -/
theorem listNearby_loses_event :
    twoEvents.deployment.postgis = true ∧ ¬ twoEvents.ListsNearest (oneEventFrom 200) ∧
      ¬ twoEvents.ListsNearest { oneEventFrom 50 with lat := 0 } := by
  refine ⟨by decide +kernel, ?_, ?_⟩
  · rintro ⟨list, ran, nearest⟩
    have listed : ((listNearby (oneEventFrom 200)).exec twoEvents).1.toOption.map List.length =
        some 0 := by decide +kernel
    have there : (twoEvents.eventsNearby (oneEventFrom 200)).length = 1 := by decide +kernel
    rw [ran] at listed
    have full := nearest.full
    rw [there, Option.some.inj listed] at full
    exact absurd full (by decide)
  · rintro ⟨list, ran, nearest⟩
    have listed : ((listNearby { oneEventFrom 50 with lat := 0 }).exec twoEvents).1.toOption.map
        List.length = some 1 := by decide +kernel
    have nowhere : (twoEvents.eventsNearby { oneEventFrom 50 with lat := 0 }).length = 0 := by
      decide +kernel
    rw [ran] at listed
    have full := nearest.full
    rw [nowhere, Option.some.inj listed] at full
    exact absurd full (by decide)

end Motogram.Events
