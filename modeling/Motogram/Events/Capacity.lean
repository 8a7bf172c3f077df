import Motogram.Events.Runs

/-!
# The counter and the limit of an event

`participantsCount` is written with every change of the participants, and in a run of one
operation after the other the status that was read is the status that is written over. So the
counter is the number of going participants throughout (`counts_and_capacity`), and an `rsvp`
makes a participant going only where the limit of the event leaves a place, or gives the place
that it frees to one of the waitlist.
-/

set_option autoImplicit false

namespace Motogram.Events

open Foundation Table
open Social (RsvpStatus)

variable {s t : State} {eventId : EventId} {userId : UserId} {written : Option RsvpStatus} {change : Int}

/-! ## Counter and rows change together -/

/-- The counter of one event has been changed by as much as the number of its going participants. -/
structure Recounts (s t : State) (eventId : EventId) (change : Int) : Prop where
  tallies : Tallies s t eventId change
  going : ∀ other, (t.going other : Int) = s.going other + if other = eventId then change else 0

theorem Saved.recounts {existing : Option RsvpStatus} {effective : RsvpStatus}
    (saved : Saved s t eventId userId existing effective)
    (agrees : goingNumber existing = goingNumber (s.status eventId userId)) :
    Recounts s t eventId (countChange existing effective) := by
  refine ⟨saved.tallies, fun other => ?_⟩
  rw [saved.moves.going other, countChange_eq, agrees]

theorem goingNumber_eq_iff {first second : Option RsvpStatus} :
    goingNumber first = goingNumber second ↔ (first = some .going ↔ second = some .going) := by
  unfold goingNumber
  by_cases one : first = some .going
  · by_cases two : second = some .going <;> simp [one, two]
  · by_cases two : second = some .going <;> simp [one, two]

/-- A deleted participation is counted right in the same case, and no place is taken by it. -/
theorem Left.recounts {wasGoing limited : Bool} {promoted : List UserId}
    (left : Left s t eventId userId wasGoing limited promoted)
    (agrees : wasGoing = true ↔ s.status eventId userId = some .going) :
    ∃ change, Recounts s t eventId change ∧ change ≤ 0 := by
  cases left with
  | vacated moves tallies rest present nobody =>
    refine ⟨_, ⟨tallies, fun other => ?_⟩, ?_⟩
    · rw [moves.going other]
      by_cases was : s.status eventId userId = some .going
      · simp [goingNumber, was, agrees.mpr was]
      · have not : wasGoing = false := Bool.eq_false_of_not_eq_true (mt agrees.mp was)
        simp [goingNumber, was, not]
    · split <;> omega
  | replaced mid next freed bounded moves waits promotes tallies rest present =>
    refine ⟨0, ⟨tallies, fun other => ?_⟩, Int.le_refl 0⟩
    have was := agrees.mp freed
    rw [promotes.going other, moves.going other, waits, was]
    by_cases same : other = eventId
    · simp only [same, if_true, goingNumber, reduceCtorEq, if_false, Option.some.injEq]
      omega
    · simp [same]

/-! ## What every state satisfies -/

/-- The counter of every event is the number of its going participants. -/
def State.CountsAgree (s : State) : Prop :=
  ∀ eventId event, s.events.find? eventId = some event → event.participantsCount = s.going eventId

/-- The counters agree, a limit is positive, and what is new has no participants. -/
structure State.Counted (s : State) : Prop where
  counts : s.CountsAgree
  limits : ∀ eventId event, s.events.find? eventId = some event → event.maxParticipants ≠ some 0
  fresh : ∀ eventId, s.fresh ≤ eventId → s.events.find? eventId = none
  known : ∀ eventId userId, (s.status eventId userId).isSome → (s.events.find? eventId).isSome

/-- No event has been made. -/
def State.NoEvents (s : State) : Prop := s.events = .empty ∧ s.participants = .empty

theorem State.NoEvents.counted (empty : s.NoEvents) : s.Counted := by
  obtain ⟨events, participants⟩ := empty
  refine ⟨fun eventId event found => ?_, fun eventId event found => ?_, fun eventId _ => ?_,
    fun eventId userId present => ?_⟩
  · rw [events] at found
    cases found
  · rw [events] at found
    cases found
  · rw [events]
    rfl
  · rw [State.status, participants] at present
    cases present

theorem Event.limit_eq {event : Event} (limited : event.maxParticipants ≠ some 0) :
    event.limit = event.maxParticipants := by
  unfold Event.limit
  cases max : event.maxParticipants with
  | none => rfl
  | some bound =>
    have positive : bound ≠ 0 := fun zero => limited (by rw [max, zero])
    exact Option.filter_some_pos (decide_eq_true positive)

/-! ## Every operation keeps it -/

theorem Moves.known (moves : Moves s t eventId userId written) {other : EventId} {user : UserId}
    (present : (t.status other user).isSome) : (s.status other user).isSome ∨ other = eventId := by
  by_cases same : (other, user) = (eventId, userId)
  · exact .inr (Prod.mk.inj same).1
  · rw [moves.status_of_ne same] at present
    exact .inl present

theorem State.Counted.of_recounts (counted : s.Counted) (recounts : Recounts s t eventId change)
    (rest : SameRest s t) (there : (s.events.find? eventId).isSome)
    (known : ∀ other user, (t.status other user).isSome → (s.status other user).isSome ∨ other = eventId) :
    t.Counted := by
  have fresh : t.fresh = s.fresh := rest.fresh
  refine ⟨fun other event found => ?_, fun other event found => ?_, fun other new => ?_,
    fun other user present => ?_⟩
  · rw [recounts.tallies other] at found
    obtain ⟨before, there', rfl⟩ := Option.map_eq_some_iff.mp found
    have same := counted.counts other before there'
    rw [recounts.going other, ← same]
    split
    · rfl
    · rw [Int.add_zero]
  · rw [recounts.tallies other] at found
    obtain ⟨before, there', rfl⟩ := Option.map_eq_some_iff.mp found
    have limit := counted.limits other before there'
    split <;> exact limit
  · rw [recounts.tallies other, counted.fresh other (fresh ▸ new), Option.map_none]
  · rw [recounts.tallies.isSome]
    obtain before | rfl := known other user present
    · exact counted.known other user before
    · exact there

theorem State.Counted.saved {existing : Option RsvpStatus} {effective : RsvpStatus} (counted : s.Counted)
    (saved : Saved s t eventId userId existing effective)
    (agrees : goingNumber existing = goingNumber (s.status eventId userId)) : t.Counted := by
  have there : (s.events.find? eventId).isSome := by
    cases read : existing with
    | none => exact (saved.there read).2
    | some status =>
      have present := saved.present
      rw [read] at present
      exact counted.known eventId userId present.symm
  exact counted.of_recounts (saved.recounts agrees) saved.rest there fun _ _ => saved.moves.known

theorem State.Counted.left {wasGoing limited : Bool} {promoted : List UserId} (counted : s.Counted)
    (left : Left s t eventId userId wasGoing limited promoted)
    (agrees : wasGoing = true ↔ s.status eventId userId = some .going) : t.Counted := by
  obtain ⟨change, recounts, -⟩ := left.recounts agrees
  cases left with
  | vacated moves tallies rest present nobody =>
    exact counted.of_recounts recounts rest (counted.known _ _ present) fun _ _ => moves.known
  | replaced mid next freed bounded moves waits promotes tallies rest present =>
    refine counted.of_recounts recounts rest (counted.known _ _ present) fun other user here => ?_
    obtain before | same := promotes.known here
    · exact moves.known before
    · exact .inr same

theorem going_eq_zero (nobody : ∀ user, s.status eventId user = none) : s.going eventId = 0 := by
  rw [State.going, ← length_select, List.length_eq_zero_iff, List.eq_nil_iff_forall_not_mem]
  rintro ⟨⟨event, user⟩, participant⟩ listed
  obtain ⟨found, counts⟩ := mem_select.mp listed
  rw [Bool.and_eq_true, decide_eq_true_eq] at counts
  have absent := nobody user
  rw [State.status, ← counts.1, found] at absent
  cases absent

theorem created_moves (counted : s.Counted) (organizerId : UserId) (dto : CreateEventDto) :
    Moves s (s.created organizerId dto) s.fresh organizerId (some .going) ∧
      ∀ user, s.status s.fresh user = none := by
  have free : ∀ user, s.status s.fresh user = none := fun user => by
    rw [Option.eq_none_iff_forall_ne_some]
    intro status is
    have there := counted.known s.fresh user (Option.isSome_iff_exists.mpr ⟨status, is⟩)
    rw [counted.fresh s.fresh (Nat.le_refl _)] at there
    cases there
  have absent : s.participants.find? (s.fresh, organizerId) = none := by
    have status := free organizerId
    rwa [State.status, Option.map_eq_none_iff] at status
  refine ⟨⟨erase_insert absent _, ?_⟩, free⟩
  rw [State.status]
  dsimp only [State.created]
  rw [find?_insert_self absent]
  rfl

theorem find?_created (counted : s.Counted) (organizerId : UserId) (dto : CreateEventDto) (other : EventId) :
    (s.created organizerId dto).events.find? other =
      if other = s.fresh then some (newEvent s.now organizerId dto) else s.events.find? other := by
  have new : s.events.find? s.fresh = none := counted.fresh s.fresh (Nat.le_refl _)
  dsimp only [State.created]
  rw [find?_insert]
  by_cases same : other = s.fresh
  · rw [if_pos ⟨same, new⟩, if_pos same]
  · rw [if_neg fun both => same both.1, if_neg same]

theorem State.Counted.created (counted : s.Counted) (organizerId : UserId) (dto : CreateEventDto) :
    (s.created organizerId dto).Counted := by
  obtain ⟨moves, free⟩ := created_moves counted organizerId dto
  have events := find?_created counted organizerId dto
  have going := moves.going
  rw [free organizerId] at going
  refine ⟨fun other event found => ?_, fun other event found => ?_, fun other later => ?_,
    fun other user present => ?_⟩
  · rw [events other] at found
    rw [going other]
    by_cases same : other = s.fresh
    · rw [if_pos same] at found
      cases found
      rw [same, going_eq_zero free, if_pos rfl]
      rfl
    · rw [if_neg same] at found
      rw [if_neg same]
      exact counted.counts other event found
  · rw [events other] at found
    split at found
    · cases found
      intro zero
      exact Nat.lt_irrefl 0 (dto.maxParticipants_range 0 zero).1
    · exact counted.limits other event found
  · have bound : s.fresh + 1 ≤ other := later
    have apart : other ≠ s.fresh := by
      have : s.fresh < other := bound
      exact Nat.ne_of_gt this
    rw [events other, if_neg apart]
    exact counted.fresh other (Nat.le_of_succ_le bound)
  · rw [events other]
    split
    · rfl
    · rename_i apart
      obtain before | same := moves.known present
      · exact counted.known other user before
      · exact absurd same apart

theorem State.Counted.modify (counted : s.Counted) (eventId : EventId) (change : Event → Event)
    (counter : ∀ event, (change event).participantsCount = event.participantsCount)
    (limit : ∀ event, event.maxParticipants ≠ some 0 → (change event).maxParticipants ≠ some 0) :
    (s.withEvents (s.events.modify eventId change)).Counted := by
  have events : ∀ other event, (s.events.modify eventId change).find? other = some event →
      ∃ before, s.events.find? other = some before ∧ event.participantsCount = before.participantsCount ∧
        (before.maxParticipants ≠ some 0 → event.maxParticipants ≠ some 0) := by
    intro other event found
    rw [find?_modify] at found
    split at found
    · obtain ⟨before, there, rfl⟩ := Option.map_eq_some_iff.mp found
      exact ⟨before, there, counter before, limit before⟩
    · exact ⟨event, found, rfl, id⟩
  refine ⟨fun other event found => ?_, fun other event found => ?_, fun other new => ?_,
    fun other user present => ?_⟩
  · obtain ⟨before, found, same, -⟩ := events other event found
    exact same.trans (counted.counts other before found)
  · obtain ⟨before, found, -, keeps⟩ := events other event found
    exact keeps (counted.limits other before found)
  · have free := counted.fresh other new
    rw [State.withEvents_events, find?_modify, free]
    split <;> rfl
  · rw [State.withEvents_events, isSome_find?_modify]
    exact counted.known other user present

theorem patch_limit (dto : UpdateEventDto) (event : Event) (limited : event.maxParticipants ≠ some 0) :
    (event.patch dto).maxParticipants ≠ some 0 := by
  change dto.maxParticipants.or event.maxParticipants ≠ some 0
  cases max : dto.maxParticipants with
  | none => exact limited
  | some max' =>
    intro zero
    rw [Option.some_or, Option.some.injEq] at zero
    exact Nat.lt_irrefl 0 (zero ▸ (dto.maxParticipants_range max' max).1)

theorem State.Counted.step (counted : s.Counted) (op : EventOp) : (eventStep s op).Counted := by
  cases op with
  | createEvent organizerId dto =>
    rw [createEvent_step]
    split
    · exact counted.created organizerId dto
    · exact counted
  | updateEvent actorUserId eventId dto =>
    rw [updateEvent_step]
    split
    · exact counted.modify eventId _ (fun _ => rfl) (patch_limit dto)
    · exact counted
  | deleteEvent actorUserId eventId =>
    rw [deleteEvent_step]
    split
    · exact counted.modify eventId _ (fun _ => rfl) fun _ => id
    · exact counted
  | rsvp userId dto =>
    have effect := rsvp_effect s userId dto
    generalize eventStep s (.rsvp userId dto) = t at effect
    cases effect with
    | refused | stays | unknown => exact counted
    | left event promoted after found asks left =>
      exact counted.left left decide_eq_true_iff
    | saved event after found asks saved => exact counted.saved saved rfl
  | getDetail eventId viewerId => rwa [getDetail_step]
  | listParticipants eventId viewerId => rwa [listParticipants_step]
  | searchEvents query => rwa [searchEvents_step]
  | listMine userId => rwa [listMine_step]
  | listNearby dto => rwa [listNearby_step]
  | elapse milliseconds => exact ⟨counted.counts, counted.limits, counted.fresh, counted.known⟩

theorem State.Counted.follow (counted : s.Counted) (ops : List EventOp) : (follow eventStep s ops).Counted := by
  have keeps : ∀ (s : State) (op : EventOp), s.Counted → (eventStep s op).Counted :=
    fun _ op counted => counted.step op
  exact (throughout_of_invariant keeps counted ops).last

/-! ## The limit -/

/-- An `rsvp` takes no more places than there were or the limit gives. -/
def WithinCapacity (s : State) (op : EventOp) : Prop :=
  ∀ userId dto, op = .rsvp userId dto → ∀ eventId event max, s.events.find? eventId = some event →
    event.maxParticipants = some max → (eventStep s op).going eventId ≤ Nat.max (s.going eventId) max

/-- A status that the capacity gives takes a place only when there is one. -/
theorem chosenStatus_within (goingCount max : Nat) (existing : Option RsvpStatus) (status : RsvpStatus) :
    (goingCount : Int) + countChange existing (chosenStatus (some max) goingCount existing status) ≤
      Nat.max goingCount max := by
  rw [countChange_eq]
  unfold chosenStatus effectiveStatus goingNumber
  have least : goingCount ≤ Nat.max goingCount max := Nat.le_max_left _ _
  have most : max ≤ Nat.max goingCount max := Nat.le_max_right _ _
  by_cases asks : status = .going
  · by_cases was : existing = some .going
    · by_cases full : goingCount > max
      · simp only [asks, was, full, if_true, reduceCtorEq, Option.some.injEq, if_false]
        omega
      · simp only [asks, was, full, if_true, if_false]
        omega
    · by_cases full : goingCount + 1 > max
      · simp only [asks, was, full, if_true, reduceCtorEq, Option.some.injEq, if_false]
        omega
      · simp only [asks, was, full, if_true, if_false]
        omega
  · by_cases was : existing = some .going
    · simp only [asks, was, if_true, if_false, Option.some.injEq]
      omega
    · simp only [asks, was, if_false, Option.some.injEq]
      omega

theorem rsvp_within (counted : s.Counted) (op : EventOp) : WithinCapacity s op := by
  rintro userId dto rfl eventId event max found limited
  have least : s.going eventId ≤ Nat.max (s.going eventId) max := Nat.le_max_left _ _
  have effect := rsvp_effect s userId dto
  generalize eventStep s (.rsvp userId dto) = t at effect
  cases effect with
  | refused | stays | unknown => exact least
  | left own promoted after found' asks left =>
    obtain ⟨change, recounts, falls⟩ := left.recounts decide_eq_true_iff
    have going := recounts.going eventId
    split at going <;> omega
  | saved own after found' asks saved =>
    have going := (saved.recounts rfl).going eventId
    by_cases same : eventId = dto.eventId
    · subst same
      rw [(existing_eq_some.mp found').1, Option.some.injEq] at found
      rw [found, Event.limit_eq (by rw [← found]; exact counted.limits _ _ (existing_eq_some.mp found').1),
        limited] at going
      have within := chosenStatus_within (s.going dto.eventId) max (s.status dto.eventId userId) dto.status
      omega
    · rw [if_neg same] at going
      omega

/-- **The counters agree with the rows throughout, and no `rsvp` goes beyond the limit.** -/
theorem counts_and_capacity (empty : s.NoEvents) (ops : List EventOp) :
    Throughout eventStep State.CountsAgree s ops ∧ EachStep eventStep WithinCapacity s ops := by
  have start := empty.counted
  have keeps : ∀ (s : State) (op : EventOp), s.Counted → (eventStep s op).Counted :=
    fun _ op counted => counted.step op
  refine ⟨(throughout_of_invariant keeps start ops).mono fun _ counted => counted.counts, ?_⟩
  exact eachStep_of_invariant keeps (fun _ op counted => rsvp_within counted op) start ops

theorem counts_and_capacity_small :
    smallInstallation.NoEvents ∧
      let ops := [.createEvent 1 (smallEvent .isPublic none 1 (by decide)), .rsvp 2 ⟨1, .going⟩,
        .rsvp 1 ⟨1, .notGoing⟩]
      Throughout eventStep State.CountsAgree smallInstallation ops ∧
        EachStep eventStep WithinCapacity smallInstallation ops :=
  ⟨⟨rfl, rfl⟩, counts_and_capacity ⟨rfl, rfl⟩ _⟩

end Motogram.Events
