import Motogram.Events.Capacity

/-!
# Nobody waits beside a free place

A place of an event becomes free in three ways: the participant leaves, or becomes interested, or
was never counted. A NOT_GOING gives the place to the first of the waitlist in its own
transaction. An INTERESTED of a going participant takes the counter down and promotes nobody, so
somebody who waits goes on waiting beside the free place.

From the creation of an event on, the runs of `rsvp` that never leave a place free while somebody
waits are the runs in which nobody who is going becomes interested while somebody waits
(`no_free_place_iff`).
-/

set_option autoImplicit false

namespace Motogram.Events

open Foundation
open Social (RsvpStatus)

variable {s t : State} {eventId other : EventId} {userId : UserId} {max : Nat}

/-! ## Calls of `rsvp` -/

/-- An `rsvp` with a status a rider chooses, or time passing. -/
def EventOp.Asks : EventOp → Prop
  | .rsvp _ dto => dto.status ≠ .waitlist
  | .elapse _ => True
  | _ => False

abbrev RsvpOp := {op : EventOp // op.Asks}

def rsvpStep (s : State) (op : RsvpOp) : State := eventStep s op.val

/-- When somebody waits, every place is taken. -/
def NoFreePlace (eventId : EventId) (max : Nat) (s : State) : Prop :=
  ∀ userId, s.status eventId userId = some .waitlist → s.going eventId = max

/-- A going participant becomes interested while somebody waits. -/
def LeavesPlace (eventId : EventId) (s : State) (op : EventOp) : Prop :=
  ∃ userId, op = .rsvp userId ⟨eventId, .interested⟩ ∧ s.status eventId userId = some .going ∧
    ∃ waiting, s.status eventId waiting = some .waitlist

/-! ## The invariant -/

/-- An event with a limit that is kept, and no free place while somebody waits. -/
structure Seated (eventId : EventId) (max : Nat) (s : State) : Prop where
  event : ∃ event, s.existing eventId = some event ∧ event.limit = some max
  within : s.going eventId ≤ max
  full : NoFreePlace eventId max s

theorem Tallies.existing {change : Int} (tallies : Tallies s t eventId change) (other : EventId) :
    t.existing other =
      (s.existing other).map fun event => if other = eventId then event.count change else event := by
  rw [State.existing, tallies other, Option.filter_map]
  congr 2
  funext event
  split <;> rfl

theorem Tallies.limit {change : Int} (tallies : Tallies s t eventId change)
    (event : ∃ event, s.existing other = some event ∧ event.limit = some max) :
    ∃ event, t.existing other = some event ∧ event.limit = some max := by
  obtain ⟨event, found, limit⟩ := event
  refine ⟨_, (tallies.existing other).trans (congrArg _ found), ?_⟩
  split <;> exact limit

structure SameParticipants (s t : State) (eventId : EventId) : Prop where
  status : ∀ userId, t.status eventId userId = s.status eventId userId
  going : t.going eventId = s.going eventId

theorem SameParticipants.trans {u : State} (first : SameParticipants s t eventId)
    (second : SameParticipants t u eventId) : SameParticipants s u eventId :=
  ⟨fun user => (second.status user).trans (first.status user), second.going.trans first.going⟩

theorem Moves.elsewhere {written : Option RsvpStatus} (moves : Moves s t eventId userId written)
    (apart : other ≠ eventId) : SameParticipants s t other := by
  refine ⟨fun user => moves.status_of_ne fun same => apart (Prod.mk.inj same).1, ?_⟩
  have number := moves.going other
  rw [if_neg apart] at number
  exact Int.ofNat.inj number

theorem Seated.of_same (seated : Seated eventId max s) (same : SameParticipants s t eventId)
    (event : ∃ event, t.existing eventId = some event ∧ event.limit = some max) : Seated eventId max t := by
  refine ⟨event, same.going.trans_le seated.within, fun user waits => ?_⟩
  rw [same.status user] at waits
  exact same.going.trans (seated.full user waits)

/-! ## Leaving -/

theorem Seated.left {limited : Bool} {promoted : List UserId} (seated : Seated eventId max s)
    (left : Left s t other userId (decide (s.status other userId = some .going)) limited promoted)
    (bounded : other = eventId → limited = true) : Seated eventId max t := by
  cases left with
  | vacated moves tallies rest present nobody =>
    by_cases same : eventId = other
    · cases same
      have going := moves.going eventId
      rw [if_pos rfl] at going
      refine ⟨tallies.limit seated.event, ?_, fun user waits => ?_⟩
      · have within := seated.within
        unfold goingNumber at going
        rw [if_neg (by nofun)] at going
        split at going <;> omega
      · by_cases was : s.status eventId userId = some .going
        · exact absurd waits (nobody (decide_eq_true was) (bounded rfl) user)
        · have apart : (eventId, user) ≠ (eventId, userId) := by
            intro equal
            rw [(Prod.mk.inj equal).2, moves.own] at waits
            cases waits
          rw [moves.status_of_ne apart] at waits
          have full := seated.full user waits
          simp only [goingNumber, was, if_false, reduceCtorEq] at going
          omega
    · exact seated.of_same (moves.elsewhere same) (tallies.limit seated.event)
  | replaced mid next freed _ moves waits promotes tallies rest present =>
    by_cases same : eventId = other
    · cases same
      have was := of_decide_eq_true freed
      have first := moves.going eventId
      have second := promotes.going eventId
      rw [was] at first
      rw [waits] at second
      simp only [goingNumber, if_true, reduceCtorEq, if_false, Option.some.injEq] at first second
      have going : t.going eventId = s.going eventId := by omega
      refine ⟨tallies.limit seated.event, going.trans_le seated.within, fun user still => ?_⟩
      rw [going]
      by_cases promoted : user = next
      · rw [promoted, promotes.own] at still
        cases still
      · rw [promotes.status_of_ne fun equal => promoted (Prod.mk.inj equal).2] at still
        by_cases gone : user = userId
        · rw [gone, moves.own] at still
          cases still
        · rw [moves.status_of_ne fun equal => gone (Prod.mk.inj equal).2] at still
          exact seated.full user still
    · exact seated.of_same ((moves.elsewhere same).trans (promotes.elsewhere same)) (tallies.limit seated.event)

/-! ## Saving -/

theorem Saved.waits {existing : Option RsvpStatus} {effective : RsvpStatus}
    (saved : Saved s t eventId userId existing effective) {user : UserId}
    (waits : t.status eventId user = some .waitlist) :
    s.status eventId user = some .waitlist ∨ effective = .waitlist := by
  by_cases same : user = userId
  · rw [same, saved.moves.own] at waits
    exact .inr (Option.some.inj waits)
  · rw [saved.moves.status_of_ne fun equal => same (Prod.mk.inj equal).2] at waits
    exact .inl waits

/-- What the capacity makes of a request: a place, the waitlist, or what was asked for. -/
theorem chosenStatus_cases {goingCount : Nat} (within : goingCount ≤ max) (existing : Option RsvpStatus)
    (status : RsvpStatus) :
    (chosenStatus (some max) goingCount existing status = .going ∧ status = .going ∧
        (existing = some .going ∨ goingCount < max)) ∨
      (chosenStatus (some max) goingCount existing status = .waitlist ∧ existing ≠ some .going ∧
        goingCount = max) ∨
      (chosenStatus (some max) goingCount existing status = status ∧ status ≠ .going) := by
  unfold chosenStatus effectiveStatus
  by_cases asks : status = .going
  · by_cases was : existing = some .going
    · have room : ¬ goingCount > max := Nat.not_lt.mpr within
      simp only [asks, was, room, if_true, if_false]
      exact .inl ⟨trivial, trivial, .inl trivial⟩
    · by_cases full : goingCount + 1 > max
      · simp only [asks, was, full, if_true, if_false]
        exact .inr (.inl ⟨trivial, was, by omega⟩)
      · simp only [asks, was, full, if_true, if_false]
        exact .inl ⟨trivial, trivial, .inr (by omega)⟩
  · simp only [asks, if_false]
    exact .inr (.inr ⟨trivial, asks⟩)

@[simp] theorem goingNumber_going : goingNumber (some .going) = 1 := rfl

@[simp] theorem goingNumber_none : goingNumber none = 0 := rfl

@[simp] theorem goingNumber_waitlist : goingNumber (some .waitlist) = 0 := rfl

@[simp] theorem goingNumber_interested : goingNumber (some .interested) = 0 := rfl

theorem goingNumber_of_ne {status : Option RsvpStatus} (apart : status ≠ some .going) : goingNumber status = 0 :=
  if_neg apart

theorem goingNumber_nonneg (status : Option RsvpStatus) : 0 ≤ goingNumber status := by
  unfold goingNumber
  split <;> omega

theorem Seated.saved (seated : Seated eventId max s) {status : RsvpStatus} (asks : status ≠ .waitlist)
    (saved : Saved s t eventId userId (s.status eventId userId)
      (chosenStatus (some max) (s.going eventId) (s.status eventId userId) status))
    (keeps : s.status eventId userId = some .going → status ≠ .going →
      ∀ user, s.status eventId user ≠ some .waitlist) :
    Seated eventId max t := by
  have within := seated.within
  have going := (saved.recounts rfl).going eventId
  have limit := saved.tallies.limit seated.event
  rw [if_pos rfl, countChange_eq] at going
  obtain ⟨chosen, -, room⟩ | ⟨chosen, apart, full⟩ | ⟨chosen, other⟩ :=
    chosenStatus_cases within (s.status eventId userId) status
  · -- A place: the participant has it already, or one is free and so nobody waits.
    rw [chosen] at saved going
    rw [goingNumber_going] at going
    obtain was | free := room
    · rw [was, goingNumber_going] at going
      refine ⟨limit, by omega, fun user waits => ?_⟩
      have before := seated.full user ((saved.waits waits).resolve_right nofun)
      omega
    · have least := goingNumber_nonneg (s.status eventId userId)
      refine ⟨limit, by omega, fun user waits => ?_⟩
      have before := seated.full user ((saved.waits waits).resolve_right nofun)
      omega
  · -- The waitlist: every place is taken.
    rw [chosen, goingNumber_of_ne apart, goingNumber_waitlist] at going
    exact ⟨limit, by omega, fun _ _ => by omega⟩
  · -- Anything else frees the place of a participant who was going.
    rw [chosen] at saved going
    rw [goingNumber_of_ne fun same => other (Option.some.inj same)] at going
    have least := goingNumber_nonneg (s.status eventId userId)
    refine ⟨limit, by omega, fun user waits => ?_⟩
    have waited := (saved.waits waits).resolve_right asks
    have before := seated.full user waited
    by_cases was : s.status eventId userId = some .going
    · exact absurd waited (keeps was other user)
    · rw [goingNumber_of_ne was] at going
      omega

/-! ## Every call -/

theorem Seated.step (seated : Seated eventId max s) (op : RsvpOp) (met : ¬ LeavesPlace eventId s op.val) :
    Seated eventId max (rsvpStep s op) := by
  obtain ⟨op, asks⟩ := op
  cases op with
  | rsvp userId dto =>
    change dto.status ≠ .waitlist at asks
    have effect := rsvp_effect s userId dto
    change Seated eventId max (eventStep s (.rsvp userId dto))
    generalize eventStep s (.rsvp userId dto) = t at effect
    cases effect with
    | refused | stays | unknown => exact seated
    | left event promoted after found asks' left =>
      refine seated.left left fun same => ?_
      obtain ⟨own, here, limit⟩ := seated.event
      rw [← same, found] at here
      cases here
      rw [limit]
      rfl
    | saved event after found asks' saved =>
      by_cases same : eventId = dto.eventId
      · cases same
        obtain ⟨own, here, limit⟩ := seated.event
        rw [found] at here
        cases here
        rw [limit] at saved
        refine seated.saved asks saved fun was apart user waits => met ⟨userId, ?_, was, user, waits⟩
        -- The only other status a request can have here.
        have interested : dto.status = .interested := by
          cases status : dto.status with
          | going => exact absurd status apart
          | interested => rfl
          | notGoing => exact absurd status asks'
          | waitlist => exact absurd status asks
        rw [← interested]
      · exact seated.of_same (saved.moves.elsewhere same) (saved.tallies.limit seated.event)
  | elapse milliseconds => exact ⟨seated.event, seated.within, seated.full⟩
  | _ => exact asks.elim

theorem Seated.breaks (seated : Seated eventId max s) (op : RsvpOp) (leaves : LeavesPlace eventId s op.val) :
    ¬ NoFreePlace eventId max (rsvpStep s op) := by
  obtain ⟨op, asks⟩ := op
  obtain ⟨userId, rfl, was, waiting, waits⟩ := leaves
  have full := seated.full waiting waits
  have effect := rsvp_effect s userId ⟨eventId, .interested⟩
  change ¬ NoFreePlace eventId max (eventStep s (.rsvp userId ⟨eventId, .interested⟩))
  generalize eventStep s (.rsvp userId ⟨eventId, .interested⟩) = t at effect
  intro holds
  cases effect with
  | refused missing =>
    obtain ⟨event, found, -⟩ := seated.event
    rw [missing] at found
    cases found
  | stays asks' | left _ _ _ _ asks' => cases asks'
  | unknown asks' absent nobody =>
    rw [absent] at was
    cases was
  | saved event after found asks' saved =>
    have going := (saved.recounts rfl).going eventId
    have apart : waiting ≠ userId := by
      rintro rfl
      rw [was] at waits
      cases waits
    have still : t.status eventId waiting = some .waitlist :=
      (saved.moves.status_of_ne fun equal => apart (Prod.mk.inj equal).2).trans waits
    have after := holds waiting still
    have chosen : chosenStatus event.limit (s.going eventId) (s.status eventId userId) .interested =
        .interested := by
      cases event.limit <;> rfl
    rw [if_pos rfl, countChange_eq, chosen, was, goingNumber_going, goingNumber_interested] at going
    omega

/-! ## From the creation on -/

theorem created_seated (counted : s.Counted) (organizerId : UserId) {dto : CreateEventDto}
    (limited : dto.maxParticipants = some max) : Seated s.fresh max (s.created organizerId dto) := by
  obtain ⟨moves, free⟩ := created_moves counted organizerId dto
  have going := moves.going s.fresh
  rw [going_eq_zero free, if_pos rfl, free organizerId] at going
  have one : (s.created organizerId dto).going s.fresh = 1 := Int.ofNat.inj going
  have positive : 0 < max := (dto.maxParticipants_range max limited).1
  refine ⟨⟨newEvent s.now organizerId dto, ?_, ?_⟩, ?_, fun user waits => ?_⟩
  · refine existing_eq_some.mpr ⟨?_, rfl⟩
    exact Table.find?_insert_self (counted.fresh s.fresh (Nat.le_refl _)) _
  · have same : (newEvent s.now organizerId dto).maxParticipants = some max := limited
    have limits : (newEvent s.now organizerId dto).maxParticipants ≠ some 0 := by
      rw [same]
      exact fun zero => Nat.ne_of_gt positive (Option.some.inj zero)
    rw [Event.limit_eq limits, same]
  · rw [one]
    exact positive
  · by_cases same : user = organizerId
    · rw [same, moves.own] at waits
      cases waits
    · rw [moves.status_of_ne fun equal => same (Prod.mk.inj equal).2, free user] at waits
      cases waits

/-- **From the creation of an event on, no place is left free while somebody waits exactly when nobody
who is going becomes interested while somebody waits.** -/
theorem no_free_place_iff (empty : s.NoEvents) (earlier : List EventOp) {organizerId : UserId}
    {dto : CreateEventDto} (limited : dto.maxParticipants = some max)
    (creates : (follow eventStep s earlier).creates organizerId dto) (calls : List RsvpOp) :
    Throughout rsvpStep (NoFreePlace (follow eventStep s earlier).fresh max)
        (eventStep (follow eventStep s earlier) (.createEvent organizerId dto)) calls ↔
      EachStep rsvpStep (fun t op => ¬ LeavesPlace (follow eventStep s earlier).fresh t op.val)
        (eventStep (follow eventStep s earlier) (.createEvent organizerId dto)) calls := by
  have counted := empty.counted.follow earlier
  rw [createEvent_step, if_pos creates]
  have start := created_seated counted organizerId limited
  refine throughout_iff_eachStep ?_ ?_ ?_ start calls
  · exact fun t seated => seated.full
  · exact fun t op seated met => seated.step op met
  · exact fun t op seated unmet => seated.breaks op (not_not.mp unmet)

theorem no_free_place_small :
    let start := eventStep smallInstallation (.createEvent 1 (smallEvent .isPublic none 1 (by decide)))
    let calls : List RsvpOp := [⟨.rsvp 2 ⟨1, .going⟩, by nofun⟩, ⟨.rsvp 1 ⟨1, .notGoing⟩, by nofun⟩]
    Throughout rsvpStep (NoFreePlace 1 1) start calls ↔
      EachStep rsvpStep (fun t op => ¬ LeavesPlace 1 t op.val) start calls := by
  have limited : (smallEvent .isPublic none 1 (by decide)).maxParticipants = some 1 := rfl
  have creates : (follow eventStep smallInstallation []).creates 1 (smallEvent .isPublic none 1 (by decide)) := by
    decide +kernel
  exact no_free_place_iff ⟨rfl, rfl⟩ [] limited creates _

/-- Rider 2 waits for the place of rider 1, who becomes interested. -/
theorem interested_leaves_place :
    ¬ Throughout rsvpStep (NoFreePlace 1 1)
      (eventStep smallInstallation (.createEvent 1 (smallEvent .isPublic none 1 (by decide))))
      [⟨.rsvp 2 ⟨1, .going⟩, by nofun⟩, ⟨.rsvp 1 ⟨1, .interested⟩, by nofun⟩] := by
  intro holds
  have full := holds.last 2 (by decide +kernel)
  revert full
  decide +kernel

end Motogram.Events
