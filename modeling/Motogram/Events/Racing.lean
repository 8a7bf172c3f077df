import Motogram.Events.Access

/-!
# Calls of `rsvp` at the same time

`rsvp` reads the status of the user and counts the going participants before the transaction that
writes, and the transaction goes by what was read. In between, other calls may have taken the last
place, or the same user may have changed the status.

A transaction is timely when the row agrees, at that moment, with what was read about going, and a
place that it takes is free. The going participants stay within the limit and the counter agrees
with them throughout an interleaving exactly when every transaction of the event that is not refused
is timely (`within_limit_iff`).
-/

set_option autoImplicit false

namespace Motogram.Events

open Foundation Program Pool
open Social (RsvpStatus)

variable {s t : State} {eventId : EventId} {userId : UserId} {max : Nat}

/-! ## The calls -/

/-- A call of `rsvp`, or a pause. -/
inductive RsvpCall where
  | request (userId : UserId) (dto : RsvpEventDto)
  | pause (milliseconds : Nat)

def RsvpCall.program : RsvpCall → Flow Unit
  | .request userId dto => rsvp userId dto >>= fun _ => pure ()
  | .pause milliseconds => call (.elapse milliseconds)

abbrev RsvpPool (Index : Type) := Pool Index EventCall EventReply ServiceError Unit State

/-- Any number of calls that have not begun. -/
def rsvpPool {Index : Type} (calls : Index → RsvpCall) (s : State) : RsvpPool Index where
  threads := fun index => (calls index).program
  store := s

/-- What `rsvp` asks of the database. -/
def RsvpRequest : EventCall → Prop
  | .eventFindFirst _ => True
  | .eventParticipantFindUnique _ _ => True
  | .eventParticipantCountGoing _ => True
  | .leaveTransaction _ _ _ _ => True
  | .saveTransaction _ _ _ _ => True
  | .elapse _ => True
  | _ => False

theorem rethrow_uses {Value : Type} {permitted : EventCall → Prop} (reply : Except PrismaError Value) :
    (rethrow reply).Uses permitted := by
  cases reply <;> trivial

theorem rsvp_uses (userId : UserId) (dto : RsvpEventDto) : (rsvp userId dto).Uses RsvpRequest := by
  refine Uses.bind (Uses.send trivial fun reply => ?_) fun event => ?_
  · cases reply <;> trivial
  · refine Uses.send trivial fun participant => ?_
    split
    · cases participant with
      | none => trivial
      | some row =>
        refine Uses.send trivial fun reply => ?_
        exact (rethrow_uses reply).bind fun promoted => uses_done _
    · refine Uses.bind ?_ fun effective => Uses.send trivial fun reply => ?_
      · unfold checkCapacity
        cases event.limit with
        | none => trivial
        | some max =>
          dsimp only
          split
          · exact Uses.send trivial fun reply => uses_done _
          · trivial
      · exact (rethrow_uses reply).bind fun _ => uses_done _

theorem rsvpPool_uses {Index : Type} (calls : Index → RsvpCall) (s : State) :
    (rsvpPool calls s).AllUse RsvpRequest := by
  intro index
  change (calls index).program.Uses RsvpRequest
  cases calls index with
  | request userId dto => exact (rsvp_uses userId dto).bind fun _ => uses_done _
  | pause milliseconds => exact ⟨trivial, fun _ => uses_done _⟩

/-! ## Limit and counter -/

def WithinLimit (eventId : EventId) (max : Nat) (s : State) : Prop :=
  ∃ event, s.events.find? eventId = some event ∧ event.maxParticipants = some max ∧
    s.going eventId ≤ max ∧ event.participantsCount = s.going eventId

/-- A transaction of the event that is not refused agrees with the row about going, and takes only a
place that is free. -/
def Timely (eventId : EventId) (max : Nat) : EventCall → State → Prop
  | .saveTransaction event userId existing effective, s =>
    event = eventId → ∀ t, s.save event userId existing effective = .ok t →
      (existing = some .going ↔ s.status event userId = some .going) ∧
        (effective = .going → s.status event userId ≠ some .going → s.going event < max)
  | .leaveTransaction event userId wasGoing limited, s =>
    event = eventId → ∀ after, s.leave event userId wasGoing limited = .ok after →
      (wasGoing = true ↔ s.status event userId = some .going)
  | _, _ => True

/-- The counter of the event is changed by one number, and its going participants by another. -/
theorem WithinLimit.iff_of {counted rows : Int} (within : WithinLimit eventId max s)
    (tallies : Tallies s t eventId counted) (going : (t.going eventId : Int) = s.going eventId + rows) :
    WithinLimit eventId max t ↔ counted = rows ∧ (s.going eventId : Int) + rows ≤ max := by
  obtain ⟨event, found, limit, bound, counter⟩ := within
  have after : t.events.find? eventId = some (event.count counted) := by
    rw [tallies eventId, found, Option.map_some, if_pos rfl]
  have number : (event.count counted).participantsCount = event.participantsCount + counted := rfl
  constructor
  · rintro ⟨event', found', -, bound', counter'⟩
    rw [after] at found'
    cases found'
    omega
  · rintro ⟨same, room⟩
    refine ⟨_, after, limit, by omega, ?_⟩
    omega

theorem WithinLimit.of_same (within : WithinLimit eventId max s) (same : SameParticipants s t eventId)
    (event : t.events.find? eventId = s.events.find? eventId) : WithinLimit eventId max t := by
  unfold WithinLimit
  rw [event, same.going]
  exact within

theorem Tallies.of_ne {change : Int} {other : EventId} (tallies : Tallies s t other change)
    (apart : eventId ≠ other) : t.events.find? eventId = s.events.find? eventId := by
  simp only [tallies eventId, if_neg apart, Option.map_id_fun', id]

/-! ## The transactions -/

theorem Saved.within_iff {existing : Option RsvpStatus} {effective : RsvpStatus}
    (within : WithinLimit eventId max s) (saved : Saved s t eventId userId existing effective) :
    WithinLimit eventId max t ↔
      (existing = some .going ↔ s.status eventId userId = some .going) ∧
        (effective = .going → s.status eventId userId ≠ some .going → s.going eventId < max) := by
  have going := saved.moves.going eventId
  rw [if_pos rfl] at going
  rw [within.iff_of saved.tallies going, countChange_eq]
  obtain ⟨event, -, -, bound, -⟩ := within
  have agrees : goingNumber (some effective) - goingNumber existing =
      goingNumber (some effective) - goingNumber (s.status eventId userId) ↔
        (existing = some .going ↔ s.status eventId userId = some .going) := by
    rw [← goingNumber_eq_iff]
    omega
  rw [agrees]
  refine and_congr_right fun _ => ?_
  have least := goingNumber_nonneg (s.status eventId userId)
  by_cases takes : effective = .going
  · rw [takes, goingNumber_going]
    by_cases was : s.status eventId userId = some .going
    · rw [was, goingNumber_going]
      exact ⟨fun _ _ apart => absurd rfl apart, fun _ => by omega⟩
    · rw [goingNumber_of_ne was]
      exact ⟨fun _ _ _ => by omega, fun room => by have := room rfl was; omega⟩
  · rw [goingNumber_of_ne fun same => takes (Option.some.inj same)]
    exact ⟨fun _ same => absurd same takes, fun _ => by omega⟩

theorem Left.within_iff {wasGoing limited : Bool} {promoted : List UserId}
    (within : WithinLimit eventId max s) (left : Left s t eventId userId wasGoing limited promoted) :
    WithinLimit eventId max t ↔ (wasGoing = true ↔ s.status eventId userId = some .going) := by
  cases left with
  | vacated moves tallies rest present nobody =>
    have going := moves.going eventId
    rw [within.iff_of tallies going]
    obtain ⟨event, -, -, bound, -⟩ := within
    cases wasGoing with
    | false =>
      by_cases was : s.status eventId userId = some .going
      · simp [was]
      · rw [goingNumber_of_ne was]
        simp [was, bound]
    | true =>
      by_cases was : s.status eventId userId = some .going
      · rw [was]
        simp
        omega
      · rw [goingNumber_of_ne was]
        simp [was]
  | replaced mid next freed bounded moves waits promotes tallies rest present =>
    have first := moves.going eventId
    have second := promotes.going eventId
    rw [if_pos rfl, goingNumber_none] at first
    rw [if_pos rfl, waits, goingNumber_going, goingNumber_waitlist] at second
    have going : (t.going eventId : Int) = s.going eventId + (1 - goingNumber (s.status eventId userId)) := by
      omega
    rw [within.iff_of tallies going, freed]
    obtain ⟨event, -, -, bound, -⟩ := within
    by_cases was : s.status eventId userId = some .going
    · rw [was]
      simp [bound]
    · rw [goingNumber_of_ne was]
      simp [was]

theorem Saved.within_of_ne {existing : Option RsvpStatus} {effective : RsvpStatus} {other : EventId}
    (within : WithinLimit eventId max s) (saved : Saved s t other userId existing effective)
    (apart : eventId ≠ other) : WithinLimit eventId max t :=
  within.of_same (saved.moves.elsewhere apart) (saved.tallies.of_ne apart)

theorem Left.within_of_ne {wasGoing limited : Bool} {promoted : List UserId} {other : EventId}
    (within : WithinLimit eventId max s) (left : Left s t other userId wasGoing limited promoted)
    (apart : eventId ≠ other) : WithinLimit eventId max t := by
  cases left with
  | vacated moves tallies rest present nobody =>
    exact within.of_same (moves.elsewhere apart) (tallies.of_ne apart)
  | replaced mid next freed bounded moves waits promotes tallies rest present =>
    exact within.of_same ((moves.elsewhere apart).trans (promotes.elsewhere apart)) (tallies.of_ne apart)

/-! ## Every request -/

/-- **A request breaks it exactly where it is not timely.** -/
theorem answer_within_iff {request : EventCall} (asked : RsvpRequest request)
    (within : WithinLimit eventId max s) :
    WithinLimit eventId max (answer request s).2 ↔ Timely eventId max request s := by
  cases request with
  | saveTransaction other userId existing effective =>
    cases outcome : s.save other userId existing effective with
    | error error =>
      rw [answer_save_of_error outcome]
      refine ⟨fun _ _ after done => ?_, fun _ => within⟩
      rw [outcome] at done
      cases done
    | ok t =>
      rw [answer_save_of_ok outcome]
      have saved := save_effect outcome
      by_cases same : other = eventId
      · subst same
        rw [saved.within_iff within]
        exact ⟨fun holds _ _ _ => holds, fun timely => timely rfl t outcome⟩
      · have stays := saved.within_of_ne within (Ne.symm same)
        exact ⟨fun _ equal => absurd equal same, fun _ => stays⟩
  | leaveTransaction other userId wasGoing limited =>
    cases outcome : s.leave other userId wasGoing limited with
    | error error =>
      rw [answer_leave_of_error outcome]
      refine ⟨fun _ _ after done => ?_, fun _ => within⟩
      rw [outcome] at done
      cases done
    | ok after =>
      rw [answer_leave_of_ok outcome]
      have left := leave_effect outcome
      by_cases same : other = eventId
      · subst same
        rw [left.within_iff within]
        exact ⟨fun holds _ _ _ => holds, fun timely => timely rfl _ outcome⟩
      · have stays := left.within_of_ne within (Ne.symm same)
        exact ⟨fun _ equal => absurd equal same, fun _ => stays⟩
  | eventFindFirst | eventParticipantFindUnique | eventParticipantCountGoing | elapse =>
    exact ⟨fun _ => trivial, fun _ => within⟩
  | _ => exact asked.elim

/-- **The going participants stay within the limit, and the counter agrees with them, exactly when every
transaction of the event is timely.** -/
theorem within_limit_iff {Index : Type} [DecidableEq Index] (calls : Index → RsvpCall)
    (within : WithinLimit eventId max s) (schedule : List Index) :
    Throughout (advance answer) (fun pool => WithinLimit eventId max pool.store) (rsvpPool calls s) schedule ↔
      EachStep (advance answer) (Obliged (Timely eventId max)) (rsvpPool calls s) schedule := by
  refine throughout_iff_obliged ?_ ?_ (rsvpPool_uses calls s) within schedule
  · exact fun request store asked within timely => (answer_within_iff asked within).mpr timely
  · exact fun request store asked within late => mt (answer_within_iff asked within).mp late

/-- Rider 1 makes an event for two. -/
def rideForTwo : State := eventStep smallInstallation (.createEvent 1 (smallEvent .isPublic none 2 (by decide)))

theorem within_limit_small :
    WithinLimit 1 2 rideForTwo ∧
      let calls := fun index : Fin 2 => RsvpCall.request (index + 2) ⟨1, .going⟩
      Throughout (advance answer) (fun pool => WithinLimit 1 2 pool.store) (rsvpPool calls rideForTwo)
          [0, 0, 0, 0, 1, 1, 1, 1] ↔
        EachStep (advance answer) (Obliged (Timely 1 2)) (rsvpPool calls rideForTwo)
          [0, 0, 0, 0, 1, 1, 1, 1] := by
  have within : WithinLimit 1 2 rideForTwo := by
    refine ⟨newEvent 0 1 (smallEvent .isPublic none 2 (by decide)), ?_, rfl, ?_, ?_⟩ <;> decide +kernel
  exact ⟨within, within_limit_iff _ within _⟩

/-- Riders 2 and 3 both find the last place free, and both take it. -/
theorem last_place_taken_twice :
    ¬ Throughout (advance answer) (fun pool => pool.store.going 1 ≤ 2)
      (rsvpPool (fun index : Fin 2 => RsvpCall.request (index + 2) ⟨1, .going⟩) rideForTwo)
      [0, 0, 0, 1, 1, 1, 0, 1] := by
  decide +kernel

end Motogram.Events
