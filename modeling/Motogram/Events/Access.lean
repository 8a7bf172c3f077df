import Motogram.Events.Waitlist

/-!
# Who sees a private event

The details and the participants of a private event are for its hosts and for those who have a
participation. `getDetail` and `listParticipants` check it; `rsvp` does not, and it makes the
participation that the check asks for.

While the hosts of a private event do nothing, a rider without a participation is refused
throughout exactly the runs in which the rider makes no `rsvp` for the event that is accepted
(`private_refused_iff`).
-/

set_option autoImplicit false

namespace Motogram.Events

open Foundation Program
open Social (RsvpStatus)

variable {s t : State} {eventId : EventId} {userId viewerId : UserId}

/-! ## What the check answers -/

theorem getDetail_refused_iff (s : State) (eventId : EventId) (viewerId : UserId) :
    (∃ error, ((getDetail eventId viewerId).exec s).1 = .error error) ↔
      (s.existing eventId).any (fun event => s.admits eventId event viewerId) = false := by
  have finds := requireExisting_exec s eventId
  rw [Flow.exec, getDetail]
  cases existing : s.existing eventId with
  | none =>
    rw [existing] at finds
    rw [run_bind_of_error _ finds]
    exact ⟨fun _ => rfl, fun _ => ⟨_, rfl⟩⟩
  | some event =>
    have checks := checkPrivate_exec s eventId event viewerId
    rw [existing] at finds
    rw [run_bind_of_ok _ finds, Option.any_some]
    by_cases admits : s.admits eventId event viewerId = true
    · rw [if_pos admits] at checks
      rw [run_bind_of_ok _ checks, admits]
      exact ⟨fun refused => (by obtain ⟨_, ⟨⟩⟩ := refused), fun same => by cases same⟩
    · rw [if_neg admits] at checks
      rw [run_bind_of_error _ checks]
      exact ⟨fun _ => Bool.eq_false_of_not_eq_true admits, fun _ => ⟨_, rfl⟩⟩

theorem assertViewable_exec (s : State) (eventId : EventId) (userId : UserId) :
    (assertViewable eventId userId).exec s =
      (match s.existing eventId with
        | none => .error eventNotFound
        | some event => if s.admits eventId event userId then .ok () else .error eventIsPrivate, s) := by
  have finds := requireExisting_exec s eventId
  rw [Flow.exec, assertViewable]
  cases existing : s.existing eventId with
  | none =>
    rw [existing] at finds
    rw [run_bind_of_error _ finds]
  | some event =>
    rw [existing] at finds
    rw [run_bind_of_ok _ finds]
    exact checkPrivate_exec s eventId event userId

theorem listParticipants_refused_iff (s : State) (eventId : EventId) (viewerId : UserId) :
    (∃ error, ((listParticipants eventId viewerId).exec s).1 = .error error) ↔
      (s.existing eventId).any (fun event => s.admits eventId event viewerId) = false := by
  have checks := assertViewable_exec s eventId viewerId
  rw [Flow.exec, listParticipants]
  cases existing : s.existing eventId with
  | none =>
    rw [existing] at checks
    rw [run_bind_of_error _ checks]
    exact ⟨fun _ => rfl, fun _ => ⟨_, rfl⟩⟩
  | some event =>
    rw [existing] at checks
    dsimp only at checks
    rw [Option.any_some]
    by_cases admits : s.admits eventId event viewerId = true
    · rw [if_pos admits] at checks
      rw [run_bind_of_ok _ checks, admits]
      exact ⟨fun refused => (by obtain ⟨_, ⟨⟩⟩ := refused), fun same => by cases same⟩
    · rw [if_neg admits] at checks
      rw [run_bind_of_error _ checks]
      exact ⟨fun _ => Bool.eq_false_of_not_eq_true admits, fun _ => ⟨_, rfl⟩⟩

/-- `getDetail` and `listParticipants` are refused to the viewer. -/
def Refused (eventId : EventId) (viewerId : UserId) (s : State) : Prop :=
  (∃ error, ((getDetail eventId viewerId).exec s).1 = .error error) ∧
    ∃ error, ((listParticipants eventId viewerId).exec s).1 = .error error

theorem refused_iff : Refused eventId viewerId s ↔
    (s.existing eventId).any (fun event => s.admits eventId event viewerId) = false := by
  rw [Refused, getDetail_refused_iff, listParticipants_refused_iff, and_self]

/-! ## Operations of guests -/

/-- The user an operation is made by. -/
def EventOp.actor : EventOp → Option UserId
  | .createEvent organizerId _ => some organizerId
  | .updateEvent actorUserId _ _ => some actorUserId
  | .deleteEvent actorUserId _ => some actorUserId
  | .rsvp userId _ => some userId
  | .getDetail _ viewerId => some viewerId
  | .listParticipants _ viewerId => some viewerId
  | .searchEvents _ => none
  | .listMine userId => some userId
  | .listNearby _ => none
  | .elapse _ => none

/-- An operation of a user who is neither the organizer nor a co-host of the event. -/
abbrev GuestOp (event : Event) := {op : EventOp // ∀ user, op.actor = some user → event.hostedBy user = false}

def guestStep {event : Event} (s : State) (op : GuestOp event) : State := eventStep s op.val

/-- The user asks to participate in the event, and is heard. -/
def Intrudes (eventId : EventId) (userId : UserId) (s : State) (op : EventOp) : Prop :=
  ∃ dto, op = .rsvp userId dto ∧ dto.eventId = eventId ∧ dto.status ≠ .notGoing ∧
    (s.existing eventId).isSome ∧ (s.users.find? userId).isSome

/-! ## The invariant -/

structure Barred (event : Event) (eventId : EventId) (viewerId : UserId) (s : State) : Prop where
  counted : s.Counted
  row : ∃ row, s.events.find? eventId = some row ∧ row.visibility = .isPrivate ∧
    ∀ user, row.hostedBy user = event.hostedBy user
  outsider : event.hostedBy viewerId = false
  absent : s.status eventId viewerId = none

variable {event : Event}

theorem Barred.refused (barred : Barred event eventId viewerId s) : Refused eventId viewerId s := by
  rw [refused_iff]
  obtain ⟨row, found, hidden, hosts⟩ := barred.row
  cases existing : s.existing eventId with
  | none => rfl
  | some row' =>
    have here := (existing_eq_some.mp existing).1
    rw [found] at here
    cases here
    rw [Option.any_some, State.admits, hosts viewerId, barred.outsider, barred.absent, hidden]
    rfl

theorem Barred.of_rows (barred : Barred event eventId viewerId s) (counted : t.Counted)
    (rows : ∀ row, s.events.find? eventId = some row → ∃ row', t.events.find? eventId = some row' ∧
      row'.visibility = row.visibility ∧ ∀ user, row'.hostedBy user = row.hostedBy user)
    (absent : t.status eventId viewerId = none) : Barred event eventId viewerId t := by
  obtain ⟨row, found, hidden, hosts⟩ := barred.row
  obtain ⟨row', found', same, hosts'⟩ := rows row found
  exact ⟨counted, ⟨row', found', same.trans hidden, fun user => (hosts' user).trans (hosts user)⟩,
    barred.outsider, absent⟩

theorem Tallies.rows {other : EventId} {change : Int} (tallies : Tallies s t other change) (row : Event)
    (found : s.events.find? eventId = some row) :
    ∃ row', t.events.find? eventId = some row' ∧ row'.visibility = row.visibility ∧
      ∀ user, row'.hostedBy user = row.hostedBy user := by
  refine ⟨_, (tallies eventId).trans (congrArg _ found), ?_⟩
  split
  · exact ⟨rfl, fun _ => rfl⟩
  · exact ⟨rfl, fun _ => rfl⟩

theorem rows_modify {other : EventId} (apart : eventId ≠ other) (change : Event → Event) (row : Event)
    (found : s.events.find? eventId = some row) :
    ∃ row', (s.events.modify other change).find? eventId = some row' ∧ row'.visibility = row.visibility ∧
      ∀ user, row'.hostedBy user = row.hostedBy user :=
  ⟨row, (Table.find?_modify_of_ne _ apart _).trans found, rfl, fun _ => rfl⟩

theorem Barred.hosted (barred : Barred event eventId viewerId s) {actorUserId : UserId}
    (guest : event.hostedBy actorUserId = false) {row : Event} (existing : s.existing eventId = some row) :
    row.hostedBy actorUserId = false := by
  obtain ⟨row', found, -, hosts⟩ := barred.row
  have here := (existing_eq_some.mp existing).1
  rw [found] at here
  cases here
  rw [hosts, guest]

theorem Barred.step (barred : Barred event eventId viewerId s) (op : GuestOp event)
    (met : ¬ Intrudes eventId viewerId s op.val) : Barred event eventId viewerId (guestStep s op) := by
  obtain ⟨op, guest⟩ := op
  have counted : (eventStep s op).Counted := barred.counted.step op
  change Barred event eventId viewerId (eventStep s op)
  cases op with
  | createEvent organizerId dto =>
    rw [createEvent_step] at counted ⊢
    split
    · rename_i creates
      rw [if_pos creates] at counted
      obtain ⟨row, found, -, -⟩ := barred.row
      have apart : eventId ≠ s.fresh := by
        rintro rfl
        rw [barred.counted.fresh _ (Nat.le_refl _)] at found
        cases found
      refine barred.of_rows counted (fun row found => ⟨row, ?_, rfl, fun _ => rfl⟩) ?_
      · exact (Table.find?_insert_of_ne _ apart _).trans found
      · have moves := (created_moves barred.counted organizerId dto).1
        rw [moves.status_of_ne fun same => apart (Prod.mk.inj same).1]
        exact barred.absent
    · exact barred
  | updateEvent actorUserId other dto =>
    rw [updateEvent_step] at counted ⊢
    split
    · rename_i edits
      rw [if_pos edits] at counted
      have apart : eventId ≠ other := by
        rintro rfl
        obtain ⟨row, existing, hosts⟩ := (Option.any_eq_true _ _).mp edits.1
        rw [barred.hosted (guest actorUserId rfl) existing] at hosts
        cases hosts
      exact barred.of_rows counted (rows_modify apart _) barred.absent
    · exact barred
  | deleteEvent actorUserId other =>
    rw [deleteEvent_step] at counted ⊢
    split
    · rename_i deletes
      rw [if_pos deletes] at counted
      have apart : eventId ≠ other := by
        rintro rfl
        obtain ⟨row, existing, own⟩ := (Option.any_eq_true _ _).mp deletes
        have hosts := barred.hosted (guest actorUserId rfl) existing
        rw [Event.hostedBy, own] at hosts
        cases hosts
      exact barred.of_rows counted (rows_modify apart _) barred.absent
    · exact barred
  | rsvp userId dto =>
    have effect := rsvp_effect s userId dto
    generalize eventStep s (.rsvp userId dto) = t at effect counted
    cases effect with
    | refused | stays | unknown => exact barred
    | left own promoted after found asks left =>
      cases left with
      | vacated moves tallies rest present nobody =>
        refine barred.of_rows counted tallies.rows ?_
        by_cases same : (eventId, viewerId) = (dto.eventId, userId)
        · obtain ⟨rfl, rfl⟩ := Prod.mk.inj same
          exact moves.own
        · rw [moves.status_of_ne same]
          exact barred.absent
      | replaced mid next freed bounded moves waits promotes tallies rest present =>
        refine barred.of_rows counted tallies.rows ?_
        have before : mid.status eventId viewerId = none := by
          by_cases same : (eventId, viewerId) = (dto.eventId, userId)
          · obtain ⟨rfl, rfl⟩ := Prod.mk.inj same
            exact moves.own
          · rw [moves.status_of_ne same]
            exact barred.absent
        have other : (eventId, viewerId) ≠ (dto.eventId, next) := by
          intro same
          obtain ⟨rfl, rfl⟩ := Prod.mk.inj same
          rw [before] at waits
          cases waits
        rwa [promotes.status_of_ne other]
    | saved own after found asks saved =>
      refine barred.of_rows counted saved.tallies.rows ?_
      by_cases same : (eventId, viewerId) = (dto.eventId, userId)
      · obtain ⟨rfl, rfl⟩ := Prod.mk.inj same
        refine absurd ⟨dto, rfl, rfl, asks, ?_, (saved.there barred.absent).1⟩ met
        exact Option.isSome_iff_exists.mpr ⟨own, found⟩
      · rw [saved.moves.status_of_ne same]
        exact barred.absent
  | getDetail other viewer => rwa [getDetail_step]
  | listParticipants other viewer => rwa [listParticipants_step]
  | searchEvents query => rwa [searchEvents_step]
  | listMine user => rwa [listMine_step]
  | listNearby dto => rwa [listNearby_step]
  | elapse milliseconds => exact ⟨counted, barred.row, barred.outsider, barred.absent⟩

/-- Whoever participates sees the event. -/
theorem Barred.breaks (barred : Barred event eventId viewerId s) (op : GuestOp event)
    (intrudes : Intrudes eventId viewerId s op.val) : ¬ Refused eventId viewerId (guestStep s op) := by
  obtain ⟨op, guest⟩ := op
  obtain ⟨dto, rfl, rfl, asks, here, user⟩ := intrudes
  have effect := rsvp_effect s viewerId dto
  change ¬ Refused dto.eventId viewerId (eventStep s (.rsvp viewerId dto))
  generalize eventStep s (.rsvp viewerId dto) = t at effect
  rw [refused_iff, Bool.not_eq_false]
  cases effect with
  | refused missing =>
    rw [missing] at here
    cases here
  | stays asks' | left _ _ _ _ asks' => exact absurd asks' asks
  | unknown asks' absent nobody =>
    rw [nobody] at user
    cases user
  | saved own after found asks' saved =>
    rw [saved.tallies.existing, found, Option.map_some, Option.any_some, State.admits, saved.moves.own,
      Option.isSome_some, Bool.or_true]

/-- **A rider without a participation in a private event, whose hosts do nothing, is refused exactly as
long as the rider makes no `rsvp` for it that is heard.** -/
theorem private_refused_iff (empty : s.NoEvents) (earlier : List EventOp)
    (found : (follow eventStep s earlier).events.find? eventId = some event)
    (hidden : event.visibility = .isPrivate) (outsider : event.hostedBy viewerId = false)
    (absent : (follow eventStep s earlier).status eventId viewerId = none) (ops : List (GuestOp event)) :
    Throughout guestStep (Refused eventId viewerId) (follow eventStep s earlier) ops ↔
      EachStep guestStep (fun t op => ¬ Intrudes eventId viewerId t op.val) (follow eventStep s earlier) ops := by
  have start : Barred event eventId viewerId (follow eventStep s earlier) :=
    ⟨empty.counted.follow earlier, ⟨event, found, hidden, fun _ => rfl⟩, outsider, absent⟩
  refine throughout_iff_eachStep ?_ ?_ ?_ start ops
  · exact fun t barred => barred.refused
  · exact fun t op barred met => barred.step op met
  · exact fun t op barred unmet => barred.breaks op (not_not.mp unmet)

/-- Rider 1 makes a private event. -/
def privateRide : EventOp := .createEvent 1 (smallEvent .isPrivate none 5 (by decide))

theorem private_refused_small :
    let event := newEvent 0 1 (smallEvent .isPrivate none 5 (by decide))
    let ops : List (GuestOp event) := [⟨.getDetail 1 2, by rintro user ⟨⟩; rfl⟩]
    Throughout guestStep (Refused 1 2) (follow eventStep smallInstallation [privateRide]) ops ↔
      EachStep guestStep (fun t op => ¬ Intrudes 1 2 t op.val)
        (follow eventStep smallInstallation [privateRide]) ops := by
  have found : (follow eventStep smallInstallation [privateRide]).events.find? 1 =
      some (newEvent 0 1 (smallEvent .isPrivate none 5 (by decide))) := by
    decide +kernel
  have absent : (follow eventStep smallInstallation [privateRide]).status 1 2 = none := by decide +kernel
  exact private_refused_iff ⟨rfl, rfl⟩ [privateRide] found rfl rfl absent _

/-- Rider 2 asks to go to the private event of rider 1, and sees it. -/
theorem rsvp_opens_private :
    ¬ Throughout guestStep (Refused 1 2) (follow eventStep smallInstallation [privateRide])
      ([⟨.rsvp 2 ⟨1, .going⟩, by rintro user ⟨⟩; rfl⟩] :
        List (GuestOp (newEvent 0 1 (smallEvent .isPrivate none 5 (by decide))))) := by
  intro holds
  have refused := refused_iff.mp holds.last
  revert refused
  decide +kernel

end Motogram.Events
