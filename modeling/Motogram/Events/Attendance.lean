import Motogram.Events.Service
import Motogram.Foundation.Drift

/-!
# What an answer does to the participants

A transaction of `rsvp` sets the status of one participant, or deletes the participation, and
changes the counter of the event by what the status that was read before it says. A place that
becomes free that way is given to the first of the waitlist in the same transaction.

The number of participants that are going changes by what the status in the table says
(`Moves.going`), so the counter is right after a transaction exactly when the status that was
read agrees with the table about going.
-/

set_option autoImplicit false

namespace Motogram.Events

open Foundation Program Table State Option
open Social (CommunityId MemberStatus RsvpStatus)

/-! ## One participation -/

def State.status (s : State) (eventId : EventId) (userId : UserId) : Option RsvpStatus :=
  (s.participants.find? (eventId, userId)).map Participant.rsvpStatus

variable {s t u : State} {eventId other : EventId} {userId : UserId} {written : Option RsvpStatus}
  {change : Int}

/-- What a status counts. -/
def goingNumber (status : Option RsvpStatus) : Int := if status = some .going then 1 else 0

theorem countChange_eq (existing : Option RsvpStatus) (effective : RsvpStatus) :
    countChange existing effective = goingNumber (some effective) - goingNumber existing := by
  unfold countChange goingNumber
  by_cases was : existing = some .going
  · by_cases is : effective = .going <;> simp [was, is]
  · by_cases is : effective = .going <;> simp [was, is]

structure Moves (s t : State) (eventId : EventId) (userId : UserId) (written : Option RsvpStatus) : Prop where
  others : t.participants.erase (eventId, userId) = s.participants.erase (eventId, userId)
  own : t.status eventId userId = written

theorem Moves.status_of_ne (moves : Moves s t eventId userId written) {user : UserId}
    (different : (other, user) ≠ (eventId, userId)) : t.status other user = s.status other user := by
  have same := congrArg (fun table => table.find? (other, user)) moves.others
  simp only [find?_erase, if_neg different] at same
  rw [State.status, State.status, same]

theorem going_eq (s : State) (eventId other : EventId) (userId : UserId) :
    (s.going other : Int) = (if other = eventId then goingNumber (s.status eventId userId) else 0) +
      (s.participants.erase (eventId, userId)).count fun pair participant =>
        decide (pair.1 = other) && decide (participant.rsvpStatus = .going) := by
  rw [going, count_eq_add_erase s.participants (eventId, userId)]
  push_cast
  congr 1
  unfold State.status goingNumber
  by_cases same : other = eventId
  · subst same
    cases s.participants.find? (other, userId) with
    | none => simp
    | some participant => by_cases going : participant.rsvpStatus = .going <;> simp [going]
  · have apart : eventId ≠ other := fun equal => same equal.symm
    cases s.participants.find? (eventId, userId) <;> simp [same, apart]

/-- **The number of going participants changes by what the participation counts.** -/
theorem Moves.going (moves : Moves s t eventId userId written) (other : EventId) :
    (t.going other : Int) = s.going other +
      if other = eventId then goingNumber written - goingNumber (s.status eventId userId) else 0 := by
  rw [going_eq t eventId other userId, going_eq s eventId other userId, moves.others, moves.own]
  split <;> omega

/-! ## The counter -/

def Tallies (s t : State) (eventId : EventId) (change : Int) : Prop :=
  ∀ other, t.events.find? other =
    (s.events.find? other).map fun event => if other = eventId then event.count change else event

theorem Event.count_count (event : Event) (first second : Int) :
    (event.count first).count second = event.count (first + second) := by
  simp [Event.count, Int.add_assoc]

theorem Event.count_zero (event : Event) : event.count 0 = event := by simp [Event.count]

theorem Tallies.refl (s : State) (eventId : EventId) : Tallies s s eventId 0 := by
  intro other
  simp only [Event.count_zero, ite_self, map_id_fun', id]

theorem Tallies.trans {first second : Int} (before : Tallies s t eventId first) (after : Tallies t u eventId second) :
    Tallies s u eventId (first + second) := by
  intro other
  rw [after other, before other, map_map]
  congr 1
  funext event
  by_cases same : other = eventId
  · simp only [Function.comp_apply, if_pos same, Event.count_count]
  · simp only [Function.comp_apply, if_neg same]

theorem tallies_of_events (same : t.events = s.events) : Tallies s t eventId 0 := by
  intro other
  rw [same]
  exact Tallies.refl s eventId other

theorem Tallies.isSome (tallies : Tallies s t eventId change) (other : EventId) :
    (t.events.find? other).isSome = (s.events.find? other).isSome := by
  rw [tallies other, isSome_map]

/-- Nothing but participants and events has been written. -/
def SameRest (s t : State) : Prop := t = (s.withParticipants t.participants).withEvents t.events

theorem SameRest.refl (s : State) : SameRest s s := rfl

theorem SameRest.trans (first : SameRest s t) (second : SameRest t u) : SameRest s u := by
  rw [second, first]
  rfl

theorem SameRest.fresh (rest : SameRest s t) : t.fresh = s.fresh := by
  have same := congrArg State.fresh rest
  exact same

/-! ## What each write does -/

theorem createParticipant_effect {status : RsvpStatus} (done : s.createParticipant eventId userId status = .ok t) :
    Moves s t eventId userId (some status) ∧ t.events = s.events ∧ SameRest s t ∧
      s.status eventId userId = none ∧ (s.users.find? userId).isSome ∧ (s.events.find? eventId).isSome := by
  unfold State.createParticipant at done
  split at done
  · cases done
  · split at done
    · cases done
    · rename_i free there
      cases done
      have free : s.participants.find? (eventId, userId) = none := by simpa using free
      have there : (s.users.find? userId).isSome ∧ (s.events.find? eventId).isSome := by
        simpa [isSome_iff_ne_none] using there
      refine ⟨⟨erase_insert free _, ?_⟩, rfl, rfl, ?_, there⟩
      · rw [State.status, State.withParticipants_participants, find?_insert_self free]
        rfl
      · rw [State.status, free]
        rfl

theorem updateParticipant_effect {status : RsvpStatus} (done : s.updateParticipant eventId userId status = .ok t) :
    Moves s t eventId userId (some status) ∧ t.events = s.events ∧ SameRest s t ∧
      (s.status eventId userId).isSome := by
  unfold State.updateParticipant at done
  split at done
  · cases done
  · rename_i here
    cases done
    obtain ⟨participant, found⟩ : ∃ participant, s.participants.find? (eventId, userId) = some participant := by
      rw [Bool.not_eq_true, isNone_eq_false_iff] at here
      exact isSome_iff_exists.mp here
    refine ⟨⟨erase_modify _ _ _, ?_⟩, rfl, rfl, ?_⟩
    · rw [State.status, State.withParticipants_participants, find?_modify_self, found]
      rfl
    · rw [State.status, found]
      rfl

theorem deleteParticipant_effect (done : s.deleteParticipant eventId userId = .ok t) :
    Moves s t eventId userId none ∧ t.events = s.events ∧ SameRest s t ∧ (s.status eventId userId).isSome := by
  unfold deleteParticipant at done
  split at done
  · cases done
  · rename_i here
    cases done
    refine ⟨⟨?_, ?_⟩, rfl, rfl, ?_⟩
    · rw [State.withParticipants_participants, erase, erase, eraseWhere_eraseWhere]
      exact eraseWhere_congr fun entry _ => Bool.or_self _
    · simp [State.status]
    · rw [State.status]
      simpa [isSome_iff_ne_none] using here

theorem countParticipants_effect (done : s.countParticipants eventId change = .ok t) :
    Tallies s t eventId change ∧ t.participants = s.participants ∧ SameRest s t := by
  unfold countParticipants at done
  split at done
  · cases done
  · cases done
    refine ⟨fun other => ?_, rfl, rfl⟩
    rw [withEvents_events, find?_modify]
    by_cases same : other = eventId
    · simp only [if_pos same]
    · simp only [if_neg same, map_id_fun', id]

/-! ## The first of the waitlist -/

theorem mem_participantsWith {status : RsvpStatus} {entry : (EventId × UserId) × Participant} :
    entry ∈ s.participantsWith eventId status ↔
      s.participants.find? entry.1 = some entry.2 ∧ entry.1.1 = eventId ∧ entry.2.rsvpStatus = status := by
  rw [participantsWith, mem_select, Bool.and_eq_true, decide_eq_true_eq, decide_eq_true_eq]

theorem nextWaiting_eq_none (nobody : s.nextWaiting eventId = none) (userId : UserId) :
    s.status eventId userId ≠ some .waitlist := by
  intro waits
  rw [nextWaiting, map_eq_none_iff, List.head?_eq_none_iff] at nobody
  obtain ⟨participant, found, status⟩ := map_eq_some_iff.mp waits
  have listed : ((eventId, userId), participant) ∈ s.participantsWith eventId .waitlist :=
    mem_participantsWith.mpr ⟨found, rfl, status⟩
  have sorted := (List.perm_insertionSort
    (fun first second : (EventId × UserId) × Participant => first.2.joinedAt ≤ second.2.joinedAt)
      (s.participantsWith eventId .waitlist)).mem_iff.mpr listed
  rw [nobody] at sorted
  cases sorted

theorem nextWaiting_eq_some (next : s.nextWaiting eventId = some userId) :
    s.status eventId userId = some .waitlist := by
  obtain ⟨⟨⟨event, user⟩, participant⟩, first, rfl⟩ := map_eq_some_iff.mp next
  have listed := (List.perm_insertionSort _ _).mem_iff.mp (List.mem_of_head? first)
  obtain ⟨found, rfl, status⟩ := mem_participantsWith.mp listed
  rw [State.status, found, map_some, status]

/-! ## The two transactions of `rsvp` -/

structure Saved (s t : State) (eventId : EventId) (userId : UserId) (existing : Option RsvpStatus)
    (effective : RsvpStatus) : Prop where
  moves : Moves s t eventId userId (some effective)
  tallies : Tallies s t eventId (countChange existing effective)
  rest : SameRest s t
  present : existing.isSome = (s.status eventId userId).isSome
  there : existing = none → (s.users.find? userId).isSome ∧ (s.events.find? eventId).isSome

/-- The counter after a participation has been written. -/
theorem saved_count {effective : RsvpStatus} {existing : Option RsvpStatus}
    (done : (if countChange existing effective = 0 then .ok t
      else t.countParticipants eventId (countChange existing effective)) = Except.ok u) :
    Tallies t u eventId (countChange existing effective) ∧ u.participants = t.participants ∧ SameRest t u := by
  split at done
  · rename_i same
    cases done
    rw [same]
    exact ⟨Tallies.refl t eventId, rfl, SameRest.refl t⟩
  · exact countParticipants_effect done

theorem Moves.of_participants (moves : Moves s t eventId userId written)
    (same : u.participants = t.participants) : Moves s u eventId userId written := by
  refine ⟨?_, ?_⟩
  · rw [same]
    exact moves.others
  · rw [State.status, same]
    exact moves.own

theorem save_effect {existing : Option RsvpStatus} {effective : RsvpStatus}
    (done : s.save eventId userId existing effective = .ok t) : Saved s t eventId userId existing effective := by
  cases existing with
  | none =>
    obtain ⟨between, saved, counted⟩ := ok_of_bind done
    obtain ⟨tallies, participants, rest⟩ := saved_count counted
    obtain ⟨moves, events, same, absent, there⟩ := createParticipant_effect saved
    refine ⟨moves.of_participants participants, ?_, same.trans rest, ?_, fun _ => there⟩
    · have all := (tallies_of_events events).trans tallies
      rwa [Int.zero_add] at all
    · rw [absent]
  | some status =>
    obtain ⟨between, saved, counted⟩ := ok_of_bind done
    obtain ⟨tallies, participants, rest⟩ := saved_count counted
    obtain ⟨moves, events, same, present⟩ := updateParticipant_effect saved
    refine ⟨moves.of_participants participants, ?_, same.trans rest, ?_, nofun⟩
    · have all := (tallies_of_events events).trans tallies
      rwa [Int.zero_add] at all
    · rw [present]
      rfl

/-- What a deleted participation does: the place stays empty, or the first of the waitlist has it. -/
inductive Left (s t : State) (eventId : EventId) (userId : UserId) (wasGoing limited : Bool) :
    List UserId → Prop
  | vacated (moves : Moves s t eventId userId none)
      (tallies : Tallies s t eventId (if wasGoing then -1 else 0)) (rest : SameRest s t)
      (present : (s.status eventId userId).isSome)
      (nobody : wasGoing = true → limited = true → ∀ user, t.status eventId user ≠ some .waitlist) :
      Left s t eventId userId wasGoing limited []
  | replaced (mid : State) (next : UserId) (freed : wasGoing = true) (bounded : limited = true)
      (moves : Moves s mid eventId userId none) (waits : mid.status eventId next = some .waitlist)
      (promotes : Moves mid t eventId next (some .going)) (tallies : Tallies s t eventId 0)
      (rest : SameRest s t) (present : (s.status eventId userId).isSome) :
      Left s t eventId userId wasGoing limited [next]

theorem promote_effect {promoted : List UserId} (done : s.promote eventId = .ok (t, promoted)) :
    (t = s ∧ promoted = [] ∧ ∀ user, s.status eventId user ≠ some .waitlist) ∨
      ∃ next, promoted = [next] ∧ s.status eventId next = some .waitlist ∧
        Moves s t eventId next (some .going) ∧ Tallies s t eventId 1 ∧ SameRest s t := by
  unfold promote at done
  split at done
  · rename_i nobody
    cases done
    exact .inl ⟨rfl, rfl, nextWaiting_eq_none nobody⟩
  · rename_i next first
    obtain ⟨moved, updated, done⟩ := ok_of_bind done
    obtain ⟨counted, increment, done⟩ := ok_of_bind done
    cases done
    obtain ⟨moves, events, same, _⟩ := updateParticipant_effect updated
    obtain ⟨tallies, participants, rest⟩ := countParticipants_effect increment
    have all := (tallies_of_events events).trans tallies
    exact .inr ⟨next, rfl, nextWaiting_eq_some first, moves.of_participants participants, all, same.trans rest⟩

theorem leave_effect {wasGoing limited : Bool} {promoted : List UserId}
    (done : s.leave eventId userId wasGoing limited = .ok (t, promoted)) :
    Left s t eventId userId wasGoing limited promoted := by
  obtain ⟨left, deleted, done⟩ := ok_of_bind done
  obtain ⟨moves, events, same, present⟩ := deleteParticipant_effect deleted
  cases wasGoing with
  | false =>
    cases done
    exact .vacated moves (tallies_of_events events) same present nofun
  | true =>
    obtain ⟨counted, decrement, done⟩ := ok_of_bind done
    obtain ⟨tallies, participants, rest⟩ := countParticipants_effect decrement
    have down : Tallies s counted eventId (-1) := by
      have all := (tallies_of_events events).trans tallies
      rwa [Int.zero_add] at all
    have leaves : Moves s counted eventId userId none := moves.of_participants participants
    cases limited with
    | false =>
      cases done
      exact .vacated leaves down (same.trans rest) present nofun
    | true =>
      obtain ⟨rfl, rfl, nobody⟩ | ⟨next, rfl, waits, promotes, up, further⟩ := promote_effect done
      · exact .vacated leaves down (same.trans rest) present fun _ _ => nobody
      · exact .replaced counted next rfl rfl leaves waits promotes (down.trans up)
          ((same.trans rest).trans further) present

/-! ## The transactions succeed on what they have read -/

theorem updateParticipant_total (status : RsvpStatus) (present : (s.status eventId userId).isSome) :
    ∃ t, s.updateParticipant eventId userId status = .ok t := by
  rw [State.status, isSome_map] at present
  refine ⟨_, if_neg ?_⟩
  rwa [Bool.not_eq_true, isNone_eq_false_iff]

theorem deleteParticipant_total (present : (s.status eventId userId).isSome) :
    ∃ t, s.deleteParticipant eventId userId = .ok t := by
  rw [State.status, isSome_map] at present
  refine ⟨_, if_neg ?_⟩
  rwa [Bool.not_eq_true, isNone_eq_false_iff]

theorem createParticipant_total (status : RsvpStatus) (absent : s.status eventId userId = none)
    (user : (s.users.find? userId).isSome) (event : (s.events.find? eventId).isSome) :
    ∃ t, s.createParticipant eventId userId status = .ok t := by
  rw [State.status, map_eq_none_iff] at absent
  refine ⟨_, (if_neg ?_).trans (if_neg ?_)⟩
  · rw [absent]
    exact Bool.false_ne_true
  · rw [Bool.or_eq_true, not_or, Bool.not_eq_true, Bool.not_eq_true, isNone_eq_false_iff,
      isNone_eq_false_iff]
    exact ⟨user, event⟩

theorem countParticipants_total (change : Int) (event : (s.events.find? eventId).isSome) :
    ∃ t, s.countParticipants eventId change = .ok t := by
  refine ⟨_, if_neg ?_⟩
  rwa [Bool.not_eq_true, isNone_eq_false_iff]

theorem save_total (effective : RsvpStatus) (event : (s.events.find? eventId).isSome)
    (permitted : (s.status eventId userId).isSome ∨ (s.users.find? userId).isSome) :
    ∃ t, s.save eventId userId (s.status eventId userId) effective = .ok t := by
  have counts : ∀ saved : State, saved.events = s.events → ∃ t,
      (if countChange (s.status eventId userId) effective = 0 then Except.ok saved
        else saved.countParticipants eventId (countChange (s.status eventId userId) effective)) = .ok t := by
    intro saved same
    split
    · exact ⟨saved, rfl⟩
    · refine countParticipants_total _ ?_
      rwa [same]
  cases existing : s.status eventId userId with
  | none =>
    rw [existing] at counts permitted
    have user := permitted.resolve_left Bool.false_ne_true
    obtain ⟨saved, creates⟩ := createParticipant_total effective existing user event
    obtain ⟨t, done⟩ := counts saved (createParticipant_effect creates).2.1
    exact ⟨t, (congrArg (· >>= _) creates).trans done⟩
  | some status =>
    rw [existing] at counts
    obtain ⟨saved, updates⟩ := updateParticipant_total effective
      (isSome_iff_exists.mpr ⟨status, existing⟩)
    obtain ⟨t, done⟩ := counts saved (updateParticipant_effect updates).2.1
    exact ⟨t, (congrArg (· >>= _) updates).trans done⟩

theorem promote_total (event : (s.events.find? eventId).isSome) :
    ∃ t promoted, s.promote eventId = .ok (t, promoted) := by
  cases next : s.nextWaiting eventId with
  | none =>
    refine ⟨s, [], ?_⟩
    rw [promote, next]
  | some user =>
    have waits := nextWaiting_eq_some next
    obtain ⟨moved, updates⟩ := updateParticipant_total .going (isSome_iff_exists.mpr ⟨_, waits⟩)
    have there : (moved.events.find? eventId).isSome := by rwa [(updateParticipant_effect updates).2.1]
    obtain ⟨counted, increments⟩ := countParticipants_total 1 there
    refine ⟨counted, [user], ?_⟩
    rw [promote, next]
    dsimp only
    rw [updates]
    change (moved.countParticipants eventId 1 >>= fun counted => .ok (counted, [user])) = _
    rw [increments]
    rfl

theorem leave_total (wasGoing limited : Bool) (event : (s.events.find? eventId).isSome)
    (present : (s.status eventId userId).isSome) :
    ∃ t promoted, s.leave eventId userId wasGoing limited = .ok (t, promoted) := by
  obtain ⟨left, deletes⟩ := deleteParticipant_total present
  have there : (left.events.find? eventId).isSome := by rwa [(deleteParticipant_effect deletes).2.1]
  obtain ⟨counted, decrements⟩ := countParticipants_total (-1) there
  have still : (counted.events.find? eventId).isSome := by
    rwa [(countParticipants_effect decrements).1.isSome]
  unfold leave
  rw [deletes]
  cases wasGoing with
  | false => exact ⟨left, [], rfl⟩
  | true =>
    change ∃ t promoted, (left.countParticipants eventId (-1) >>= fun counted =>
      if limited then counted.promote eventId else .ok (counted, [])) = .ok (t, promoted)
    rw [decrements]
    cases limited with
    | false => exact ⟨counted, [], rfl⟩
    | true => exact promote_total still

end Motogram.Events
