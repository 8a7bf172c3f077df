import Motogram.Events.Attendance

/-!
# Runs of the event service

The operations of the service one after the other, by any users, with time passing between them.
Each operation that writes is inverted once: when it writes, and what. `createEvent`,
`updateEvent` and `deleteEvent` write one event; `rsvp` writes what `RsvpEffect` says.
-/

set_option autoImplicit false

namespace Motogram.Events

open Foundation Program
open Social (CommunityId MemberStatus RsvpStatus)
open Communities (CommunityMember)

/-! ## Operations -/

/-- An operation of the service, or time passing. -/
inductive EventOp where
  | createEvent (organizerId : UserId) (dto : CreateEventDto)
  | updateEvent (actorUserId : UserId) (eventId : EventId) (dto : UpdateEventDto)
  | deleteEvent (actorUserId : UserId) (eventId : EventId)
  | rsvp (userId : UserId) (dto : RsvpEventDto)
  | getDetail (eventId : EventId) (viewerId : UserId)
  | listParticipants (eventId : EventId) (viewerId : UserId)
  | searchEvents (query : EventSearchQueryDto)
  | listMine (userId : UserId)
  | listNearby (dto : NearbyEventsQueryDto)
  | elapse (milliseconds : Nat)

/-- The state after an operation. -/
def eventStep (s : State) : EventOp → State
  | .createEvent organizerId dto => ((createEvent organizerId dto).exec s).2
  | .updateEvent actorUserId eventId dto => ((updateEvent actorUserId eventId dto).exec s).2
  | .deleteEvent actorUserId eventId => ((deleteEvent actorUserId eventId).exec s).2
  | .rsvp userId dto => ((rsvp userId dto).exec s).2
  | .getDetail eventId viewerId => ((getDetail eventId viewerId).exec s).2
  | .listParticipants eventId viewerId => ((listParticipants eventId viewerId).exec s).2
  | .searchEvents query => ((searchEvents query).exec s).2
  | .listMine userId => ((listMine userId).exec s).2
  | .listNearby dto => ((listNearby dto).exec s).2
  | .elapse milliseconds => s.elapsed milliseconds

def State.existing (s : State) (eventId : EventId) : Option Event :=
  (s.events.find? eventId).filter fun event => event.deletedAt.isNone

/-- The user may make events of the community. -/
def State.privileged (s : State) (communityId : CommunityId) (userId : UserId) : Bool :=
  (s.communityMembers.find? (communityId, userId)).any mayHost

variable {s t : State} {eventId : EventId} {userId organizerId actorUserId viewerId : UserId}

theorem existing_eq_some {event : Event} :
    s.existing eventId = some event ↔ s.events.find? eventId = some event ∧ event.deletedAt = none := by
  rw [State.existing, Option.filter_eq_some_iff, Option.isNone_iff_eq_none]

/-! ## Checks -/

theorem requireExisting_exec (s : State) (eventId : EventId) :
    (requireExisting eventId).exec s =
      (match s.existing eventId with | none => .error eventNotFound | some event => .ok event, s) := by
  unfold requireExisting State.existing
  rw [Flow.exec, run_sends]
  dsimp only [answer]
  cases (s.events.find? eventId).filter fun event => event.deletedAt.isNone <;> rfl

theorem checkCommunity_exec (s : State) (communityId : Option CommunityId) (userId : UserId) :
    (checkCommunity communityId userId).exec s =
      (if communityId.all (fun communityId => s.privileged communityId userId) then .ok ()
        else .error needsCommunityRole, s) := by
  cases communityId with
  | none => rfl
  | some communityId =>
    rw [Flow.exec, checkCommunity, assertCommunityPrivilege, call_bind, run_call,
      done_bind, run_throwIf]
    dsimp only [answer]
    rw [Option.all_some, State.privileged]
    by_cases privileged : (s.communityMembers.find? (communityId, userId)).any mayHost = true
    · simp only [privileged, Bool.true_eq_false, if_false, if_true]
    · simp only [Bool.eq_false_of_not_eq_true privileged, Bool.false_eq_true, if_false, if_true]

/-- The viewer sees a private event. -/
def State.admits (s : State) (eventId : EventId) (event : Event) (userId : UserId) : Bool :=
  decide (event.visibility ≠ .isPrivate) || event.hostedBy userId || (s.status eventId userId).isSome

theorem checkPrivate_exec (s : State) (eventId : EventId) (event : Event) (userId : UserId) :
    (checkPrivate eventId event userId).exec s =
      (if s.admits eventId event userId then .ok () else .error eventIsPrivate, s) := by
  unfold checkPrivate
  by_cases hidden : event.visibility = .isPrivate ∧ event.hostedBy userId = false
  · rw [if_pos hidden, Flow.exec, run_sends,
      run_throwIf]
    dsimp only [answer]
    have admits : s.admits eventId event userId = (s.participants.find? (eventId, userId)).isSome := by
      simp [State.admits, State.status, hidden.1, hidden.2]
    rw [admits]
    by_cases present : (s.participants.find? (eventId, userId)).isSome = true
    · simp only [present, Option.isNone_eq_false_iff.mpr present, Bool.false_eq_true, if_false, if_true]
    · have absent : (s.participants.find? (eventId, userId)).isNone = true := by simpa using present
      simp only [Bool.eq_false_of_not_eq_true present, absent, Bool.false_eq_true, if_false, if_true]
  · have admits : s.admits eventId event userId = true := by
      unfold State.admits
      by_cases isPrivate : event.visibility = .isPrivate
      · have hosts : event.hostedBy userId = true := Bool.of_not_eq_false fun apart => hidden ⟨isPrivate, apart⟩
        rw [hosts, Bool.or_true, Bool.true_or]
      · simp [isPrivate]
    rw [if_neg hidden, admits]
    rfl

/-! ## Writing an event -/

/-- The request makes an event. -/
def State.creates (s : State) (organizerId : UserId) (dto : CreateEventDto) : Prop :=
  (dto.endTime.any fun endTime => decide (endTime < dto.startTime)) = false ∧
    dto.communityId.all (fun communityId => s.privileged communityId organizerId) = true ∧
      (s.users.find? organizerId).isSome ∧ s.refers dto.communityId dto.routeId = true

instance (s : State) (organizerId : UserId) (dto : CreateEventDto) : Decidable (s.creates organizerId dto) :=
  inferInstanceAs (Decidable (_ ∧ _ ∧ _ ∧ _))

def State.created (s : State) (organizerId : UserId) (dto : CreateEventDto) : State :=
  { s with
    fresh := s.fresh + 1
    events := s.events.insert s.fresh (newEvent s.now organizerId dto)
    participants := s.participants.insert (s.fresh, organizerId) (newParticipant s.now .going) }

theorem createEvent_step (s : State) (organizerId : UserId) (dto : CreateEventDto) :
    eventStep s (.createEvent organizerId dto) =
      if s.creates organizerId dto then s.created organizerId dto else s := by
  have checks := checkCommunity_exec s dto.communityId organizerId
  rw [eventStep, Flow.exec, createEvent]
  by_cases late : (dto.endTime.any fun endTime => decide (endTime < dto.startTime)) = true
  · have refused : ¬ s.creates organizerId dto := fun creates => by
      rw [creates.1] at late
      cases late
    rw [throwIf_of late, if_neg refused]
    rfl
  · rw [throwIf_of_not late, done_bind]
    by_cases privileged : dto.communityId.all (fun communityId => s.privileged communityId organizerId) = true
    · rw [if_pos privileged] at checks
      rw [run_bind_of_ok _ checks, run_sends]
      dsimp only [answer]
      by_cases there : (s.users.find? organizerId).isSome ∧ s.refers dto.communityId dto.routeId = true
      · have fine : ¬ ((s.users.find? organizerId).isNone || !s.refers dto.communityId dto.routeId) = true := by
          rw [there.2, Option.isNone_eq_false_iff.mpr there.1]
          exact Bool.false_ne_true
        have creates : s.creates organizerId dto := ⟨Bool.eq_false_of_not_eq_true late, privileged, there⟩
        rw [if_pos creates, if_neg fine]
        rfl
      · have wrong : ((s.users.find? organizerId).isNone || !s.refers dto.communityId dto.routeId) = true := by
          rw [← Bool.not_eq_false, Bool.or_eq_false_iff, Option.isNone_eq_false_iff, Bool.not_eq_false']
          exact there
        have refused : ¬ s.creates organizerId dto := fun creates => there creates.2.2
        rw [if_neg refused, if_pos wrong]
        rfl
    · have refused : ¬ s.creates organizerId dto := fun creates => privileged creates.2.1
      rw [if_neg privileged] at checks
      rw [run_bind_of_error _ checks, if_neg refused]

/-- The request changes the event. -/
def State.edits (s : State) (actorUserId : UserId) (eventId : EventId) (dto : UpdateEventDto) : Prop :=
  (s.existing eventId).any (fun event => event.hostedBy actorUserId) = true ∧
    s.refers dto.communityId dto.routeId = true

instance (s : State) (actorUserId : UserId) (eventId : EventId) (dto : UpdateEventDto) :
    Decidable (s.edits actorUserId eventId dto) :=
  inferInstanceAs (Decidable (_ ∧ _))

theorem updateEvent_step (s : State) (actorUserId : UserId) (eventId : EventId) (dto : UpdateEventDto) :
    eventStep s (.updateEvent actorUserId eventId dto) =
      if s.edits actorUserId eventId dto then s.withEvents (s.events.modify eventId (Event.patch dto)) else s := by
  have finds := requireExisting_exec s eventId
  rw [eventStep, Flow.exec, updateEvent]
  cases existing : s.existing eventId with
  | none =>
    have refused : ¬ s.edits actorUserId eventId dto := fun edits => by
      have hosted := edits.1
      rw [existing] at hosted
      cases hosted
    rw [existing] at finds
    rw [run_bind_of_error _ finds, if_neg refused]
  | some event =>
    rw [existing] at finds
    rw [run_bind_of_ok _ finds]
    have any : (s.existing eventId).any (fun event => event.hostedBy actorUserId) =
        event.hostedBy actorUserId := by rw [existing, Option.any_some]
    by_cases hosts : event.hostedBy actorUserId = true
    · have permitted : ¬ event.hostedBy actorUserId = false := by
        rw [hosts]
        nofun
      rw [throwIf_of_not permitted, done_bind, call_bind, run_call]
      dsimp only [answer]
      rw [(existing_eq_some.mp existing).1]
      dsimp only
      by_cases refers : s.refers dto.communityId dto.routeId = true
      · have edits : s.edits actorUserId eventId dto := ⟨any.trans hosts, refers⟩
        have fine : ¬ (!s.refers dto.communityId dto.routeId) = true := by
          rw [refers]
          exact Bool.false_ne_true
        rw [if_pos edits, if_neg fine]
        rfl
      · have refused : ¬ s.edits actorUserId eventId dto := fun edits => refers edits.2
        have wrong : (!s.refers dto.communityId dto.routeId) = true := by
          rw [Bool.eq_false_of_not_eq_true refers]
          rfl
        rw [if_neg refused, if_pos wrong]
        rfl
    · have refused : ¬ s.edits actorUserId eventId dto := fun edits => hosts (any.symm.trans edits.1)
      rw [throwIf_of (Bool.eq_false_of_not_eq_true hosts), if_neg refused]
      rfl

def State.deletes (s : State) (actorUserId : UserId) (eventId : EventId) : Prop :=
  (s.existing eventId).any (fun event => decide (event.organizerId = actorUserId)) = true

instance (s : State) (actorUserId : UserId) (eventId : EventId) : Decidable (s.deletes actorUserId eventId) :=
  inferInstanceAs (Decidable (_ = _))

theorem deleteEvent_step (s : State) (actorUserId : UserId) (eventId : EventId) :
    eventStep s (.deleteEvent actorUserId eventId) =
      if s.deletes actorUserId eventId then s.withEvents (s.events.modify eventId (Event.delete s.now)) else s := by
  have finds := requireExisting_exec s eventId
  rw [eventStep, Flow.exec, deleteEvent]
  cases existing : s.existing eventId with
  | none =>
    have refused : ¬ s.deletes actorUserId eventId := fun deletes => by
      rw [State.deletes, existing] at deletes
      cases deletes
    rw [existing] at finds
    rw [run_bind_of_error _ finds, if_neg refused]
  | some event =>
    rw [existing] at finds
    rw [run_bind_of_ok _ finds]
    have deletes_iff : s.deletes actorUserId eventId ↔ event.organizerId = actorUserId := by
      rw [State.deletes, existing, Option.any_some, decide_eq_true_eq]
    by_cases own : event.organizerId = actorUserId
    · have there : ¬ (s.events.find? eventId).isNone = true := by
        rw [(existing_eq_some.mp existing).1]
        exact Bool.false_ne_true
      rw [throwIf_of_not (not_not.mpr own), done_bind, call_bind,
        run_call, done_bind, run_sends]
      dsimp only [answer]
      rw [if_pos (deletes_iff.mpr own), if_neg there]
      rfl
    · rw [throwIf_of own, if_neg (mt deletes_iff.mp own)]
      rfl

/-! ## Reading -/

/-- The call writes nothing. -/
def Reads (request : EventCall) : Prop := ∀ s, (answer request s).2 = s

theorem exec_of_reads {Value : Type} {flow : Flow Value} (reads : flow.Uses Reads) (s : State) :
    (flow.exec s).2 = s := by
  have keeps : ∀ (request : EventCall) (t : State), Reads request → t = s → (answer request t).2 = s :=
    fun request t reads same => (reads t).trans same
  exact Uses.run_keeps answer reads keeps rfl

theorem requireExisting_reads (eventId : EventId) : (requireExisting eventId).Uses Reads := by
  refine Uses.send (fun _ => rfl) fun reply => ?_
  cases reply <;> trivial

theorem checkPrivate_reads (eventId : EventId) (event : Event) (userId : UserId) :
    (checkPrivate eventId event userId).Uses Reads := by
  unfold checkPrivate
  split
  · exact Uses.send (fun _ => rfl) fun reply => uses_throwIf _ _
  · trivial

theorem getDetail_step (s : State) (eventId : EventId) (viewerId : UserId) :
    eventStep s (.getDetail eventId viewerId) = s := by
  refine exec_of_reads ?_ s
  refine (requireExisting_reads eventId).bind fun event => ?_
  refine (checkPrivate_reads eventId event viewerId).bind fun _ => ?_
  exact Uses.send (fun _ => rfl) fun _ => uses_done _

theorem listParticipants_step (s : State) (eventId : EventId) (viewerId : UserId) :
    eventStep s (.listParticipants eventId viewerId) = s := by
  refine exec_of_reads ?_ s
  refine Uses.bind ?_ fun _ => Uses.send (fun _ => rfl) fun _ => uses_done _
  exact (requireExisting_reads eventId).bind fun event => checkPrivate_reads eventId event viewerId

theorem searchEvents_step (s : State) (query : EventSearchQueryDto) : eventStep s (.searchEvents query) = s :=
  rfl

theorem listMine_step (s : State) (userId : UserId) : eventStep s (.listMine userId) = s := rfl

theorem listNearby_step (s : State) (dto : NearbyEventsQueryDto) : eventStep s (.listNearby dto) = s := by
  refine exec_of_reads ?_ s
  refine Uses.send (fun _ => rfl) fun queried => Uses.send (fun _ => rfl) fun now => ?_
  dsimp only
  split
  · exact Uses.send (fun _ => rfl) fun _ => trivial
  · exact Uses.send (fun _ => rfl) fun _ => trivial

/-! ## Participation -/

/-- The status of a request after the check of the capacity. -/
def chosenStatus (limit : Option Nat) (goingCount : Nat) (existing : Option RsvpStatus) (status : RsvpStatus) :
    RsvpStatus :=
  match limit with
  | none => status
  | some max => if status = .going then effectiveStatus goingCount max existing else status

theorem checkCapacity_exec (s : State) (eventId : EventId) (event : Event) (existing : Option RsvpStatus)
    (status : RsvpStatus) :
    (checkCapacity eventId event existing status).exec s =
      (.ok (chosenStatus event.limit (s.going eventId) existing status), s) := by
  unfold checkCapacity chosenStatus
  cases event.limit with
  | none => rfl
  | some max =>
    dsimp only
    split
    · rfl
    · rfl

theorem answer_save_of_ok {existing : Option RsvpStatus} {effective : RsvpStatus}
    (done : s.save eventId userId existing effective = .ok t) :
    answer (.saveTransaction eventId userId existing effective) s = (.ok (), t) := by
  dsimp only [answer]
  rw [done]

theorem answer_save_of_error {existing : Option RsvpStatus} {effective : RsvpStatus} {error : PrismaError}
    (fails : s.save eventId userId existing effective = .error error) :
    answer (.saveTransaction eventId userId existing effective) s = (.error error, s) := by
  dsimp only [answer]
  rw [fails]

theorem answer_leave_of_ok {wasGoing limited : Bool} {promoted : List UserId}
    (done : s.leave eventId userId wasGoing limited = .ok (t, promoted)) :
    answer (.leaveTransaction eventId userId wasGoing limited) s = (.ok promoted, t) := by
  dsimp only [answer]
  rw [done]

theorem answer_leave_of_error {wasGoing limited : Bool} {error : PrismaError}
    (fails : s.leave eventId userId wasGoing limited = .error error) :
    answer (.leaveTransaction eventId userId wasGoing limited) s = (.error error, s) := by
  dsimp only [answer]
  rw [fails]

/-- What `rsvp` does. -/
inductive RsvpEffect (s : State) (userId : UserId) (dto : RsvpEventDto) : State → Prop
  | refused (missing : s.existing dto.eventId = none) : RsvpEffect s userId dto s
  | stays (asks : dto.status = .notGoing) (absent : s.status dto.eventId userId = none) :
      RsvpEffect s userId dto s
  | left (event : Event) (promoted : List UserId) (t : State) (found : s.existing dto.eventId = some event)
      (asks : dto.status = .notGoing)
      (left : Left s t dto.eventId userId (decide (s.status dto.eventId userId = some .going))
        event.limit.isSome promoted) :
      RsvpEffect s userId dto t
  | unknown (asks : dto.status ≠ .notGoing) (absent : s.status dto.eventId userId = none)
      (nobody : s.users.find? userId = none) : RsvpEffect s userId dto s
  | saved (event : Event) (t : State) (found : s.existing dto.eventId = some event)
      (asks : dto.status ≠ .notGoing)
      (saved : Saved s t dto.eventId userId (s.status dto.eventId userId)
        (chosenStatus event.limit (s.going dto.eventId) (s.status dto.eventId userId) dto.status)) :
      RsvpEffect s userId dto t

/-- The ways `rsvp` ends, with the transaction that it has run. -/
inductive RsvpOutcome (s : State) (userId : UserId) (dto : RsvpEventDto) : State → Prop
  | refused (missing : s.existing dto.eventId = none) : RsvpOutcome s userId dto s
  | stays (asks : dto.status = .notGoing) (absent : s.status dto.eventId userId = none) :
      RsvpOutcome s userId dto s
  | left (event : Event) (promoted : List UserId) (t : State) (found : s.existing dto.eventId = some event)
      (asks : dto.status = .notGoing)
      (done : s.leave dto.eventId userId (decide (s.status dto.eventId userId = some .going))
        event.limit.isSome = .ok (t, promoted)) :
      RsvpOutcome s userId dto t
  | unknown (asks : dto.status ≠ .notGoing) (absent : s.status dto.eventId userId = none)
      (nobody : s.users.find? userId = none) : RsvpOutcome s userId dto s
  | saved (event : Event) (t : State) (found : s.existing dto.eventId = some event)
      (asks : dto.status ≠ .notGoing)
      (done : s.save dto.eventId userId (s.status dto.eventId userId)
        (chosenStatus event.limit (s.going dto.eventId) (s.status dto.eventId userId) dto.status) = .ok t) :
      RsvpOutcome s userId dto t

theorem rsvp_outcome (s : State) (userId : UserId) (dto : RsvpEventDto) :
    RsvpOutcome s userId dto (eventStep s (.rsvp userId dto)) := by
  have finds := requireExisting_exec s dto.eventId
  rw [eventStep, Flow.exec, rsvp]
  cases existing : s.existing dto.eventId with
  | none =>
    rw [existing] at finds
    rw [run_bind_of_error _ finds]
    exact .refused existing
  | some event =>
    have there : (s.events.find? dto.eventId).isSome := by
      rw [(existing_eq_some.mp existing).1]
      rfl
    rw [existing] at finds
    rw [run_bind_of_ok _ finds]
    change RsvpOutcome s userId dto (run answer (if dto.status = .notGoing then
      rsvpNotGoing userId dto.eventId event (s.status dto.eventId userId) else _) s).2
    by_cases asks : dto.status = .notGoing
    · rw [if_pos asks]
      cases status : s.status dto.eventId userId with
      | none => exact .stays asks status
      | some was =>
        have present : (s.status dto.eventId userId).isSome := by rw [status, Option.isSome_some]
        obtain ⟨t, promoted, done⟩ := leave_total (decide (was = .going)) event.limit.isSome there present
        rw [rsvpNotGoing, call_bind, run_call]
        dsimp only [answer]
        rw [done]
        refine .left event promoted t existing asks ?_
        have same : decide (s.status dto.eventId userId = some .going) = decide (was = .going) := by
          rw [status, decide_eq_decide, Option.some.injEq]
        rwa [same]
    · rw [if_neg asks]
      have capacity := checkCapacity_exec s dto.eventId event (s.status dto.eventId userId) dto.status
      change RsvpOutcome s userId dto (run answer
        (checkCapacity dto.eventId event (s.status dto.eventId userId) dto.status >>= fun effective => _) s).2
      rw [run_bind_of_ok _ capacity]
      generalize chosen : chosenStatus event.limit (s.going dto.eventId) (s.status dto.eventId userId)
        dto.status = effective at *
      change RsvpOutcome s userId dto (run answer (.call (.saveTransaction dto.eventId userId
        (s.status dto.eventId userId) effective) fun saved => rethrow saved >>= fun _ => _) s).2
      by_cases permitted : (s.status dto.eventId userId).isSome ∨ (s.users.find? userId).isSome
      · obtain ⟨t, done⟩ := save_total effective there permitted
        rw [run_call_of_answer _ (answer_save_of_ok done)]
        refine .saved event t existing asks ?_
        rwa [chosen]
      · rw [not_or, Bool.not_eq_true, Bool.not_eq_true, Option.isSome_eq_false_iff,
          Option.isSome_eq_false_iff, Option.isNone_iff_eq_none, Option.isNone_iff_eq_none] at permitted
        obtain ⟨absent, nobody⟩ := permitted
        cases outcome : s.save dto.eventId userId (s.status dto.eventId userId) effective with
        | ok t =>
          have user := ((save_effect outcome).there absent).1
          rw [nobody] at user
          cases user
        | error error =>
          rw [run_call_of_answer _ (answer_save_of_error outcome)]
          exact .unknown asks absent nobody

theorem rsvp_effect (s : State) (userId : UserId) (dto : RsvpEventDto) :
    RsvpEffect s userId dto (eventStep s (.rsvp userId dto)) := by
  have outcome := rsvp_outcome s userId dto
  generalize eventStep s (.rsvp userId dto) = t at outcome
  cases outcome with
  | refused missing => exact .refused missing
  | stays asks absent => exact .stays asks absent
  | left event promoted t found asks done => exact .left event promoted t found asks (leave_effect done)
  | unknown asks absent nobody => exact .unknown asks absent nobody
  | saved event t found asks done => exact .saved event t found asks (save_effect done)

end Motogram.Events
