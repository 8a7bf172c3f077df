import Motogram.Events.Access

/-!
# What an event must satisfy

`createEvent` refuses an event that ends before it starts, and an event of a community in which the
organizer is no active owner, admin or moderator. `updateEvent` writes the same fields and checks
neither: it takes any subset of the fields, beside those that stay.

Who has set the community of an event, and whether that user was privileged at that moment, is not
in the database; it is kept beside the state (`Traced`). Memberships may change at any time. Every
event satisfies the demands of `createEvent` throughout a run exactly when every accepted
`updateEvent` of the run meets them on the row that it makes (`terms_hold_iff`).
-/

set_option autoImplicit false

namespace Motogram.Events

open Foundation Function
open Social (CommunityId RsvpStatus)
open Communities (CommunityMember)

/-! ## Who has set the community -/

/-- The state, and for each event who has set its community and whether that user was privileged. -/
structure Traced where
  state : State
  setBy : EventId → Option (UserId × Bool)

/-- An operation of the event service, or a membership changes. -/
inductive TracedOp where
  | event (op : EventOp)
  | membership (communityId : CommunityId) (userId : UserId) (member : Option CommunityMember)

/-- A membership is set, or deleted. -/
def State.withMembership (s : State) (communityId : CommunityId) (userId : UserId)
    (member : Option CommunityMember) : State :=
  { s with
    communityMembers :=
      match member with
      | none => s.communityMembers.erase (communityId, userId)
      | some member => s.communityMembers.put (communityId, userId) member }

def State.sets (s : State) : EventOp → Option (EventId × UserId × CommunityId)
  | .createEvent organizerId dto =>
    if s.creates organizerId dto then dto.communityId.map fun community => (s.fresh, organizerId, community)
    else none
  | .updateEvent actorUserId eventId dto =>
    if s.edits actorUserId eventId dto then dto.communityId.map fun community => (eventId, actorUserId, community)
    else none
  | _ => none

def tracedStep (x : Traced) : TracedOp → Traced
  | .event op =>
    { state := eventStep x.state op
      setBy :=
        match x.state.sets op with
        | none => x.setBy
        | some (eventId, userId, communityId) =>
          update x.setBy eventId (some (userId, x.state.privileged communityId userId)) }
  | .membership communityId userId member =>
    { x with state := x.state.withMembership communityId userId member }

/-! ## The demands -/

def Event.WellTimed (event : Event) : Prop :=
  ∀ endTime, event.endTime = some endTime → event.startTime ≤ endTime

/-- Every event satisfies what `createEvent` demands. -/
def TermsHold (x : Traced) : Prop :=
  ∀ eventId event, x.state.events.find? eventId = some event →
    event.WellTimed ∧ (event.communityId.isSome → ∃ userId, x.setBy eventId = some (userId, true))

/-- An accepted `updateEvent` leaves an end that is not before the start, and is privileged in the
community that it names. -/
def UpdateChecked (x : Traced) (op : TracedOp) : Prop :=
  ∀ actorUserId eventId dto, op = .event (.updateEvent actorUserId eventId dto) →
    x.state.edits actorUserId eventId dto → ∀ event, x.state.events.find? eventId = some event →
      (∀ endTime, dto.endTime.or event.endTime = some endTime → dto.startTime.getD event.startTime ≤ endTime) ∧
        ∀ communityId, dto.communityId = some communityId → x.state.privileged communityId actorUserId = true

variable {s t : State} {eventId : EventId}

/-- What the demands are about. -/
def Event.terms (event : Event) : Time × Option Time × Option CommunityId :=
  (event.startTime, event.endTime, event.communityId)

/-- The events are those that were there, and what the demands are about is as before. -/
def SameTerms (s t : State) : Prop :=
  ∀ eventId event, t.events.find? eventId = some event →
    ∃ before, s.events.find? eventId = some before ∧ event.terms = before.terms

theorem SameTerms.refl (s : State) : SameTerms s s := fun _ event found => ⟨event, found, rfl⟩

theorem Tallies.terms {change : Int} (tallies : Tallies s t eventId change) : SameTerms s t := by
  intro other event found
  rw [tallies other] at found
  obtain ⟨before, there, rfl⟩ := Option.map_eq_some_iff.mp found
  refine ⟨before, there, ?_⟩
  split <;> rfl

theorem delete_terms (s : State) (eventId : EventId) (at' : Time) :
    SameTerms s (s.withEvents (s.events.modify eventId (Event.delete at'))) := by
  intro other event found
  rw [State.withEvents_events, Table.find?_modify] at found
  split at found
  · obtain ⟨before, there, rfl⟩ := Option.map_eq_some_iff.mp found
    exact ⟨before, there, rfl⟩
  · exact ⟨event, found, rfl⟩

/-- `createEvent` and `updateEvent`. -/
def EventOp.writesTerms : EventOp → Bool
  | .createEvent _ _ => true
  | .updateEvent _ _ _ => true
  | _ => false

/-- Only `createEvent` and `updateEvent` write what the demands are about. -/
theorem sameTerms_step (s : State) (op : EventOp) (other : op.writesTerms = false) :
    SameTerms s (eventStep s op) := by
  cases op with
  | createEvent | updateEvent => cases other
  | deleteEvent actorUserId eventId =>
    rw [deleteEvent_step]
    split
    · exact delete_terms s eventId _
    · exact SameTerms.refl s
  | rsvp userId dto =>
    have effect := rsvp_effect s userId dto
    generalize eventStep s (.rsvp userId dto) = t at effect
    cases effect with
    | refused missing => exact SameTerms.refl s
    | stays asks absent => exact SameTerms.refl s
    | left own promoted after found asks left =>
      cases left with
      | vacated moves tallies rest present nobody => exact tallies.terms
      | replaced mid next freed bounded moves waits promotes tallies rest present => exact tallies.terms
    | unknown asks absent nobody => exact SameTerms.refl s
    | saved own after found asks saved => exact saved.tallies.terms
  | getDetail eventId viewerId => rw [getDetail_step]; exact SameTerms.refl s
  | listParticipants eventId viewerId => rw [listParticipants_step]; exact SameTerms.refl s
  | searchEvents query => exact SameTerms.refl s
  | listMine userId => exact SameTerms.refl s
  | listNearby dto => rw [listNearby_step]; exact SameTerms.refl s
  | elapse milliseconds => exact SameTerms.refl s

/-! ## Every operation -/

/-- The demands, in a state that keeps its own. -/
structure Sound (x : Traced) : Prop where
  counted : x.state.Counted
  terms : TermsHold x

variable {x : Traced}

theorem newEvent_wellTimed {organizerId : UserId} {dto : CreateEventDto} (creates : s.creates organizerId dto)
    (now : Time) : (newEvent now organizerId dto).WellTimed := by
  intro endTime ends
  have early := creates.1
  change dto.endTime = some endTime at ends
  rw [ends, Option.any_some, decide_eq_false_iff_not] at early
  exact Nat.not_lt.mp early

theorem Sound.createEvent (sound : Sound x) (organizerId : UserId) (dto : CreateEventDto) :
    TermsHold (tracedStep x (.event (.createEvent organizerId dto))) := by
  by_cases creates : x.state.creates organizerId dto
  · have sets : x.state.sets (.createEvent organizerId dto) =
        dto.communityId.map fun community => (x.state.fresh, organizerId, community) := if_pos creates
    intro eventId event found
    dsimp only [tracedStep] at found ⊢
    rw [createEvent_step, if_pos creates, find?_created sound.counted] at found
    rw [sets]
    by_cases new : eventId = x.state.fresh
    · rw [if_pos new] at found
      cases found
      refine ⟨newEvent_wellTimed creates _, fun names => ?_⟩
      have privileged := creates.2.1
      change dto.communityId.isSome at names
      obtain ⟨communityId, named⟩ := Option.isSome_iff_exists.mp names
      rw [named, Option.all_some] at privileged
      refine ⟨organizerId, ?_⟩
      rw [named, Option.map_some, new]
      dsimp only
      rw [update_self, privileged]
    · rw [if_neg new] at found
      obtain ⟨timed, privileged⟩ := sound.terms eventId event found
      refine ⟨timed, fun names => ?_⟩
      cases dto.communityId with
      | none => exact privileged names
      | some communityId =>
        rw [Option.map_some]
        dsimp only
        rw [update_of_ne new]
        exact privileged names
  · have sets : x.state.sets (.createEvent organizerId dto) = none := if_neg creates
    intro eventId event found
    dsimp only [tracedStep] at found ⊢
    rw [createEvent_step, if_neg creates] at found
    rw [sets]
    exact sound.terms eventId event found

/-- The row that an accepted `updateEvent` makes, and who has set its community. -/
theorem updateEvent_traced {actorUserId : UserId} {eventId : EventId} {dto : UpdateEventDto}
    (edits : x.state.edits actorUserId eventId dto) :
    (tracedStep x (.event (.updateEvent actorUserId eventId dto))).state.events =
        x.state.events.modify eventId (Event.patch dto) ∧
      (tracedStep x (.event (.updateEvent actorUserId eventId dto))).setBy =
        match dto.communityId with
        | none => x.setBy
        | some communityId =>
          update x.setBy eventId (some (actorUserId, x.state.privileged communityId actorUserId)) := by
  have sets : x.state.sets (.updateEvent actorUserId eventId dto) =
      dto.communityId.map fun community => (eventId, actorUserId, community) := if_pos edits
  dsimp only [tracedStep]
  rw [updateEvent_step, if_pos edits, sets]
  refine ⟨rfl, ?_⟩
  cases dto.communityId <;> rfl

theorem Sound.updateEvent (sound : Sound x) (actorUserId : UserId) (eventId : EventId) (dto : UpdateEventDto)
    (met : UpdateChecked x (.event (.updateEvent actorUserId eventId dto))) :
    TermsHold (tracedStep x (.event (.updateEvent actorUserId eventId dto))) := by
  by_cases edits : x.state.edits actorUserId eventId dto
  · obtain ⟨events, setBy⟩ := updateEvent_traced edits
    intro other event found
    rw [events, Table.find?_modify] at found
    rw [setBy]
    by_cases same : other = eventId
    · rw [if_pos same] at found
      obtain ⟨before, there, rfl⟩ := Option.map_eq_some_iff.mp found
      cases same
      obtain ⟨times, privileged⟩ := met actorUserId eventId dto rfl edits before there
      refine ⟨times, fun names => ?_⟩
      cases community : dto.communityId with
      | none =>
        change (dto.communityId.or before.communityId).isSome at names
        rw [community] at names
        exact (sound.terms eventId before there).2 names
      | some communityId =>
        refine ⟨actorUserId, ?_⟩
        dsimp only
        rw [update_self, privileged communityId community]
    · rw [if_neg same] at found
      obtain ⟨timed, privileged⟩ := sound.terms other event found
      refine ⟨timed, fun names => ?_⟩
      cases dto.communityId with
      | none => exact privileged names
      | some communityId =>
        dsimp only
        rw [update_of_ne same]
        exact privileged names
  · have sets : x.state.sets (.updateEvent actorUserId eventId dto) = none := if_neg edits
    intro other event found
    dsimp only [tracedStep] at found ⊢
    rw [updateEvent_step, if_neg edits] at found
    rw [sets]
    exact sound.terms other event found

theorem tracedStep_of_sets {op : EventOp} (nothing : x.state.sets op = none) :
    tracedStep x (.event op) = ⟨eventStep x.state op, x.setBy⟩ := by
  dsimp only [tracedStep]
  rw [nothing]

theorem TermsHold.of_same {y : Traced} (terms : TermsHold x) (same : SameTerms x.state y.state)
    (setBy : y.setBy = x.setBy) : TermsHold y := by
  intro eventId event found
  obtain ⟨before, there, equal⟩ := same eventId event found
  obtain ⟨timed, privileged⟩ := terms eventId before there
  obtain ⟨starts, rest⟩ := Prod.mk.inj equal
  obtain ⟨ends, community⟩ := Prod.mk.inj rest
  refine ⟨fun endTime is => ?_, fun names => ?_⟩
  · rw [starts]
    exact timed endTime (ends ▸ is)
  · rw [setBy]
    exact privileged (community ▸ names)

theorem Sound.other (sound : Sound x) {op : EventOp} (nothing : x.state.sets op = none)
    (other : op.writesTerms = false) : TermsHold (tracedStep x (.event op)) := by
  have same := sameTerms_step x.state op other
  rw [tracedStep_of_sets nothing]
  exact sound.terms.of_same same rfl

theorem Sound.step (sound : Sound x) (op : TracedOp) (met : UpdateChecked x op) : Sound (tracedStep x op) := by
  cases op with
  | membership communityId userId member =>
    have counted := sound.counted
    exact ⟨⟨counted.counts, counted.limits, counted.fresh, counted.known⟩, sound.terms⟩
  | event op =>
    refine ⟨sound.counted.step op, ?_⟩
    cases op with
    | createEvent organizerId dto => exact sound.createEvent organizerId dto
    | updateEvent actorUserId eventId dto => exact sound.updateEvent actorUserId eventId dto met
    | _ => exact sound.other rfl rfl

theorem not_termsHold (op : TracedOp) (unmet : ¬ UpdateChecked x op) : ¬ TermsHold (tracedStep x op) := by
  intro terms
  refine unmet ?_
  rintro actorUserId eventId dto rfl edits event found
  obtain ⟨events, setBy⟩ := updateEvent_traced edits
  have after : (tracedStep x (.event (.updateEvent actorUserId eventId dto))).state.events.find? eventId =
      some (event.patch dto) := by
    rw [events, Table.find?_modify_self, found, Option.map_some]
  obtain ⟨timed, privileged⟩ := terms eventId _ after
  refine ⟨timed, fun communityId named => ?_⟩
  have names : (event.patch dto).communityId.isSome := by
    change (dto.communityId.or event.communityId).isSome
    rw [named]
    rfl
  obtain ⟨userId, set⟩ := privileged names
  rw [setBy, named] at set
  dsimp only at set
  rw [update_self] at set
  exact (Prod.mk.inj (Option.some.inj set)).2

/-- **Every event satisfies what `createEvent` demands exactly as long as every accepted `updateEvent`
checks it.** -/
theorem terms_hold_iff (empty : s.NoEvents) (setBy : EventId → Option (UserId × Bool)) (ops : List TracedOp) :
    Throughout tracedStep TermsHold ⟨s, setBy⟩ ops ↔ EachStep tracedStep UpdateChecked ⟨s, setBy⟩ ops := by
  have start : Sound ⟨s, setBy⟩ := by
    refine ⟨empty.counted, fun eventId event found => ?_⟩
    rw [empty.1] at found
    cases found
  refine throughout_iff_eachStep ?_ ?_ ?_ start ops
  · exact fun x sound => sound.terms
  · exact fun x op sound met => sound.step op met
  · exact fun x op _ unmet => not_termsHold op unmet

/-- A body that changes the times, or the community, and nothing else. -/
def smallUpdate (endTime : Option Time) (communityId : Option CommunityId) : UpdateEventDto where
  title := none
  description := none
  communityId := communityId
  coHostIds := none
  routeId := none
  meetingPointLat := none
  meetingPointLng := none
  meetingPointName := none
  startTime := none
  endTime := endTime
  visibility := none
  difficulty := none
  distance := none
  category := none
  maxParticipants := none
  rules := none
  maxParticipants_range := nofun

theorem terms_hold_small :
    let ops := [.event (.createEvent 1 (smallEvent .isPublic (some 7) 5 (by decide))),
      .event (.updateEvent 1 1 (smallUpdate (some 150) none))]
    Throughout tracedStep TermsHold ⟨smallInstallation, fun _ => none⟩ ops ↔
      EachStep tracedStep UpdateChecked ⟨smallInstallation, fun _ => none⟩ ops :=
  terms_hold_iff ⟨rfl, rfl⟩ _ _

/-- Rider 2 makes an event and puts it into the community of rider 1, to end before it starts. -/
theorem update_unchecked :
    ¬ Throughout tracedStep TermsHold ⟨smallInstallation, fun _ => none⟩
      [.event (.createEvent 2 (smallEvent .isPublic none 5 (by decide))),
        .event (.updateEvent 2 1 (smallUpdate (some 50) (some 7)))] := by
  intro holds
  have found : (follow tracedStep ⟨smallInstallation, fun _ => none⟩
      [.event (.createEvent 2 (smallEvent .isPublic none 5 (by decide))),
        .event (.updateEvent 2 1 (smallUpdate (some 50) (some 7)))]).state.events.find? 1 =
      some ((newEvent 0 2 (smallEvent .isPublic none 5 (by decide))).patch (smallUpdate (some 50) (some 7))) := by
    decide +kernel
  obtain ⟨timed, -⟩ := holds.last 1 _ found
  have early := timed 50 rfl
  revert early
  decide +kernel

end Motogram.Events
