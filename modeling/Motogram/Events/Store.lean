import Motogram.Communities.Store

/-!
# The stores of the event service

What `event.service.ts` keeps: the events, their participants under the pair of event and user,
and of the other tables what it reads, the memberships in communities and what a list of
participants shows of the users. Communities and routes are only referred to, by their ids.

`EventCall` lists the calls, each of them atomic, and `answer` says what a call replies and
changes. The function `find_events_within` of the database is `State.eventsWithin`.
-/

set_option autoImplicit false

namespace Motogram.Events

open Foundation
open Social (CommunityId MemberStatus RsvpStatus)
open Communities (CommunityMember UserSelect)

/-! ## Rows -/

inductive EventVisibility where
  | isPublic
  | isPrivate
  | groupOnly
  deriving DecidableEq

structure Event where
  title : String
  description : Option String
  organizerId : UserId
  coHostIds : List UserId
  communityId : Option CommunityId
  routeId : Option RouteId
  meetingPointLat : ℚ
  meetingPointLng : ℚ
  meetingPointName : String
  startTime : Time
  endTime : Option Time
  visibility : EventVisibility
  difficulty : Option String
  distance : Option ℚ
  category : Option String
  maxParticipants : Option Nat
  rules : Option String
  participantsCount : Int
  createdAt : Time
  deletedAt : Option Time
  deriving DecidableEq

/-- A participation. Its key, the pair of event and user, is kept by the table. -/
structure Participant where
  rsvpStatus : RsvpStatus
  checkedIn : Bool
  joinedAt : Time
  deriving DecidableEq

/-- The order of `RsvpStatus` in the database. -/
def rsvpRank : RsvpStatus → Nat
  | .going => 0
  | .interested => 1
  | .notGoing => 2
  | .waitlist => 3

/-! ## Requests and responses -/

/-- A body `CreateEventSchema` accepts. -/
structure CreateEventDto where
  title : String
  description : Option String
  communityId : Option CommunityId
  coHostIds : List UserId
  routeId : Option RouteId
  meetingPointLat : ℚ
  meetingPointLng : ℚ
  meetingPointName : String
  startTime : Time
  endTime : Option Time
  visibility : EventVisibility
  difficulty : Option String
  distance : Option ℚ
  category : Option String
  maxParticipants : Option Nat
  rules : Option String
  maxParticipants_range : ∀ max, maxParticipants = some max → 0 < max ∧ max ≤ 10000

/-- A body `UpdateEventSchema` accepts: any of the same fields. -/
structure UpdateEventDto where
  title : Option String
  description : Option String
  communityId : Option CommunityId
  coHostIds : Option (List UserId)
  routeId : Option RouteId
  meetingPointLat : Option ℚ
  meetingPointLng : Option ℚ
  meetingPointName : Option String
  startTime : Option Time
  endTime : Option Time
  visibility : Option EventVisibility
  difficulty : Option String
  distance : Option ℚ
  category : Option String
  maxParticipants : Option Nat
  rules : Option String
  maxParticipants_range : ∀ max, maxParticipants = some max → 0 < max ∧ max ≤ 10000

structure RsvpEventDto where
  eventId : EventId
  status : RsvpStatus
  deriving DecidableEq

structure EventSearchQueryDto where
  q : String
  limit : Nat
  cursor : Option EventId
  deriving DecidableEq

structure NearbyEventsQueryDto where
  lat : ℚ
  lng : ℚ
  radius : ℚ
  limit : Nat
  fromTime : Option Time
  toTime : Option Time
  deriving DecidableEq

structure EventSummary where
  id : EventId
  title : String
  description : Option String
  organizerId : UserId
  communityId : Option CommunityId
  meetingPointLat : ℚ
  meetingPointLng : ℚ
  meetingPointName : String
  startTime : Time
  endTime : Option Time
  visibility : EventVisibility
  difficulty : Option String
  category : Option String
  maxParticipants : Option Nat
  participantsCount : Int
  createdAt : Time
  deriving DecidableEq

structure EventDetail extends EventSummary where
  rules : Option String
  routeId : Option RouteId
  coHostIds : List UserId
  viewerRsvp : Option RsvpStatus
  deriving DecidableEq

structure EventParticipantDto where
  userId : UserId
  username : String
  avatarUrl : Option String
  rsvpStatus : RsvpStatus
  checkedIn : Bool
  joinedAt : Time
  deriving DecidableEq

/-! ## The state -/

/-- What the installation fixes, as for the communities. -/
abbrev Deployment := Communities.Deployment

structure State where
  deployment : Deployment
  now : Time
  fresh : Nat
  users : Table UserId UserSelect
  routeIds : List RouteId
  communityIds : List CommunityId
  communityMembers : Table (CommunityId × UserId) CommunityMember
  events : Table EventId Event
  -- `@@id([eventId, userId])`
  participants : Table (EventId × UserId) Participant

section Setters

variable (s : State)

@[simps -fullyApplied] def State.withEvents (events : Table EventId Event) : State :=
  { s with events := events }

@[simps -fullyApplied] def State.withParticipants (participants : Table (EventId × UserId) Participant) :
    State :=
  { s with participants := participants }

@[simps -fullyApplied] def State.elapsed (milliseconds : Nat) : State :=
  { s with now := s.now + milliseconds }

end Setters

/-! ## Changing the rows -/

/-- The row of a new event, whose organizer is the first participant. -/
def newEvent (now : Time) (organizerId : UserId) (dto : CreateEventDto) : Event where
  title := dto.title
  description := dto.description
  organizerId := organizerId
  coHostIds := dto.coHostIds
  communityId := dto.communityId
  routeId := dto.routeId
  meetingPointLat := dto.meetingPointLat
  meetingPointLng := dto.meetingPointLng
  meetingPointName := dto.meetingPointName
  startTime := dto.startTime
  endTime := dto.endTime
  visibility := dto.visibility
  difficulty := dto.difficulty
  distance := dto.distance
  category := dto.category
  maxParticipants := dto.maxParticipants
  rules := dto.rules
  participantsCount := 1
  createdAt := now
  deletedAt := none

/-- `data: dto`: the fields that are given. -/
def Event.patch (dto : UpdateEventDto) (event : Event) : Event :=
  { event with
    title := dto.title.getD event.title
    description := dto.description.or event.description
    communityId := dto.communityId.or event.communityId
    coHostIds := dto.coHostIds.getD event.coHostIds
    routeId := dto.routeId.or event.routeId
    meetingPointLat := dto.meetingPointLat.getD event.meetingPointLat
    meetingPointLng := dto.meetingPointLng.getD event.meetingPointLng
    meetingPointName := dto.meetingPointName.getD event.meetingPointName
    startTime := dto.startTime.getD event.startTime
    endTime := dto.endTime.or event.endTime
    visibility := dto.visibility.getD event.visibility
    difficulty := dto.difficulty.or event.difficulty
    distance := dto.distance.or event.distance
    category := dto.category.or event.category
    maxParticipants := dto.maxParticipants.or event.maxParticipants
    rules := dto.rules.or event.rules }

def Event.count (change : Int) (event : Event) : Event :=
  { event with participantsCount := event.participantsCount + change }

def Event.delete (at' : Time) (event : Event) : Event := { event with deletedAt := some at' }

def Participant.withStatus (status : RsvpStatus) (participant : Participant) : Participant :=
  { participant with rsvpStatus := status }

/-- A new participation. -/
def newParticipant (now : Time) (status : RsvpStatus) : Participant := ⟨status, false, now⟩

/-- `eventParticipant.create`. -/
def State.createParticipant (s : State) (eventId : EventId) (userId : UserId) (status : RsvpStatus) :
    Except PrismaError State :=
  if (s.participants.find? (eventId, userId)).isSome then .error .uniqueViolation
  else if (s.users.find? userId).isNone || (s.events.find? eventId).isNone then .error .foreignKeyViolation
  else .ok (s.withParticipants (s.participants.insert (eventId, userId) (newParticipant s.now status)))

/-- `eventParticipant.update`. -/
def State.updateParticipant (s : State) (eventId : EventId) (userId : UserId) (status : RsvpStatus) :
    Except PrismaError State :=
  if (s.participants.find? (eventId, userId)).isNone then .error .recordNotFound
  else .ok (s.withParticipants (s.participants.modify (eventId, userId) (Participant.withStatus status)))

/-- `eventParticipant.delete`. -/
def State.deleteParticipant (s : State) (eventId : EventId) (userId : UserId) : Except PrismaError State :=
  if (s.participants.find? (eventId, userId)).isNone then .error .recordNotFound
  else .ok (s.withParticipants (s.participants.erase (eventId, userId)))

/-- `participantsCount: { increment }`. -/
def State.countParticipants (s : State) (eventId : EventId) (change : Int) : Except PrismaError State :=
  if (s.events.find? eventId).isNone then .error .recordNotFound
  else .ok (s.withEvents (s.events.modify eventId (Event.count change)))

def State.participantsWith (s : State) (eventId : EventId) (status : RsvpStatus) :
    List ((EventId × UserId) × Participant) :=
  s.participants.select fun pair participant =>
    decide (pair.1 = eventId) && decide (participant.rsvpStatus = status)

/-- The first of the waitlist: `orderBy: { joinedAt: 'asc' }`. -/
def State.nextWaiting (s : State) (eventId : EventId) : Option UserId :=
  (((s.participantsWith eventId .waitlist).insertionSort fun first second =>
    first.2.joinedAt ≤ second.2.joinedAt).head?).map fun entry => entry.1.2

/-- The first of the waitlist is promoted. -/
def State.promote (s : State) (eventId : EventId) : Except PrismaError (State × List UserId) :=
  match s.nextWaiting eventId with
  | none => .ok (s, [])
  | some next => do
    let promoted ← s.updateParticipant eventId next .going
    let counted ← promoted.countParticipants eventId 1
    .ok (counted, [next])

/-- The transaction of a NOT_GOING, by the status and the limit that were read before it: the
promoted users. -/
def State.leave (s : State) (eventId : EventId) (userId : UserId) (wasGoing limited : Bool) :
    Except PrismaError (State × List UserId) := do
  let left ← s.deleteParticipant eventId userId
  if wasGoing then do
    let counted ← left.countParticipants eventId (-1)
    if limited then counted.promote eventId else .ok (counted, [])
  else .ok (left, [])

/-- What the counter is changed by when a participant goes from one status to the other. -/
def countChange (existing : Option RsvpStatus) (effective : RsvpStatus) : Int :=
  if existing ≠ some .going ∧ effective = .going then 1
  else if existing = some .going ∧ effective ≠ .going then -1
  else 0

/-- The transaction of any other status, by the status that was read before it. -/
def State.save (s : State) (eventId : EventId) (userId : UserId) (existing : Option RsvpStatus)
    (effective : RsvpStatus) : Except PrismaError State := do
  let saved ←
    match existing with
    | some _ => s.updateParticipant eventId userId effective
    | none => s.createParticipant eventId userId effective
  if countChange existing effective = 0 then .ok saved
  else saved.countParticipants eventId (countChange existing effective)

/-! ## Reading the tables -/

def State.going (s : State) (eventId : EventId) : Nat :=
  s.participants.count fun pair participant =>
    decide (pair.1 = eventId) && decide (participant.rsvpStatus = .going)

/-- `find_events_within`: the public events within the radius, the nearest first. -/
def State.eventsWithin (s : State) (point : ℚ × ℚ) (radius : ℚ) : List (EventId × ℚ) :=
  ((s.events.select fun _ event => event.deletedAt.isNone && decide (event.visibility = .isPublic) &&
      s.deployment.stDWithin (event.meetingPointLat, event.meetingPointLng) point radius).map fun entry =>
    (entry.1, s.deployment.stDistance (entry.2.meetingPointLat, entry.2.meetingPointLng) point)).insertionSort
      fun first second => first.2 ≤ second.2

/-- `startTime: { gte, lte }`. -/
def Event.startsBetween (fromTime : Time) (toTime : Option Time) (event : Event) : Bool :=
  decide (fromTime ≤ event.startTime) && toTime.all fun toTime => decide (event.startTime ≤ toTime)

/-- The filter of `searchEvents`: public events that have not ended and contain the text. -/
def Event.found (deployment : Deployment) (text : String) (now : Time) (event : Event) : Bool :=
  event.deletedAt.isNone && decide (event.visibility = .isPublic) &&
    (deployment.containsInsensitive event.title text ||
      event.description.any fun description => deployment.containsInsensitive description text) &&
    (decide (now < event.startTime) ||
      (decide (event.startTime ≤ now) && event.endTime.all fun endTime => decide (now ≤ endTime)))

/-! ## Calls and replies -/

inductive EventCall where
  | eventFindFirst (eventId : EventId)
  | communityMemberFindUnique (communityId : CommunityId) (userId : UserId)
  | createEventTransaction (organizerId : UserId) (dto : CreateEventDto)
  | eventUpdate (eventId : EventId) (dto : UpdateEventDto)
  | eventUpdateDeletedAt (eventId : EventId) (at' : Time)
  | eventParticipantFindUnique (eventId : EventId) (userId : UserId)
  | eventParticipantCountGoing (eventId : EventId)
  | leaveTransaction (eventId : EventId) (userId : UserId) (wasGoing limited : Bool)
  | saveTransaction (eventId : EventId) (userId : UserId) (existing : Option RsvpStatus)
      (effective : RsvpStatus)
  -- lists
  | eventParticipantFindMany (eventId : EventId)
  | eventParticipantFindManyOfUser (userId : UserId)
  | eventFindManyMatching (text : String) (now : Time) (cursor : Option EventId) (take : Nat)
  | queryEventsWithin (lat lng radius : ℚ) (limit : Nat)
  | eventFindManyPublic (fromTime : Time) (toTime : Option Time) (take : Nat)
  | eventFindManyByIds (ids : List EventId) (fromTime : Time) (toTime : Option Time)
  | dateNow
  | elapse (milliseconds : Nat)

@[reducible] def EventReply : EventCall → Type
  | .eventFindFirst _ => Option Event
  | .communityMemberFindUnique _ _ => Option CommunityMember
  | .createEventTransaction _ _ => Except PrismaError (EventId × Event)
  | .eventUpdate _ _ => Except PrismaError Event
  | .eventUpdateDeletedAt _ _ => Except PrismaError Unit
  | .eventParticipantFindUnique _ _ => Option Participant
  | .eventParticipantCountGoing _ => Nat
  | .leaveTransaction _ _ _ _ => Except PrismaError (List UserId)
  | .saveTransaction _ _ _ _ => Except PrismaError Unit
  | .eventParticipantFindMany _ => List (UserId × Participant × UserSelect)
  | .eventParticipantFindManyOfUser _ => List (EventId × Event)
  | .eventFindManyMatching _ _ _ _ => List (EventId × Event)
  | .queryEventsWithin _ _ _ _ => Option (List (EventId × ℚ))
  | .eventFindManyPublic _ _ _ => List (EventId × Event)
  | .eventFindManyByIds _ _ _ => List (EventId × Event)
  | .dateNow => Time
  | .elapse _ => Unit

/-! ## Answers -/

def State.refers (s : State) (communityId : Option CommunityId) (routeId : Option RouteId) : Bool :=
  (communityId.all fun communityId => decide (communityId ∈ s.communityIds)) &&
    routeId.all fun routeId => decide (routeId ∈ s.routeIds)

def answer : (call : EventCall) → State → EventReply call × State
  | .eventFindFirst eventId, s =>
    ((s.events.find? eventId).filter fun event => event.deletedAt.isNone, s)
  | .communityMemberFindUnique communityId userId, s => (s.communityMembers.find? (communityId, userId), s)
  | .createEventTransaction organizerId dto, s =>
    if (s.users.find? organizerId).isNone || !s.refers dto.communityId dto.routeId then
      (.error .foreignKeyViolation, s)
    else
      (.ok (s.fresh, newEvent s.now organizerId dto),
        { s with
          fresh := s.fresh + 1
          events := s.events.insert s.fresh (newEvent s.now organizerId dto)
          participants := s.participants.insert (s.fresh, organizerId) (newParticipant s.now .going) })
  | .eventUpdate eventId dto, s =>
    match s.events.find? eventId with
    | none => (.error .recordNotFound, s)
    | some event =>
      if !s.refers dto.communityId dto.routeId then (.error .foreignKeyViolation, s)
      else (.ok (event.patch dto), s.withEvents (s.events.modify eventId (Event.patch dto)))
  | .eventUpdateDeletedAt eventId at', s =>
    if (s.events.find? eventId).isNone then (.error .recordNotFound, s)
    else (.ok (), s.withEvents (s.events.modify eventId (Event.delete at')))
  | .eventParticipantFindUnique eventId userId, s => (s.participants.find? (eventId, userId), s)
  | .eventParticipantCountGoing eventId, s => (s.going eventId, s)
  | .leaveTransaction eventId userId wasGoing limited, s =>
    match s.leave eventId userId wasGoing limited with
    | .ok (after, promoted) => (.ok promoted, after)
    | .error error => (.error error, s)
  | .saveTransaction eventId userId existing effective, s =>
    match s.save eventId userId existing effective with
    | .ok after => (.ok (), after)
    | .error error => (.error error, s)
  | .eventParticipantFindMany eventId, s =>
    (((s.participants.select fun pair _ => decide (pair.1 = eventId)).insertionSort fun first second =>
        rsvpRank first.2.rsvpStatus < rsvpRank second.2.rsvpStatus ∨
          (rsvpRank first.2.rsvpStatus = rsvpRank second.2.rsvpStatus ∧
            first.2.joinedAt ≤ second.2.joinedAt)).filterMap fun entry =>
      (s.users.find? entry.1.2).map fun user => (entry.1.2, entry.2, user), s)
  | .eventParticipantFindManyOfUser userId, s =>
    (((s.participants.select fun pair participant =>
        decide (pair.2 = userId) && decide (participant.rsvpStatus ≠ .notGoing)).insertionSort
      fun first second => second.2.joinedAt ≤ first.2.joinedAt).filterMap fun entry =>
        (s.events.find? entry.1.1).map fun event => (entry.1.1, event), s)
  | .eventFindManyMatching text now cursor take, s =>
    (((s.events.select fun eventId event => event.found s.deployment text now &&
        cursor.all fun cursor => decide (cursor < eventId)).insertionSort fun first second =>
      first.1 ≤ second.1).take take, s)
  | .queryEventsWithin lat lng radius limit, s =>
    (if s.deployment.postgis then some ((s.eventsWithin (lat, lng) radius).take limit) else none, s)
  | .eventFindManyPublic fromTime toTime take, s =>
    (((s.events.select fun _ event => event.deletedAt.isNone && decide (event.visibility = .isPublic) &&
        event.startsBetween fromTime toTime).insertionSort fun first second =>
      first.2.startTime ≤ second.2.startTime).take take, s)
  | .eventFindManyByIds ids fromTime toTime, s =>
    (s.events.select fun eventId event => decide (eventId ∈ ids) && event.deletedAt.isNone &&
      event.startsBetween fromTime toTime, s)
  | .dateNow, s => (s.now, s)
  | .elapse milliseconds, s => ((), s.elapsed milliseconds)

/-! ## Service functions -/

abbrev Flow (Value : Type) := Program EventCall EventReply ServiceError Value

/-- Run a service function alone. -/
abbrev Flow.exec {Value : Type} (flow : Flow Value) (s : State) :
    Except ServiceError Value × State :=
  Program.run answer flow s

/-- Make one call and return its reply. -/
abbrev call (request : EventCall) : Flow (EventReply request) := .call request .done

def rethrow {Value : Type} (reply : Except PrismaError Value) : Flow Value :=
  match reply with
  | .ok value => .done value
  | .error error => .fail (.prisma error)

end Motogram.Events
