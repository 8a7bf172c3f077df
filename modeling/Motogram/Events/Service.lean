import Motogram.Communities.Service
import Motogram.Events.Store

/-!
# The event service

`event.service.ts`. Every function is a program over the calls of the store, in the order of
the source.
-/

set_option autoImplicit false

namespace Motogram.Events

open Foundation Program
open Social (CommunityId MemberStatus RsvpStatus)
open Communities (CommunityMember UserSelect)

/-! ## Exceptions -/

def endBeforeStart : ServiceError :=
  .http .badRequest "endTime must be after startTime" .validationFailed none
def onlyHostsEdit : ServiceError := .http .forbidden "Only organizer or co-hosts may edit" .forbidden none
def eventIsPrivate : ServiceError := .http .forbidden "Event is private" .forbidden none
def onlyOrganizerDeletes : ServiceError := .http .forbidden "Only organizer can delete event" .forbidden none
def eventNotFound : ServiceError := .http .notFound "Event not found" .notFound none
def needsCommunityRole : ServiceError :=
  .http .forbidden "Need OWNER/ADMIN/MODERATOR role in community" .forbidden none

/-! ## Responses -/

def toSummary (eventId : EventId) (event : Event) : EventSummary where
  id := eventId
  title := event.title
  description := event.description
  organizerId := event.organizerId
  communityId := event.communityId
  meetingPointLat := event.meetingPointLat
  meetingPointLng := event.meetingPointLng
  meetingPointName := event.meetingPointName
  startTime := event.startTime
  endTime := event.endTime
  visibility := event.visibility
  difficulty := event.difficulty
  category := event.category
  maxParticipants := event.maxParticipants
  participantsCount := event.participantsCount
  createdAt := event.createdAt

def toDetail (eventId : EventId) (event : Event) (viewerRsvp : Option RsvpStatus) : EventDetail where
  toEventSummary := toSummary eventId event
  rules := event.rules
  routeId := event.routeId
  coHostIds := event.coHostIds
  viewerRsvp := viewerRsvp

/-! ## Checks -/

def requireExisting (eventId : EventId) : Flow Event := do
  let event : Option Event ← call (.eventFindFirst eventId)
  match event with
  | none => .fail eventNotFound
  | some event => pure event

def Event.hostedBy (event : Event) (userId : UserId) : Bool :=
  decide (event.organizerId = userId) || decide (userId ∈ event.coHostIds)

def checkPrivate (eventId : EventId) (event : Event) (userId : UserId) : Flow Unit :=
  if event.visibility = .isPrivate ∧ event.hostedBy userId = false then do
    let participant : Option Participant ← call (.eventParticipantFindUnique eventId userId)
    throwIf (participant.isNone = true) eventIsPrivate
  else pure ()

def assertViewable (eventId : EventId) (userId : UserId) : Flow Unit := do
  let event ← requireExisting eventId
  checkPrivate eventId event userId

/-- The member may make events of the community. -/
def mayHost (member : CommunityMember) : Bool :=
  decide (member.status = .active) && decide (member.role ≠ .member)

def assertCommunityPrivilege (communityId : CommunityId) (userId : UserId) : Flow Unit := do
  let membership : Option CommunityMember ← call (.communityMemberFindUnique communityId userId)
  throwIf (membership.any mayHost = false) needsCommunityRole

/-- `if (dto.communityId)`. -/
def checkCommunity (communityId : Option CommunityId) (userId : UserId) : Flow Unit :=
  match communityId with
  | none => pure ()
  | some communityId => assertCommunityPrivilege communityId userId

/-! ## Events -/

def createEvent (organizerId : UserId) (dto : CreateEventDto) : Flow EventDetail := do
  throwIf ((dto.endTime.any fun endTime => decide (endTime < dto.startTime)) = true) endBeforeStart
  checkCommunity dto.communityId organizerId
  let created : Except PrismaError (EventId × Event) ← call (.createEventTransaction organizerId dto)
  let (eventId, event) ← rethrow created
  pure (toDetail eventId event (some .going))

def updateEvent (actorUserId : UserId) (eventId : EventId) (dto : UpdateEventDto) : Flow EventDetail := do
  let event ← requireExisting eventId
  throwIf (event.hostedBy actorUserId = false) onlyHostsEdit
  let updated : Except PrismaError Event ← call (.eventUpdate eventId dto)
  let event ← rethrow updated
  let viewer : Option Participant ← call (.eventParticipantFindUnique eventId actorUserId)
  pure (toDetail eventId event (viewer.map Participant.rsvpStatus))

def getDetail (eventId : EventId) (viewerId : UserId) : Flow EventDetail := do
  let event ← requireExisting eventId
  checkPrivate eventId event viewerId
  let viewer : Option Participant ← call (.eventParticipantFindUnique eventId viewerId)
  pure (toDetail eventId event (viewer.map Participant.rsvpStatus))

def deleteEvent (actorUserId : UserId) (eventId : EventId) : Flow Unit := do
  let event ← requireExisting eventId
  throwIf (event.organizerId ≠ actorUserId) onlyOrganizerDeletes
  let now : Time ← call .dateNow
  let deleted : Except PrismaError Unit ← call (.eventUpdateDeletedAt eventId now)
  rethrow deleted

/-! ## Participation -/

/-- `if (event.maxParticipants)`: a limit of zero is none. -/
def Event.limit (event : Event) : Option Nat := event.maxParticipants.filter fun max => decide (max ≠ 0)

/-- The status after the check of the capacity. -/
def effectiveStatus (goingCount max : Nat) (existing : Option RsvpStatus) : RsvpStatus :=
  let effectiveCount := if existing = some .going then goingCount else goingCount + 1
  if effectiveCount > max then .waitlist else .going

/-- A NOT_GOING of `rsvp`: the participation is deleted. -/
def rsvpNotGoing (userId : UserId) (eventId : EventId) (event : Event) (existing : Option RsvpStatus) :
    Flow (RsvpStatus × Option (List UserId)) :=
  match existing with
  | none => pure (.notGoing, none)
  | some existing => do
    let left : Except PrismaError (List UserId) ←
      call (.leaveTransaction eventId userId (decide (existing = .going)) event.limit.isSome)
    let promoted ← rethrow left
    pure (.notGoing, some promoted)

/-- A GOING becomes WAITLIST when the event is full. -/
def checkCapacity (eventId : EventId) (event : Event) (existing : Option RsvpStatus) (status : RsvpStatus) :
    Flow RsvpStatus :=
  match event.limit with
  | none => pure status
  | some max =>
    if status = .going then do
      let goingCount : Nat ← call (.eventParticipantCountGoing eventId)
      pure (effectiveStatus goingCount max existing)
    else pure status

/-- `rsvp`: the status and `promotedFromWaitlist`. -/
def rsvp (userId : UserId) (dto : RsvpEventDto) : Flow (RsvpStatus × Option (List UserId)) := do
  let event ← requireExisting dto.eventId
  let participant : Option Participant ← call (.eventParticipantFindUnique dto.eventId userId)
  let existing := participant.map Participant.rsvpStatus
  if dto.status = .notGoing then rsvpNotGoing userId dto.eventId event existing
  else do
    let effective ← checkCapacity dto.eventId event existing dto.status
    let saved : Except PrismaError Unit ← call (.saveTransaction dto.eventId userId existing effective)
    rethrow saved
    pure (effective, some [])

def toParticipantDto (row : UserId × Participant × UserSelect) : EventParticipantDto where
  userId := row.1
  username := row.2.2.username
  avatarUrl := row.2.2.avatarUrl
  rsvpStatus := row.2.1.rsvpStatus
  checkedIn := row.2.1.checkedIn
  joinedAt := row.2.1.joinedAt

def listParticipants (eventId : EventId) (viewerId : UserId) : Flow (List EventParticipantDto) := do
  assertViewable eventId viewerId
  let rows : List (UserId × Participant × UserSelect) ← call (.eventParticipantFindMany eventId)
  pure (rows.map toParticipantDto)

/-! ## Finding -/

/-- `searchEvents`: the items and `nextCursor`. -/
def searchEvents (query : EventSearchQueryDto) : Flow (List EventSummary × Option EventId) := do
  let now : Time ← call .dateNow
  let rows : List (EventId × Event) ←
    call (.eventFindManyMatching (jsTrim query.q) now query.cursor (query.limit + 1))
  let hasMore := decide (rows.length > query.limit)
  let page := if hasMore then rows.take query.limit else rows
  pure (page.map (fun entry => toSummary entry.1 entry.2),
    if hasMore then page.getLast?.map Prod.fst else none)

def listMine (userId : UserId) : Flow (List EventSummary) := do
  let participations : List (EventId × Event) ← call (.eventParticipantFindManyOfUser userId)
  pure ((participations.filter fun entry => entry.2.deletedAt.isNone).map fun entry =>
    toSummary entry.1 entry.2)

/-- `a.distance ?? 0`. -/
def distanceOf (entry : EventSummary × Option ℚ) : ℚ := entry.2.getD 0

/-- `listNearby`; without the functions of PostGIS, or when they find nothing, the public events
that start first. -/
def listNearby (dto : NearbyEventsQueryDto) : Flow (List (EventSummary × Option ℚ)) := do
  let queried : Option (List (EventId × ℚ)) ← call (.queryEventsWithin dto.lat dto.lng dto.radius dto.limit)
  let now : Time ← call .dateNow
  let rows := queried.getD []
  let timeFrom := dto.fromTime.getD now
  if rows = [] then do
    let fallback : List (EventId × Event) ← call (.eventFindManyPublic timeFrom dto.toTime dto.limit)
    pure (fallback.map fun entry => (toSummary entry.1 entry.2, none))
  else do
    let list : List (EventId × Event) ← call (.eventFindManyByIds (rows.map Prod.fst) timeFrom dto.toTime)
    pure ((list.map fun entry => (toSummary entry.1 entry.2, rows.lookup entry.1)).insertionSort
      fun first second => distanceOf first ≤ distanceOf second)

/-! ## A small installation -/

/-- Riders 1 to 4, and a community of rider 1. -/
def smallInstallation : State where
  deployment := Communities.smallDeployment
  now := 0
  fresh := 1
  users := Communities.smallUsers
  routeIds := []
  communityIds := [7]
  communityMembers := Table.empty.insert (7, 1) ⟨.owner, .active, 0⟩
  events := .empty
  participants := .empty

/-- An event with the given visibility, community and limit. -/
def smallEvent (visibility : EventVisibility) (communityId : Option CommunityId) (max : Nat)
    (range : 0 < max ∧ max ≤ 10000) : CreateEventDto where
  title := "ride"
  description := none
  communityId := communityId
  coHostIds := []
  routeId := none
  meetingPointLat := 41
  meetingPointLng := 29
  meetingPointName := "bridge"
  startTime := 100
  endTime := some 200
  visibility := visibility
  difficulty := none
  distance := none
  category := none
  maxParticipants := some max
  rules := none
  maxParticipants_range := by
    rintro bound ⟨⟩
    exact range

end Motogram.Events
