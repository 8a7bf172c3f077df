import Motogram.Party.Election

/-!
# The party service

`party.service.ts`, function by function. Every function is a program over the
calls of the store, in the order of the source; the exceptions carry the texts
and codes of the source.

`leaveParty` is written in stages, one for each point between two calls at which
the source can be interrupted: `leaveParty` reads the party, `leaveAsMember`
closes the membership, `replaceLeader` runs the election and `installLeader`
writes its winner.
-/

set_option autoImplicit false

namespace Motogram

open Foundation Program

/-! ## Exceptions -/

def partyNotFound : ServiceError := .http .notFound "party_not_found" .notFound none
def partyFull : ServiceError := .http .conflict "party_full" .conflict none
def userAlreadyInParty (partyId : PartyId) : ServiceError :=
  .http .conflict "user_already_in_party" .conflict (some partyId)
def inviteRequired : ServiceError := .http .forbidden "invite_required" .forbidden none
def partyCreateRateLimited : ServiceError :=
  .http .forbidden "party_create_rate_limited" .forbidden none
def routeNotFound : ServiceError := .http .notFound "route_not_found" .notFound none
def notMember : ServiceError := .http .badRequest "not_member" .validationFailed none
def notMemberForbidden : ServiceError := .http .forbidden "not_member" .forbidden none
def partyEnded : ServiceError := .http .badRequest "party_ended" .validationFailed none
def notLeader : ServiceError := .http .forbidden "not_leader" .forbidden none
def inviteNotFound : ServiceError := .http .notFound "invite_not_found" .notFound none
def inviteResolved : ServiceError := .http .badRequest "invite_resolved" .validationFailed none

/-! ## Helpers -/

/-- `RedisService.incrementActionCount`. -/
def incrementActionCount (key : CounterKey) (windowSeconds : Nat) : Flow Nat := do
  let count : Nat ← call (.incr key)
  if count = 1 then do
    let _ : Unit ← call (.expireCounter key windowSeconds)
    pure count
  else pure count

def findActivePartyForUser (userId : UserId) : Flow (Option (PartyId × PartyRole)) :=
  call (.partyMemberFindFirstActive userId)

def toSummary (partyId : PartyId) (party : Party) (memberCount : Nat) : PartySummary where
  id := partyId
  name := party.name
  leaderId := party.leaderId
  coLeaderIds := party.coLeaderIds
  status := party.status
  routeId := party.routeId
  memberCount := memberCount
  isPrivate := party.isPrivate
  maxMembers := party.maxMembers
  startedAt := party.startedAt
  endedAt := party.endedAt
  createdAt := party.createdAt

/-- The response body of a membership row and its user. A user that is gone
counts as one without a name. -/
def memberDto (userId : UserId) (row : PartyMember) (user : Option User) : PartyMemberDto where
  userId := userId
  username := (user.map User.username).getD ""
  avatarUrl := user.bind User.avatarUrl
  role := row.role
  isOnline := row.isOnline
  joinedAt := row.joinedAt

def toMemberDto (userId : UserId) (member : PartyMember) : Flow PartyMemberDto := do
  let user : Option User ← call (.userFindUnique userId)
  pure (memberDto userId member user)

def routeSummary (entry : RouteId × Route) : RouteSummary where
  id := entry.1
  name := entry.2.name
  distance := entry.2.distance
  estimatedDuration := entry.2.estimatedDuration
  waypoints := entry.2.waypoints
  privacy := entry.2.privacy

def partyDetail (partyId : PartyId) (row : PartyDetailRow) : PartyDetail where
  toPartySummary := toSummary partyId row.party row.members.length
  route := row.route.map routeSummary
  members := row.members.map fun entry => memberDto entry.1 entry.2.1 (some entry.2.2)

def getPartyDetail (partyId : PartyId) : Flow PartyDetail := do
  let found : Option PartyDetailRow ← call (.partyFindUniqueDetail partyId)
  match found with
  | none => .fail partyNotFound
  | some row => pure (partyDetail partyId row)

/-! ## Create -/

/-- The route of a new party, when one is named, exists. -/
def requireRoute (routeId : Option RouteId) : Flow Unit :=
  match routeId with
  | none => pure ()
  | some routeId => do
    let route : Option Route ← call (.routeFindUnique routeId)
    throwIf (∀ found ∈ route, found.deletedAt.isSome) routeNotFound

/-- `createParty`. The id is the fresh UUID the database gives the row. -/
def createParty (leaderId : UserId) (partyId : PartyId) (dto : CreatePartyDto) :
    Flow PartySummary := do
  let count ← incrementActionCount (.partyCreate leaderId) partyCreateLimitWindowSeconds
  throwIf (count > partyCreateLimitPerHour) partyCreateRateLimited
  let existing ← findActivePartyForUser leaderId
  match existing with
  | some (other, _) => .fail (userAlreadyInParty other)
  | none => do
    requireRoute dto.routeId
    let created : Except PrismaError Party ← call (.createPartyTransaction partyId leaderId dto)
    let party ← rethrow created
    let _ : Unit ← call (.multi [.saddMembers partyId leaderId, .saddActiveParty partyId,
      .setUserParty leaderId partyId])
    pure (toSummary partyId party 1)

/-! ## Join -/

/-- The active rows of a party as a function read them. -/
def PartyWithMembers.activeMembers (found : PartyWithMembers) : List (UserId × PartyMember) :=
  found.members.filter fun entry => entry.2.leftAt.isNone

def requireInvite (userId : UserId) (partyId : PartyId) (party : Party) : Flow Unit :=
  if party.isPrivate then do
    let invite : Option PartyInvite ← call (.partyInviteFindByInvitee partyId userId)
    throwIf (∀ found ∈ invite, found.status ≠ .pending) inviteRequired
  else pure ()

/-- The membership row is reactivated when it is active already, and inserted
otherwise. -/
def writeMembership (userId : UserId) (partyId : PartyId) (found : PartyWithMembers) :
    Flow PartyMember :=
  if found.activeMembers.any fun entry => decide (entry.1 = userId) then do
    let updated : Except PrismaError PartyMember ←
      call (.partyMemberUpdate partyId userId .rejoin)
    rethrow updated
  else do
    let created : Except PrismaError PartyMember ←
      call (.partyMemberCreate partyId userId .member)
    rethrow created

/-- The end of `joinParty`, from the written row on. -/
def completeJoin (userId : UserId) (partyId : PartyId) (isPrivate : Bool) (member : PartyMember) :
    Flow PartyDetail := do
  if isPrivate then do
    let _ : Unit ← call (.partyInviteAcceptPending partyId userId)
  let _ : Unit ← call (.multi [.saddMembers partyId userId, .setUserParty userId partyId])
  let dto ← toMemberDto userId member
  let _ : Unit ← call (.emit (.room (.memberJoined partyId dto) none))
  getPartyDetail partyId

/-- The second half of `joinParty`, from the write of the row on. -/
def joinAdmitted (userId : UserId) (partyId : PartyId) (found : PartyWithMembers) :
    Flow PartyDetail := do
  let member ← writeMembership userId partyId found
  completeJoin userId partyId found.party.isPrivate member

def joinParty (userId : UserId) (partyId : PartyId) : Flow PartyDetail := do
  let read : Option PartyWithMembers ← call (.partyFindUniqueWithMembers partyId)
  match read with
  | none => .fail partyNotFound
  | some found => do
    throwIf (found.party.deletedAt.isSome ∨ found.party.status = .ended) partyNotFound
    throwIf (found.activeMembers.length ≥ found.party.maxMembers) partyFull
    let other ← findActivePartyForUser userId
    match other with
    | some (otherId, _) => do
      throwIf (otherId ≠ partyId) (userAlreadyInParty otherId)
      requireInvite userId partyId found.party
      joinAdmitted userId partyId found
    | none => do
      requireInvite userId partyId found.party
      joinAdmitted userId partyId found

/-! ## End -/

/-- The Redis block of `endParty`, with the members it read before. -/
def endFlush (partyId : PartyId) (memberIds : List UserId) : List RedisCommand :=
  [.delMembers partyId, .delMeta partyId, .delZombieWatch partyId, .sremActiveParty partyId] ++
    memberIds.map .delUserParty

def endParty (partyId : PartyId) (reason : EndReason) : Flow Unit := do
  let found : Option Party ← call (.partyFindUnique partyId)
  match found with
  | none => pure ()
  | some party =>
    if party.status = .ended then pure ()
    else do
      let ended : Except PrismaError Unit ← call (.endPartyTransaction partyId)
      rethrow ended
      let memberIds : List UserId ← call (.smembersMembers partyId)
      let _ : Unit ← call (.multi (endFlush partyId memberIds))
      let _ : Unit ← call (.emit (.room (.statusChanged partyId .ended) none))
      let _ : Unit ← call (.emit (.room (.ended partyId reason) none))
      pure ()

/-! ## Leave -/

/-- The rows that remain when the user leaves, as the leaving user read them. -/
def PartyWithMembers.remaining (found : PartyWithMembers) (userId : UserId) :
    List (UserId × PartyMember) :=
  found.members.filter fun entry => decide (entry.1 ≠ userId) && entry.2.leftAt.isNone

def PartyMemberLite.ofRow (entry : UserId × PartyMember) : PartyMemberLite :=
  ⟨entry.1, entry.2.joinedAt, entry.2.leftAt, entry.2.isOnline⟩

def PartyWithMembers.candidates (found : PartyWithMembers) (userId : UserId) :
    List PartyMemberLite :=
  (found.remaining userId).map .ofRow

def PartyWithMembers.electionInput (found : PartyWithMembers) (partyId : PartyId)
    (userId : UserId) : ElectionInput where
  partyId := partyId
  coLeaderIds := found.party.coLeaderIds
  onlineMembers := (found.candidates userId).filter PartyMemberLite.isOnline

/-- The candidate who joined first, online or not. -/
def oldestCandidate (candidates : List PartyMemberLite) : Option UserId :=
  ((sortByDate PartyMemberLite.joinedAt candidates).head?).map PartyMemberLite.userId

/-- The end of `leaveParty` after a won election. -/
def installLeader (partyId : PartyId) (newLeaderId : UserId) : Flow LeaveResult := do
  let changed : Except PrismaError Unit ← call (.changeLeaderTransaction partyId newLeaderId)
  rethrow changed
  let _ : Unit ← call (.emit (.room (.leaderChanged partyId newLeaderId .leaderLeft) none))
  let _ ← release partyId newLeaderId
  pure ⟨false, some newLeaderId⟩

/-- The end of `leaveParty` after an election that gave no leader or no lock: a
fallback is named in the result. -/
def leaveWithoutElection (partyId : PartyId) (candidates : List PartyMemberLite)
    (newLeaderId : Option UserId) : Flow LeaveResult :=
  match newLeaderId.or (oldestCandidate candidates) with
  | none => do
    endParty partyId .leaderLeftAlone
    pure ⟨true, none⟩
  | some fallback => pure ⟨false, some fallback⟩

def replaceLeader (userId : UserId) (partyId : PartyId) (found : PartyWithMembers) :
    Flow LeaveResult :=
  if (found.remaining userId).isEmpty then do
    endParty partyId .leaderLeftAlone
    pure ⟨true, none⟩
  else do
    let election ← elect (found.electionInput partyId userId)
    match election.locked, election.newLeaderId with
    | true, some newLeaderId => installLeader partyId newLeaderId
    | _, newLeaderId => leaveWithoutElection partyId (found.candidates userId) newLeaderId

/-- `leaveParty` from the write that closes the membership on. -/
def leaveAsMember (userId : UserId) (partyId : PartyId) (reason : LeaveReason)
    (found : PartyWithMembers) : Flow LeaveResult := do
  let updated : Except PrismaError PartyMember ← call (.partyMemberUpdate partyId userId .leave)
  let _ ← rethrow updated
  let _ : Unit ← call (.multi [.sremMembers partyId userId, .delUserParty userId])
  let _ : Unit ← call (.emit (.room (.memberLeft partyId userId reason) none))
  if found.party.leaderId ≠ userId then pure ⟨false, none⟩
  else replaceLeader userId partyId found

/-- Whether the rows that were read hold an active row of the user. -/
def PartyWithMembers.isMember (found : PartyWithMembers) (userId : UserId) : Bool :=
  match found.members.find? fun entry => decide (entry.1 = userId) with
  | none => false
  | some entry => entry.2.leftAt.isNone

def leaveParty (userId : UserId) (partyId : PartyId) (reason : LeaveReason) : Flow LeaveResult := do
  let read : Option PartyWithMembers ← call (.partyFindUniqueWithMembers partyId)
  match read with
  | none => .fail partyNotFound
  | some found => do
    throwIf found.party.deletedAt.isSome partyNotFound
    if found.party.status = .ended then pure ⟨true, none⟩
    else do
      throwIf (found.isMember userId = false) notMember
      leaveAsMember userId partyId reason found

/-! ## Signal -/

structure SignalResult where
  allowed : Bool
  count : Nat
  deriving DecidableEq

def recordSignal (partyId : PartyId) (senderId : UserId) (type : PartySignalType)
    (senderName : String) : Flow SignalResult := do
  let count ← incrementActionCount (.partySignal senderId) 60
  if count > signalRatePerMinute then pure ⟨false, count⟩
  else do
    let isMember : Bool ← call (.sismemberMembers partyId senderId)
    throwIf (isMember = false) notMemberForbidden
    let now : Time ← call .dateNow
    let _ : Unit ← call (.emit (.room (.signalReceived partyId type senderId senderName now) none))
    pure ⟨true, count⟩

/-! ## Invite -/

structure InviteResult where
  created : Nat
  skipped : Nat
  deriving DecidableEq

/-- The loop of `invite`; each invitee comes with the id its row would get. -/
def inviteEach (inviterId : UserId) (partyId : PartyId) (partyName : String) :
    List (UserId × InviteId) → InviteResult → Flow InviteResult
  | [], result => pure result
  | (inviteeId, inviteId) :: rest, result =>
    if inviteeId = inviterId then
      inviteEach inviterId partyId partyName rest { result with skipped := result.skipped + 1 }
    else do
      let existing : Option PartyInvite ← call (.partyInviteFindByInvitee partyId inviteeId)
      match existing with
      | some _ =>
        inviteEach inviterId partyId partyName rest { result with skipped := result.skipped + 1 }
      | none => do
        let created : Except PrismaError Unit ←
          call (.partyInviteCreate inviteId partyId inviterId inviteeId)
        rethrow created
        let _ : Unit ← call (.notificationCreate ⟨inviteeId, partyId, partyName, inviterId⟩)
        inviteEach inviterId partyId partyName rest { result with created := result.created + 1 }

def invite (inviterId : UserId) (partyId : PartyId) (invitees : List (UserId × InviteId)) :
    Flow InviteResult := do
  let read : Option PartyWithMembers ← call (.partyFindUniqueWithMembers partyId)
  match read with
  | none => .fail partyNotFound
  | some found => do
    throwIf found.party.deletedAt.isSome partyNotFound
    throwIf (found.party.status = .ended) partyEnded
    throwIf (¬ (found.party.leaderId = inviterId ∨ inviterId ∈ found.party.coLeaderIds))
      notLeader
    inviteEach inviterId partyId found.party.name invitees ⟨0, 0⟩

structure RespondResult where
  joined : Bool
  partyId : Option PartyId
  deriving DecidableEq

def respondInvite (userId : UserId) (inviteId : InviteId) (accept : Bool) : Flow RespondResult := do
  let found : Option PartyInvite ← call (.partyInviteFindUnique inviteId)
  match found with
  | none => .fail inviteNotFound
  | some invite => do
    throwIf (invite.inviteeId ≠ userId) inviteNotFound
    throwIf (invite.status ≠ .pending) inviteResolved
    if accept then do
      let _ ← joinParty userId invite.partyId
      pure ⟨true, some invite.partyId⟩
    else do
      let declined : Except PrismaError Unit ← call (.partyInviteDecline inviteId)
      rethrow declined
      pure ⟨false, none⟩

/-! ## Zombie watch -/

def markOffline (userId : UserId) (partyId : PartyId) : Flow Unit := do
  let now : Time ← call .dateNow
  let _ : Unit ← call (.redis (.zaddZombieWatch partyId now userId))
  call (.partyMemberUpdateManyActive partyId userId .offline)

def clearOfflineMark (userId : UserId) (partyId : PartyId) : Flow Unit := do
  let _ : Unit ← call (.redis (.zremZombieWatch partyId userId))
  call (.partyMemberUpdateManyActive partyId userId .online)

/-- One turn of the inner loop of the sweep; an exception is logged and the turn
counts nothing. -/
def sweepMember (partyId : PartyId) (userId : UserId) : Flow Nat :=
  rescue
    (do
      let _ ← leaveParty userId partyId .disconnectTimeout
      let _ : Unit ← call (.redis (.zremZombieWatch partyId userId))
      pure 1)
    fun _ => pure 0

def sweepMembers (partyId : PartyId) : List UserId → Flow Nat
  | [] => pure 0
  | userId :: rest => do
    let removed ← sweepMember partyId userId
    let more ← sweepMembers partyId rest
    pure (removed + more)

def sweepParties (threshold : Int) : List PartyId → Flow Nat
  | [] => pure 0
  | partyId :: rest => do
    let stale : List UserId ← call (.zrangebyscoreZombieWatch partyId threshold)
    let removed ← sweepMembers partyId stale
    let more ← sweepParties threshold rest
    pure (removed + more)

def sweepZombieMembers : Flow Nat := do
  let now : Time ← call .dateNow
  let activePartyIds : List PartyId ← call .smembersActiveParties
  sweepParties ((now : Int) - (zombieOfflineSeconds * 1000 : Nat)) activePartyIds

end Motogram
