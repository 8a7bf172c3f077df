import Motogram.Location.Service
import Motogram.Party.Service

/-!
# The realtime gateway

`location.gateway.ts`: what the server does when a socket connects, sends a
message or goes away. A message arrives as the payload its schema gives, or as
nothing when the schema rejects it. A socket carries the user and the name that
the handshake put into it.

Joining the room of a party is the gateway's doing, and so is leaving it; the
party service knows nothing of rooms.
-/

set_option autoImplicit false

namespace Motogram

open Foundation

structure WsAck where
  ok : Bool
  ended : Bool
  rateLimited : Bool
  deriving DecidableEq

/-- Send a `party:error` to the socket and answer that the message failed. -/
def replyError (socket : SocketId) (event code : String) (message : WsErrorMessage) :
    Flow WsAck := do
  let _ : Unit ← call (.emit (.client socket ⟨event, code, message⟩))
  pure ⟨false, false, false⟩

/-- `handleConnection`, after the handshake has accepted the token. -/
def handleConnection (socket : SocketId) (userId : UserId) (username : String) : Flow Unit :=
  call (.socketConnect socket userId username)

/-- `handleDisconnect`. Socket.IO has taken the socket out of its rooms. -/
def handleDisconnect (socket : SocketId) : Flow Unit := do
  let data : Option (UserId × String) ← call (.socketDisconnect socket)
  match data with
  | none => pure ()
  | some (userId, _) => do
    let activePartyId : Option PartyId ← call (.getUserParty userId)
    match activePartyId with
    | none => call (.redis (.hsetOffline userId))
    | some partyId => do
      markOffline userId partyId
      call (.redis (.hsetOffline userId))

/-- `handlePartyJoin` for a payload its schema accepts. -/
def joinRoom (deployment : Deployment) (socket : SocketId) (userId : UserId) (partyId : PartyId) :
    Flow WsAck := do
  let _ : Unit ← call (.socketJoin socket partyId)
  clearOfflineMark userId partyId
  let updated : Except PrismaError PartyMember ←
    call (.partyMemberUpdate partyId userId (.hostname deployment.serverHostname))
  let _ ← rethrow updated
  let _ : Unit ← call (.redis (.saddMembers partyId userId))
  pure ⟨true, false, false⟩

def handlePartyJoin (deployment : Deployment) (socket : SocketId) (payload : Option PartyId) :
    Flow WsAck := do
  let data : Option (UserId × String) ← call (.socketData socket)
  match data with
  | none => pure ⟨false, false, false⟩
  | some (userId, _) =>
    match payload with
    | none => replyError socket "party:join" "VALIDATION" .validation
    | some partyId => do
      let member : Option PartyMember ← call (.partyMemberFindUnique partyId userId)
      match member with
      | none => replyError socket "party:join" "NOT_MEMBER" (.text "not a member")
      | some row =>
        if row.leftAt.isSome then
          replyError socket "party:join" "NOT_MEMBER" (.text "not a member")
        else joinRoom deployment socket userId partyId

def handlePartyLeave (socket : SocketId) (payload : Option PartyId) : Flow WsAck := do
  let data : Option (UserId × String) ← call (.socketData socket)
  match data with
  | none => pure ⟨false, false, false⟩
  | some (userId, _) =>
    match payload with
    | none => replyError socket "party:leave" "VALIDATION" .validation
    | some partyId =>
      Program.rescue
        (do
          let result ← leaveParty userId partyId .left
          let _ : Unit ← call (.socketLeave socket partyId)
          pure ⟨true, result.ended, false⟩)
        fun error => replyError socket "party:leave" "FAIL" (.exception error)

/-- The body the gateway hands to the location service. -/
def WsPartyUpdateLocation.toDto (payload : WsPartyUpdateLocation) : UpdateLocationDto where
  lat := payload.lat
  lng := payload.lng
  heading := payload.heading
  speed := payload.speed
  city := none
  partyId := some payload.partyId
  source := some .party

/-- `handlePartyUpdateLocation` once the membership check has passed. -/
def relayLocation (deployment : Deployment) (socket : SocketId) (userId : UserId)
    (payload : WsPartyUpdateLocation) : Flow WsAck := do
  let found : Option User ← call (.userFindUnique userId)
  match found with
  | none => pure ⟨false, false, false⟩
  | some user =>
    if user.isBanned then pure ⟨false, false, false⟩
    else do
      let _ ← updateLocation deployment userId payload.toDto user
      let now : Time ← call .dateNow
      let _ : Unit ← call (.emit (.room (.memberUpdated payload.partyId userId payload.lat
        payload.lng payload.heading payload.speed now) (some socket)))
      pure ⟨true, false, false⟩

/-- `handlePartyUpdateLocation` for a payload its schema accepts. -/
def partyUpdateLocation (deployment : Deployment) (socket : SocketId) (userId : UserId)
    (payload : WsPartyUpdateLocation) : Flow WsAck := do
  let isMember : Bool ← call (.sismemberMembers payload.partyId userId)
  if isMember = false then
    replyError socket "party:update_location" "NOT_MEMBER" (.text "not a member")
  else relayLocation deployment socket userId payload

def handlePartyUpdateLocation (deployment : Deployment) (socket : SocketId)
    (payload : Option WsPartyUpdateLocation) : Flow WsAck := do
  let data : Option (UserId × String) ← call (.socketData socket)
  match data with
  | none => pure ⟨false, false, false⟩
  | some (userId, _) =>
    match payload with
    | none => replyError socket "party:update_location" "VALIDATION" .validation
    | some payload => partyUpdateLocation deployment socket userId payload

def handleSendSignal (socket : SocketId) (payload : Option WsPartySendSignal) : Flow WsAck := do
  let data : Option (UserId × String) ← call (.socketData socket)
  match data with
  | none => pure ⟨false, false, false⟩
  | some (userId, username) =>
    match payload with
    | none => replyError socket "party:send_signal" "VALIDATION" .validation
    | some payload =>
      Program.rescue
        (do
          let result ← recordSignal payload.partyId userId payload.type username
          if result.allowed = false then do
            let _ ← replyError socket "party:send_signal" "4290" (.text "rate_limited")
            pure ⟨false, false, true⟩
          else pure ⟨true, false, false⟩)
        fun error => replyError socket "party:send_signal" "FAIL" (.exception error)

end Motogram
