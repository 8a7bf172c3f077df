import Mathlib.Logic.Function.Basic
import Motogram.Entities

/-!
# The party store of the mobile client

`usePartyStore` of `party.store.ts` and the listeners that `useParty` registers. A
reducer is a function on the store; a listener drops an event of another party and
hands the others to a reducer.

An event of a party arrives at a socket when the gateway has sent it to the room and
has not spared that socket.
-/

set_option autoImplicit false

namespace Motogram

/-- Where a member was last. -/
structure LiveMemberState where
  userId : UserId
  lat : ℚ
  lng : ℚ
  heading : Option ℚ
  speed : Option ℚ
  timestamp : Time
  deriving DecidableEq

structure PartySignalToast where
  id : UserId × Time × PartySignalType
  partyId : PartyId
  senderId : UserId
  senderName : String
  type : PartySignalType
  timestamp : Time
  deriving DecidableEq

/-- `usePartyStore`. -/
structure PartyStore where
  party : Option PartyDetail
  liveMembers : UserId → Option LiveMemberState
  recentSignals : List PartySignalToast

namespace PartyStore

/-- `setParty`; the live members and the signals of the last party go. -/
def setParty (_ : PartyStore) (party : Option PartyDetail) : PartyStore where
  party := party
  liveMembers := fun _ => none
  recentSignals := []

def clearParty (store : PartyStore) : PartyStore := store.setParty none

def setPartyStatus (store : PartyStore) (status : PartyStatus) : PartyStore :=
  { store with party := store.party.map fun party => { party with status := status } }

/-- `upsertMember`: the member is moved to the end of the list. -/
def upsertMember (store : PartyStore) (member : PartyMemberDto) : PartyStore :=
  match store.party with
  | none => store
  | some party =>
    let members := (party.members.filter fun other => other.userId ≠ member.userId) ++ [member]
    { store with
      party := some { party with members := members, memberCount := members.length } }

/-- `removeMember`: the live entry of the member goes too. -/
def removeMember (store : PartyStore) (userId : UserId) : PartyStore :=
  match store.party with
  | none => store
  | some party =>
    let members := party.members.filter fun other => other.userId ≠ userId
    { store with
      party := some { party with members := members, memberCount := members.length }
      liveMembers := Function.update store.liveMembers userId none }

def roleUnder (leaderId : UserId) (member : PartyMemberDto) : PartyRole :=
  if member.userId = leaderId then .leader
  else if member.role = .leader then .member
  else member.role

def setLeader (store : PartyStore) (leaderId : UserId) : PartyStore :=
  match store.party with
  | none => store
  | some party =>
    let members := party.members.map fun member =>
      { member with role := roleUnder leaderId member }
    { store with party := some { party with leaderId := leaderId, members := members } }

/-- `updateLiveMember` asks neither for a party nor for a member. -/
def updateLiveMember (store : PartyStore) (live : LiveMemberState) : PartyStore :=
  { store with liveMembers := Function.update store.liveMembers live.userId (some live) }

/-- `pushSignal`: the latest five, each id once. -/
def pushSignal (store : PartyStore) (toast : PartySignalToast) : PartyStore :=
  { store with
    recentSignals :=
      (toast :: store.recentSignals.filter fun other => other.id ≠ toast.id).take 5 }

section Reducers

variable (store : PartyStore) (userId : UserId) (member : PartyMemberDto)

theorem party_upsertMember : (store.upsertMember member).party = store.party.map fun party =>
    { party with
      members := (party.members.filter fun other => other.userId ≠ member.userId) ++ [member]
      memberCount :=
        ((party.members.filter fun other => other.userId ≠ member.userId) ++ [member]).length } := by
  unfold upsertMember
  cases held : store.party with
  | none => rw [held, Option.map_none]
  | some party => rfl

theorem party_removeMember : (store.removeMember userId).party = store.party.map fun party =>
    { party with
      members := party.members.filter fun other => other.userId ≠ userId
      memberCount := (party.members.filter fun other => other.userId ≠ userId).length } := by
  unfold removeMember
  cases held : store.party with
  | none => rw [held, Option.map_none]
  | some party => rfl

theorem party_setLeader : (store.setLeader userId).party = store.party.map fun party =>
    { party with
      leaderId := userId
      members := party.members.map fun member =>
        { member with role := roleUnder userId member } } := by
  unfold setLeader
  cases held : store.party with
  | none => rw [held, Option.map_none]
  | some party => rfl

end Reducers

/-- The listeners of `useParty`. -/
def onEvent (partyId : PartyId) (store : PartyStore) (event : PartyEvent) : PartyStore :=
  if event.partyId ≠ partyId then store
  else
    match event with
    | .memberJoined _ member => store.upsertMember member
    | .memberLeft _ userId _ => store.removeMember userId
    | .statusChanged _ status => store.setPartyStatus status
    | .leaderChanged _ newLeaderId _ => store.setLeader newLeaderId
    | .signalReceived party type senderId senderName timestamp =>
      store.pushSignal ⟨(senderId, timestamp, type), party, senderId, senderName, type, timestamp⟩
    | .ended _ _ => store.clearParty
    | .memberUpdated _ userId lat lng heading speed timestamp =>
      store.updateLiveMember ⟨userId, lat, lng, heading, speed, timestamp⟩

/-- Apply events in the order they arrive in. -/
def receive (partyId : PartyId) (store : PartyStore) (events : List PartyEvent) : PartyStore :=
  events.foldl (onEvent partyId) store

theorem receive_append (partyId : PartyId) (store : PartyStore) (first second : List PartyEvent) :
    store.receive partyId (first ++ second) = (store.receive partyId first).receive partyId second :=
  List.foldl_append

end PartyStore

def Emission.arrival (partyId : PartyId) (socket : SocketId) : Emission → Option PartyEvent
  | .client _ _ => none
  | .room event except =>
    if event.partyId = partyId ∧ except ≠ some socket then some event else none

/-- The events that arrive at a socket in the room of a party. -/
def arrivals (partyId : PartyId) (socket : SocketId) (emissions : List Emission) :
    List PartyEvent :=
  emissions.filterMap (Emission.arrival partyId socket)

theorem arrivals_append (partyId : PartyId) (socket : SocketId) (first second : List Emission) :
    arrivals partyId socket (first ++ second) = arrivals partyId socket first ++ arrivals partyId socket second :=
  List.filterMap_append

end Motogram
