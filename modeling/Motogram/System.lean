import Mathlib.Algebra.Order.Ring.Abs
import Mathlib.Data.Rat.Defs
import Motogram.Party.Messages

/-!
# Sequential runs

The operations the outside world can ask for, one after the other: the party
service and the zombie sweep, the messages of the gateway, the routes of the
location and map controllers and the sweep of the positions, and what happens by itself (time passes, the
stores list their rows in another order). A run is a list of operations, each
completed before the next one starts.

A sweep is a run of its own: every stale member it meets is a turn, and a turn
is a call of `leaveParty`. `leaveCalls` collects the calls of `leaveParty` that
an operation makes, each with the state it is made in.
-/

set_option autoImplicit false

namespace Motogram

open Foundation Program

/-- What can be asked of the system. -/
inductive Op where
  -- the party service
  | createParty (leaderId : UserId) (partyId : PartyId) (dto : CreatePartyDto)
  | joinParty (userId : UserId) (partyId : PartyId)
  | leaveParty (userId : UserId) (partyId : PartyId) (reason : LeaveReason)
  | endParty (partyId : PartyId) (reason : EndReason)
  | invite (inviterId : UserId) (partyId : PartyId) (invitees : List (UserId × InviteId))
  | respondInvite (userId : UserId) (inviteId : InviteId) (accept : Bool)
  | markOffline (userId : UserId) (partyId : PartyId)
  | clearOfflineMark (userId : UserId) (partyId : PartyId)
  | sweepZombieMembers
  -- the gateway
  | connect (socket : SocketId) (userId : UserId) (username : String)
  | disconnect (socket : SocketId)
  | partyJoin (socket : SocketId) (payload : Option PartyId)
  | partyLeave (socket : SocketId) (payload : Option PartyId)
  | partyUpdateLocation (socket : SocketId) (payload : Option WsPartyUpdateLocation)
  | partySendSignal (socket : SocketId) (payload : Option WsPartySendSignal)
  -- the location and map controllers
  | updateLocation (userId : UserId) (dto : UpdateLocationDto)
  | updateSharing (userId : UserId) (mode : LocationSharingMode)
  | stopSession (userId : UserId)
  | nearby (viewerId : UserId) (query : NearbyQuery)
  | sweepZombies
  -- by itself
  | environment (event : EnvironmentEvent)

/-- The response to an operation. -/
inductive Response where
  | summary (party : PartySummary)
  | detail (party : PartyDetail)
  | left (result : LeaveResult)
  | invited (result : InviteResult)
  | responded (result : RespondResult)
  | swept (removed : Nat)
  | ack (ack : WsAck)
  | located (result : UpdateLocationResult)
  | sharing (mode : LocationSharingMode)
  | riders (riders : List NearbyRider)
  | cleaned (result : SweepResult)
  | empty

/-- The service function that serves an operation. -/
def Op.program (deployment : Deployment) : Op → Flow Response
  | .createParty leaderId partyId dto => do
    let party ← Motogram.createParty leaderId partyId dto
    pure (.summary party)
  | .joinParty userId partyId => do
    let party ← Motogram.joinParty userId partyId
    pure (.detail party)
  | .leaveParty userId partyId reason => do
    let result ← Motogram.leaveParty userId partyId reason
    pure (.left result)
  | .endParty partyId reason => do
    let _ ← Motogram.endParty partyId reason
    pure .empty
  | .invite inviterId partyId invitees => do
    let result ← Motogram.invite inviterId partyId invitees
    pure (.invited result)
  | .respondInvite userId inviteId accept => do
    let result ← Motogram.respondInvite userId inviteId accept
    pure (.responded result)
  | .markOffline userId partyId => do
    let _ ← Motogram.markOffline userId partyId
    pure .empty
  | .clearOfflineMark userId partyId => do
    let _ ← Motogram.clearOfflineMark userId partyId
    pure .empty
  | .sweepZombieMembers => do
    let removed ← Motogram.sweepZombieMembers
    pure (.swept removed)
  | .connect socket userId username => do
    let _ ← handleConnection socket userId username
    pure .empty
  | .disconnect socket => do
    let _ ← handleDisconnect socket
    pure .empty
  | .partyJoin socket payload => do
    let ack ← handlePartyJoin deployment socket payload
    pure (.ack ack)
  | .partyLeave socket payload => do
    let ack ← handlePartyLeave socket payload
    pure (.ack ack)
  | .partyUpdateLocation socket payload => do
    let ack ← handlePartyUpdateLocation deployment socket payload
    pure (.ack ack)
  | .partySendSignal socket payload => do
    let ack ← handleSendSignal socket payload
    pure (.ack ack)
  | .updateLocation userId dto => do
    let result ← restUpdateLocation deployment userId dto
    pure (.located result)
  | .updateSharing userId mode => do
    let mode ← Motogram.updateSharing deployment userId mode
    pure (.sharing mode)
  | .stopSession userId => do
    let _ ← Motogram.stopSession deployment userId
    pure .empty
  | .nearby viewerId query => do
    let riders ← Motogram.nearby deployment viewerId query
    pure (.riders riders)
  | .sweepZombies => do
    let result ← Motogram.sweepZombies
    pure (.cleaned result)
  | .environment event => do
    let _ ← call (.environment event)
    pure .empty

/-- Complete one operation. -/
def step (s : State) (op : Op) : State := ((op.program s.deployment).exec s).2

/-- The response of an operation. -/
def respond (s : State) (op : Op) : Except ServiceError Response :=
  ((op.program s.deployment).exec s).1

/-- The calls an operation makes, each with the state it is made in. -/
def Op.calls (op : Op) (s : State) : List (StoreCall × State) := (op.program s.deployment).calls s

/-- Wrapping the value of a service function changes neither the state nor the
calls. -/
theorem exec_wrap {Value Wrapped : Type} (flow : Flow Value) (wrap : Value → Wrapped) (s : State) :
    (Flow.exec (flow >>= fun value => pure (wrap value)) s).2 = (flow.exec s).2 := by
  unfold Flow.exec
  rw [run_bind]
  cases ran : run answer flow s with
  | mk outcome after => cases outcome <;> rfl

/-! ## What each operation runs -/

section Step

variable (s : State)

@[simp] theorem step_createParty (leaderId : UserId) (partyId : PartyId) (dto : CreatePartyDto) :
    step s (.createParty leaderId partyId dto) = ((createParty leaderId partyId dto).exec s).2 :=
  exec_wrap (createParty leaderId partyId dto) Response.summary s

variable (socket : SocketId) (userId : UserId) (partyId : PartyId)

@[simp] theorem step_joinParty : step s (.joinParty userId partyId) = ((joinParty userId partyId).exec s).2 :=
  exec_wrap (joinParty userId partyId) Response.detail s

@[simp] theorem step_leaveParty (reason : LeaveReason) :
    step s (.leaveParty userId partyId reason) = ((leaveParty userId partyId reason).exec s).2 :=
  exec_wrap (leaveParty userId partyId reason) Response.left s

@[simp] theorem step_endParty (reason : EndReason) :
    step s (.endParty partyId reason) = ((endParty partyId reason).exec s).2 :=
  exec_wrap (endParty partyId reason) (fun _ => Response.empty) s

@[simp] theorem step_respondInvite (inviteId : InviteId) (accept : Bool) :
    step s (.respondInvite userId inviteId accept) = ((respondInvite userId inviteId accept).exec s).2 :=
  exec_wrap (respondInvite userId inviteId accept) Response.responded s

@[simp] theorem step_markOffline : step s (.markOffline userId partyId) = s.marked userId partyId :=
  exec_wrap (markOffline userId partyId) (fun _ => Response.empty) s

@[simp] theorem step_clearOfflineMark : step s (.clearOfflineMark userId partyId) = s.cleared userId partyId :=
  exec_wrap (clearOfflineMark userId partyId) (fun _ => Response.empty) s

@[simp] theorem step_connect (username : String) :
    step s (.connect socket userId username) = ((handleConnection socket userId username).exec s).2 :=
  exec_wrap (handleConnection socket userId username) (fun _ => Response.empty) s

@[simp] theorem step_disconnect : step s (.disconnect socket) = ((handleDisconnect socket).exec s).2 :=
  exec_wrap (handleDisconnect socket) (fun _ => Response.empty) s

@[simp] theorem step_partyJoin (payload : Option PartyId) :
    step s (.partyJoin socket payload) = ((handlePartyJoin s.deployment socket payload).exec s).2 :=
  exec_wrap (handlePartyJoin s.deployment socket payload) Response.ack s

@[simp] theorem step_partyLeave (payload : Option PartyId) :
    step s (.partyLeave socket payload) = ((handlePartyLeave socket payload).exec s).2 :=
  exec_wrap (handlePartyLeave socket payload) Response.ack s

@[simp] theorem step_partyUpdateLocation (payload : Option WsPartyUpdateLocation) :
    step s (.partyUpdateLocation socket payload) =
      ((handlePartyUpdateLocation s.deployment socket payload).exec s).2 :=
  exec_wrap (handlePartyUpdateLocation s.deployment socket payload) Response.ack s

@[simp] theorem step_partySendSignal (payload : Option WsPartySendSignal) :
    step s (.partySendSignal socket payload) = ((handleSendSignal socket payload).exec s).2 :=
  exec_wrap (handleSendSignal socket payload) Response.ack s

@[simp] theorem step_updateLocation (dto : UpdateLocationDto) :
    step s (.updateLocation userId dto) = ((restUpdateLocation s.deployment userId dto).exec s).2 :=
  exec_wrap (restUpdateLocation s.deployment userId dto) Response.located s

@[simp] theorem step_updateSharing (mode : LocationSharingMode) :
    step s (.updateSharing userId mode) = ((updateSharing s.deployment userId mode).exec s).2 :=
  exec_wrap (updateSharing s.deployment userId mode) Response.sharing s

@[simp] theorem step_stopSession : step s (.stopSession userId) = ((stopSession s.deployment userId).exec s).2 :=
  exec_wrap (stopSession s.deployment userId) (fun _ => Response.empty) s

@[simp] theorem step_sweepZombies : step s .sweepZombies = (sweepZombies.exec s).2 :=
  exec_wrap sweepZombies Response.cleaned s

end Step

/-! ## A sweep is a run of turns -/

/-- A stale member a sweep meets. -/
abbrev SweepTurn := PartyId × UserId

def sweepTurn (s : State) (turn : SweepTurn) : State := ((sweepMember turn.1 turn.2).exec s).2

def memberTurns (s : State) (partyId : PartyId) (threshold : Int) : List SweepTurn :=
  (staleMembers (s.zombieWatch partyId) threshold).map fun userId => (partyId, userId)

def partyTurns (threshold : Int) : State → List PartyId → List SweepTurn
  | _, [] => []
  | s, partyId :: rest =>
    memberTurns s partyId threshold ++
      partyTurns threshold (follow sweepTurn s (memberTurns s partyId threshold)) rest

def State.sweepTurns (s : State) : List SweepTurn :=
  partyTurns ((s.now : Int) - (zombieOfflineSeconds * 1000 : Nat)) s s.activePartyIndex

variable (s : State) (partyId : PartyId)

theorem exec_sweepMember (userId : UserId) :
    ∃ count, (sweepMember partyId userId).exec s = (.ok count, sweepTurn s (partyId, userId)) := by
  unfold sweepTurn sweepMember Flow.exec
  rw [run_rescue]
  cases ran : run answer _ s with
  | mk outcome after =>
    cases outcome with
    | ok count => exact ⟨count, rfl⟩
    | error error => exact ⟨0, rfl⟩

theorem exec_sweepMembers (userIds : List UserId) :
    ∃ count, (sweepMembers partyId userIds).exec s =
      (.ok count, follow sweepTurn s (userIds.map fun userId => (partyId, userId))) := by
  induction userIds generalizing s with
  | nil => exact ⟨0, rfl⟩
  | cons userId rest ih =>
    obtain ⟨removed, turn⟩ := exec_sweepMember s partyId userId
    obtain ⟨more, turns⟩ := ih (sweepTurn s (partyId, userId))
    refine ⟨removed + more, ?_⟩
    unfold sweepMembers Flow.exec
    rw [run_bind_of_ok _ turn, run_bind_of_ok _ turns]
    rfl

theorem exec_sweepParties (threshold : Int) (partyIds : List PartyId) :
    ∃ count, (sweepParties threshold partyIds).exec s =
      (.ok count, follow sweepTurn s (partyTurns threshold s partyIds)) := by
  induction partyIds generalizing s with
  | nil => exact ⟨0, rfl⟩
  | cons partyId rest ih =>
    obtain ⟨removed, turns⟩ : ∃ count,
        (sweepMembers partyId (staleMembers (s.zombieWatch partyId) threshold)).exec s =
          (.ok count, follow sweepTurn s (memberTurns s partyId threshold)) :=
      exec_sweepMembers s partyId _
    obtain ⟨more, later⟩ := ih (follow sweepTurn s (memberTurns s partyId threshold))
    refine ⟨removed + more, ?_⟩
    unfold sweepParties Flow.exec
    simp only [run_sends, answer]
    rw [run_bind_of_ok _ turns, run_bind_of_ok _ later, partyTurns, follow_append]
    rfl

/-- **A sweep leads where its turns lead.** -/
theorem exec_sweepZombieMembers : (sweepZombieMembers.exec s).2 = follow sweepTurn s s.sweepTurns := by
  obtain ⟨count, turns⟩ := exec_sweepParties s
    ((s.now : Int) - (zombieOfflineSeconds * 1000 : Nat)) s.activePartyIndex
  unfold sweepZombieMembers Flow.exec
  exact congrArg Prod.snd turns

@[simp] theorem step_sweepZombieMembers : step s .sweepZombieMembers = follow sweepTurn s s.sweepTurns :=
  (exec_wrap sweepZombieMembers Response.swept s).trans (exec_sweepZombieMembers s)

/-- What a turn does: it is a call of `leaveParty`, and a call that succeeds
clears the watch. -/
theorem sweepTurn_eq (userId : UserId) :
    sweepTurn s (partyId, userId) =
      match (leaveParty userId partyId .disconnectTimeout).exec s with
      | (.ok _, after) => after.redis (.zremZombieWatch partyId userId)
      | (.error _, after) => after := by
  unfold sweepTurn sweepMember Flow.exec
  rw [run_rescue, run_bind]
  cases run answer (leaveParty userId partyId .disconnectTimeout) s with
  | mk outcome after => cases outcome <;> rfl

theorem sweepTurn_outcome (s : State) (partyId : PartyId) (userId : UserId) :
    ∃ result after, LeaveOutcome s userId partyId .disconnectTimeout result after ∧
      sweepTurn s (partyId, userId) =
        match result with
        | .ok _ => after.redis (.zremZombieWatch partyId userId)
        | .error _ => after := by
  have outcome := leaveParty_outcome s userId partyId .disconnectTimeout
  rw [sweepTurn_eq]
  cases ran : (leaveParty userId partyId .disconnectTimeout).exec s with
  | mk result after =>
    rw [ran] at outcome
    exact ⟨result, after, outcome, by cases result <;> rfl⟩

/-! ## Calls of `leaveParty` -/

/-- A call of `leaveParty` in the state it is made in. -/
structure LeaveCall where
  before : State
  userId : UserId
  partyId : PartyId
  reason : LeaveReason

def LeaveCall.result (leave : LeaveCall) : Except ServiceError LeaveResult :=
  ((leaveParty leave.userId leave.partyId leave.reason).exec leave.before).1

def LeaveCall.after (leave : LeaveCall) : State :=
  ((leaveParty leave.userId leave.partyId leave.reason).exec leave.before).2

/-- The calls of `leaveParty` that an operation makes. -/
def Op.leaveCalls (s : State) : Op → List LeaveCall
  | .leaveParty userId partyId reason => [⟨s, userId, partyId, reason⟩]
  | .partyLeave socket (some partyId) =>
    match s.sockets socket with
    | some (userId, _) => [⟨s, userId, partyId, .left⟩]
    | none => []
  | .sweepZombieMembers =>
    (visits sweepTurn s s.sweepTurns).map fun visit =>
      ⟨visit.1, visit.2.2, visit.2.1, .disconnectTimeout⟩
  | _ => []

/-! ## A small installation -/

def rider (username : String) : User where
  username := username
  avatarUrl := none
  city := none
  locationSharing := .publicMode
  isBanned := false
  deletedAt := none

/-- Distances along the two axes, names in lower case already. -/
def smallDeployment : Deployment where
  distance := fun first second => |first.lat - second.lat| + |first.lng - second.lng|
  toLowerCase := fun text => text
  serverHostname := "api-1"

/-- Riders 1 to 9, before their first party. -/
def smallInstallation : State :=
  .initial smallDeployment 0 (fun userId => if 1 ≤ userId ∧ userId ≤ 9 then some (rider "r") else none)
    (fun _ => none) .empty [] (fun _ => none)

/-- An open party for up to four. -/
def smallParty : CreatePartyDto where
  name := "ride"
  routeId := none
  eventId := none
  isPrivate := false
  maxMembers := 4
  coLeaderIds := []
  maxMembers_range := by decide

end Motogram
