import Motogram.Party.Agreement

/-!
# Who speaks in a party

A signal and a live position are broadcast on behalf of a user. The gateway lets
a user speak whom it finds in the member set of the party; that this user is a
member holds only as long as every writer of the set keeps it to the members.
One writer does not: a location update over REST adds its user to the set of
whatever party its body names. Runs in which those updates come from members
broadcast for members only (`speakers_are_members`), and one update of a
stranger is enough to make a stranger speak (`stranger_speaks`).
-/

set_option autoImplicit false

namespace Motogram

open Foundation Program

def PartyEvent.speaker : PartyEvent → Option (PartyId × UserId)
  | .signalReceived partyId _ senderId _ _ => some (partyId, senderId)
  | .memberUpdated partyId userId _ _ _ _ _ => some (partyId, userId)
  | .memberJoined _ _ => none
  | .memberLeft _ _ _ => none
  | .statusChanged _ _ => none
  | .leaderChanged _ _ _ => none
  | .ended _ _ => none

def State.Speaks (s : State) : Option (PartyId × UserId) → Prop
  | none => True
  | some (partyId, userId) => s.Active partyId userId ∧ s.Open partyId

instance (s : State) : (speaker : Option (PartyId × UserId)) → Decidable (s.Speaks speaker)
  | none => isTrue trivial
  | some (partyId, userId) => inferInstanceAs (Decidable (s.Active partyId userId ∧ s.Open partyId))

/-- When the call is a broadcast on behalf of a user, the user is a member at
that moment. -/
def SpeaksForMember : StoreCall → State → Prop
  | .emit (.room event _), s => s.Speaks event.speaker
  | _, _ => True

instance : (call : StoreCall) → (s : State) → Decidable (SpeaksForMember call s)
  | call, s => by
    unfold SpeaksForMember
    split <;> infer_instance

/-- Every broadcast of the operation on behalf of a user is on behalf of a member. -/
def Op.BroadcastsForMembers (s : State) (op : Op) : Prop :=
  ∀ entry ∈ op.calls s, SpeaksForMember entry.1 entry.2

instance (s : State) (op : Op) : Decidable (op.BroadcastsForMembers s) :=
  inferInstanceAs (Decidable (∀ _ ∈ _, _))

theorem speaksForMember_of_silent {call : StoreCall} (silent : .speech ∉ call.regions) (s : State) :
    SpeaksForMember call s := by
  cases call with
  | emit emission =>
    cases emission with
    | client socket error => trivial
    | room event except =>
      cases event with
      | signalReceived | memberUpdated => simp at silent
      | _ => trivial
  | _ => trivial

/-! ## The member set vouches for its members -/

def State.Vouches (s : State) : Prop :=
  ∀ partyId userId, userId ∈ s.partyMemberSet partyId → s.Speaks (some (partyId, userId))

theorem State.Coherent.vouches {s : State} (coherent : s.Coherent) : s.Vouches := by
  obtain ⟨roster, represents⟩ := coherent
  intro partyId userId listed
  have active : s.Active partyId userId :=
    (represents.active _ _).mpr ((represents.memberSet _ _).mp listed)
  exact ⟨active, represents.open_of_active active⟩

section Handlers

variable {s : State} {socket : SocketId}

theorem ensures_of_silent {Value : Type} {flow : Flow Value} {allowed : List Region}
    (writes : flow.Writes allowed) (silent : .speech ∉ allowed) : flow.Ensures answer SpeaksForMember s :=
  Uses.ensures answer writes
    (fun _ t within => speaksForMember_of_silent (fun speech => silent (within speech)) t) s

theorem replyError_ensures {event code : String} {message : WsErrorMessage} :
    (replyError socket event code message).Ensures answer SpeaksForMember s :=
  ensures_of_silent (replyError_writes ..) (by simp)

theorem recordSignal_ensures {partyId : PartyId} {senderId : UserId} {type : PartySignalType}
    {senderName : String} (vouches : s.Vouches) :
    (recordSignal partyId senderId type senderName).Ensures answer SpeaksForMember s := by
  refine Ensures.bind (ensures_of_silent (incrementActionCount_writes ..) (by simp))
    fun count after ran => ?_
  have counted : after = s.counted (.partySignal senderId) 60 :=
    (congrArg Prod.snd ((exec_incrementActionCount s _ _).symm.trans ran)).symm
  split
  · exact ensures_done _
  · simp only [call_bind, done_bind]
    refine ensures_call.mpr ⟨trivial, ?_⟩
    refine Ensures.bind (ensures_throwIf _ _) fun _ later checked => ?_
    rw [run_throwIf] at checked
    obtain ⟨passed, same⟩ := Prod.mk.inj checked
    have listed : senderId ∈ after.partyMemberSet partyId := by
      by_contra absent
      simp [answer, absent] at passed
    have member : after.Speaks (some (partyId, senderId)) := by
      subst counted
      exact vouches partyId senderId listed
    subst same
    exact ensures_call.mpr ⟨trivial, ensures_call.mpr
      ⟨member, ensures_done _⟩⟩

theorem handleSendSignal_ensures {payload : Option WsPartySendSignal} (vouches : s.Vouches) :
    (handleSendSignal socket payload).Ensures answer SpeaksForMember s := by
  refine ensures_call.mpr ⟨trivial, ?_⟩
  simp only [answer]
  cases s.sockets socket with
  | none => exact ensures_done _
  | some identity =>
    cases payload with
    | none => exact replyError_ensures
    | some signal =>
      refine Ensures.rescue ?_ fun error after _ => replyError_ensures
      refine Ensures.bind (recordSignal_ensures vouches) fun result after _ => ?_
      split
      · exact Ensures.bind replyError_ensures fun _ _ _ => ensures_done _
      · exact ensures_done _

theorem UpdateOutcome.rows {s' : State} {userId : UserId} {dto : UpdateLocationDto} {user : User}
    {result : Except ServiceError UpdateLocationResult} (outcome : UpdateOutcome s userId dto user result s') :
    s'.partyMembers = s.partyMembers ∧ s'.parties = s.parties := by
  cases outcome with
  | banned | limited => exact ⟨rfl, rfl⟩
  | disabled | accepted => exact multi_keepsTables _ _

theorem relayLocation_ensures {userId : UserId} {update : WsPartyUpdateLocation}
    (member : s.Speaks (some (update.partyId, userId))) :
    (relayLocation s.deployment socket userId update).Ensures answer SpeaksForMember s := by
  simp only [relayLocation, call_bind, done_bind]
  refine ensures_call.mpr ⟨trivial, ?_⟩
  simp only [answer]
  cases s.users userId with
  | none => exact ensures_done _
  | some user =>
    dsimp only
    split
    · exact ensures_done _
    · refine Ensures.bind (ensures_of_silent (updateLocation_writes ..)
        (by simp [WsPartyUpdateLocation.toDto])) fun result after ran => ?_
      have outcome := updateLocation_outcome s userId update.toDto user
      unfold Flow.exec at outcome
      rw [ran] at outcome
      obtain ⟨members, parties⟩ := outcome.rows
      have still : after.Speaks (some (update.partyId, userId)) :=
        ⟨(State.active_congr members).mpr member.1, (State.open_congr parties).mpr member.2⟩
      exact ensures_call.mpr ⟨trivial, ensures_call.mpr
        ⟨still, ensures_done _⟩⟩

theorem handlePartyUpdateLocation_ensures {payload : Option WsPartyUpdateLocation} (vouches : s.Vouches) :
    (handlePartyUpdateLocation s.deployment socket payload).Ensures answer SpeaksForMember s := by
  simp only [handlePartyUpdateLocation, partyUpdateLocation, call_bind, done_bind]
  refine ensures_call.mpr ⟨trivial, ?_⟩
  simp only [answer]
  cases s.sockets socket with
  | none => exact ensures_done _
  | some identity =>
    cases payload with
    | none => exact replyError_ensures
    | some update =>
      refine ensures_call.mpr ⟨trivial, ?_⟩
      by_cases listed : identity.1 ∈ s.partyMemberSet update.partyId
      · rw [if_neg (by simp [answer, listed])]
        exact relayLocation_ensures (vouches _ _ listed)
      · rw [if_pos (by simp [answer, listed])]
        exact replyError_ensures

end Handlers

theorem State.Vouches.broadcasts {s : State} (vouches : s.Vouches) (op : Op) : op.BroadcastsForMembers s := by
  have ensured : (op.program s.deployment).Ensures answer SpeaksForMember s := by
    cases op with
    | partySendSignal socket payload =>
      exact Ensures.bind (handleSendSignal_ensures vouches)
        fun _ _ _ => ensures_done _
    | partyUpdateLocation socket payload =>
      exact Ensures.bind (handlePartyUpdateLocation_ensures vouches)
        fun _ _ _ => ensures_done _
    | updateLocation userId dto =>
      refine ensures_of_silent (Op.program_writes _ _) ?_
      simp only [Op.regions]
      cases dto.partyId <;> simp
    | _ => exact ensures_of_silent (Op.program_writes _ _) (by simp)
  exact ensured

section Runs

variable (deployment : Deployment) (now : Time) (users : UserId → Option User)
  (routes : RouteId → Option Route) (follows : Table (UserId × UserId) FollowStatus)
  (blocks : List (UserId × UserId)) (liveSessions : UserId → Option Bool)

/-- **Signals and live positions are broadcast for members only**, in every run
in which the updates over REST that name a party come from its members. -/
theorem speakers_are_members (ops : List Op)
    (authorised : EachStep step (fun s op => op.Authorised s)
      (.initial deployment now users routes follows blocks liveSessions) ops) :
    EachStep step (fun s op => op.BroadcastsForMembers s)
      (.initial deployment now users routes follows blocks liveSessions) ops :=
  eachStep_of_keeps
    (fun s op (coherent : s.Coherent) allowed => (step_simulates s op allowed).coherent coherent)
    (fun _ op coherent _ => coherent.vouches.broadcasts op) (initial_coherent ..) authorised

end Runs

/-- A position in the party. -/
def smallUpdate : UpdateLocationDto := ⟨0, 0, none, none, none, some 10, none⟩

/-- A member who reports a position over REST and then signals. -/
theorem speakers_are_members_small :
    EachStep step (fun s op => op.BroadcastsForMembers s) smallInstallation
      [.createParty 1 10 smallParty, .joinParty 2 10, .updateLocation 2 smallUpdate, .connect 5 2 "r",
        .partySendSignal 5 (some ⟨10, .stop⟩)] :=
  speakers_are_members smallDeployment 0 _ _ _ _ _ _
    ⟨trivial, trivial, fun partyId named _ _ => by
      cases named
      decide +kernel, trivial, trivial, trivial⟩

/-- Rider 2 never joined party 10. -/
theorem stranger_speaks :
    ¬ EachStep step (fun s op => op.BroadcastsForMembers s) smallInstallation
      [.createParty 1 10 smallParty, .updateLocation 2 smallUpdate, .connect 5 2 "r",
        .partySendSignal 5 (some ⟨10, .stop⟩)] := by
  decide +kernel

end Motogram
