import Motogram.Mobile.PartyMirror
import Motogram.Party.Stages

/-!
# A position that arrives while its user leaves

`party:update_location` asks once whether the user is in the member set of the party,
then it writes the position, puts the user into the member set, and tells the room.
`leaveParty` takes the user out of the set and tells the room too. The two are
interleaved call by call.

When both are over, the user is out of the set and off the maps of the others exactly
when the update was in time (`leaver_vanishes_iff`): the set still held the user when
they were put into it once more, and their leave had not been announced when their
position was.
-/

set_option autoImplicit false

namespace Motogram

open Foundation Program Function List

/-! ## The two programs -/

inductive Racer where
  | update
  | leave
  deriving DecidableEq

/-- A user sends a position to a party and leaves it. -/
def racing (socket : SocketId) (update : WsPartyUpdateLocation) (leave : LeaveRequest)
    (s : State) : Pool Racer StoreCall StoreReply ServiceError Unit State where
  threads
    | .update => handlePartyUpdateLocation s.deployment socket (some update) >>= fun _ => pure ()
    | .leave => leaveParty leave.userId update.partyId leave.reason >>= fun _ => pure ()
  store := s

/-- What the gateway has sent since an earlier state. -/
def State.sentSince (s before : State) : List Emission := s.outbox.drop before.outbox.length

/-- The user is out of the member set, and on no map that another socket feeds. -/
structure Vanished (socket : SocketId) (partyId : PartyId) (userId : UserId)
    (before after : State) : Prop where
  unlisted : userId ∉ after.partyMemberSet partyId
  unseen : ∀ (store : PartyStore) (other : SocketId), store.party.isSome → other ≠ socket →
    (store.receive partyId (arrivals partyId other (after.sentSince before))).liveMembers userId =
      none

def State.AnnouncedSince (s before : State) (partyId : PartyId) (userId : UserId) : Prop :=
  ∃ reason except, Emission.room (.memberLeft partyId userId reason) except ∈ s.sentSince before

/-- A user who is put into the member set is in it already, and a position is told to the
room before the leave of its user. -/
def InTime (before : State) : StoreCall → State → Prop
  | .redis (.saddMembers partyId userId), s => userId ∈ s.partyMemberSet partyId
  | .emit (.room (.memberUpdated partyId userId _ _ _ _ _) _), s =>
    ¬ s.AnnouncedSince before partyId userId
  | _, _ => True

/-! ## The map of another member -/

/-- Whatever the store of another member held, it has a party after these emissions, and
the live entry of the user is as the condition says. -/
def OnMaps (socket : SocketId) (partyId : PartyId) (userId : UserId)
    (condition : Option LiveMemberState → Prop) (emissions : List Emission) : Prop :=
  ∀ (store : PartyStore) (other : SocketId), store.party.isSome → other ≠ socket →
    (store.receive partyId (arrivals partyId other emissions)).party.isSome ∧
      condition ((store.receive partyId (arrivals partyId other emissions)).liveMembers userId)

section Maps

variable {socket : SocketId} {partyId : PartyId} {userId : UserId}
  {before after : Option LiveMemberState → Prop} {emissions : List Emission}

theorem onMaps_nil : OnMaps socket partyId userId (fun _ => True) [] :=
  fun _ _ held _ => ⟨held, trivial⟩

theorem OnMaps.snoc {emission : Emission} (shown : OnMaps socket partyId userId before emissions)
    (next : ∀ (store : PartyStore) (other : SocketId), store.party.isSome → other ≠ socket →
      before (store.liveMembers userId) →
        (store.receive partyId (arrivals partyId other [emission])).party.isSome ∧
          after ((store.receive partyId (arrivals partyId other [emission])).liveMembers userId)) :
    OnMaps socket partyId userId after (emissions ++ [emission]) := by
  intro store other held elsewhere
  rw [arrivals_append, PartyStore.receive_append]
  obtain ⟨held', entry⟩ := shown store other held elsewhere
  exact next _ other held' elsewhere entry

theorem OnMaps.client {receiver : SocketId} {error : WsPartyError}
    (shown : OnMaps socket partyId userId before emissions) :
    OnMaps socket partyId userId before (emissions ++ [.client receiver error]) :=
  shown.snoc fun _ _ held _ entry => ⟨held, entry⟩

theorem arrivals_room {event : PartyEvent} {except : Option SocketId} {other : SocketId}
    (here : event.partyId = partyId) (spared : except ≠ some other) :
    arrivals partyId other [.room event except] = [event] := by
  simp [arrivals, Emission.arrival, here, spared]

theorem OnMaps.leaderChanged {newLeaderId : UserId}
    (shown : OnMaps socket partyId userId before emissions) :
    OnMaps socket partyId userId before
      (emissions ++ [.room (.leaderChanged partyId newLeaderId .leaderLeft) none]) := by
  refine shown.snoc fun store other held elsewhere entry => ?_
  have arrives : arrivals partyId other
      [.room (.leaderChanged partyId newLeaderId .leaderLeft) none] = [_] := arrivals_room rfl (by simp)
  have led : store.receive partyId [.leaderChanged partyId newLeaderId .leaderLeft] =
      store.setLeader newLeaderId := if_neg (not_not.mpr rfl)
  rw [arrives, led, PartyStore.party_setLeader, Option.isSome_map]
  refine ⟨held, ?_⟩
  unfold PartyStore.setLeader
  cases store.party <;> exact entry

theorem OnMaps.memberLeft {reason : LeaveReason}
    (shown : OnMaps socket partyId userId before emissions) :
    OnMaps socket partyId userId (fun entry => entry = none)
      (emissions ++ [.room (.memberLeft partyId userId reason) none]) := by
  refine shown.snoc fun store other held elsewhere _ => ?_
  have arrives : arrivals partyId other [.room (.memberLeft partyId userId reason) none] = [_] :=
    arrivals_room rfl (by simp)
  have removed : store.receive partyId [.memberLeft partyId userId reason] =
      store.removeMember userId := if_neg (not_not.mpr rfl)
  rw [arrives, removed, PartyStore.party_removeMember, Option.isSome_map]
  refine ⟨held, ?_⟩
  obtain ⟨party, here⟩ := Option.isSome_iff_exists.mp held
  rw [PartyStore.removeMember, here]
  exact update_self ..

theorem OnMaps.memberUpdated {lat lng : ℚ} {heading speed : Option ℚ} {now : Time}
    (shown : OnMaps socket partyId userId before emissions) :
    OnMaps socket partyId userId (fun entry => entry ≠ none)
      (emissions ++ [.room (.memberUpdated partyId userId lat lng heading speed now)
        (some socket)]) := by
  refine shown.snoc fun store other held elsewhere _ => ?_
  have arrives : arrivals partyId other
      [.room (.memberUpdated partyId userId lat lng heading speed now) (some socket)] = [_] :=
    arrivals_room rfl fun same => elsewhere (Option.some.inj same).symm
  have updated : store.receive partyId
      [.memberUpdated partyId userId lat lng heading speed now] =
      store.updateLiveMember ⟨userId, lat, lng, heading, speed, now⟩ := if_neg (not_not.mpr rfl)
  rw [arrives, updated]
  refine ⟨held, fun gone => ?_⟩
  simp [PartyStore.updateLiveMember] at gone

end Maps

/-! ## What an update sends -/

/-- A call that touches no party and tells no room anything. -/
def StoreCall.Harmless (call : StoreCall) : Prop :=
  call.regions ⊆ [.counters, .locations] ∨ ∃ receiver error, call = .emit (.client receiver error)

/-- The calls of an update that has asked for the membership. -/
inductive OfUpdate (socket : SocketId) (partyId : PartyId) (userId : UserId) : StoreCall → Prop where
  | harmless {call : StoreCall} (harmless : call.Harmless) : OfUpdate socket partyId userId call
  | lists : OfUpdate socket partyId userId (.redis (.saddMembers partyId userId))
  | broadcasts (lat lng : ℚ) (heading speed : Option ℚ) (now : Time) :
      OfUpdate socket partyId userId
        (.emit (.room (.memberUpdated partyId userId lat lng heading speed now) (some socket)))

section Calls

variable {deployment : Deployment} {socket : SocketId} {userId : UserId}
  {update : WsPartyUpdateLocation}

theorem replyError_harmless (event code : String) (message : WsErrorMessage) :
    (replyError socket event code message).Uses StoreCall.Harmless :=
  ⟨.inr ⟨_, _, rfl⟩, fun _ => trivial⟩

theorem harmless_of_writes {Value : Type} {flow : Flow Value} {allowed : List Region}
    (writes : flow.Writes allowed) (within : allowed ⊆ [.counters, .locations]) : flow.Uses StoreCall.Harmless :=
  Uses.mono writes fun _ inside => .inl (List.Subset.trans inside within)

theorem pipeline_ofUpdate {partyId : PartyId} {commands : List RedisCommand}
    (each : ∀ command ∈ commands, OfUpdate socket partyId userId (.redis command)) :
    (pipeline commands).Uses (OfUpdate socket partyId userId) := by
  induction commands with
  | nil => trivial
  | cons command rest ih =>
    refine Uses.send (each command (mem_cons_self ..)) fun _ => ?_
    exact ih fun other member => each other (mem_cons_of_mem _ member)

theorem updateCommands_ofUpdate (user : User) (shard : String) (now : Time) :
    ∀ command ∈ updateCommands userId update.toDto user shard now,
      OfUpdate socket update.partyId userId (.redis command) := by
  intro command member
  rw [updateCommands, mem_append] at member
  rcases member with position | lists
  · refine .harmless (.inl ?_)
    have within : (positionCommands userId update.toDto user shard now).map RedisCommand.region ⊆
        [.counters, .locations] := by
      simp [positionCommands]
    exact cons_subset.mpr ⟨within (mem_map_of_mem position), nil_subset _⟩
  · obtain rfl : command = .saddMembers update.partyId userId := by
      simpa [WsPartyUpdateLocation.toDto] using lists
    exact .lists

theorem updateLocation_ofUpdate (user : User) :
    (updateLocation deployment userId update.toDto user).Uses (OfUpdate socket update.partyId userId) := by
  have harmless {Value : Type} {flow : Flow Value} (uses : flow.Uses StoreCall.Harmless) :
      flow.Uses (OfUpdate socket update.partyId userId) := uses.mono fun _ => .harmless
  refine Uses.bind (by simp) fun _ => ?_
  refine Uses.bind (harmless (harmless_of_writes (countPing_writes userId) (by simp)))
    fun count => ?_
  split
  · trivial
  · split
    · exact harmless (harmless_of_writes (removeFromRedis_writes ..) (by simp))
    · refine Uses.send (.harmless (.inl (by simp))) fun now => ?_
      exact Uses.bind (pipeline_ofUpdate (updateCommands_ofUpdate user _ now)) fun _ => trivial

theorem relayLocation_ofUpdate :
    (relayLocation deployment socket userId update).Uses (OfUpdate socket update.partyId userId) := by
  refine Uses.send (.harmless (.inl (by simp))) fun found => ?_
  cases found with
  | none => trivial
  | some user =>
    dsimp only
    split
    · trivial
    · refine Uses.bind (updateLocation_ofUpdate user) fun _ => ?_
      refine Uses.send (.harmless (.inl (by simp))) fun now => ?_
      exact Uses.send (.broadcasts ..) fun _ => trivial

end Calls

/-! ## How far the two have come -/

/-- The leave has taken the user out of the member set. -/
def Stage.Unlisted : Stage → Prop
  | .start => False
  | .close _ => False
  | .unlist _ => False
  | _ => True

/-- The leave has been announced. -/
def Stage.Announced : Stage → Prop
  | .announce _ => False
  | stage => stage.Unlisted

theorem Stage.Announced.unlisted {stage : Stage} (announced : stage.Announced) : stage.Unlisted := by
  cases stage with
  | announce found => cases announced
  | _ => exact announced

/-- How far an update has come: it has not asked for the membership, or the user was listed when
it did, or it has nothing more to say. -/
inductive Asked (deployment : Deployment) (socket : SocketId) (userId : UserId)
    (update : WsPartyUpdateLocation) (listed unlisted : Prop) (thread : Flow Unit) : Prop where
  | fresh (here : thread = handlePartyUpdateLocation deployment socket (some update) >>= fun _ => pure ())
  | named (here : thread = partyUpdateLocation deployment socket userId update >>= fun _ => pure ())
  | refused (uses : thread.Uses StoreCall.Harmless)
  | admitted (uses : thread.Uses (OfUpdate socket update.partyId userId)) (once : listed ∨ unlisted)

structure Underway (socket : SocketId) (username : String) (update : WsPartyUpdateLocation)
    (leave : LeaveRequest) (before : State) (stage : Stage)
    (pool : Pool Racer StoreCall StoreReply ServiceError Unit State) : Prop where
  leaving : pool.threads .leave = stage.program leave update.partyId >>= fun _ => pure ()
  live : pool.store.partyIsLive update.partyId = true
  sound : stage.Sound leave.userId update.partyId pool.store
  accompanied : ∃ stayer, stayer ≠ leave.userId ∧ pool.store.Active update.partyId stayer
  present : stage = .start → pool.store.Active update.partyId leave.userId
  identity : pool.store.sockets socket = some (leave.userId, username)
  updating : Asked before.deployment socket leave.userId update
    (leave.userId ∈ pool.store.partyMemberSet update.partyId) stage.Unlisted (pool.threads .update)
  since : pool.store.outbox = before.outbox ++ pool.store.sentSince before
  shown : OnMaps socket update.partyId leave.userId (fun _ => True) (pool.store.sentSince before)
  announced : pool.store.AnnouncedSince before update.partyId leave.userId ↔ stage.Announced

section Steps

variable {socket : SocketId} {username : String} {update : WsPartyUpdateLocation}
  {leave : LeaveRequest} {before s s' : State} {stage stage' : Stage}
  {pool : Pool Racer StoreCall StoreReply ServiceError Unit State}

variable {emissions : List Emission} {partyId : PartyId}

theorem sentSince_snoc (since : s.outbox = before.outbox ++ s.sentSince before)
    (sent : s'.outbox = s.outbox ++ emissions) :
    s'.outbox = before.outbox ++ s'.sentSince before ∧ s'.sentSince before = s.sentSince before ++ emissions := by
  have all : s'.outbox = before.outbox ++ (s.sentSince before ++ emissions) := by
    rw [sent, since, append_assoc]
  have news : s'.sentSince before = s.sentSince before ++ emissions := by
    rw [State.sentSince, all, drop_left]
  exact ⟨by rw [news, all], news⟩

inductive LeaveEffect (userId : UserId) (partyId : PartyId) (s : State) (stage stage' : Stage)
    (s' : State) : Prop where
  | idle (set : s'.partyMemberSet = s.partyMemberSet) (sent : s'.outbox = s.outbox ++ [])
      (unlisted : stage'.Unlisted ↔ stage.Unlisted) (announced : stage'.Announced ↔ stage.Announced)
  | unlists (still : ¬ stage.Unlisted) (unannounced : ¬ stage'.Announced) (now : stage'.Unlisted)
      (gone : userId ∉ s'.partyMemberSet partyId) (sent : s'.outbox = s.outbox ++ [])
  | announces (reason : LeaveReason) (set : s'.partyMemberSet = s.partyMemberSet)
      (sent : s'.outbox = s.outbox ++ [.room (.memberLeft partyId userId reason) none])
      (unlisted : stage.Unlisted) (still : ¬ stage.Announced) (announced : stage'.Announced)
  | proclaims (winner : UserId) (set : s'.partyMemberSet = s.partyMemberSet)
      (sent : s'.outbox = s.outbox ++ [.room (.leaderChanged partyId winner .leaderLeft) none])
      (announced : stage.Announced) (announced' : stage'.Announced)

theorem Moves.effect (moves : Moves leave partyId s stage stage' s')
    (present : stage = .start → s.Active partyId leave.userId) :
    LeaveEffect leave.userId partyId s stage stage' s' := by
  have nothing (t : State) : t.outbox = t.outbox ++ [] := (append_nil _).symm
  cases moves with
  | read | close | win | lose | install => exact .idle rfl (nothing s) Iff.rfl Iff.rfl
  | refuse stranger => exact absurd (present rfl) stranger
  | unlist =>
    refine .unlists (fun gone => gone) (fun announced => announced) trivial ?_ (nothing s)
    rw [State.withUserParty_partyMemberSet, State.withMemberSet_partyMemberSet,
      update_self, mem_setRemove]
    exact fun both => both.1 rfl
  | follow | strand | contend =>
    exact .announces leave.reason rfl rfl trivial (fun announced => announced) trivial
  | @proclaim winner => exact .proclaims winner rfl rfl trivial trivial
  | unlock =>
    refine .idle ?_ ?_ Iff.rfl Iff.rfl
    · simp only [answer]
      split <;> rfl
    · simp only [answer]
      split <;> exact (append_nil _).symm

theorem Moves.keepsSockets (moves : Moves leave partyId s stage stage' s') : s'.sockets = s.sockets := by
  cases moves with
  | unlock =>
    simp only [answer]
    split <;> rfl
  | _ => rfl

theorem Moves.started (moves : Moves leave partyId s stage stage' s') : stage' ≠ .start := by
  rintro rfl
  cases moves

theorem announcedSince_append {userId : UserId}
    (news : s'.sentSince before = s.sentSince before ++ emissions) :
    s'.AnnouncedSince before partyId userId ↔ s.AnnouncedSince before partyId userId ∨
      ∃ reason except, Emission.room (.memberLeft partyId userId reason) except ∈ emissions := by
  simp only [State.AnnouncedSince, news, mem_append, exists_or]

/-- The leave sends a call, or it is over. -/
theorem Underway.leave_step (underway : Underway socket username update leave before stage pool) :
    (pool.advance answer .leave = pool ∧ (pool.threads .leave).Ended ∧
        ∃ outcome, stage = .finished outcome) ∨
      ∃ stage', LeaveEffect leave.userId update.partyId pool.store stage stage'
          (pool.advance answer .leave).store ∧
        Underway socket username update leave before stage' (pool.advance answer .leave) := by
  obtain ⟨outcome, stopped⟩ | ⟨request, next, sends, stage', moves, goesOn⟩ :=
    stage_moves stage underway.live underway.sound
  · have ended : (pool.threads .leave).Ended := by
      rw [underway.leaving, stopped]
      cases outcome <;> rfl
    exact .inl ⟨Pool.advance_of_ended ended, ended, outcome, stopped⟩
  · have here : pool.threads .leave = .call request fun reply => next reply >>= fun _ => pure () := by
      rw [underway.leaving, sends]
      rfl
    have effect := moves.effect underway.present
    have elsewhere : (pool.advance answer .leave).threads .update = pool.threads .update :=
      Pool.threads_advance_of_ne (by decide)
    have stored : (pool.advance answer .leave).store = (answer request pool.store).2 := by
      rw [Pool.advance_of_call here]
    have own : (pool.advance answer .leave).threads .leave =
        stage'.program leave update.partyId >>= fun _ => pure () := by
      rw [Pool.advance_of_call here, ← goesOn]
      simp only [update_self]
    rw [← stored] at moves effect
    generalize pool.advance answer .leave = after at moves effect elsewhere own ⊢
    obtain ⟨stayer, different, stays⟩ := underway.accompanied
    have asked (kept : leave.userId ∈ pool.store.partyMemberSet update.partyId ∨ stage.Unlisted →
        leave.userId ∈ after.store.partyMemberSet update.partyId ∨ stage'.Unlisted) :
        Asked before.deployment socket leave.userId update
          (leave.userId ∈ after.store.partyMemberSet update.partyId) stage'.Unlisted
          (after.threads .update) := by
      rw [elsewhere]
      cases underway.updating with
      | fresh here => exact .fresh here
      | named here => exact .named here
      | refused uses => exact .refused uses
      | admitted uses once => exact .admitted uses (kept once)
    refine .inr ⟨stage', effect, own, moves.live underway.live,
      moves.sound underway.sound ⟨stayer, different, stays⟩,
      ⟨stayer, different, moves.still_active stays fun same => absurd same different⟩,
      fun starts => absurd starts moves.started, by rw [moves.keepsSockets]; exact underway.identity,
      ?_, ?_, ?_, ?_⟩
    · refine asked ?_
      cases effect with
      | idle set sent unlisted announced => rw [set, unlisted]; exact id
      | unlists still unannounced now gone sent => exact fun _ => .inr now
      | announces reason set sent unlisted still announced => exact fun _ => .inr announced.unlisted
      | proclaims winner set sent announced announced' => exact fun _ => .inr announced'.unlisted
    · cases effect with
      | idle set sent | unlists still unannounced now gone sent | announces reason set sent
      | proclaims winner set sent => exact (sentSince_snoc underway.since sent).1
    · cases effect with
      | idle set sent | unlists still unannounced now gone sent =>
        rw [(sentSince_snoc underway.since sent).2, append_nil]
        exact underway.shown
      | announces reason set sent =>
        rw [(sentSince_snoc underway.since sent).2]
        exact fun store other held apart =>
          ⟨(underway.shown.memberLeft store other held apart).1, trivial⟩
      | proclaims winner set sent =>
        rw [(sentSince_snoc underway.since sent).2]
        exact underway.shown.leaderChanged
    · cases effect with
      | idle set sent unlisted announced =>
        rw [announcedSince_append (sentSince_snoc underway.since sent).2, announced,
          underway.announced]
        simp
      | unlists still unannounced now gone sent =>
        rw [announcedSince_append (sentSince_snoc underway.since sent).2, underway.announced]
        have silent : ¬ stage.Announced := fun announced => still announced.unlisted
        simp [silent, unannounced]
      | announces reason set sent unlisted still announced =>
        rw [announcedSince_append (sentSince_snoc underway.since sent).2]
        exact iff_of_true (.inr ⟨reason, none, mem_singleton_self _⟩) announced
      | proclaims winner set sent announced announced' =>
        rw [announcedSince_append (sentSince_snoc underway.since sent).2, underway.announced]
        exact iff_of_true (.inl announced) announced'

theorem Underway.of_update {after : Pool Racer StoreCall StoreReply ServiceError Unit State}
    {emissions : List Emission}
    (underway : Underway socket username update leave before stage pool)
    (leaving : after.threads .leave = pool.threads .leave)
    (rows : SameRows pool.store after.store) (sockets : after.store.sockets = pool.store.sockets)
    (sent : after.store.outbox = pool.store.outbox ++ emissions)
    (shown : OnMaps socket update.partyId leave.userId (fun _ => True)
      (pool.store.sentSince before ++ emissions))
    (unsaid : ∀ reason except,
      Emission.room (.memberLeft update.partyId leave.userId reason) except ∉ emissions)
    (updating : Asked before.deployment socket leave.userId update
      (leave.userId ∈ after.store.partyMemberSet update.partyId) stage.Unlisted
      (after.threads .update)) :
    Underway socket username update leave before stage after where
  leaving := leaving.trans underway.leaving
  live := by
    rw [State.partyIsLive, rows.parties]
    exact underway.live
  sound := underway.sound.mono fun member listed => by
    rw [State.Listed, rows.listed]
    exact listed
  accompanied := by
    obtain ⟨stayer, different, stays⟩ := underway.accompanied
    exact ⟨stayer, different, (rows.active ..).mpr stays⟩
  present := fun starts => (rows.active ..).mpr (underway.present starts)
  identity := by
    rw [sockets]
    exact underway.identity
  updating := updating
  since := (sentSince_snoc underway.since sent).1
  shown := by
    rw [(sentSince_snoc underway.since sent).2]
    exact shown
  announced := by
    rw [announcedSince_append (sentSince_snoc underway.since sent).2, underway.announced]
    refine ⟨fun either => either.resolve_right ?_, .inl⟩
    rintro ⟨reason, except, said⟩
    exact unsaid reason except said

inductive UpdateEffect (socket : SocketId) (partyId : PartyId) (userId : UserId) (before : State)
    (stage : Stage) (pool : Pool Racer StoreCall StoreReply ServiceError Unit State) (after : State) :
    Prop where
  | idle (inTime : pool.Obliged (InTime before) .update)
      (set : after.partyMemberSet = pool.store.partyMemberSet)
      (maps : ∀ condition, OnMaps socket partyId userId condition (pool.store.sentSince before) →
        OnMaps socket partyId userId condition (after.sentSince before))
  | lists (inTime : pool.Obliged (InTime before) .update ↔ userId ∈ pool.store.partyMemberSet partyId)
      (once : userId ∈ pool.store.partyMemberSet partyId ∨ stage.Unlisted)
      (now : userId ∈ after.partyMemberSet partyId)
      (silent : after.sentSince before = pool.store.sentSince before)
  | broadcasts
      (inTime : pool.Obliged (InTime before) .update ↔ ¬ pool.store.AnnouncedSince before partyId userId)
      (set : after.partyMemberSet = pool.store.partyMemberSet)
      (seen : OnMaps socket partyId userId (fun entry => entry ≠ none) (after.sentSince before))

theorem StoreCall.Harmless.effect {call : StoreCall} (harmless : call.Harmless) (s : State) :
    SameRows s (answer call s).2 ∧ (answer call s).2.sockets = s.sockets ∧
      (answer call s).2.partyMemberSet = s.partyMemberSet ∧
        ((answer call s).2.outbox = s.outbox ++ [] ∨
          ∃ receiver error, (answer call s).2.outbox = s.outbox ++ [.client receiver error]) := by
  rcases harmless with within | ⟨receiver, error, rfl⟩
  · have outside {region : Region} (other : region ∉ [Region.counters, Region.locations]) :
        region ∉ call.regions := fun member => other (within member)
    have silent : ∀ emission, call ≠ .emit emission := by
      rintro emission rfl
      cases emission with
      | client receiver error => simp at within
      | room event except => cases event <;> simp at within
    refine ⟨answer_keepsRows (outside (by simp)) (outside (by simp)) s,
      (answer_keepsSockets (outside (by simp)) (outside (by simp)) s).sockets,
      (answer_keepsKeys (outside (by simp)) s).partyMemberSet, .inl ?_⟩
    rw [answer_keepsOutbox silent, append_nil]
  · exact ⟨.of_eq rfl rfl rfl, rfl, rfl, .inr ⟨receiver, error, rfl⟩⟩

theorem StoreCall.Harmless.inTime {call : StoreCall} (harmless : call.Harmless) (s : State) :
    InTime before call s := by
  rcases harmless with within | ⟨receiver, error, rfl⟩
  · cases call with
    | redis command =>
      cases command with
      | saddMembers => simp at within
      | _ => trivial
    | emit emission =>
      cases emission with
      | client receiver error => trivial
      | room event except => cases event <;> simp at within
    | _ => trivial
  · trivial

theorem Underway.harmless_step {request : StoreCall} {next : StoreReply request → Flow Unit}
    (underway : Underway socket username update leave before stage pool)
    (here : pool.threads .update = .call request next) (harmless : request.Harmless)
    (updating : Asked before.deployment socket leave.userId update
      (leave.userId ∈ pool.store.partyMemberSet update.partyId) stage.Unlisted
      (next (answer request pool.store).1)) :
    UpdateEffect socket update.partyId leave.userId before stage pool
        (pool.advance answer .update).store ∧
      Underway socket username update leave before stage (pool.advance answer .update) := by
  obtain ⟨rows, sockets, set, said⟩ := harmless.effect pool.store
  have inTime : pool.Obliged (InTime before) .update := by
    intro sent asked
    rw [Pool.next?, here] at asked
    cases asked
    exact harmless.inTime pool.store
  have elsewhere : (pool.advance answer .update).threads .leave = pool.threads .leave :=
    Pool.threads_advance_of_ne (by decide)
  have own : (pool.advance answer .update).threads .update = next (answer request pool.store).1 := by
    rw [Pool.advance_of_call here]
    simp only [update_self]
  have stored : (pool.advance answer .update).store = (answer request pool.store).2 := by
    rw [Pool.advance_of_call here]
  rw [← stored] at rows sockets set said
  rw [← own, ← set] at updating
  rcases said with silent | ⟨receiver, error, told⟩
  · have news := (sentSince_snoc underway.since silent).2
    refine ⟨.idle inTime set fun condition maps => ?_, ?_⟩
    · rwa [news, append_nil]
    · refine underway.of_update elsewhere rows sockets silent ?_ (by simp) updating
      rw [append_nil]
      exact underway.shown
  · have news := (sentSince_snoc underway.since told).2
    refine ⟨.idle inTime set fun condition maps => ?_, ?_⟩
    · rw [news]
      exact maps.client
    · exact underway.of_update elsewhere rows sockets told underway.shown.client (by simp) updating

/-- The update sends a call, or it is over. -/
theorem Underway.update_step (underway : Underway socket username update leave before stage pool) :
    UpdateEffect socket update.partyId leave.userId before stage pool
        (pool.advance answer .update).store ∧
      Underway socket username update leave before stage (pool.advance answer .update) := by
  have stopped (ended : (pool.threads .update).Ended) :
      UpdateEffect socket update.partyId leave.userId before stage pool
          (pool.advance answer .update).store ∧
        Underway socket username update leave before stage (pool.advance answer .update) := by
    rw [Pool.advance_of_ended ended]
    refine ⟨.idle (fun request asked => ?_) rfl fun _ maps => maps, underway⟩
    rw [Pool.next?, ended] at asked
    cases asked
  cases underway.updating with
  | fresh here =>
    refine underway.harmless_step here (.inl (by simp)) (.named ?_)
    simp only [answer, underway.identity]
    rfl
  | named here =>
    refine underway.harmless_step here (.inl (by simp)) ?_
    simp only [answer]
    by_cases listed : leave.userId ∈ pool.store.partyMemberSet update.partyId
    · rw [decide_eq_true listed]
      exact .admitted (Uses.bind relayLocation_ofUpdate fun _ => trivial) (.inl listed)
    · rw [decide_eq_false listed]
      exact .refused (Uses.bind (replyError_harmless ..) fun _ => trivial)
  | refused uses =>
    cases shape : pool.threads .update with
    | done | fail => exact stopped (by rw [shape]; rfl)
    | call request next =>
      rw [shape] at uses
      exact underway.harmless_step shape uses.1 (.refused (uses.2 _))
  | admitted uses once =>
    cases shape : pool.threads .update with
    | done | fail => exact stopped (by rw [shape]; rfl)
    | call request next =>
      rw [shape] at uses
      obtain ⟨permitted, rest⟩ := uses
      have asked : pool.next? .update = some request := by
        rw [Pool.next?, shape, next?_call]
      have elsewhere : (pool.advance answer .update).threads .leave = pool.threads .leave :=
        Pool.threads_advance_of_ne (by decide)
      have own : (pool.advance answer .update).threads .update =
          next (answer request pool.store).1 := by
        rw [Pool.advance_of_call shape]
        simp only [update_self]
      have stored : (pool.advance answer .update).store = (answer request pool.store).2 := by
        rw [Pool.advance_of_call shape]
      cases permitted with
      | harmless harmless =>
        exact underway.harmless_step shape harmless (.admitted (rest _) once)
      | lists =>
        have silent : (pool.advance answer .update).store.outbox =
            pool.store.outbox ++ [] := by
          rw [stored, append_nil]
          rfl
        have now : leave.userId ∈
            (pool.advance answer .update).store.partyMemberSet update.partyId := by
          rw [stored]
          simp [answer, State.redis]
        have news := (sentSince_snoc underway.since silent).2
        rw [append_nil] at news
        refine ⟨.lists ?_ once now news, ?_⟩
        · refine ⟨fun inTime => inTime _ asked, fun listed sent same => ?_⟩
          rw [asked] at same
          cases same
          exact listed
        · refine underway.of_update elsewhere ?_ ?_ silent ?_ (by simp) ?_
          · rw [stored]
            exact redis_keepsRows pool.store (.saddMembers update.partyId leave.userId)
          · rw [stored]
            rfl
          · rw [append_nil]
            exact underway.shown
          · rw [own]
            exact .admitted (rest _) (.inl now)
      | broadcasts lat lng heading speed time =>
        have told : (pool.advance answer .update).store.outbox = pool.store.outbox ++
            [.room (.memberUpdated update.partyId leave.userId lat lng heading speed time)
              (some socket)] := by
          rw [stored]
          rfl
        have set : (pool.advance answer .update).store.partyMemberSet =
            pool.store.partyMemberSet := by
          rw [stored]
          rfl
        have news := (sentSince_snoc underway.since told).2
        refine ⟨.broadcasts ?_ set ?_, ?_⟩
        · refine ⟨fun inTime => inTime _ asked, fun quiet sent same => ?_⟩
          rw [asked] at same
          cases same
          exact quiet
        · rw [news]
          exact underway.shown.memberUpdated
        · refine underway.of_update elsewhere ?_ ?_ told ?_ (by simp) ?_
          · rw [stored]
            exact .of_eq rfl rfl rfl
          · rw [stored]
            rfl
          · exact fun store other held apart =>
              ⟨(underway.shown.memberUpdated store other held apart).1, trivial⟩
          · rw [own, set]
            exact .admitted (rest _) once

/-! ## Whole interleavings -/

/-- The leave has had its effect so far. -/
def Effective (socket : SocketId) (username : String) (update : WsPartyUpdateLocation)
    (leave : LeaveRequest) (before : State)
    (pool : Pool Racer StoreCall StoreReply ServiceError Unit State) : Prop :=
  ∃ stage, Underway socket username update leave before stage pool ∧
    (stage.Unlisted → leave.userId ∉ pool.store.partyMemberSet update.partyId) ∧
    (stage.Announced → OnMaps socket update.partyId leave.userId (fun entry => entry = none)
      (pool.store.sentSince before))

def Undone (socket : SocketId) (username : String) (update : WsPartyUpdateLocation)
    (leave : LeaveRequest) (before : State)
    (pool : Pool Racer StoreCall StoreReply ServiceError Unit State) : Prop :=
  ∃ stage, Underway socket username update leave before stage pool ∧
    ((stage.Unlisted ∧ leave.userId ∈ pool.store.partyMemberSet update.partyId) ∨
      (stage.Announced ∧ OnMaps socket update.partyId leave.userId (fun entry => entry ≠ none)
        (pool.store.sentSince before)))

theorem Effective.advance (effective : Effective socket username update leave before pool)
    (racer : Racer) (inTime : pool.Obliged (InTime before) racer) :
    Effective socket username update leave before (pool.advance answer racer) := by
  obtain ⟨stage, underway, unlisted, unseen⟩ := effective
  cases racer with
  | leave =>
    obtain ⟨same, -, -⟩ | ⟨stage', effect, underway'⟩ := underway.leave_step
    · rw [same]
      exact ⟨stage, underway, unlisted, unseen⟩
    · refine ⟨stage', underway', fun gone => ?_, fun announced' => ?_⟩
      · cases effect with
        | idle set sent unlisted' announced =>
          rw [set]
          exact unlisted (unlisted'.mp gone)
        | unlists still unannounced now gone sent => exact gone
        | announces reason set sent gone still announced =>
          rw [set]
          exact unlisted gone
        | proclaims winner set sent announced announced' =>
          rw [set]
          exact unlisted announced.unlisted
      · cases effect with
        | idle set sent unlisted' announced =>
          rw [(sentSince_snoc underway.since sent).2, append_nil]
          exact unseen (announced.mp announced')
        | unlists still unannounced now gone sent => exact absurd announced' unannounced
        | announces reason set sent gone still announced =>
          rw [(sentSince_snoc underway.since sent).2]
          exact underway.shown.memberLeft
        | proclaims winner set sent announced announced' =>
          rw [(sentSince_snoc underway.since sent).2]
          exact (unseen announced).leaderChanged
  | update =>
    obtain ⟨effect, underway'⟩ := underway.update_step
    refine ⟨stage, underway', fun gone => ?_, fun announced => ?_⟩
    · cases effect with
      | idle _ set | broadcasts _ set =>
        rw [set]
        exact unlisted gone
      | lists timely once now silent => exact absurd (timely.mp inTime) (unlisted gone)
    · cases effect with
      | idle quiet set maps => exact maps _ (unseen announced)
      | lists timely once now silent =>
        rw [silent]
        exact unseen announced
      | broadcasts timely set seen =>
        exact absurd (underway.announced.mpr announced) (timely.mp inTime)

theorem Effective.undone (effective : Effective socket username update leave before pool)
    (racer : Racer) (late : ¬ pool.Obliged (InTime before) racer) :
    Undone socket username update leave before (pool.advance answer racer) := by
  obtain ⟨stage, underway, unlisted, unseen⟩ := effective
  cases racer with
  | leave =>
    -- a leave puts nobody into the set, and sends no position
    refine absurd (fun request asked => ?_) late
    rw [Pool.next?, underway.leaving] at asked
    cases stage with
    | finished outcome => cases outcome <;> cases asked
    | _ => cases asked; trivial
  | update =>
    obtain ⟨effect, underway'⟩ := underway.update_step
    refine ⟨stage, underway', ?_⟩
    cases effect with
    | idle quiet set maps => exact absurd quiet late
    | lists timely once now silent =>
      exact .inl ⟨once.resolve_left fun listed => late (timely.mpr listed), now⟩
    | broadcasts timely set seen =>
      have announced := not_not.mp fun quiet => late (timely.mpr quiet)
      exact .inr ⟨underway.announced.mp announced, seen⟩

theorem Undone.advance (undone : Undone socket username update leave before pool) (racer : Racer) :
    Undone socket username update leave before (pool.advance answer racer) := by
  obtain ⟨stage, underway, spoiled⟩ := undone
  cases racer with
  | leave =>
    obtain ⟨same, -, -⟩ | ⟨stage', effect, underway'⟩ := underway.leave_step
    · rw [same]
      exact ⟨stage, underway, spoiled⟩
    · refine ⟨stage', underway', ?_⟩
      cases effect with
      | idle set sent unlisted announced =>
        rw [set, unlisted, announced, (sentSince_snoc underway.since sent).2, append_nil]
        exact spoiled
      | unlists still unannounced now gone sent =>
        rcases spoiled with ⟨gone, -⟩ | ⟨announced, -⟩
        · exact absurd gone still
        · exact absurd announced.unlisted still
      | announces reason set sent gone still announced =>
        rcases spoiled with ⟨-, listed⟩ | ⟨already, -⟩
        · exact .inl ⟨announced.unlisted, by rwa [set]⟩
        · exact absurd already still
      | proclaims winner set sent announced announced' =>
        rcases spoiled with ⟨-, listed⟩ | ⟨-, seen⟩
        · exact .inl ⟨announced'.unlisted, by rwa [set]⟩
        · refine .inr ⟨announced', ?_⟩
          rw [(sentSince_snoc underway.since sent).2]
          exact seen.leaderChanged
  | update =>
    obtain ⟨effect, underway'⟩ := underway.update_step
    refine ⟨stage, underway', ?_⟩
    rcases spoiled with ⟨gone, listed⟩ | ⟨announced, seen⟩
    · refine .inl ⟨gone, ?_⟩
      cases effect with
      | idle _ set | broadcasts _ set => rwa [set]
      | lists timely once now silent => exact now
    · refine .inr ⟨announced, ?_⟩
      cases effect with
      | idle quiet set maps => exact maps _ seen
      | lists timely once now silent => rwa [silent]
      | broadcasts timely set shown => exact shown

/-- When both are over, the leave has had all its effects. -/
theorem Underway.finished (underway : Underway socket username update leave before stage pool)
    (completed : ∀ racer, (pool.threads racer).Ended) : ∃ outcome, stage = .finished outcome := by
  have stopped := completed .leave
  rw [underway.leaving] at stopped
  cases stage with
  | finished outcome => exact ⟨outcome, rfl⟩
  | _ => cases stopped

end Steps

def someStore (party : Party) : PartyStore :=
  (PartyStore.mk none (fun _ => none) []).setParty (some (partyDetail 0 ⟨party, [], none⟩))

/-- **Who leaves while a position of theirs comes in vanishes exactly when the position is in
time.** -/
theorem leaver_vanishes_iff (socket : SocketId) (username : String) (update : WsPartyUpdateLocation)
    (leave : LeaveRequest) (s : State)
    (identity : s.sockets socket = some (leave.userId, username))
    (live : s.partyIsLive update.partyId = true) (active : s.Active update.partyId leave.userId)
    (accompanied : ∃ stayer, stayer ≠ leave.userId ∧ s.Active update.partyId stayer)
    (schedule : List Racer)
    (completed : ∀ racer, ((follow (Pool.advance answer) (racing socket update leave s)
      schedule).threads racer).Ended) :
    Vanished socket update.partyId leave.userId s
        (follow (Pool.advance answer) (racing socket update leave s) schedule).store ↔
      EachStep (Pool.advance answer) (Pool.Obliged (InTime s)) (racing socket update leave s)
        schedule := by
  have silent : s.sentSince s = [] := List.drop_length
  have start : Underway socket username update leave s .start (racing socket update leave s) :=
    { leaving := rfl
      live := live
      sound := Stage.sound_of_none rfl rfl
      accompanied := accompanied
      present := fun _ => active
      identity := identity
      updating := .fresh rfl
      since := by
        rw [racing, silent, List.append_nil]
      shown := by
        rw [racing, silent]
        exact onMaps_nil
      announced := by
        rw [racing, State.AnnouncedSince, silent]
        simp [Stage.Announced, Stage.Unlisted] }
  have effective : Effective socket username update leave s (racing socket update leave s) :=
    ⟨.start, start, fun gone => (nomatch gone), fun announced => (nomatch announced)⟩
  constructor
  · intro vanished
    have unspoiled : ¬ Undone socket username update leave s
        (follow (Pool.advance answer) (racing socket update leave s) schedule) := by
      rintro ⟨stage, underway, ⟨-, listed⟩ | ⟨-, seen⟩⟩
      · exact vanished.unlisted listed
      · obtain ⟨party, -, -⟩ := partyIsLive_iff.mp live
        have shown := seen (someStore party) (socket + 1) rfl (Nat.succ_ne_self socket)
        exact shown.2 (vanished.unseen (someStore party) (socket + 1) rfl (Nat.succ_ne_self socket))
    refine eachStep_of_unspoiled (fun pool racer sound met => ?_) (fun pool racer sound late => ?_)
      (fun pool racer undone => ?_) effective unspoiled
    · exact Effective.advance sound racer met
    · exact Effective.undone sound racer late
    · exact Undone.advance undone racer
  · intro steps
    obtain ⟨stage, underway, unlisted, unseen⟩ :=
      last_of_keeps (fun pool racer (sound : Effective socket username update leave s pool) met =>
        sound.advance racer met) effective steps
    obtain ⟨outcome, rfl⟩ := underway.finished completed
    exact ⟨unlisted trivial, fun store other held elsewhere =>
      (unseen trivial store other held elsewhere).2⟩

/-- Rider 2 has joined the party of rider 1, and watches it. -/
def partyOfTwo : State :=
  follow step smallInstallation
    [.createParty 1 10 smallParty, .joinParty 2 10, .connect 7 2 "r", .partyJoin 7 (some 10)]

def smallPosition : WsPartyUpdateLocation := ⟨10, 0, 0, none, none⟩

/-- The position is in before its user starts to leave. -/
theorem leaver_vanishes_small :
    Vanished 7 10 2 partyOfTwo
        (follow (Pool.advance answer) (racing 7 smallPosition ⟨2, .left⟩ partyOfTwo)
          (List.replicate 14 .update ++ List.replicate 4 .leave)).store ↔
      EachStep (Pool.advance answer) (Pool.Obliged (InTime partyOfTwo))
        (racing 7 smallPosition ⟨2, .left⟩ partyOfTwo)
        (List.replicate 14 .update ++ List.replicate 4 .leave) :=
  leaver_vanishes_iff 7 "r" smallPosition ⟨2, .left⟩ partyOfTwo (by decide +kernel)
    (by decide +kernel) (by decide +kernel) ⟨1, by decide, by decide +kernel⟩ _ (by
      intro racer
      cases racer <;> decide +kernel)

/-- The whole leave falls between the check of the membership and the rest of the update. -/
def lateUpdate : List Racer :=
  List.replicate 2 .update ++ List.replicate 4 .leave ++ List.replicate 12 .update

/-- Both are over, rider 1 stays, and rider 2 is in the member set again and on the map of
rider 1. -/
theorem leaver_lingers :
    (partyOfTwo.sockets 7 = some (2, "r") ∧ partyOfTwo.partyIsLive 10 = true ∧
        partyOfTwo.Active 10 2 ∧ partyOfTwo.Active 10 1) ∧
      (∀ racer, ((follow (Pool.advance answer) (racing 7 smallPosition ⟨2, .left⟩ partyOfTwo)
        lateUpdate).threads racer).Ended) ∧
      2 ∈ (follow (Pool.advance answer) (racing 7 smallPosition ⟨2, .left⟩ partyOfTwo)
        lateUpdate).store.partyMemberSet 10 ∧
      ¬ Vanished 7 10 2 partyOfTwo
        (follow (Pool.advance answer) (racing 7 smallPosition ⟨2, .left⟩ partyOfTwo)
          lateUpdate).store := by
  have listed : 2 ∈ (follow (Pool.advance answer) (racing 7 smallPosition ⟨2, .left⟩ partyOfTwo)
      lateUpdate).store.partyMemberSet 10 := by decide +kernel
  refine ⟨by decide +kernel, fun racer => ?_, listed, fun vanished => vanished.unlisted listed⟩
  cases racer <;> decide +kernel

end Motogram
