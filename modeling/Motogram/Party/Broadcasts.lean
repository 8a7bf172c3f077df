import Motogram.System

/-!
# Broadcast and accepted positions

A `party:update_location` that passes the checks of the gateway goes to `updateLocation`, which skips it when
the user has pinged within the last second. The gateway does not look at the result, and broadcasts the position
in either case.

So the broadcasts are those of the accepted updates, one in each lifetime of the rate key of a user, exactly as
long as no update that passes the checks is skipped (`broadcasts_faithful_iff`).
-/

set_option autoImplicit false

namespace Motogram

open Foundation Program

/-! ## What a message does -/

structure Report where
  userId : UserId
  position : Coordinates
  deriving DecidableEq

/-- The position that an emission broadcasts. -/
def reportOf : Emission → Option Report
  | .room (.memberUpdated _ userId lat lng _ _ _) _ => some ⟨userId, ⟨lat, lng⟩⟩
  | _ => none

/-- The update that a message hands to the location service, when it passes the checks of the gateway. -/
def updateOf (s : State) (socket : SocketId) (payload : Option WsPartyUpdateLocation) :
    Option (UserId × WsPartyUpdateLocation × User) :=
  match s.sockets socket, payload with
  | some (userId, _), some update =>
    match s.users userId with
    | some user =>
      if userId ∈ s.partyMemberSet update.partyId ∧ user.isBanned = false then some (userId, update, user)
      else none
    | none => none
  | _, _ => none

/-- The position that the location service accepts from a message. -/
def acceptedOf (s : State) (socket : SocketId) (payload : Option WsPartyUpdateLocation) : Option Report :=
  match updateOf s socket payload with
  | none => none
  | some (userId, update, user) =>
    match ((updateLocation s.deployment userId update.toDto user).exec s).1 with
    | .error _ => none
    | .ok result => if result.accepted then some ⟨userId, ⟨update.lat, update.lng⟩⟩ else none

section Message

variable {s : State} {socket : SocketId} {payload : Option WsPartyUpdateLocation} {userId : UserId}
  {update : WsPartyUpdateLocation} {user : User}

theorem updateOf_eq_some :
    updateOf s socket payload = some (userId, update, user) ↔
      (∃ username, s.sockets socket = some (userId, username)) ∧ payload = some update ∧
        s.users userId = some user ∧ userId ∈ s.partyMemberSet update.partyId ∧ user.isBanned = false := by
  unfold updateOf
  constructor
  · intro passes
    split at passes
    · rename_i member username payload identity
      split at passes
      · rename_i stored known
        split at passes
        · rename_i holds
          cases passes
          exact ⟨⟨username, identity⟩, rfl, known, holds⟩
        · cases passes
      · cases passes
    · cases passes
  · rintro ⟨⟨username, identity⟩, rfl, known, listed, allowed⟩
    simp [identity, known, listed, allowed]

/-- A message that passes the checks broadcasts its position, whatever becomes of the update. -/
theorem exec_message_of_some (passes : updateOf s socket payload = some (userId, update, user)) :
    ((handlePartyUpdateLocation s.deployment socket payload).exec s).2 =
      ((updateLocation s.deployment userId update.toDto user).exec s).2.sent
        (memberUpdated userId update socket
          ((updateLocation s.deployment userId update.toDto user).exec s).2.now) := by
  obtain ⟨⟨username, identity⟩, rfl, known, listed, allowed⟩ := updateOf_eq_some.mp passes
  have outcome := updateLocation_outcome s userId update.toDto user
  unfold handlePartyUpdateLocation partyUpdateLocation relayLocation Flow.exec
  simp only [run_sends, answer, identity, listed, known,
    allowed, decide_true, Bool.true_eq_false, Bool.false_eq_true, if_false]
  rw [run_bind]
  unfold Flow.exec at outcome
  cases ran : run answer (updateLocation s.deployment userId update.toDto user) s with
  | mk result after =>
    rw [ran] at outcome
    cases result with
    | ok result => rfl
    | error error =>
      cases outcome with
      | banned banned =>
        rw [allowed] at banned
        cases banned

/-- A message that fails a check is answered with an error, or ignored. -/
theorem exec_message_of_none (stops : updateOf s socket payload = none) :
    ((handlePartyUpdateLocation s.deployment socket payload).exec s).2 = s ∨
      ∃ error, ((handlePartyUpdateLocation s.deployment socket payload).exec s).2 = s.sent (.client socket error) := by
  unfold handlePartyUpdateLocation Flow.exec
  simp only [run_sends, answer]
  cases identity : s.sockets socket with
  | none => exact .inl rfl
  | some data =>
    obtain ⟨userId, username⟩ := data
    cases payload with
    | none => exact .inr ⟨_, rfl⟩
    | some update =>
      simp only [partyUpdateLocation, run_sends, answer]
      by_cases listed : userId ∈ s.partyMemberSet update.partyId
      · simp only [listed, decide_true, Bool.true_eq_false, if_false, relayLocation, call_bind,
          done_bind, run_call, answer]
        cases known : s.users userId with
        | none => exact .inl rfl
        | some user =>
          by_cases banned : user.isBanned = true
          · simp only [banned, if_true]
            exact .inl rfl
          · have passes : updateOf s socket (some update) = some (userId, update, user) :=
              updateOf_eq_some.mpr ⟨⟨username, identity⟩, rfl, known, listed, by simpa using banned⟩
            rw [passes] at stops
            cases stops
      · simp only [listed, decide_false, if_true]
        exact .inr ⟨_, rfl⟩

theorem multi_keepsOutbox (s : State) (commands : List RedisCommand) :
    (commands.foldl State.redis s).outbox = s.outbox ∧ (commands.foldl State.redis s).now = s.now ∧
      (commands.foldl State.redis s).counters = s.counters := by
  refine List.foldlRecOn (motive := fun t => t.outbox = s.outbox ∧ t.now = s.now ∧ t.counters = s.counters)
    commands State.redis ⟨rfl, rfl, rfl⟩ ?_
  intro t same command _
  cases command <;> exact same

/-- **An update that names a party is accepted when the rate key allows it.** It counts a ping in either case,
and sends nothing. -/
theorem update_of_passes (passes : updateOf s socket payload = some (userId, update, user)) :
    ((updateLocation s.deployment userId update.toDto user).exec s).2.outbox = s.outbox ∧
      ((updateLocation s.deployment userId update.toDto user).exec s).2.now = s.now ∧
      ((updateLocation s.deployment userId update.toDto user).exec s).2.counters = (s.pinged userId).counters ∧
      acceptedOf s socket payload =
        if s.AllowsPing userId then some ⟨userId, ⟨update.lat, update.lng⟩⟩ else none := by
  obtain ⟨-, -, -, -, allowed⟩ := updateOf_eq_some.mp passes
  have outcome := updateLocation_outcome s userId update.toDto user
  rw [acceptedOf, passes]
  cases ran : (updateLocation s.deployment userId update.toDto user).exec s with
  | mk result after =>
    rw [ran] at outcome
    cases outcome with
    | banned banned =>
      rw [allowed] at banned
      cases banned
    | limited shard _ limited =>
      refine ⟨rfl, rfl, rfl, ?_⟩
      simp only [ran, if_neg limited]
      rfl
    | disabled shard _ counted off apart => cases apart
    | accepted _ counted shared =>
      obtain ⟨outbox, now, counters⟩ := multi_keepsOutbox (s.pinged userId)
        (updateCommands userId update.toDto user
          (userLocationShard (s.pinged userId).deployment (updateCity update.toDto user))
          (s.pinged userId).now)
      refine ⟨outbox, now, counters, ?_⟩
      simp only [ran, if_pos counted]
      rfl

end Message

/-! ## Runs of messages -/

/-- A message arrives, or time passes. -/
inductive PositionInput where
  | message (socket : SocketId) (payload : Option WsPartyUpdateLocation)
  | elapse (milliseconds : Nat)

/-- The stores, the number of emissions before the run, the accepted positions, and for each user the number of
broadcasts in the lifetime of the rate key. -/
structure Broadcasts where
  state : State
  earlier : Nat
  accepted : List Report
  thisLife : UserId → Nat

namespace Broadcasts

/-- Before the first message. -/
def start (s : State) : Broadcasts := ⟨s, s.outbox.length, [], fun _ => 0⟩

/-- The positions broadcast in the run. -/
def sent (world : Broadcasts) : List Report := (world.state.outbox.drop world.earlier).filterMap reportOf

/-- The broadcasts of a user in the lifetime of the key, when it is hit now: the first hit after its deadline
begins another lifetime. -/
def thisLifeAt (world : Broadcasts) (userId : UserId) : Nat :=
  if (Expiring.live world.state.now (world.state.counters (.locationPing userId))).isSome then
    world.thisLife userId
  else 0

/-- The broadcasts of a user between two states. -/
def newOf (before after : State) (userId : UserId) : Nat :=
  ((after.outbox.drop before.outbox.length).filterMap reportOf).countP fun report => report.userId = userId

def step (world : Broadcasts) : PositionInput → Broadcasts
  | .elapse milliseconds => { world with state := world.state.elapsed milliseconds }
  | .message socket payload =>
    { state := ((handlePartyUpdateLocation world.state.deployment socket payload).exec world.state).2
      earlier := world.earlier
      accepted := world.accepted ++ (acceptedOf world.state socket payload).toList
      thisLife := match updateOf world.state socket payload with
        | none => world.thisLife
        | some (userId, _, _) =>
          Function.update world.thisLife userId (world.thisLifeAt userId +
            newOf world.state
              ((handlePartyUpdateLocation world.state.deployment socket payload).exec world.state).2 userId) }

/-- A position is broadcast only for an update that was accepted, a user causes one broadcast at most in a lifetime
of the rate key, and the last position broadcast for a user is the last that was accepted. -/
structure Faithful (world : Broadcasts) : Prop where
  only : world.sent.Sublist world.accepted
  once : ∀ userId, world.thisLife userId ≤ 1
  last : ∀ userId, (world.sent.filter fun report => report.userId = userId).getLast? =
    (world.accepted.filter fun report => report.userId = userId).getLast?

/-- A message that passes the checks of the gateway is not skipped: the rate key of its user allows it. -/
def Allowed (world : Broadcasts) : PositionInput → Prop
  | .elapse _ => True
  | .message socket payload =>
    ∀ entry, updateOf world.state socket payload = some entry → world.state.AllowsPing entry.1

/-- What allowed messages keep: all that is sent was accepted, and the counter has seen the broadcasts of its
lifetime. -/
structure Sound (world : Broadcasts) : Prop where
  before : world.earlier ≤ world.state.outbox.length
  same : world.sent = world.accepted
  once : ∀ userId, world.thisLife userId ≤ 1
  counted : ∀ userId stored, Expiring.live world.state.now (world.state.counters (.locationPing userId)) =
    some stored → world.thisLife userId ≤ stored.value

variable {world : Broadcasts}

theorem Sound.faithful (sound : world.Sound) : world.Faithful where
  only := by rw [sound.same]
  once := sound.once
  last := fun userId => by rw [sound.same]

theorem live_of_later {Value : Type} {now later : Time} {entry : Option (Expiring Value)}
    {stored : Expiring Value} (le : now ≤ later) (alive : Expiring.live later entry = some stored) :
    Expiring.live now entry = some stored := by
  obtain ⟨present, running⟩ := Option.filter_eq_some_iff.mp alive
  refine Option.filter_eq_some_iff.mpr ⟨present, ?_⟩
  cases ends : stored.deadline with
  | none => rfl
  | some deadline =>
    rw [ends, Option.all_some, decide_eq_true_eq] at running
    rw [Option.all_some, decide_eq_true_eq]
    exact Nat.lt_of_le_of_lt le running

theorem live_pinged {s : State} {userId other : UserId} {stored : Expiring Nat}
    (alive : Expiring.live s.now ((s.pinged userId).counters (.locationPing other)) = some stored) :
    if other = userId then stored.value = (bumped s.now (s.counters (.locationPing userId))).value
    else Expiring.live s.now (s.counters (.locationPing other)) = some stored := by
  by_cases here : other = userId
  · subst here
    rw [if_pos rfl]
    have written := Expiring.live_eq_some alive
    rw [State.counted_counters, Function.update_self, State.countedValue] at written
    split at written
    · obtain ⟨kept, alive', rfl⟩ := Option.map_eq_some_iff.mp written
      have same := Expiring.live_eq_some alive'
      cases same
      rfl
    · cases written
      rfl
  · rw [if_neg here]
    have different : CounterKey.locationPing other ≠ .locationPing userId := by
      rintro ⟨⟩
      exact here rfl
    rw [State.counted_counters, Function.update_of_ne different] at alive
    exact alive

theorem sent_of_outbox {later : Broadcasts} {emission : Emission} (before : world.earlier ≤ world.state.outbox.length)
    (earlier : later.earlier = world.earlier)
    (outbox : later.state.outbox = world.state.outbox ++ [emission]) :
    later.sent = world.sent ++ (reportOf emission).toList := by
  rw [sent, earlier, outbox, List.drop_append_of_le_length before, sent]
  cases found : reportOf emission with
  | none | some => simp [found]

theorem step_message {socket : SocketId} {payload : Option WsPartyUpdateLocation} {userId : UserId}
    {update : WsPartyUpdateLocation} {user : User} (before : world.earlier ≤ world.state.outbox.length)
    (passes : updateOf world.state socket payload = some (userId, update, user)) :
    (world.step (.message socket payload)).sent = world.sent ++ [⟨userId, ⟨update.lat, update.lng⟩⟩] ∧
      (world.step (.message socket payload)).accepted = world.accepted ++
        (if world.state.AllowsPing userId then [⟨userId, ⟨update.lat, update.lng⟩⟩] else []) ∧
      (world.step (.message socket payload)).thisLife =
        Function.update world.thisLife userId (world.thisLifeAt userId + 1) := by
  obtain ⟨outbox, now, counters, accepted⟩ := update_of_passes passes
  have after := exec_message_of_some passes
  have reported : reportOf (memberUpdated userId update socket
      ((updateLocation world.state.deployment userId update.toDto user).exec world.state).2.now) =
        some ⟨userId, ⟨update.lat, update.lng⟩⟩ := rfl
  have emitted : ((handlePartyUpdateLocation world.state.deployment socket payload).exec
      world.state).2.outbox = world.state.outbox ++ [memberUpdated userId update socket
        ((updateLocation world.state.deployment userId update.toDto user).exec world.state).2.now] := by
    rw [after, State.sent_outbox, outbox]
  refine ⟨?_, ?_, ?_⟩
  · have added : (world.step (.message socket payload)).sent = _ := sent_of_outbox before rfl emitted
    rw [added]
    rfl
  · have appended : (world.step (.message socket payload)).accepted =
        world.accepted ++ (acceptedOf world.state socket payload).toList := rfl
    rw [appended, accepted]
    split <;> rfl
  · have one : newOf world.state ((handlePartyUpdateLocation world.state.deployment socket payload).exec
        world.state).2 userId = 1 := by
      rw [newOf, emitted, List.drop_left, List.filterMap_cons_some reported]
      simp
    have counted : (world.step (.message socket payload)).thisLife =
        Function.update world.thisLife userId (world.thisLifeAt userId +
          newOf world.state ((handlePartyUpdateLocation world.state.deployment socket payload).exec
            world.state).2 userId) := by
      rw [step]
      simp only [passes]
    rw [counted, one]

theorem step_message_of_none {socket : SocketId} {payload : Option WsPartyUpdateLocation}
    (before : world.earlier ≤ world.state.outbox.length)
    (stops : updateOf world.state socket payload = none) :
    (world.step (.message socket payload)).sent = world.sent ∧
      (world.step (.message socket payload)).accepted = world.accepted ∧
      (world.step (.message socket payload)).thisLife = world.thisLife ∧
      (world.step (.message socket payload)).state.now = world.state.now ∧
      (world.step (.message socket payload)).state.counters = world.state.counters ∧
      world.state.outbox.length ≤ (world.step (.message socket payload)).state.outbox.length := by
  have after : (world.step (.message socket payload)).state =
      ((handlePartyUpdateLocation world.state.deployment socket payload).exec world.state).2 := rfl
  have nothing : (world.step (.message socket payload)).accepted = world.accepted := by
    rw [step, acceptedOf, stops]
    exact List.append_nil _
  have lives : (world.step (.message socket payload)).thisLife = world.thisLife := by
    rw [step]
    simp only [stops]
  rcases exec_message_of_none stops with same | ⟨error, answered⟩
  · rw [same] at after
    refine ⟨?_, nothing, lives, ?_, ?_, ?_⟩
    · rw [sent, after]
      rfl
    · rw [after]
    · rw [after]
    · rw [after]
  · rw [answered] at after
    refine ⟨?_, nothing, lives, ?_, ?_, ?_⟩
    · have emitted : (world.step (.message socket payload)).state.outbox =
          world.state.outbox ++ [.client socket error] := by
        rw [after]
        rfl
      have added : (world.step (.message socket payload)).sent = _ := sent_of_outbox before rfl emitted
      rw [added]
      exact List.append_nil _
    · rw [after]
      rfl
    · rw [after]
      rfl
    · rw [after, State.sent_outbox, List.length_append]
      omega

/-- **Allowed messages keep what is sent and what is accepted together.** -/
theorem Sound.step (sound : world.Sound) {input : PositionInput} (allowed : world.Allowed input) :
    (world.step input).Sound := by
  cases input with
  | elapse milliseconds =>
    refine ⟨sound.before, sound.same, sound.once, fun userId stored alive => ?_⟩
    exact sound.counted userId stored (live_of_later (Nat.le_add_right _ _) alive)
  | message socket payload =>
    cases passes : updateOf world.state socket payload with
    | none =>
      obtain ⟨sent, accepted, lives, now, counters, longer⟩ := step_message_of_none sound.before passes
      refine ⟨sound.before.trans longer, ?_, fun userId => ?_, fun userId stored alive => ?_⟩
      · rw [sent, accepted, sound.same]
      · rw [lives]
        exact sound.once userId
      · rw [now, counters] at alive
        rw [lives]
        exact sound.counted userId stored alive
    | some entry =>
      obtain ⟨userId, update, user⟩ := entry
      have counted : world.state.AllowsPing userId := allowed _ passes
      obtain ⟨sent, accepted, lives⟩ := step_message sound.before passes
      obtain ⟨outbox, now, counters, -⟩ := update_of_passes passes
      have after : (world.step (.message socket payload)).state =
          ((updateLocation world.state.deployment userId update.toDto user).exec world.state).2.sent _ :=
        exec_message_of_some passes
      -- the ping that is allowed is the first of a lifetime of the key
      have first : world.thisLifeAt userId = 0 := by
        rw [thisLifeAt]
        cases alive : Expiring.live world.state.now (world.state.counters (.locationPing userId)) with
        | none => rfl
        | some stored =>
          have seen := sound.counted userId stored alive
          rw [State.AllowsPing, bumped, alive] at counted
          have limit : stored.value + 1 ≤ 1 := counted
          simp only [Option.isSome_some, if_true]
          omega
      refine ⟨?_, ?_, fun other => ?_, fun other stored alive => ?_⟩
      · have before := sound.before
        rw [after, State.sent_outbox, outbox, List.length_append]
        exact Nat.le_add_right_of_le before
      · rw [sent, accepted, if_pos counted, sound.same]
      · rw [lives, first]
        by_cases here : other = userId
        · rw [here, Function.update_self]
        · rw [Function.update_of_ne here]
          exact sound.once other
      · rw [after, State.sent_now, State.sent_counters, now, counters] at alive
        have pinged := live_pinged alive
        rw [lives, first]
        by_cases here : other = userId
        · rw [if_pos here] at pinged
          rw [here, Function.update_self, pinged, bumped]
          split
          · exact Nat.le_refl 1
          · exact Nat.le_add_left 1 _
        · rw [if_neg here] at pinged
          rw [Function.update_of_ne here]
          exact sound.counted other stored pinged

theorem not_faithful_of_skipped (sound : world.Sound) {input : PositionInput} (skipped : ¬ world.Allowed input) :
    ¬ (world.step input).Faithful := by
  cases input with
  | elapse milliseconds => exact absurd trivial skipped
  | message socket payload =>
    simp only [Allowed, not_forall] at skipped
    obtain ⟨⟨userId, update, user⟩, passes, limited⟩ := skipped
    obtain ⟨sent, accepted, -⟩ := step_message sound.before passes
    intro faithful
    have shorter := faithful.only.length_le
    rw [sent, accepted, if_neg limited, sound.same, List.length_append, List.length_append] at shorter
    simp only [List.length_cons, List.length_nil] at shorter
    omega

end Broadcasts

/-- **What is broadcast is what is accepted, once in each lifetime of the rate key, exactly in the runs in which
every message that passes the checks is allowed by the rate key.** -/
theorem broadcasts_faithful_iff (s : State) (inputs : List PositionInput) :
    Throughout Broadcasts.step Broadcasts.Faithful (.start s) inputs ↔
      EachStep Broadcasts.step Broadcasts.Allowed (.start s) inputs := by
  have initially : (Broadcasts.start s).Sound := by
    refine ⟨Nat.le_refl _, ?_, fun _ => Nat.zero_le 1, fun _ _ _ => Nat.zero_le _⟩
    rw [Broadcasts.sent, Broadcasts.start, List.drop_length]
    rfl
  have keeps : ∀ (world : Broadcasts) (input : PositionInput), world.Sound → world.Allowed input →
      (world.step input).Sound := fun world input sound allowed => sound.step allowed
  have breaks : ∀ (world : Broadcasts) (input : PositionInput), world.Sound → ¬ world.Allowed input →
      ¬ (world.step input).Faithful := fun world input sound skipped => Broadcasts.not_faithful_of_skipped sound skipped
  exact throughout_iff_eachStep (fun world sound => sound.faithful) keeps breaks initially inputs

/-- Rider 1 in the party of rider 1 and 2. -/
def ridingInstallation : State :=
  follow step smallInstallation [.createParty 1 10 smallParty, .joinParty 2 10, .connect 5 1 "r"]

/-- Two positions within a second: the second is skipped and broadcast. -/
theorem skipped_position_broadcast :
    let world := follow Broadcasts.step (.start ridingInstallation)
      [.message 5 (some ⟨10, 0, 0, none, none⟩), .elapse 500, .message 5 (some ⟨10, 1, 1, none, none⟩)]
    world.accepted = [⟨1, ⟨0, 0⟩⟩] ∧ world.sent = [⟨1, ⟨0, 0⟩⟩, ⟨1, ⟨1, 1⟩⟩] ∧ world.thisLife 1 = 2 ∧
      ¬ world.Faithful := by
  intro world
  have accepted : world.accepted = [⟨1, ⟨0, 0⟩⟩] := by decide +kernel
  have sent : world.sent = [⟨1, ⟨0, 0⟩⟩, ⟨1, ⟨1, 1⟩⟩] := by decide +kernel
  refine ⟨accepted, sent, by decide +kernel, fun faithful => ?_⟩
  have shorter := faithful.only.length_le
  rw [accepted, sent] at shorter
  simp only [List.length_cons, List.length_nil] at shorter
  omega

end Motogram
