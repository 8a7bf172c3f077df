import Motogram.Foundation.Roster
import Motogram.Party.Rows

/-!
# The membership stores agree

Who is in which party is written in five places: the membership rows, the member
set of the party, the party of the user, the status of the party and the index
of active parties. They agree when all five describe one roster
(`Represents`), and every operation but one takes a state that describes a
roster to a state that describes a roster reached by moves of rosters
(`step_simulates`). The exception is a location update over REST that names a
party: it adds its user to the member set of that party without a check.

The roster is what parties are for. A user is at home in one open party at most,
so a state that describes a roster has no user active in two parties and nobody
active in a party that has ended.
-/

set_option autoImplicit false

namespace Motogram

open Foundation Function State

/-- The state describes the roster in each of its five places, and its tables are
settled. -/
structure Represents (s : State) (roster : Roster PartyId UserId) : Prop where
  opened : ∀ partyId, s.Open partyId ↔ partyId ∈ roster.isOpen
  active : ∀ partyId userId, s.Active partyId userId ↔ roster.home userId = some partyId
  memberSet : ∀ partyId userId,
    userId ∈ s.partyMemberSet partyId ↔ roster.home userId = some partyId
  userParty : ∀ userId, s.userParty userId = roster.home userId
  index : ∀ partyId, partyId ∈ s.activePartyIndex ↔ partyId ∈ roster.isOpen
  settled : s.Settled

/-- The membership stores agree: they describe a roster. -/
def State.Coherent (s : State) : Prop := ∃ roster, Represents s roster

namespace Represents

variable {s s' : State} {roster : Roster PartyId UserId} {partyId : PartyId} {userId : UserId}

theorem open_of_active (represents : Represents s roster) (active : s.Active partyId userId) : s.Open partyId :=
  (represents.opened partyId).mpr
    (roster.home_isOpen ((represents.active partyId userId).mp active))

theorem home_eq_none (represents : Represents s roster)
    (single : ∀ other, s.Active other userId → s.partyIsLive other = false) : roster.home userId = none := by
  cases home : roster.home userId with
  | none => rfl
  | some other =>
    have active := (represents.active other userId).mpr home
    have live := represents.settled.live_iff.mpr (represents.open_of_active active)
    rw [single other active] at live
    cases live

/-! ## Changes that move nobody -/

theorem of_sameStanding (represents : Represents s roster) (same : SameStanding s s') :
    Represents s' roster where
  opened := fun partyId => (same.isOpen partyId).trans (represents.opened partyId)
  active := fun partyId userId =>
    (same.active partyId userId).trans (represents.active partyId userId)
  memberSet := fun partyId userId => by
    rw [same.partyMemberSet]
    exact represents.memberSet partyId userId
  userParty := fun userId => by
    rw [same.userParty]
    exact represents.userParty userId
  index := fun partyId => (same.activePartyIndex partyId).trans (represents.index partyId)
  settled := represents.settled.of_sameRows same.toSameRows

/-- Adding a member to the set once more. -/
theorem saddMembers (represents : Represents s roster) (active : s.Active partyId userId) :
    Represents (s.redis (.saddMembers partyId userId)) roster := by
  have listed : userId ∈ s.partyMemberSet partyId :=
    (represents.memberSet partyId userId).mpr ((represents.active partyId userId).mp active)
  have same : s.redis (.saddMembers partyId userId) = s := by
    simp only [redis, setAdd, if_pos listed, withMemberSet, update_eq_self]
  rwa [same]

theorem rejoined {row stored : PartyMember} {isPrivate : Bool} (represents : Represents s roster)
    (found : s.partyMembers.find? (partyId, userId) = some stored) (present : stored.leftAt = none) :
    Represents ((s.patchMember partyId userId .rejoin).joined partyId userId row isPrivate) roster := by
  have home : roster.home userId = some partyId :=
    (represents.active partyId userId).mp ⟨stored, found, present⟩
  have listed : userId ∈ s.partyMemberSet partyId := (represents.memberSet partyId userId).mpr home
  refine represents.of_sameStanding ⟨rejoined_keepsRows found present, ?_, ?_, fun other => ?_⟩
  · have same : setAdd (s.partyMemberSet partyId) userId = s.partyMemberSet partyId := if_pos listed
    rw [partyMemberSet_joined, State.patchMember_partyMemberSet, same, update_eq_self]
  · have same : some partyId = s.userParty userId := ((represents.userParty userId).trans home).symm
    rw [userParty_joined, patchMember_userParty, same, update_eq_self]
  · rw [activePartyIndex_joined, patchMember_activePartyIndex]

/-! ## Changes that move somebody -/

theorem departed {reason : LeaveReason} (represents : Represents s roster) (active : s.Active partyId userId) :
    Represents (s.departed partyId userId reason) (roster.leave userId) := by
  have home : roster.home userId = some partyId := (represents.active partyId userId).mp active
  have elsewhere : ∀ other member, roster.home member = some other →
      ((other, member) ≠ (partyId, userId) ↔ member ≠ userId) := by
    intro other member at_home
    constructor
    · rintro different rfl
      rw [home] at at_home
      cases at_home
      exact different rfl
    · intro different same
      cases same
      exact different rfl
  refine ⟨fun other => open_departed.trans (represents.opened other), fun other member => ?_,
    fun other member => ?_, fun member => ?_, represents.index,
    represents.settled.departed⟩
  · rw [active_departed, represents.active, Roster.home_leave]
    exact and_congr_right fun at_home => elsewhere other member at_home
  · rw [Roster.home_leave, ← represents.memberSet other member]
    simp only [State.departed, State.sent_partyMemberSet, State.withUserParty_partyMemberSet,
      State.withMemberSet_partyMemberSet, State.patchMember_partyMemberSet]
    by_cases here : other = partyId
    · subst here
      simp [and_comm]
    · rw [update_of_ne here]
      refine ⟨fun listed => ⟨listed, ?_⟩, And.left⟩
      rintro rfl
      rw [represents.memberSet, home] at listed
      exact here (Option.some.inj listed).symm
  · simp only [State.departed, sent_userParty, withUserParty_userParty, Roster.leave]
    by_cases same : member = userId
    · subst same
      simp
    · rw [update_of_ne same, update_of_ne same]
      exact represents.userParty member

theorem promoted {newLeaderId : UserId} (represents : Represents s roster) :
    Represents (s.promoted partyId newLeaderId) roster :=
  ⟨fun other => open_promoted.trans (represents.opened other),
    fun other member => active_promoted.trans (represents.active other member),
    represents.memberSet, represents.userParty, represents.index, represents.settled.promoted⟩

theorem closed {reason : EndReason} (represents : Represents s roster) :
    Represents (s.closed partyId reason) (roster.close partyId) := by
  refine ⟨fun other => ?_, fun other member => ?_, fun other member => ?_, fun member => ?_,
    fun other => ?_, represents.settled.closed⟩
  · rw [open_closed, represents.opened]
    rfl
  · rw [active_closed, represents.active, Roster.home_close]
  · rw [Roster.home_close, ← represents.memberSet other member]
    simp only [State.closed, State.sent_partyMemberSet, State.withoutParty_partyMemberSet,
      State.withActiveIndex_partyMemberSet, State.withZombieWatch_partyMemberSet,
      State.withMemberSet_partyMemberSet]
    by_cases here : other = partyId
    · subst here
      simp
    · rw [update_of_ne here]
      exact (and_iff_left here).symm
  · simp only [State.closed, sent_userParty, withoutParty_userParty, Roster.close,
      represents.memberSet]
    split
    · rfl
    · exact represents.userParty member
  · simp only [State.closed, State.sent_activePartyIndex, State.withoutParty_activePartyIndex,
      State.withActiveIndex_activePartyIndex, mem_setRemove, represents.index]
    exact and_comm

theorem entered {row : PartyMember} {isPrivate : Bool} {now : Time} {role : PartyRole}
    (represents : Represents s roster) (standing : s.Open partyId)
    (unlisted : s.partyMembers.find? (partyId, userId) = none) (free : roster.home userId = none) :
    Represents
      ((s.insertMember partyId userId (newMember now role)).joined partyId userId row isPrivate)
      (roster.enter partyId ((represents.opened partyId).mp standing) userId) := by
  have parties : ((s.insertMember partyId userId (newMember now role)).joined partyId userId row
      isPrivate).parties = s.parties := parties_joined
  refine ⟨fun other => (open_congr parties).trans (represents.opened other),
    fun other member => ?_, fun other member => ?_, fun member => ?_, fun other => ?_,
    ?_⟩
  · rw [Roster.home_enter _ _ free, ← represents.active, ← activeRole_isSome,
      activeRole_entered unlisted, ← activeRole_isSome]
    split
    · rename_i here
      simp [here]
    · rename_i elsewhere
      simp [elsewhere]
  · rw [Roster.home_enter _ _ free, ← represents.memberSet]
    have stored : ((s.insertMember partyId userId (newMember now role)).joined partyId userId row
        isPrivate).partyMemberSet =
          update s.partyMemberSet partyId (setAdd (s.partyMemberSet partyId) userId) :=
      partyMemberSet_joined
    rw [stored]
    by_cases here : other = partyId
    · subst here
      simp [or_comm]
    · simp [here]
  · have stored : ((s.insertMember partyId userId (newMember now role)).joined partyId userId row
        isPrivate).userParty = update s.userParty userId (some partyId) :=
      userParty_joined
    rw [stored]
    by_cases same : member = userId
    · subst same
      simp [Roster.enter]
    · simpa [Roster.enter, same] using represents.userParty member
  · have stored : ((s.insertMember partyId userId (newMember now role)).joined partyId userId row
        isPrivate).activePartyIndex = s.activePartyIndex := activePartyIndex_joined
    rw [stored]
    exact represents.index other
  · obtain ⟨party, found, -⟩ := standing
    exact represents.settled.entered found

theorem founded {dto : CreatePartyDto} (represents : Represents s roster) (fresh : s.parties.find? partyId = none)
    (unlisted : s.partyMembers.find? (partyId, userId) = none) (free : roster.home userId = none) :
    Represents (s.opened partyId userId dto) (roster.found partyId userId) := by
  refine ⟨fun other => ?_, fun other member => ?_, fun other member => ?_, fun member => ?_,
    fun other => ?_, represents.settled.opened fresh⟩
  · rw [open_opened fresh, represents.opened, or_comm]
    rfl
  · rw [Roster.home_found _ free, ← represents.active, ← activeRole_isSome,
      activeRole_opened unlisted, ← activeRole_isSome]
    split
    · rename_i here
      simp [here]
    · rename_i elsewhere
      simp [elsewhere]
  · rw [Roster.home_found _ free, ← represents.memberSet]
    have stored : (s.opened partyId userId dto).partyMemberSet =
        update s.partyMemberSet partyId (setAdd (s.partyMemberSet partyId) userId) := rfl
    rw [stored]
    by_cases here : other = partyId
    · subst here
      simp [or_comm]
    · simp [here]
  · have stored : (s.opened partyId userId dto).userParty =
        update s.userParty userId (some partyId) := rfl
    rw [stored]
    by_cases same : member = userId
    · subst same
      simp [Roster.found]
    · simpa [Roster.found, same] using represents.userParty member
  · have stored : (s.opened partyId userId dto).activePartyIndex =
        setAdd s.activePartyIndex partyId := rfl
    rw [stored, mem_setAdd, represents.index]
    rfl

end Represents

/-! ## Operations -/

/-- A state that describes a roster is taken to one that describes a roster
reached by moves. -/
def Simulates (before after : State) : Prop :=
  ∀ roster, Represents before roster → ∃ later, roster.Reaches later ∧ Represents after later

namespace Simulates

variable {first second third : State}

theorem refl (s : State) : Simulates s s :=
  fun roster represents => ⟨roster, .refl, represents⟩

theorem trans (left : Simulates first second) (right : Simulates second third) : Simulates first third := by
  intro roster represents
  obtain ⟨middle, reached, there⟩ := left roster represents
  obtain ⟨last, reached', here⟩ := right middle there
  exact ⟨last, reached.trans reached', here⟩

theorem of_sameStanding (same : SameStanding first second) : Simulates first second :=
  fun roster represents => ⟨roster, .refl, represents.of_sameStanding same⟩

theorem coherent (simulates : Simulates first second) (coherent : first.Coherent) : second.Coherent := by
  obtain ⟨roster, represents⟩ := coherent
  obtain ⟨later, -, there⟩ := simulates roster represents
  exact ⟨later, there⟩

end Simulates

section Functions

variable {s s' : State} {userId : UserId} {partyId : PartyId}

theorem simulates_departed {reason : LeaveReason} (active : s.Active partyId userId) :
    Simulates s (s.departed partyId userId reason) :=
  fun roster represents =>
    ⟨roster.leave userId, .single (.leave roster userId), represents.departed active⟩

theorem simulates_closed {reason : EndReason} (standing : s.Open partyId) :
    Simulates s (s.closed partyId reason) :=
  fun roster represents => ⟨roster.close partyId,
    .single (.close roster partyId ((represents.opened partyId).mp standing)), represents.closed⟩

theorem simulates_promoted (s : State) (partyId : PartyId) (newLeaderId : UserId) :
    Simulates s (s.promoted partyId newLeaderId) :=
  fun roster represents => ⟨roster, .refl, represents.promoted⟩

theorem simulates_saddMembers (active : s.Active partyId userId) :
    Simulates s (s.redis (.saddMembers partyId userId)) :=
  fun roster represents => ⟨roster, .refl, represents.saddMembers active⟩

theorem LeaveOutcome.simulates {reason : LeaveReason} {result : Except ServiceError LeaveResult}
    (outcome : LeaveOutcome s userId partyId reason result s') : Simulates s s' := by
  cases outcome with
  | rejected | finished => exact .refl s
  | follower _ active | leaderless _ _ active | locked _ _ active => exact simulates_departed active
  | alone standing active leads last =>
    exact (simulates_departed active).trans (simulates_closed (open_departed.mpr standing))
  | elected newLeaderId row standing active leads other candidate stays online free =>
    exact (simulates_departed active).trans (simulates_promoted _ partyId newLeaderId)

theorem JoinOutcome.simulates {result : Except ServiceError PartyDetail}
    (outcome : JoinOutcome s userId partyId result s') : Simulates s s' := by
  cases outcome with
  | rejected error => exact .refl s
  | rejoined party row detail found live listed present =>
    exact fun roster represents => ⟨roster, .refl, represents.rejoined listed present⟩
  | entered party user detail found live known unlisted space single =>
    intro roster represents
    have free := represents.home_eq_none single
    have standing := represents.settled.live_iff.mp live
    exact ⟨_, .single (.enter roster partyId ((represents.opened partyId).mp standing) userId free),
      represents.entered standing unlisted free⟩

theorem CreateOutcome.simulates {dto : CreatePartyDto} {result : Except ServiceError PartySummary}
    (outcome : CreateOutcome s userId partyId dto result s') : Simulates s s' := by
  have counted : SameStanding s (s.counted (.partyCreate userId) partyCreateLimitWindowSeconds) :=
    .of_eq rfl rfl rfl rfl rfl rfl
  cases outcome with
  | rejected error => exact .of_sameStanding counted
  | opened user known fresh unlisted single =>
    intro roster represents
    have free := represents.home_eq_none single
    have shut : partyId ∉ roster.isOpen := by
      intro isOpen
      obtain ⟨party, found, -⟩ := (represents.opened partyId).mpr isOpen
      rw [fresh] at found
      cases found
    exact ⟨_, .single (.found roster partyId userId shut free),
      (represents.of_sameStanding counted).founded fresh unlisted free⟩

theorem RespondOutcome.simulates (outcome : RespondOutcome s userId s') : Simulates s s' := by
  cases outcome with
  | untouched => exact .refl s
  | declined invites => exact .of_sameStanding (.of_eq rfl rfl rfl rfl rfl rfl)
  | accepted partyId => exact (joinParty_outcome s userId partyId).simulates

theorem simulates_endParty (s : State) (partyId : PartyId) (reason : EndReason) :
    Simulates s ((endParty partyId reason).exec s).2 := by
  rw [exec_endParty]
  by_cases standing : s.Open partyId
  · simpa only [if_pos standing] using simulates_closed standing
  · simpa only [if_neg standing] using Simulates.refl s

theorem simulates_sweepTurn (s : State) (turn : SweepTurn) : Simulates s (sweepTurn s turn) := by
  obtain ⟨partyId, userId⟩ := turn
  obtain ⟨result, after, outcome, turned⟩ := sweepTurn_outcome s partyId userId
  rw [turned]
  cases result with
  | error error => exact outcome.simulates
  | ok result =>
    exact outcome.simulates.trans (.of_sameStanding (.of_eq rfl rfl rfl rfl rfl rfl))

theorem simulates_follow {Input : Type} {step : State → Input → State}
    (each : ∀ s input, Simulates s (step s input)) (s : State) (inputs : List Input) :
    Simulates s (follow step s inputs) := by
  induction inputs generalizing s with
  | nil => exact .refl s
  | cons input inputs ih => exact (each s input).trans (ih _)

/-- Joining the room of a party moves nobody. -/
theorem simulates_attended (socket : SocketId) (active : s.Active partyId userId) :
    Simulates s (s.attended socket userId partyId) := by
  have entered : SameStanding s (s.roomEntered socket partyId) := .of_eq rfl rfl rfl rfl rfl rfl
  have cleared := exec_keepsStanding (clearOfflineMark_writes userId partyId) (by simp) (by simp)
    (by simp) (s.roomEntered socket partyId)
  have patched : SameStanding _ (((s.roomEntered socket partyId).cleared userId partyId).patchMember
      partyId userId (.hostname s.deployment.serverHostname)) :=
    patchMember_keepsStanding rfl _ partyId userId
  have same := (entered.trans cleared).trans patched
  exact (Simulates.of_sameStanding same).trans
    (simulates_saddMembers ((same.active partyId userId).mpr active))

theorem simulates_located {dto : UpdateLocationDto} {user : User}
    (member : ∀ partyId, dto.partyId = some partyId → s.Active partyId userId) :
    Simulates s (s.located userId dto user) := by
  unfold located updateCommands
  rw [List.foldl_append]
  have positions : SameStanding s ((positionCommands userId dto user
      (userLocationShard s.deployment (updateCity dto user)) s.now).foldl redis s) :=
    multi_keepsStanding (by simp [positionCommands]) s
  refine (Simulates.of_sameStanding positions).trans ?_
  generalize (positionCommands userId dto user (userLocationShard s.deployment (updateCity dto user))
    s.now).foldl redis s = placed at positions ⊢
  cases named : dto.partyId with
  | none => exact .refl placed
  | some partyId =>
    exact simulates_saddMembers ((positions.active partyId userId).mpr (member partyId named))

theorem UpdateOutcome.simulates {dto : UpdateLocationDto} {user : User}
    {result : Except ServiceError UpdateLocationResult}
    (outcome : UpdateOutcome s userId dto user result s')
    (member : ∀ partyId, dto.partyId = some partyId → user.isBanned = false →
      s.AllowsPing userId → s.Active partyId userId) : Simulates s s' := by
  have pinged : SameStanding s (s.pinged userId) := .of_eq rfl rfl rfl rfl rfl rfl
  cases outcome with
  | banned banned => exact .refl s
  | limited shard allowed limited => exact .of_sameStanding pinged
  | disabled shard allowed counted off apart =>
    exact .of_sameStanding (pinged.trans (multi_keepsStanding (by simp) _))
  | accepted allowed counted shared =>
    exact (Simulates.of_sameStanding pinged).trans (simulates_located fun partyId named =>
      (pinged.active partyId userId).mpr (member partyId named allowed counted))

end Functions

section Messages

variable {s s' : State} {socket : SocketId}

theorem PartyJoinOutcome.simulates {payload : Option PartyId}
    (outcome : PartyJoinOutcome s socket payload s') : Simulates s s' := by
  cases outcome with
  | unknown => exact .refl s
  | rejected error => exact .of_sameStanding (.of_eq rfl rfl rfl rfl rfl rfl)
  | attended userId username partyId identity asked active => exact simulates_attended socket active

theorem PartyLeaveOutcome.simulates {payload : Option PartyId}
    (outcome : PartyLeaveOutcome s socket payload s') : Simulates s s' := by
  cases outcome with
  | unknown => exact .refl s
  | invalid | refused => exact .of_sameStanding (.of_eq rfl rfl rfl rfl rfl rfl)
  | left userId username partyId result after identity asked ran outcome =>
    exact outcome.simulates.trans (.of_sameStanding (.of_eq rfl rfl rfl rfl rfl rfl))

/-- The message checks the member set, and in a coherent state the member set
holds the active members. -/
theorem PartyUpdateOutcome.simulates {payload : Option WsPartyUpdateLocation}
    (outcome : PartyUpdateOutcome s socket payload s') : Simulates s s' := by
  cases outcome with
  | unknown => exact .refl s
  | rejected error => exact .of_sameStanding (.of_eq rfl rfl rfl rfl rfl rfl)
  | relayed userId username update user result after identity asked listed outcome =>
    intro roster represents
    have active : s.Active update.partyId userId :=
      (represents.active _ _).mpr ((represents.memberSet _ _).mp listed)
    have updated := outcome.simulates fun partyId named _ _ => by
      cases named
      exact active
    have sent : SameStanding after (after.sent (memberUpdated userId update socket after.now)) :=
      .of_eq rfl rfl rfl rfl rfl rfl
    exact updated.trans (.of_sameStanding sent) roster represents

end Messages

/-- An accepted update over REST names a party only when the user is an active
member of it. Every other operation is authorised by the code itself. -/
def Op.Authorised (s : State) : Op → Prop
  | .updateLocation userId dto => ∀ partyId, dto.partyId = some partyId →
      (∃ user, s.users userId = some user ∧ user.isBanned = false) → s.AllowsPing userId →
        s.Active partyId userId
  | _ => True

/-- **Every authorised operation refines moves of rosters.** -/
theorem step_simulates (s : State) (op : Op) (authorised : op.Authorised s) : Simulates s (step s op) := by
  cases op with
  | createParty leaderId partyId dto =>
    rw [step_createParty]
    exact (createParty_outcome s leaderId partyId dto).simulates
  | joinParty userId partyId =>
    rw [step_joinParty]
    exact (joinParty_outcome s userId partyId).simulates
  | leaveParty userId partyId reason =>
    rw [step_leaveParty]
    exact (leaveParty_outcome s userId partyId reason).simulates
  | endParty partyId reason =>
    rw [step_endParty]
    exact simulates_endParty s partyId reason
  | respondInvite userId inviteId accept =>
    rw [step_respondInvite]
    exact (respondInvite_outcome s userId inviteId accept).simulates
  | sweepZombieMembers =>
    rw [step_sweepZombieMembers]
    exact simulates_follow simulates_sweepTurn s s.sweepTurns
  | partyJoin socket payload =>
    rw [step_partyJoin]
    exact (partyJoin_outcome s socket payload).simulates
  | partyLeave socket payload =>
    rw [step_partyLeave]
    exact (partyLeave_outcome s socket payload).simulates
  | partyUpdateLocation socket payload =>
    rw [step_partyUpdateLocation]
    exact (partyUpdate_outcome s socket payload).simulates
  | updateLocation userId dto =>
    rw [step_updateLocation]
    unfold restUpdateLocation Flow.exec
    simp only [Program.run_sends, answer]
    cases known : s.users userId with
    | none => exact .refl s
    | some user =>
      exact (updateLocation_outcome s userId dto user).simulates fun partyId named allowed =>
        authorised partyId named ⟨user, known, allowed⟩
  | _ => exact .of_sameStanding (step_keepsStanding (by simp) (by simp) (by simp) s)

/-! ## Whole runs -/

/-- What the five places say about each other. -/
structure State.Agrees (s : State) : Prop where
  /-- A user is active in one open party at most. -/
  single : ∀ userId first second, s.Active first userId → s.Open first → s.Active second userId →
    s.Open second → first = second
  /-- Nobody is active in a party that has ended. -/
  ended : ∀ partyId userId, ¬ s.Open partyId → ¬ s.Active partyId userId
  /-- The member set of a party is the set of its active members. -/
  memberSet : ∀ partyId userId, userId ∈ s.partyMemberSet partyId ↔ s.Active partyId userId
  /-- A party that has ended has no member set. -/
  noMemberSet : ∀ partyId, ¬ s.Open partyId → s.partyMemberSet partyId = []
  /-- The party of a user is the open party the user is active in. -/
  userParty : ∀ partyId userId,
    s.userParty userId = some partyId ↔ s.Active partyId userId ∧ s.Open partyId
  /-- The index of active parties lists the open ones. -/
  index : ∀ partyId, partyId ∈ s.activePartyIndex ↔ s.Open partyId

/-- Stores that describe a roster agree. -/
theorem State.Coherent.agrees {s : State} (coherent : s.Coherent) : s.Agrees := by
  obtain ⟨roster, represents⟩ := coherent
  have nobody : ∀ partyId userId, ¬ s.Open partyId → ¬ s.Active partyId userId :=
    fun _ _ shut active => shut (represents.open_of_active active)
  have listed : ∀ partyId userId,
      userId ∈ s.partyMemberSet partyId ↔ s.Active partyId userId :=
    fun partyId userId => (represents.memberSet partyId userId).trans
      (represents.active partyId userId).symm
  refine ⟨?_, nobody, listed, ?_, ?_, ?_⟩
  · intro userId first second inFirst _ inSecond _
    have home := (represents.active first userId).mp inFirst
    rw [(represents.active second userId).mp inSecond] at home
    exact (Option.some.inj home).symm
  · intro partyId shut
    rw [List.eq_nil_iff_forall_not_mem]
    exact fun userId member => nobody partyId userId shut ((listed partyId userId).mp member)
  · intro partyId userId
    rw [represents.userParty, ← represents.active]
    exact (and_iff_left_of_imp represents.open_of_active).symm
  · exact fun partyId => (represents.index partyId).trans (represents.opened partyId).symm

section Initial

variable (deployment : Deployment) (now : Time) (users : UserId → Option User)
  (routes : RouteId → Option Route) (follows : Table (UserId × UserId) FollowStatus)
  (blocks : List (UserId × UserId)) (liveSessions : UserId → Option Bool)

/-- The installation before its first party describes the empty roster. -/
theorem initial_represents :
    Represents (.initial deployment now users routes follows blocks liveSessions) .empty := by
  refine ⟨fun partyId => ?_, fun partyId userId => ?_, fun partyId userId => ?_, fun _ => rfl,
    fun partyId => ?_, initial_settled ..⟩
  · constructor
    · rintro ⟨party, found, -⟩
      cases found
    · exact False.elim
  · constructor
    · rintro ⟨row, found, -⟩
      cases found
    · intro home
      cases home
  · constructor
    · intro member
      cases member
    · intro home
      cases home
  · constructor
    · intro member
      cases member
    · exact False.elim

theorem initial_coherent : (State.initial deployment now users routes follows blocks liveSessions).Coherent :=
  ⟨.empty, initial_represents ..⟩

theorem coherent_throughout {ops : List Op} {s : State} (coherent : s.Coherent)
    (authorised : EachStep step (fun s op => op.Authorised s) s ops) : Throughout step State.Coherent s ops :=
  throughout_of_keeps (fun s op before allowed => (step_simulates s op allowed).coherent before)
    coherent authorised

/-- The operation is no update over REST that names a party. -/
def Op.NamesNoParty : Op → Prop
  | .updateLocation _ dto => dto.partyId = none
  | _ => True

theorem Op.NamesNoParty.authorised {op : Op} (apart : op.NamesNoParty) (s : State) : op.Authorised s := by
  cases op with
  | updateLocation userId dto =>
    intro partyId named
    rw [show dto.partyId = none from apart] at named
    cases named
  | _ => trivial

/-- **The membership stores agree in every state of every run** without updates
over REST that name a party. -/
theorem stores_agree (ops : List Op) (apart : ∀ op ∈ ops, op.NamesNoParty) :
    Throughout step State.Agrees
      (.initial deployment now users routes follows blocks liveSessions) ops :=
  (coherent_throughout (initial_coherent ..)
    (eachStep_of_forall_mem (fun op member s => (apart op member).authorised s) _)).mono
      fun _ coherent => coherent.agrees

end Initial

/-- A party that is opened, joined over both entrances, left and ended. -/
theorem stores_agree_small :
    Throughout step State.Agrees smallInstallation
      [.createParty 1 10 smallParty, .joinParty 2 10, .connect 7 2 "r", .partyJoin 7 (some 10),
        .partyUpdateLocation 7 (some ⟨10, 0, 0, none, none⟩), .leaveParty 1 10 .left,
        .sweepZombieMembers, .endParty 10 .manual] :=
  stores_agree smallDeployment 0 _ _ _ _ _ _ (by
    intro op member
    simp only [List.mem_cons, List.not_mem_nil, or_false] at member
    rcases member with rfl | rfl | rfl | rfl | rfl | rfl | rfl | rfl <;> trivial)

end Motogram
