import Motogram.Party.Rejoining

/-!
# Answered invites

An invite is pending until it is answered. A refusal writes `DECLINED`. An acceptance is left to `joinParty`,
which writes `ACCEPTED` on the invite of a private party and no invite of a public one.

No operation makes an invite pending again, and none removes an invite or takes its id for another
(`step_closes`). So the answered invites stay closed exactly in the runs where nobody accepts the invite of a
public party with success (`answered_stay_closed_iff`).
-/

set_option autoImplicit false

namespace Motogram

open Foundation Program Table

variable {s s' : State} {userId : UserId} {partyId : PartyId} {inviteId : InviteId}

/-! ## The list -/

/-- An element of the response of `listInvitesForUser`: the row, its party, and of its inviter the id, the
name and the picture. -/
structure ListedInvite where
  id : InviteId
  invite : PartyInvite
  party : Option Party
  inviter : Option (UserId × String × Option String)

/-- `listInvitesForUser`: the pending invites of a user, the newest first. -/
def State.listInvitesForUser (s : State) (userId : UserId) : List ListedInvite :=
  ((s.partyInvites.select fun _ invite =>
      decide (invite.inviteeId = userId) && decide (invite.status = .pending)).insertionSort
    fun first second => second.2.createdAt ≤ first.2.createdAt).map fun entry =>
      { id := entry.1
        invite := entry.2
        party := s.parties.find? entry.2.partyId
        inviter := (s.users entry.2.inviterId).map fun user =>
          (entry.2.inviterId, user.username, user.avatarUrl) }

/-- The invite waits for an answer. -/
def State.Pending (s : State) (inviteId : InviteId) : Prop :=
  ∃ invite, s.partyInvites.find? inviteId = some invite ∧ invite.status = .pending

theorem pending_of_listed {listed : ListedInvite} (member : listed ∈ s.listInvitesForUser userId) :
    s.Pending listed.id := by
  obtain ⟨⟨id, invite⟩, sorted, rfl⟩ := List.mem_map.mp member
  have selected := (List.mem_insertionSort _).mp sorted
  obtain ⟨found, holds⟩ := mem_select.mp selected
  simp only [Bool.and_eq_true, decide_eq_true_eq] at holds
  exact ⟨invite, found, holds.2⟩

/-! ## What no operation does -/

def ClosedStay (before after : State) : Prop :=
  ∀ id invite, before.partyInvites.find? id = some invite → invite.status ≠ .pending →
    ∃ now, after.partyInvites.find? id = some now ∧ now.status ≠ .pending

namespace ClosedStay

theorem refl (s : State) : ClosedStay s s := fun _ invite found closed => ⟨invite, found, closed⟩

theorem trans {first second third : State} (left : ClosedStay first second)
    (right : ClosedStay second third) : ClosedStay first third := by
  intro id invite found closed
  obtain ⟨between, foundBetween, closedBetween⟩ := left id invite found closed
  exact right id between foundBetween closedBetween

theorem of_eq (same : s'.partyInvites = s.partyInvites) : ClosedStay s s' :=
  fun _ invite found closed => ⟨invite, same ▸ found, closed⟩

end ClosedStay

theorem redis_partyInvites (s : State) (command : RedisCommand) :
    (s.redis command).partyInvites = s.partyInvites := by
  cases command <;> rfl

theorem multi_partyInvites (s : State) (commands : List RedisCommand) :
    (commands.foldl State.redis s).partyInvites = s.partyInvites := by
  refine List.foldlRecOn (motive := fun t => t.partyInvites = s.partyInvites) commands State.redis rfl ?_
  exact fun t same command _ => (redis_partyInvites t command).trans same

/-- No call opens an invite again. -/
theorem answer_closes (request : StoreCall) (s : State) : ClosedStay s (answer request s).2 := by
  cases request with
  | partyInviteCreate inviteId partyId inviterId inviteeId =>
    simp only [answer]
    split
    · exact .refl s
    · rename_i untaken
      split
      · exact .refl s
      · intro id invite found closed
        have different : id ≠ inviteId := by
          rintro rfl
          rw [found] at untaken
          exact untaken rfl
        refine ⟨invite, ?_, closed⟩
        rw [State.withPartyInvites_partyInvites, find?_insert_of_ne _ different]
        exact found
  | partyInviteDecline inviteId =>
    simp only [answer]
    split
    · exact .refl s
    · intro id invite found closed
      rw [State.withPartyInvites_partyInvites]
      by_cases here : id = inviteId
      · subst here
        rw [find?_modify_self, found]
        exact ⟨_, rfl, fun pending => by cases pending⟩
      · rw [find?_modify_of_ne _ here]
        exact ⟨invite, found, closed⟩
  | partyInviteAcceptPending partyId inviteeId =>
    intro id invite found closed
    simp only [answer, State.acceptInvites_partyInvites, find?_modifyWhere, found]
    simp [closed]
  | redis command => exact .of_eq (redis_partyInvites s command)
  | multi commands => exact .of_eq (multi_partyInvites s commands)
  | environment event =>
    cases event with
    | elapse milliseconds => exact .of_eq rfl
    | relist rows index =>
      simp only [answer]
      split
      · exact .of_eq rfl
      · exact .refl s
  | createPartyTransaction | endPartyTransaction | changeLeaderTransaction | partyMemberCreate |
    partyMemberUpdate | setLeaderLockNx | releaseLeaderLock | userUpdateLocationSharing |
    socketConnect =>
      simp only [answer]
      repeat' split
      all_goals exact .of_eq rfl
  | _ => exact .of_eq rfl

/-- **No operation opens an invite again.** -/
theorem step_closes (s : State) (op : Op) : ClosedStay s (step s op) := by
  have keeps : ∀ (request : StoreCall) (between : State), request.regions ⊆ op.regions →
      ClosedStay s between → ClosedStay s (answer request between).2 :=
    fun request between _ before => before.trans (answer_closes request between)
  exact (op.program_writes s.deployment).run_keeps answer keeps (.refl s)

/-! ## Answering an invite -/

theorem respondInvite_succeeds_iff {accept : Bool} :
    Succeeds (respondInvite userId inviteId accept) s ↔
      ∃ invite, s.partyInvites.find? inviteId = some invite ∧ invite.inviteeId = userId ∧
        invite.status = .pending ∧ (accept = true → Succeeds (joinParty userId invite.partyId) s) := by
  have asked : answer (.partyInviteFindUnique inviteId) s = (s.partyInvites.find? inviteId, s) := rfl
  refine (succeeds_call_bind asked).trans ?_
  cases found : s.partyInvites.find? inviteId with
  | none =>
    refine iff_of_false ?_ (by simp)
    rintro ⟨value, fails⟩
    cases fails
  | some invite =>
    simp only [Option.some.injEq, exists_eq_left']
    refine succeeds_throwIf_bind.trans ?_
    rw [not_ne_iff]
    refine and_congr_right fun _ => succeeds_throwIf_bind.trans ?_
    rw [not_ne_iff]
    refine and_congr_right fun _ => ?_
    cases accept with
    | true =>
      rw [if_pos rfl, succeeds_bind_pure]
      exact ⟨fun joins _ => joins, fun joins => joins rfl⟩
    | false =>
      have declined : answer (.partyInviteDecline inviteId) s =
          (.ok (), s.withPartyInvites (s.partyInvites.modify inviteId fun invite =>
            { invite with status := .declined, respondedAt := some s.now })) := by
        simp only [answer, found]
      refine iff_of_true ((succeeds_call_bind declined).mpr ⟨⟨false, none⟩, rfl⟩) ?_
      intro accepted
      cases accepted

theorem exec_respondInvite_decline {invite : PartyInvite} (found : s.partyInvites.find? inviteId = some invite)
    (mine : invite.inviteeId = userId) (pending : invite.status = .pending) :
    ((respondInvite userId inviteId false).exec s).2 =
      s.withPartyInvites (s.partyInvites.modify inviteId fun invite =>
        { invite with status := .declined, respondedAt := some s.now }) := by
  unfold respondInvite Flow.exec
  simp only [call_bind, done_bind, run_call, answer, found,
    run_throwIf_bind]
  rw [if_neg (not_ne_iff.mpr mine), if_neg (not_ne_iff.mpr pending), if_neg Bool.false_ne_true]
  simp only [run_call, answer, found]
  rfl

/-- An acceptance is a call of `joinParty`. -/
theorem exec_respondInvite_accept {invite : PartyInvite} (found : s.partyInvites.find? inviteId = some invite)
    (mine : invite.inviteeId = userId) (pending : invite.status = .pending) :
    ((respondInvite userId inviteId true).exec s).2 = ((joinParty userId invite.partyId).exec s).2 := by
  unfold respondInvite Flow.exec
  simp only [run_sends, answer, found,
    run_throwIf_bind]
  rw [if_neg (not_ne_iff.mpr mine), if_neg (not_ne_iff.mpr pending)]
  exact exec_wrap (joinParty userId invite.partyId) (fun _ => RespondResult.mk true (some invite.partyId)) s

/-- The invites after a successful `joinParty`. -/
theorem partyInvites_of_joined {party : Party} (found : s.parties.find? partyId = some party)
    (succeeds : Succeeds (joinParty userId partyId) s) :
    ((joinParty userId partyId).exec s).2.partyInvites =
      if party.isPrivate then (s.acceptInvites partyId userId).partyInvites else s.partyInvites := by
  obtain ⟨detail, outcome⟩ := outcome_of_joined succeeds
  generalize ((joinParty userId partyId).exec s).2 = after at outcome
  cases outcome with
  | rejoined stored row detail read =>
    obtain rfl : stored = party := Option.some.inj (read.symm.trans found)
    exact partyInvites_joined
  | entered stored user detail read =>
    obtain rfl : stored = party := Option.some.inj (read.symm.trans found)
    rw [partyInvites_joined]
    rfl

theorem found_of_joined (succeeds : Succeeds (joinParty userId partyId) s) :
    ∃ party, s.parties.find? partyId = some party := by
  obtain ⟨detail, outcome⟩ := outcome_of_joined succeeds
  generalize ((joinParty userId partyId).exec s).2 = after at outcome
  cases outcome with
  | rejoined party _ _ found | entered party _ _ found => exact ⟨party, found⟩

/-- The operation accepts the invite of a public party, and every check of `joinParty` passes. -/
def Op.AcceptsPublic (s : State) : Op → Prop
  | .respondInvite userId inviteId accept => accept = true ∧ ∃ invite party,
      s.partyInvites.find? inviteId = some invite ∧ invite.inviteeId = userId ∧ invite.status = .pending ∧
        s.parties.find? invite.partyId = some party ∧ party.isPrivate = false ∧
          s.Admissible userId invite.partyId party
  | _ => False

/-- **What a successful answer makes of its invite.** It is closed, unless it was accepted for a public
party. -/
theorem pending_after_respondInvite_iff {accept : Bool}
    (succeeds : Succeeds (respondInvite userId inviteId accept) s) :
    ∃ invite, ((respondInvite userId inviteId accept).exec s).2.partyInvites.find? inviteId = some invite ∧
      (invite.status = .pending ↔ (Op.respondInvite userId inviteId accept).AcceptsPublic s) := by
  obtain ⟨invite, found, mine, pending, joins⟩ := respondInvite_succeeds_iff.mp succeeds
  cases accept with
  | false =>
    rw [exec_respondInvite_decline found mine pending, State.withPartyInvites_partyInvites,
      find?_modify_self, found]
    refine ⟨_, rfl, iff_of_false (fun still => by cases still) ?_⟩
    rintro ⟨accepted, -⟩
    cases accepted
  | true =>
    obtain ⟨party, stored⟩ := found_of_joined (joins rfl)
    have admissible := (joinParty_succeeds_iff stored).mp (joins rfl)
    rw [exec_respondInvite_accept found mine pending, partyInvites_of_joined stored (joins rfl)]
    cases shut : party.isPrivate with
    | true =>
      rw [if_pos rfl, State.acceptInvites_partyInvites, find?_modifyWhere, found]
      simp only [Option.map_some, mine, pending, decide_true, Bool.and_self, if_true]
      refine ⟨_, rfl, iff_of_false (fun still => by cases still) ?_⟩
      rintro ⟨-, other, its, listed, -, -, read, isPublic, -⟩
      obtain rfl : invite = other := Option.some.inj (found.symm.trans listed)
      obtain rfl : party = its := Option.some.inj (stored.symm.trans read)
      rw [shut] at isPublic
      cases isPublic
    | false =>
      exact ⟨invite, found, iff_of_true pending
        ⟨rfl, invite, party, found, mine, pending, stored, shut, admissible⟩⟩

/-! ## Runs -/

/-- The stores, and the invites that have been answered with success. -/
structure Answered where
  state : State
  answered : List InviteId

/-- The invite that an operation answers with success. -/
def answersOf (s : State) : Op → List InviteId
  | .respondInvite userId inviteId accept =>
    match ((respondInvite userId inviteId accept).exec s).1 with
    | .ok _ => [inviteId]
    | .error _ => []
  | _ => []

theorem mem_answersOf {op : Op} {id : InviteId} :
    id ∈ answersOf s op ↔
      ∃ userId accept, op = .respondInvite userId id accept ∧ Succeeds (respondInvite userId id accept) s := by
  cases op with
  | respondInvite userId inviteId accept =>
    simp only [answersOf, Succeeds]
    cases ran : ((respondInvite userId inviteId accept).exec s).1 with
    | ok value =>
      simp only [List.mem_singleton, Op.respondInvite.injEq]
      constructor
      · rintro rfl
        exact ⟨userId, accept, ⟨rfl, rfl, rfl⟩, value, ran⟩
      · rintro ⟨-, -, ⟨-, same, -⟩, -⟩
        exact same.symm
    | error error =>
      simp only [List.not_mem_nil, Op.respondInvite.injEq, false_iff]
      rintro ⟨user, answer, ⟨rfl, rfl, rfl⟩, value, gives⟩
      rw [ran] at gives
      cases gives
  | _ => simp [answersOf]

/-- An operation of the party service, and the note of what it answers. -/
def Answered.step (world : Answered) (op : Op) : Answered where
  state := Motogram.step world.state op
  answered := answersOf world.state op ++ world.answered

/-- No answered invite is pending, or listed for anybody, and no answer to one would succeed. -/
structure Answered.StayClosed (world : Answered) : Prop where
  closed : ∀ id ∈ world.answered, ¬ world.state.Pending id
  unlisted : ∀ id ∈ world.answered, ∀ userId, ∀ listed ∈ world.state.listInvitesForUser userId, listed.id ≠ id
  refused : ∀ id ∈ world.answered, ∀ userId accept, ¬ Succeeds (respondInvite userId id accept) world.state

def Answered.Closed (world : Answered) : Prop :=
  ∀ id ∈ world.answered, ∃ invite, world.state.partyInvites.find? id = some invite ∧ invite.status ≠ .pending

theorem Answered.Closed.stayClosed {world : Answered} (closed : world.Closed) : world.StayClosed := by
  have never : ∀ id ∈ world.answered, ¬ world.state.Pending id := by
    rintro id member ⟨invite, found, pending⟩
    obtain ⟨stored, read, answered⟩ := closed id member
    obtain rfl : invite = stored := Option.some.inj (found.symm.trans read)
    exact answered pending
  refine ⟨never, ?_, ?_⟩
  · rintro id member userId listed inside rfl
    exact never listed.id member (pending_of_listed inside)
  · intro id member userId accept succeeds
    obtain ⟨invite, found, -, pending, -⟩ := respondInvite_succeeds_iff.mp succeeds
    exact never id member ⟨invite, found, pending⟩

/-- **Answered invites stay closed exactly in the runs in which nobody accepts the invite of a public party
with success.** -/
theorem answered_stay_closed_iff (s : State) (ops : List Op) :
    Throughout Answered.step Answered.StayClosed ⟨s, []⟩ ops ↔
      EachStep Answered.step (fun world op => ¬ op.AcceptsPublic world.state) ⟨s, []⟩ ops := by
  have keeps : ∀ (world : Answered) (op : Op), world.Closed → ¬ op.AcceptsPublic world.state →
      (world.step op).Closed := by
    intro world op closed allowed id member
    rcases List.mem_append.mp member with new | old
    · obtain ⟨userId, accept, rfl, succeeds⟩ := mem_answersOf.mp new
      obtain ⟨invite, found, pending_iff⟩ := pending_after_respondInvite_iff succeeds
      refine ⟨invite, ?_, mt pending_iff.mp allowed⟩
      rw [Answered.step, step_respondInvite]
      exact found
    · obtain ⟨invite, found, answered⟩ := closed id old
      exact step_closes world.state op id invite found answered
  have breaks : ∀ (world : Answered) (op : Op), world.Closed → ¬ ¬ op.AcceptsPublic world.state →
      ¬ (world.step op).StayClosed := by
    intro world op _ unmet stay
    have accepts := not_not.mp unmet
    cases op with
    | respondInvite userId inviteId accept =>
      have succeeds : Succeeds (respondInvite userId inviteId accept) world.state := by
        obtain ⟨-, invite, party, found, mine, pending, stored, -, admissible⟩ := accepts
        exact respondInvite_succeeds_iff.mpr ⟨invite, found, mine, pending,
          fun _ => (joinParty_succeeds_iff stored).mpr admissible⟩
      obtain ⟨invite, found, pending_iff⟩ := pending_after_respondInvite_iff succeeds
      have noted : inviteId ∈ (world.step (.respondInvite userId inviteId accept)).answered :=
        List.mem_append.mpr (.inl (mem_answersOf.mpr ⟨userId, accept, rfl, succeeds⟩))
      refine stay.closed inviteId noted ⟨invite, ?_, pending_iff.mpr accepts⟩
      rw [Answered.step, step_respondInvite]
      exact found
    | _ => exact accepts
  have initially : Answered.Closed ⟨s, []⟩ := fun id member => absurd member List.not_mem_nil
  exact throughout_iff_eachStep (fun world closed => closed.stayClosed) keeps breaks initially ops

/-- Rider 2 accepts the invite to the public party of rider 1, and it is still pending. -/
theorem accepted_invite_pending :
    let world := follow Answered.step ⟨smallInstallation, []⟩
      [.createParty 1 10 smallParty, .invite 1 10 [(2, 20)], .respondInvite 2 20 true]
    20 ∈ world.answered ∧ (world.state.partyInvites.find? 20).map PartyInvite.status = some .pending ∧
      (world.state.listInvitesForUser 2).map ListedInvite.id = [20] ∧
      ((respondInvite 2 20 true).exec world.state).1 = .ok ⟨true, some 10⟩ := by
  decide +kernel

end Motogram
