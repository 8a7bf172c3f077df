import Motogram.Party.Presence

/-!
# Joining once more

When `joinParty` succeeds: the party is live, it has room, the user is in no other party, a private party
has a pending invite for the user, and the row can be written (`joinParty_succeeds_iff`). The row is looked
for among the active ones, and inserted when there is none there; a row of a member who has left is still in
the table. So a user who has left a party is refused by the unique index, and everybody else can join a
public party with room (`free_users_join_iff`).

A member who joins again passes the same checks as a newcomer. The capacity counts the member, and the invite
that let the member in is no longer pending. So a member can join again exactly when the party is not full,
and is public or has another pending invite for the member (`members_rejoin_iff`).
-/

set_option autoImplicit false

namespace Motogram

open Foundation Program Table

variable {s : State} {userId : UserId} {partyId : PartyId}

/-! ## When joining succeeds -/

def State.Invited (s : State) (partyId : PartyId) (userId : UserId) (party : Party) : Prop :=
  party.isPrivate = true → ∃ invite, s.inviteOf partyId userId = some invite ∧ invite.2.status = .pending

/-- The row can be reopened or inserted. -/
def State.RowWritable (s : State) (partyId : PartyId) (userId : UserId) : Prop :=
  s.Active partyId userId ∨ ¬ s.Listed partyId userId ∧ (s.users userId).isSome

/-- Whether the function returns a value. -/
def Succeeds {Value : Type} (flow : Flow Value) (s : State) : Prop := ∃ value, (flow.exec s).1 = .ok value

variable {Value : Type} {party : Party} {First Second : Type} {first : Flow First}

theorem succeeds_bind_of_ok {next : First → Flow Second} {value : First} {after : State}
    (ran : first.exec s = (.ok value, after)) : Succeeds (first >>= next) s ↔ Succeeds (next value) after := by
  unfold Succeeds Flow.exec
  rw [run_bind_of_ok _ ran]

theorem not_succeeds_bind_of_error {next : First → Flow Second} {error : ServiceError} {after : State}
    (ran : first.exec s = (.error error, after)) : ¬ Succeeds (first >>= next) s := by
  rintro ⟨value, ends⟩
  unfold Flow.exec at ends
  rw [run_bind_of_error _ ran] at ends
  cases ends

theorem succeeds_throwIf_bind {condition : Prop} [Decidable condition] {error : ServiceError}
    {next : Unit → Flow Value} :
    Succeeds (throwIf condition error >>= next) s ↔ ¬ condition ∧ Succeeds (next ()) s := by
  by_cases holds : condition
  · have ran : Flow.exec (throwIf condition error) s = (.error error, s) := by
      unfold Flow.exec
      rw [run_throwIf, if_pos holds]
    exact iff_of_false (not_succeeds_bind_of_error ran) fun both => both.1 holds
  · have ran : Flow.exec (throwIf condition error) s = (.ok (), s) := by
      unfold Flow.exec
      rw [run_throwIf, if_neg holds]
    rw [succeeds_bind_of_ok ran]
    exact (and_iff_right holds).symm

theorem succeeds_call_bind {request : StoreCall} {next : StoreReply request → Flow Value}
    {reply : StoreReply request} {after : State} (answered : answer request s = (reply, after)) :
    Succeeds (call request >>= next) s ↔ Succeeds (next reply) after := by
  have ran : (call request).exec s = (.ok reply, after) := by
    unfold Flow.exec
    rw [run_call_of_answer _ answered]
    rfl
  exact succeeds_bind_of_ok ran

theorem succeeds_bind_pure {wrap : First → Second} :
    Succeeds (first >>= fun value => pure (wrap value)) s ↔ Succeeds first s := by
  constructor
  · rintro ⟨value, ends⟩
    have whole : Flow.exec (first >>= fun value => pure (wrap value)) s =
        (.ok value, (Flow.exec (first >>= fun value => pure (wrap value)) s).2) := Prod.ext ends rfl
    obtain ⟨inner, between, ran, -⟩ := run_bind_eq_ok _ whole
    exact ⟨inner, congrArg Prod.fst ran⟩
  · rintro ⟨value, ends⟩
    have ran : first.exec s = (.ok value, (first.exec s).2) := Prod.ext ends rfl
    exact (succeeds_bind_of_ok ran).mpr ⟨wrap value, rfl⟩

theorem succeeds_requireInvite_bind {next : Unit → Flow Value} :
    Succeeds (requireInvite userId partyId party >>= next) s ↔
      s.Invited partyId userId party ∧ Succeeds (next ()) s := by
  unfold requireInvite
  by_cases demanded : party.isPrivate = true
  · rw [if_pos demanded]
    have asked : Succeeds (throwIf (∀ found ∈ (s.inviteOf partyId userId).map Prod.snd,
        found.status ≠ .pending) inviteRequired >>= next) s ↔ _ := succeeds_throwIf_bind
    refine Iff.trans asked (and_congr_left' ?_)
    rw [State.Invited]
    cases s.inviteOf partyId userId with
    | none | some => simp [demanded]
  · rw [if_neg demanded]
    exact (and_iff_right fun isPrivate => absurd isPrivate demanded).symm

theorem succeeds_joinAdmitted (found : s.parties.find? partyId = some party) :
    Succeeds (joinAdmitted userId partyId (snapshot s partyId party)) s ↔ s.RowWritable partyId userId := by
  have written : ∀ {member : PartyMember} {after : State},
      (writeMembership userId partyId (snapshot s partyId party)).exec s = (.ok member, after) →
        after.parties = s.parties → Succeeds (joinAdmitted userId partyId (snapshot s partyId party)) s := by
    intro member after ran same
    obtain ⟨detail, joined⟩ := exec_joinAdmitted_of_written ran (same ▸ found)
    exact ⟨detail, congrArg Prod.fst joined⟩
  by_cases active : s.Active partyId userId
  · refine iff_of_true ?_ (.inl active)
    obtain ⟨row, listed, present⟩ := active
    have ran : (writeMembership userId partyId (snapshot s partyId party)).exec s =
        (.ok (MemberPatch.rejoin.apply s.now row), s.patchMember partyId userId .rejoin) := by
      unfold writeMembership Flow.exec
      rw [if_pos (any_activeMembers.mpr ⟨row, listed, present⟩)]
      simp only [run_sends, answer, listed, rethrow_ok,
        run_done]
    exact written ran rfl
  · have inserts : writeMembership userId partyId (snapshot s partyId party) =
        call (.partyMemberCreate partyId userId .member) >>= rethrow := by
      unfold writeMembership
      rw [if_neg (mt any_activeMembers.mp active)]
    rw [State.RowWritable, or_iff_right active]
    by_cases listed : s.Listed partyId userId
    · have taken : answer (.partyMemberCreate partyId userId .member) s = (.error .uniqueViolation, s) := by
        exact if_pos listed
      have ran : (writeMembership userId partyId (snapshot s partyId party)).exec s =
          (.error (.prisma .uniqueViolation), s) := by
        unfold Flow.exec
        rw [inserts, call_bind, run_call_of_answer _ taken]
        rfl
      exact iff_of_false (not_succeeds_bind_of_error ran) fun both => both.1 listed
    · have unlisted : s.partyMembers.find? (partyId, userId) = none := by
        rw [State.Listed, Option.isSome_iff_ne_none, not_not] at listed
        exact listed
      cases known : s.users userId with
      | none =>
        have unknown : answer (.partyMemberCreate partyId userId .member) s =
            (.error .foreignKeyViolation, s) := by
          simp only [answer, unlisted, known]
          simp
        have ran : (writeMembership userId partyId (snapshot s partyId party)).exec s =
            (.error (.prisma .foreignKeyViolation), s) := by
          unfold Flow.exec
          rw [inserts, call_bind, run_call_of_answer _ unknown]
          rfl
        exact iff_of_false (not_succeeds_bind_of_error ran) (by simp)
      | some user =>
        refine iff_of_true ?_ ⟨listed, rfl⟩
        have inserted : answer (.partyMemberCreate partyId userId .member) s =
            (.ok (newMember s.now .member), s.insertMember partyId userId (newMember s.now .member)) := by
          simp only [answer, unlisted, known, found]
          simp
        have ran : (writeMembership userId partyId (snapshot s partyId party)).exec s =
            (.ok (newMember s.now .member), s.insertMember partyId userId (newMember s.now .member)) := by
          unfold Flow.exec
          rw [inserts, call_bind, run_call_of_answer _ inserted]
          rfl
        exact written ran rfl

/-- When `joinParty` succeeds. -/
structure State.Admissible (s : State) (userId : UserId) (partyId : PartyId) (party : Party) : Prop where
  live : s.partyIsLive partyId = true
  space : s.activeCount partyId < party.maxMembers
  single : ∀ other role, s.firstActiveMembership userId = some (other, role) → other = partyId
  invited : s.Invited partyId userId party
  writable : s.RowWritable partyId userId

/-- **When joining succeeds.** -/
theorem joinParty_succeeds_iff (found : s.parties.find? partyId = some party) :
    Succeeds (joinParty userId partyId) s ↔ s.Admissible userId partyId party := by
  have read : answer (.partyFindUniqueWithMembers partyId) s = (some (snapshot s partyId party), s) := by
    simp only [answer, found, Option.map_some]
  have live_iff : s.partyIsLive partyId = true ↔ ¬ (party.deletedAt.isSome ∨ party.status = .ended) := by
    rw [State.partyIsLive, found]
    simp [and_comm]
  have space_iff : s.activeCount partyId < party.maxMembers ↔
      ¬ (snapshot s partyId party).activeMembers.length ≥ party.maxMembers := by
    rw [length_activeMembers, not_le]
  -- what is left after the reads
  have admitted : Succeeds (requireInvite userId partyId party >>= fun _ =>
      joinAdmitted userId partyId (snapshot s partyId party)) s ↔
        s.Invited partyId userId party ∧ s.RowWritable partyId userId := by
    have invited := @succeeds_requireInvite_bind s userId partyId PartyDetail party
      fun _ => joinAdmitted userId partyId (snapshot s partyId party)
    rw [invited, succeeds_joinAdmitted found]
  have unfolded : Succeeds (joinParty userId partyId) s ↔
      ¬ (party.deletedAt.isSome ∨ party.status = .ended) ∧
        ¬ (snapshot s partyId party).activeMembers.length ≥ party.maxMembers ∧
          (∀ other role, s.firstActiveMembership userId = some (other, role) → other = partyId) ∧
            s.Invited partyId userId party ∧ s.RowWritable partyId userId := by
    refine (succeeds_call_bind read).trans ?_
    refine succeeds_throwIf_bind.trans (and_congr_right fun _ => ?_)
    refine succeeds_throwIf_bind.trans (and_congr_right fun _ => ?_)
    have asked : answer (.partyMemberFindFirstActive userId) s = (s.firstActiveMembership userId, s) := rfl
    refine (succeeds_call_bind asked).trans ?_
    cases s.firstActiveMembership userId with
    | none => exact admitted.trans (and_iff_right fun _ _ none => by cases none).symm
    | some membership =>
      obtain ⟨otherId, role⟩ := membership
      refine Iff.trans succeeds_throwIf_bind ?_
      rw [not_ne_iff, admitted]
      refine and_congr_left' ⟨?_, fun here => here otherId role rfl⟩
      rintro here other role ⟨⟩
      exact here
  rw [unfolded, ← live_iff, ← space_iff]
  constructor
  · rintro ⟨live, space, single, invited, writable⟩
    exact ⟨live, space, single, invited, writable⟩
  · intro admissible
    exact ⟨admissible.live, admissible.space, admissible.single, admissible.invited, admissible.writable⟩

/-! ## Users of no party -/

def State.activeRows (s : State) (partyId : PartyId) (userId : UserId) : Nat :=
  s.partyMembers.count fun key row => decide (key = (partyId, userId)) && row.leftAt.isNone

theorem activeRows_eq_one_iff : s.activeRows partyId userId = 1 ↔ s.Active partyId userId := by
  have elsewhere : (s.partyMembers.erase (partyId, userId)).count
      (fun key row => decide (key = (partyId, userId)) && row.leftAt.isNone) = 0 := by
    rw [count, List.countP_eq_zero]
    rintro ⟨key, row⟩ member hit
    have kept := (mem_entries_iff _).mp member
    rw [find?_erase] at kept
    simp only [Bool.and_eq_true, decide_eq_true_eq] at hit
    rw [if_pos hit.1] at kept
    cases kept
  rw [State.activeRows, count_eq_add_erase _ (partyId, userId), elsewhere, State.Active]
  cases s.partyMembers.find? (partyId, userId) with
  | none | some => simp

/-- What a successful `joinParty` has done. -/
theorem outcome_of_joined (succeeds : Succeeds (joinParty userId partyId) s) :
    ∃ detail, JoinOutcome s userId partyId (.ok detail) ((joinParty userId partyId).exec s).2 := by
  obtain ⟨detail, joined⟩ := succeeds
  have outcome := joinParty_outcome s userId partyId
  rw [joined] at outcome
  exact ⟨detail, outcome⟩

theorem active_of_joined (succeeds : Succeeds (joinParty userId partyId) s) :
    ((joinParty userId partyId).exec s).2.Active partyId userId := by
  obtain ⟨detail, outcome⟩ := outcome_of_joined succeeds
  generalize ((joinParty userId partyId).exec s).2 = after at outcome
  cases outcome with
  | rejoined party row detail found live listed present =>
    have before : s.Active partyId userId := ⟨row, listed, present⟩
    exact ((rejoined_keepsRows listed present).active partyId userId).mpr before
  | entered party user detail found live known unlisted =>
    rw [← State.activeRole_isSome, activeRole_entered unlisted, if_pos rfl]
    rfl

/-- **A user who is in no party can join a public party with room exactly when the user has never been in
it.** -/
theorem free_users_join_iff (s : State) (userId : UserId) (partyId : PartyId) {party : Party}
    (found : s.parties.find? partyId = some party) (live : s.partyIsLive partyId = true)
    (isPublic : party.isPrivate = false) (space : s.activeCount partyId < party.maxMembers)
    (known : (s.users userId).isSome)
    (free : ∀ other, s.Active other userId → s.partyIsLive other = false) :
    (Succeeds (joinParty userId partyId) s ∧
        ((joinParty userId partyId).exec s).2.activeRows partyId userId = 1) ↔
      ¬ s.Listed partyId userId := by
  have apart : ¬ s.Active partyId userId := by
    intro active
    rw [free partyId active] at live
    cases live
  have none : s.firstActiveMembership userId = none := firstActiveMembership_eq_none.mpr free
  constructor
  · rintro ⟨succeeds, -⟩
    have writable := ((joinParty_succeeds_iff found).mp succeeds).writable
    exact (writable.resolve_left apart).1
  · intro unlisted
    have admissible : s.Admissible userId partyId party := by
      refine ⟨live, space, ?_, ?_, .inr ⟨unlisted, known⟩⟩
      · rw [none]
        rintro other role ⟨⟩
      · intro isPrivate
        rw [isPublic] at isPrivate
        cases isPrivate
    have succeeds := (joinParty_succeeds_iff found).mpr admissible
    exact ⟨succeeds, activeRows_eq_one_iff.mpr (active_of_joined succeeds)⟩

/-- Rider 2 joins the party of rider 1. -/
theorem free_users_join_small :
    Succeeds (joinParty 2 10) (follow step smallInstallation [.createParty 1 10 smallParty]) ∧
      ((joinParty 2 10).exec (follow step smallInstallation [.createParty 1 10 smallParty])).2.activeRows
        10 2 = 1 := by
  have found : (follow step smallInstallation [.createParty 1 10 smallParty]).parties.find? 10 =
      some (newParty 0 1 smallParty) := by decide +kernel
  have free : ∀ other, (follow step smallInstallation [.createParty 1 10 smallParty]).Active other 2 →
      (follow step smallInstallation [.createParty 1 10 smallParty]).partyIsLive other = false := by
    rw [← firstActiveMembership_eq_none]
    decide +kernel
  have unlisted : ¬ (follow step smallInstallation [.createParty 1 10 smallParty]).Listed 10 2 := by
    decide +kernel
  exact (free_users_join_iff _ 2 10 found (by decide +kernel) (by decide +kernel) (by decide +kernel)
    (by decide +kernel) free).mpr unlisted

/-- Rider 2 joins the party of rider 1, leaves it, and is refused. -/
theorem left_rider_refused :
    ∃ party, (follow step smallInstallation
          [.createParty 1 10 smallParty, .joinParty 2 10, .leaveParty 2 10 .left]).parties.find? 10 =
        some party ∧
      party.isPrivate = false ∧ party.status ≠ .ended ∧ party.deletedAt = none ∧
      (follow step smallInstallation
        [.createParty 1 10 smallParty, .joinParty 2 10, .leaveParty 2 10 .left]).activeCount 10 <
          party.maxMembers ∧
      (follow step smallInstallation
        [.createParty 1 10 smallParty, .joinParty 2 10, .leaveParty 2 10 .left]).firstActiveMembership 2 =
          none ∧
      ¬ Succeeds (joinParty 2 10) (follow step smallInstallation
        [.createParty 1 10 smallParty, .joinParty 2 10, .leaveParty 2 10 .left]) := by
  refine ⟨newParty 0 1 smallParty, by decide +kernel, by decide, by decide, by decide, by decide +kernel,
    by decide +kernel, ?_⟩
  rintro ⟨detail, joined⟩
  have refused : ((joinParty 2 10).exec (follow step smallInstallation
      [.createParty 1 10 smallParty, .joinParty 2 10, .leaveParty 2 10 .left])).1 =
        .error (.prisma .uniqueViolation) := by decide +kernel
  rw [refused] at joined
  cases joined

/-! ## Nobody is in two parties -/

/-- Nobody is active in two open parties. -/
def State.Single (s : State) : Prop :=
  ∀ userId first second, s.Active first userId → s.Open first → s.Active second userId → s.Open second →
    first = second

/-- What makes nobody active and opens no party keeps everybody in one party. -/
theorem State.Single.of_fewer {s' : State} (single : s.Single)
    (active : ∀ other member, s'.Active other member → s.Active other member)
    (standing : ∀ other, s'.Open other → s.Open other) : s'.Single :=
  fun userId first second inFirst firstOpen inSecond secondOpen =>
    single userId first second (active _ _ inFirst) (standing _ firstOpen) (active _ _ inSecond)
      (standing _ secondOpen)

theorem LeaveOutcome.was_open {reason : LeaveReason} {result : Except ServiceError LeaveResult} {s' : State}
    (outcome : LeaveOutcome s userId partyId reason result s') {other : PartyId} (standing : s'.Open other) :
    s.Open other := by
  cases outcome with
  | rejected | finished => exact standing
  | follower | leaderless | locked => exact open_departed.mp standing
  | alone => exact open_departed.mp (open_closed.mp standing).1
  | elected => exact open_departed.mp (open_promoted.mp standing)

theorem State.Single.entered {s' : State} (single : s.Single)
    (active : ∀ other member, s'.Active other member → (other, member) = (partyId, userId) ∨
      s.Active other member)
    (standing : ∀ other, s'.Open other → other = partyId ∨ s.Open other)
    (unattached : ∀ other, s.Active other userId → ¬ s.Open other)
    (housed : ∀ member, s.Active partyId member → s.Open partyId) : s'.Single := by
  have either : ∀ other member, s'.Active other member → s'.Open other →
      (other, member) = (partyId, userId) ∨ s.Active other member ∧ s.Open other := by
    intro other member inside running
    rcases active other member inside with here | before
    · exact .inl here
    · rcases standing other running with rfl | opened
      · exact .inr ⟨before, housed member before⟩
      · exact .inr ⟨before, opened⟩
  intro member first second inFirst firstOpen inSecond secondOpen
  rcases either first member inFirst firstOpen with here | ⟨wasFirst, firstBefore⟩
  · cases here
    rcases either second _ inSecond secondOpen with there | ⟨wasSecond, secondBefore⟩
    · cases there
      rfl
    · exact absurd secondBefore (unattached second wasSecond)
  · rcases either second member inSecond secondOpen with there | ⟨wasSecond, secondBefore⟩
    · cases there
      exact absurd firstBefore (unattached first wasFirst)
    · exact single member first second wasFirst firstBefore wasSecond secondBefore

theorem State.Settled.unattached (settled : s.Settled)
    (apart : ∀ other, s.Active other userId → s.partyIsLive other = false) :
    ∀ other, s.Active other userId → ¬ s.Open other := by
  intro other active standing
  have closed := apart other active
  rw [settled.live_iff.mpr standing] at closed
  cases closed

theorem single_rowsInvariant : RowsInvariant (fun _ => True) fun s => s.Settled ∧ s.Single where
  rows := fun same ⟨settled, single⟩ => ⟨settled.of_sameRows same, single.of_fewer
    (fun other member active => (same.active other member).mp active)
    (fun other standing => (same.isOpen other).mp standing)⟩
  leave := fun outcome permitted ⟨settled, single⟩ => ⟨settled_rowsInvariant.leave outcome permitted settled,
    single.of_fewer (fun _ _ active => outcome.was_active active)
      (fun _ standing => outcome.was_open standing)⟩
  join := fun {s userId partyId result s'} outcome ⟨settled, single⟩ => by
    refine ⟨settled_rowsInvariant.join outcome settled, ?_⟩
    cases outcome with
    | rejected => exact single
    | rejoined party row detail found live listed present =>
      have same : SameRows s ((s.patchMember partyId userId .rejoin).joined partyId userId
          (MemberPatch.rejoin.apply s.now row) party.isPrivate) := rejoined_keepsRows listed present
      exact single.of_fewer (fun other member active => (same.active other member).mp active)
        (fun other standing => (same.isOpen other).mp standing)
    | entered party user detail found live known unlisted space apart =>
      refine single.entered (fun other member active => ?_) (fun other standing => ?_)
        (settled.unattached apart) (fun _ _ => settled.live_iff.mp live)
      · obtain ⟨role, active⟩ := State.Active.activeRole active
        rw [activeRole_entered unlisted] at active
        split at active
        · exact .inl ‹_›
        · exact .inr (State.active_of_activeRole active)
      · rw [State.open_congr parties_joined] at standing
        exact .inr standing
  create := fun {s leaderId partyId dto result s'} outcome ⟨settled, single⟩ => by
    refine ⟨settled_rowsInvariant.create outcome settled, ?_⟩
    cases outcome with
    | rejected => exact single
    | opened user known fresh unlisted apart =>
      have free : (s.counted (.partyCreate leaderId) partyCreateLimitWindowSeconds).partyMembers.find?
          (partyId, leaderId) = none := unlisted
      have untaken : (s.counted (.partyCreate leaderId) partyCreateLimitWindowSeconds).parties.find?
          partyId = none := fresh
      have empty : ∀ member, s.Active partyId member → s.Open partyId := by
        rintro member ⟨row, listed, -⟩
        have stored := settled.foreignKey partyId member (by rw [listed]; rfl)
        rw [fresh] at stored
        cases stored
      refine single.entered (fun other member active => ?_) (fun other standing => ?_)
        (settled.unattached apart) empty
      · obtain ⟨role, active⟩ := State.Active.activeRole active
        rw [activeRole_opened free] at active
        split at active
        · exact .inl ‹_›
        · exact .inr (State.active_of_activeRole active)
      · exact ((open_opened untaken).mp standing).symm
  close := fun _ ⟨settled, single⟩ => ⟨settled.closed, single.of_fewer
    (fun _ _ active => (active_closed.mp active).1) (fun _ standing => (open_closed.mp standing).1)⟩

/-! ## Members who join again -/

theorem rejoined_of_active (active : s.Active partyId userId)
    (succeeds : Succeeds (joinParty userId partyId) s) :
    (∀ other member, ((joinParty userId partyId).exec s).2.activeRole other member =
        s.activeRole other member) ∧
      ((joinParty userId partyId).exec s).2.Online partyId userId := by
  obtain ⟨detail, outcome⟩ := outcome_of_joined succeeds
  generalize ((joinParty userId partyId).exec s).2 = after at outcome
  cases outcome with
  | rejoined party row detail found live listed present =>
    refine ⟨fun other member => activeRole_rejoined listed present,
      MemberPatch.rejoin.apply s.now row, ?_, rfl, rfl⟩
    have stored : (s.patchMember partyId userId .rejoin).partyMembers.find? (partyId, userId) =
        some (MemberPatch.rejoin.apply s.now row) := by
      rw [State.patchMember_partyMembers, find?_modify_self, listed]
      rfl
    cases party.isPrivate with
    | true | false => exact stored
  | entered party user detail found live known unlisted =>
    obtain ⟨row, listed, -⟩ := active
    rw [unlisted] at listed
    cases listed

section Runs

variable (deployment : Deployment) (now : Time) (users : UserId → Option User)
  (routes : RouteId → Option Route) (follows : Table (UserId × UserId) FollowStatus)
  (blocks : List (UserId × UserId)) (liveSessions : UserId → Option Bool)

theorem single_of_run (ops : List Op) :
    (follow step (.initial deployment now users routes follows blocks liveSessions) ops).Settled ∧
      (follow step (.initial deployment now users routes follows blocks liveSessions) ops).Single := by
  have initially : (State.initial deployment now users routes follows blocks liveSessions).Single := by
    rintro userId first second ⟨row, listed, -⟩
    cases listed
  have kept : ∀ (s : State) (op : Op), s.Settled ∧ s.Single → (step s op).Settled ∧ (step s op).Single :=
    fun s op before => single_rowsInvariant.step op (fun _ _ => trivial) before
  have throughout : Throughout step (fun s => s.Settled ∧ s.Single)
      (.initial deployment now users routes follows blocks liveSessions) ops :=
    throughout_of_invariant kept ⟨initial_settled .., initially⟩ ops
  exact throughout.last

/-- **A member can join again exactly when the party has room, and is public or has a pending invite for
the member.** -/
theorem members_rejoin_iff (ops : List Op) (userId : UserId) (partyId : PartyId) {party : Party} {s : State}
    (reached : follow step (.initial deployment now users routes follows blocks liveSessions) ops = s)
    (found : s.parties.find? partyId = some party) (running : party.status ≠ .ended)
    (active : s.Active partyId userId) :
    (Succeeds (joinParty userId partyId) s ∧
        (∀ other member, ((joinParty userId partyId).exec s).2.activeRole other member =
          s.activeRole other member) ∧
        ((joinParty userId partyId).exec s).2.Online partyId userId) ↔
      s.activeCount partyId < party.maxMembers ∧ s.Invited partyId userId party := by
  have ⟨settled, single⟩ := single_of_run deployment now users routes follows blocks liveSessions ops
  rw [reached] at settled single
  have standing : s.Open partyId := ⟨party, found, running⟩
  constructor
  · rintro ⟨succeeds, -⟩
    have admissible := (joinParty_succeeds_iff found).mp succeeds
    exact ⟨admissible.space, admissible.invited⟩
  · rintro ⟨space, invited⟩
    have admissible : s.Admissible userId partyId party := by
      refine ⟨settled.live_iff.mpr standing, space, ?_, invited, .inl active⟩
      intro other role inside
      obtain ⟨there, live⟩ := firstActiveMembership_eq_some inside
      exact single userId other partyId there (settled.live_iff.mp live) active standing
    have succeeds := (joinParty_succeeds_iff found).mpr admissible
    exact ⟨succeeds, rejoined_of_active active succeeds⟩

end Runs

/-- Rider 2 of a party of two for four joins it again. -/
theorem members_rejoin_small :
    Succeeds (joinParty 2 10)
      (follow step smallInstallation [.createParty 1 10 smallParty, .joinParty 2 10]) := by
  have found : (follow step smallInstallation [.createParty 1 10 smallParty, .joinParty 2 10]).parties.find?
      10 = some (newParty 0 1 smallParty) := by decide +kernel
  have active : (follow step smallInstallation
      [.createParty 1 10 smallParty, .joinParty 2 10]).Active 10 2 := by
    decide +kernel
  have rejoins := members_rejoin_iff smallDeployment 0 _ _ _ _ _
    [.createParty 1 10 smallParty, .joinParty 2 10] 2 10 rfl found (by decide) active
  refine (rejoins.mpr ⟨by decide +kernel, ?_⟩).1
  intro isPrivate
  cases isPrivate

def partyForTwo : CreatePartyDto := { smallParty with maxMembers := 2, maxMembers_range := by decide }

def privateParty : CreatePartyDto := { smallParty with isPrivate := true }

/-- Rider 2 cannot join a party for two again, and a leader cannot join a private party again. -/
theorem members_refused :
    ((follow step smallInstallation [.createParty 1 10 partyForTwo, .joinParty 2 10]).activeRole 10 2).isSome ∧
      ¬ Succeeds (joinParty 2 10)
        (follow step smallInstallation [.createParty 1 10 partyForTwo, .joinParty 2 10]) ∧
      ((follow step smallInstallation [.createParty 1 10 privateParty]).activeRole 10 1).isSome ∧
      ¬ Succeeds (joinParty 1 10) (follow step smallInstallation [.createParty 1 10 privateParty]) := by
  refine ⟨by decide +kernel, ?_, by decide +kernel, ?_⟩
  · rintro ⟨detail, joined⟩
    have refused : ((joinParty 2 10).exec (follow step smallInstallation
        [.createParty 1 10 partyForTwo, .joinParty 2 10])).1 = .error partyFull := by decide +kernel
    rw [refused] at joined
    cases joined
  · rintro ⟨detail, joined⟩
    have refused : ((joinParty 1 10).exec (follow step smallInstallation
        [.createParty 1 10 privateParty])).1 = .error inviteRequired := by decide +kernel
    rw [refused] at joined
    cases joined

end Motogram
