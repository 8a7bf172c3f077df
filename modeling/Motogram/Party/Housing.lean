import Motogram.Party.Rows

/-!
# Members, leaders and users

Two more facts about the tables that every operation keeps. Active members are in open
parties, and nobody but the stored leader is active as a leader (`State.Housed`): when
the leader leaves, the role goes with them before another member is named. And every
membership row belongs to a user that exists (`State.Known`), so a party is read with all
its active members.
-/

set_option autoImplicit false

namespace Motogram

open Foundation

/-! ## Where members are, and who leads -/

theorem activeRole_departed_eq {s : State} {partyId other : PartyId} {userId member : UserId}
    {reason : LeaveReason} : (s.departed partyId userId reason).activeRole other member =
      if (other, member) = (partyId, userId) then none else s.activeRole other member := by
  by_cases same : (other, member) = (partyId, userId)
  · rw [if_pos same, ← Option.not_isSome_iff_eq_none, State.activeRole_isSome, active_departed]
    exact fun both => both.2 same
  · rw [if_neg same]
    exact activeRole_departed same

/-- Active members are in open parties, and nobody but the stored leader is active as a
leader. -/
structure State.Housed (s : State) : Prop where
  isOpen : ∀ partyId userId, s.Active partyId userId → s.Open partyId
  leads : ∀ partyId userId, s.activeRole partyId userId = some .leader →
    s.leaderOf partyId = some userId

namespace State.Housed

variable {s s' : State} {partyId : PartyId} {userId newLeaderId : UserId}

theorem of_sameRows (housed : s.Housed) (same : SameRows s s') : s'.Housed where
  isOpen := fun partyId userId active =>
    (same.isOpen partyId).mpr (housed.isOpen partyId userId ((same.active partyId userId).mp active))
  leads := fun partyId userId leader => by
    rw [same.activeRole] at leader
    rw [same.leaderOf]
    exact housed.leads partyId userId leader

theorem departed {reason : LeaveReason} (housed : s.Housed) :
    (s.departed partyId userId reason).Housed where
  isOpen := fun other member active =>
    open_departed.mpr (housed.isOpen other member (active_departed.mp active).1)
  leads := fun other member leader => by
    rw [activeRole_departed_eq] at leader
    rw [leaderOf_departed]
    by_cases same : (other, member) = (partyId, userId)
    · rw [if_pos same] at leader
      cases leader
    · rw [if_neg same] at leader
      exact housed.leads other member leader

/-- The old leader has gone when the new one is named. -/
theorem nobody_leads {reason : LeaveReason} (housed : s.Housed) (led : s.leaderOf partyId = some userId)
    (member : UserId) : (s.departed partyId userId reason).activeRole partyId member ≠ some .leader := by
  intro leader
  rw [activeRole_departed_eq] at leader
  by_cases same : member = userId
  · rw [if_pos (by rw [same])] at leader
    cases leader
  · rw [if_neg fun both => same (Prod.mk.inj both).2] at leader
    have other := housed.leads partyId member leader
    rw [led] at other
    exact same (Option.some.inj other).symm

theorem promoted (housed : s.Housed) (stored : (s.leaderOf partyId).isSome)
    (nobody : ∀ member, s.activeRole partyId member ≠ some .leader) :
    (s.promoted partyId newLeaderId).Housed where
  isOpen := fun other member active =>
    open_promoted.mpr (housed.isOpen other member (active_promoted.mp active))
  leads := fun other member leader => by
    rw [activeRole_promoted] at leader
    rw [leaderOf_promoted]
    by_cases same : (other, member) = (partyId, newLeaderId)
    · obtain ⟨before, led⟩ := Option.isSome_iff_exists.mp stored
      cases same
      rw [if_pos rfl, led]
      rfl
    · rw [if_neg same] at leader
      by_cases here : other = partyId
      · rw [here] at leader
        exact absurd leader (nobody member)
      · rw [if_neg here]
        exact housed.leads other member leader

theorem closed {reason : EndReason} (housed : s.Housed) : (s.closed partyId reason).Housed where
  isOpen := fun other member active =>
    have before := active_closed.mp active
    open_closed.mpr ⟨housed.isOpen other member before.1, before.2⟩
  leads := fun other member leader => by
    have before := active_closed.mp (State.active_of_activeRole leader)
    rw [activeRole_closed before.2] at leader
    rw [leaderOf_closed]
    exact housed.leads other member leader

theorem entered {now : Time} {row : PartyMember} {isPrivate : Bool} (housed : s.Housed)
    (standing : s.Open partyId) (unlisted : s.partyMembers.find? (partyId, userId) = none) :
    ((s.insertMember partyId userId (newMember now .member)).joined partyId userId row isPrivate).Housed := by
  have parties : ((s.insertMember partyId userId (newMember now .member)).joined partyId userId row
      isPrivate).parties = s.parties := parties_joined
  refine ⟨fun other member active => ?_, fun other member leader => ?_⟩
  · rw [← State.activeRole_isSome, activeRole_entered unlisted] at active
    rw [State.open_congr parties]
    by_cases same : (other, member) = (partyId, userId)
    · rw [(Prod.mk.inj same).1]
      exact standing
    · rw [if_neg same, State.activeRole_isSome] at active
      exact housed.isOpen other member active
  · rw [activeRole_entered unlisted] at leader
    rw [State.leaderOf_congr parties]
    by_cases same : (other, member) = (partyId, userId)
    · rw [if_pos same] at leader
      cases leader
    · rw [if_neg same] at leader
      exact housed.leads other member leader

theorem opened {dto : CreatePartyDto} (housed : s.Housed) (fresh : s.parties.find? partyId = none)
    (unlisted : s.partyMembers.find? (partyId, userId) = none) : (s.opened partyId userId dto).Housed := by
  have empty : ∀ member, ¬ s.Active partyId member := by
    intro member active
    obtain ⟨party, found, -⟩ := housed.isOpen partyId member active
    rw [fresh] at found
    cases found
  refine ⟨fun other member active => ?_, fun other member leader => ?_⟩
  · rw [← State.activeRole_isSome, activeRole_opened unlisted] at active
    rw [open_opened fresh]
    by_cases same : (other, member) = (partyId, userId)
    · exact .inr (Prod.mk.inj same).1
    · rw [if_neg same, State.activeRole_isSome] at active
      exact .inl (housed.isOpen other member active)
  · rw [activeRole_opened unlisted] at leader
    rw [leaderOf_opened fresh]
    by_cases same : (other, member) = (partyId, userId)
    · rw [if_pos (Prod.mk.inj same).1, (Prod.mk.inj same).2]
    · rw [if_neg same] at leader
      have elsewhere : other ≠ partyId := by
        rintro rfl
        exact empty member (State.active_of_activeRole leader)
      rw [if_neg elsewhere]
      exact housed.leads other member leader

end State.Housed

theorem housed_rowsInvariant : RowsInvariant (fun _ => True)
    (fun s => s.Settled ∧ s.Housed) where
  rows := fun same both => ⟨both.1.of_sameRows same, both.2.of_sameRows same⟩
  leave := fun outcome _ both => by
    refine ⟨settled_rowsInvariant.leave outcome trivial both.1, ?_⟩
    cases outcome with
    | rejected | finished => exact both.2
    | follower | leaderless | locked => exact both.2.departed
    | alone => exact both.2.departed.closed
    | elected newLeaderId row standing active leads =>
      refine both.2.departed.promoted ?_ (both.2.nobody_leads leads)
      rw [leaderOf_departed, leads]
      rfl
  join := fun outcome both => by
    refine ⟨settled_rowsInvariant.join outcome both.1, ?_⟩
    cases outcome with
    | rejected => exact both.2
    | rejoined party row detail found live listed present =>
      exact both.2.of_sameRows (rejoined_keepsRows listed present)
    | entered party user detail found live known unlisted =>
      exact both.2.entered (both.1.live_iff.mp live) unlisted
  create := fun {s leaderId partyId dto result s'} outcome both => by
    refine ⟨settled_rowsInvariant.create outcome both.1, ?_⟩
    have counted : (s.counted (.partyCreate leaderId) partyCreateLimitWindowSeconds).Housed :=
      both.2.of_sameRows (.of_eq rfl rfl rfl)
    cases outcome with
    | rejected => exact counted
    | opened user known fresh unlisted => exact counted.opened fresh unlisted
  close := fun standing both => ⟨settled_rowsInvariant.close standing both.1, both.2.closed⟩

/-! ## The users of the members -/

/-- Every membership row belongs to a user that exists. -/
def State.Known (s : State) : Prop :=
  ∀ key, (s.partyMembers.find? key).isSome → (s.users key.2).isSome

theorem State.Known.of_listed {s s' : State} (known : s.Known)
    (listed : ∀ key, (s'.partyMembers.find? key).isSome → (s.partyMembers.find? key).isSome)
    (users : s'.users = s.users) : s'.Known := by
  intro key found
  rw [users]
  exact known key (listed key found)

theorem answer_keepsKnown (call : StoreCall) {s : State} (known : s.Known) : (answer call s).2.Known := by
  cases call with
  | userUpdateLocationSharing userId mode =>
    simp only [answer]
    cases found : s.users userId with
    | none => exact known
    | some user =>
      intro key listed
      have before := known key listed
      rw [State.withUser_users]
      by_cases same : key.2 = userId
      · rw [same, Function.update_self]
        rfl
      · rwa [Function.update_of_ne same]
  | createPartyTransaction partyId leaderId dto =>
    simp only [answer]
    split
    · exact known
    · by_cases missing : (s.users leaderId).isNone
      · rw [if_pos missing]
        exact known
      · rw [if_neg missing]
        intro key listed
        rw [State.insertParty_partyMembers, Table.find?_insert] at listed
        by_cases here : key = (partyId, leaderId) ∧ s.partyMembers.find? (partyId, leaderId) = none
        · rw [here.1]
          simpa [Option.isSome_iff_ne_none] using missing
        · rw [if_neg here] at listed
          exact known key listed
  | partyMemberCreate partyId userId role =>
    simp only [answer]
    split
    · exact known
    · by_cases missing : (s.parties.find? partyId).isNone || (s.users userId).isNone
      · rw [if_pos missing]
        exact known
      · rw [if_neg missing]
        intro key listed
        rw [State.insertMember_partyMembers, Table.find?_insert] at listed
        by_cases here : key = (partyId, userId) ∧ s.partyMembers.find? (partyId, userId) = none
        · rw [Bool.not_eq_true, Bool.or_eq_false_iff] at missing
          rw [here.1]
          simpa [Option.isSome_iff_ne_none] using missing.2
        · rw [if_neg here] at listed
          exact known key listed
  | endPartyTransaction | changeLeaderTransaction | partyMemberUpdate =>
    simp only [answer]
    split
    · exact known
    · exact known.of_listed (fun key listed => by simpa using listed) rfl
  | partyMemberUpdateManyActive partyId userId patch =>
    exact known.of_listed (fun key listed => by simpa [answer] using listed) rfl
  | redis command => cases command <;> exact known
  | multi commands =>
    refine List.foldlRecOn (motive := State.Known) commands State.redis known ?_
    intro t kept command _
    cases command <;> exact kept
  | environment event =>
    cases event with
    | elapse milliseconds => exact known
    | relist rows index =>
      simp only [answer]
      split
      · exact known.of_listed (fun key listed => by simpa using listed) rfl
      · exact known
  | partyInviteCreate =>
    simp only [answer]
    split
    · exact known
    · split <;> exact known
  | partyInviteDecline | setLeaderLockNx | releaseLeaderLock | socketConnect =>
    simp only [answer]
    split <;> exact known
  | _ => exact known

theorem State.Known.step {s : State} (known : s.Known) (op : Op) : (step s op).Known :=
  step_keeps known fun call _ _ before => answer_keepsKnown call before

section Reading

variable {s : State} {partyId : PartyId}

theorem mem_activeMembersWithUser {userId : UserId} {row : PartyMember} {user : User} :
    (userId, row, user) ∈ s.activeMembersWithUser partyId ↔
      (s.partyMembers.find? (partyId, userId) = some row ∧ row.leftAt = none) ∧
        s.users userId = some user := by
  rw [State.activeMembersWithUser, List.mem_filterMap]
  constructor
  · rintro ⟨⟨member, stored⟩, listed, same⟩
    obtain ⟨found, known, equal⟩ := Option.map_eq_some_iff.mp same
    cases equal
    rw [sortByDate, List.mem_insertionSort, List.mem_filter, mem_membersOf,
      Option.isNone_iff_eq_none] at listed
    exact ⟨listed, known⟩
  · rintro ⟨standing, known⟩
    refine ⟨(userId, row), ?_, ?_⟩
    · rw [sortByDate, List.mem_insertionSort, List.mem_filter, mem_membersOf,
        Option.isNone_iff_eq_none]
      exact standing
    · rw [known]
      rfl

theorem nodup_activeMembersWithUser (s : State) (partyId : PartyId) :
    ((s.activeMembersWithUser partyId).map Prod.fst).Nodup := by
  have rows : (((s.membersOf partyId).filter fun entry => entry.2.leftAt.isNone).map
      Prod.fst).Nodup :=
    (nodup_membersOf s partyId).sublist (List.filter_sublist.map _)
  have sorted : ((sortByDate (fun entry => entry.2.joinedAt)
      ((s.membersOf partyId).filter fun entry => entry.2.leftAt.isNone)).map Prod.fst).Nodup :=
    ((List.perm_insertionSort _ _).map Prod.fst).nodup_iff.mpr rows
  rw [State.activeMembersWithUser]
  generalize sortByDate _ _ = listed at sorted ⊢
  induction listed with
  | nil => exact List.nodup_nil
  | cons entry rest ih =>
    rw [List.map_cons, List.nodup_cons] at sorted
    rw [List.filterMap_cons]
    cases known : s.users entry.1 with
    | none => exact ih sorted.2
    | some user =>
      refine List.nodup_cons.mpr ⟨fun again => sorted.1 ?_, ih sorted.2⟩
      obtain ⟨later, kept, same⟩ := List.mem_map.mp again
      obtain ⟨before, there, named⟩ := List.mem_filterMap.mp kept
      obtain ⟨other, -, equal⟩ := Option.map_eq_some_iff.mp named
      rw [← equal] at same
      exact List.mem_map.mpr ⟨before, there, same⟩

end Reading

end Motogram
