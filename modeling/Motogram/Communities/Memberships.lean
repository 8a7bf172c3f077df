import Motogram.Communities.Service
import Motogram.Foundation.Drift

/-!
# What an answer does to the memberships

Every write of the service is of one membership, and of the counter of its community. The
transactions go by what was read before them: `joinCommunity` and `respondJoinRequest` count a
member that becomes active, `leaveCommunity` one that was.
-/

set_option autoImplicit false

namespace Motogram.Communities

open Foundation Program Table
open Social (CommunityId MemberStatus)

variable {s t u : State} {communityId other : CommunityId} {userId : UserId} {row : Option CommunityMember}
  {change : Int}

/-! ## One membership -/

/-- The membership of one user has been written, and no other. -/
structure Writes (s t : State) (communityId : CommunityId) (userId : UserId) (row : Option CommunityMember) :
    Prop where
  others : t.members.erase (communityId, userId) = s.members.erase (communityId, userId)
  own : t.members.find? (communityId, userId) = row

theorem Writes.find?_of_ne (writes : Writes s t communityId userId row) {user : UserId}
    (different : (other, user) ≠ (communityId, userId)) :
    t.members.find? (other, user) = s.members.find? (other, user) := by
  have same := congrArg (fun table => table.find? (other, user)) writes.others
  simpa only [find?_erase, if_neg different] using same

theorem Writes.of_members (writes : Writes s t communityId userId row) (same : u.members = t.members) :
    Writes s u communityId userId row := by
  refine ⟨?_, ?_⟩
  · rw [same]
    exact writes.others
  · rw [same]
    exact writes.own

def State.actives (s : State) (communityId : CommunityId) : Nat :=
  s.members.count fun pair member => decide (pair.1 = communityId) && decide (member.status = .active)

/-- The membership is an active one. -/
def State.activeIn (s : State) (communityId : CommunityId) (userId : UserId) : Bool :=
  isActive (s.members.find? (communityId, userId))

/-- **The number of active members changes by what the membership counts.** -/
theorem Writes.actives (writes : Writes s t communityId userId row) (other : CommunityId) :
    (t.actives other : Int) = s.actives other +
      if other = communityId then ((isActive row).toNat : Int) - (s.activeIn communityId userId).toNat else 0 := by
  have counted := count_of_erase_eq writes.others fun pair member =>
    decide (pair.1 = other) && decide (member.status = .active)
  rw [State.actives, State.actives, counted, writes.own]
  unfold State.activeIn isActive
  by_cases same : other = communityId
  · cases same
    simp only [decide_true, Bool.true_and, if_true]
    omega
  · have apart : communityId ≠ other := fun equal => same equal.symm
    simp [same, apart]

/-! ## The counter -/

def Tallies (s t : State) (communityId : CommunityId) (change : Int) : Prop :=
  ∀ other, t.communities.find? other = (s.communities.find? other).map fun community =>
    if other = communityId then community.count change else community

theorem Community.count_zero (community : Community) : community.count 0 = community := by
  simp [Community.count]

theorem tallies_of_communities (same : t.communities = s.communities) : Tallies s t communityId 0 := by
  intro other
  rw [same]
  simp only [Community.count_zero, ite_self, Option.map_id_fun', id]

theorem Tallies.of_communities (tallies : Tallies s t communityId change)
    (same : s.communities = u.communities) : Tallies u t communityId change := by
  intro other
  rw [← same]
  exact tallies other

/-- Nothing but members and communities has been written. -/
def SameRest (s t : State) : Prop := t = (s.withMembers t.members).withCommunities t.communities

theorem SameRest.trans (first : SameRest s t) (second : SameRest t u) : SameRest s u := by
  rw [second, first]
  rfl

theorem SameRest.fresh (rest : SameRest s t) : t.fresh = s.fresh := by
  have same := congrArg State.fresh rest
  exact same

/-! ## What each write does -/

theorem createMember_effect {member : CommunityMember} (done : s.createMember communityId userId member = .ok t) :
    Writes s t communityId userId (some member) ∧ t.communities = s.communities ∧ SameRest s t ∧
      s.members.find? (communityId, userId) = none ∧ (s.communities.find? communityId).isSome := by
  unfold State.createMember at done
  split at done
  · cases done
  · split at done
    · cases done
    · rename_i free there
      cases done
      have free : s.members.find? (communityId, userId) = none := by simpa using free
      have there : (s.communities.find? communityId).isSome := by
        rw [Bool.or_eq_true, not_or] at there
        simpa [Option.isSome_iff_ne_none] using there.2
      exact ⟨⟨erase_insert free _, find?_insert_self free _⟩, rfl, rfl, free, there⟩

theorem updateMember_effect {change : CommunityMember → CommunityMember}
    (done : s.updateMember communityId userId change = .ok t) :
    ∃ before, s.members.find? (communityId, userId) = some before ∧
      Writes s t communityId userId (some (change before)) ∧ t.communities = s.communities ∧ SameRest s t := by
  unfold State.updateMember at done
  split at done
  · cases done
  · rename_i here
    cases done
    rw [Bool.not_eq_true, Option.isNone_eq_false_iff] at here
    obtain ⟨before, found⟩ := Option.isSome_iff_exists.mp here
    refine ⟨before, found, ⟨erase_modify _ _ _, ?_⟩, rfl, rfl⟩
    rw [State.withMembers_members, find?_modify_self, found, Option.map_some]

theorem deleteMember_effect (done : s.deleteMember communityId userId = .ok t) :
    Writes s t communityId userId none ∧ t.communities = s.communities ∧ SameRest s t ∧
      (s.members.find? (communityId, userId)).isSome := by
  unfold State.deleteMember at done
  split at done
  · cases done
  · rename_i here
    cases done
    refine ⟨⟨?_, ?_⟩, rfl, rfl, by simpa [Option.isSome_iff_ne_none] using here⟩
    · rw [State.withMembers_members, erase, erase, eraseWhere_eraseWhere]
      exact eraseWhere_congr fun entry _ => Bool.or_self _
    · rw [State.withMembers_members, find?_erase, if_pos rfl]

theorem countMembers_effect (done : s.countMembers communityId change = .ok t) :
    Tallies s t communityId change ∧ t.members = s.members ∧ SameRest s t := by
  unfold State.countMembers at done
  split at done
  · cases done
  · cases done
    refine ⟨fun other => ?_, rfl, rfl⟩
    rw [State.withCommunities_communities, find?_modify]
    by_cases same : other = communityId
    · simp only [if_pos same]
    · simp only [if_neg same, Option.map_id_fun', id]

/-! ## The transactions -/

/-- A membership has been written, and the counter changed. -/
structure Counts (s t : State) (communityId : CommunityId) (userId : UserId) (row : Option CommunityMember)
    (change : Int) : Prop where
  writes : Writes s t communityId userId row
  tallies : Tallies s t communityId change
  rest : SameRest s t

def joinedRow (before : Option CommunityMember) (nextStatus : MemberStatus) (now : Time) : CommunityMember :=
  match before with
  | some member => member.withStatus nextStatus now
  | none => ⟨.member, nextStatus, now⟩

theorem join_effect {existing : Bool} {nextStatus : MemberStatus}
    (done : s.join communityId userId existing nextStatus = .ok t) :
    Counts s t communityId userId
        (some (joinedRow (s.members.find? (communityId, userId)) nextStatus s.now))
        (if nextStatus = .active then 1 else 0) ∧
      existing = (s.members.find? (communityId, userId)).isSome ∧
      (existing = false → (s.communities.find? communityId).isSome) := by
  have counts : ∀ joined : State, joined.communities = s.communities → SameRest s joined →
      (if nextStatus = .active then joined.countMembers communityId 1 else .ok joined) = Except.ok t →
        Tallies s t communityId (if nextStatus = .active then 1 else 0) ∧ t.members = joined.members ∧
          SameRest s t := by
    intro joined same rest counted
    split at counted
    · obtain ⟨tallies, members, further⟩ := countMembers_effect counted
      rw [if_pos ‹_›]
      exact ⟨tallies.of_communities same, members, rest.trans further⟩
    · cases counted
      rw [if_neg ‹_›]
      exact ⟨tallies_of_communities same, rfl, rest⟩
  cases existing with
  | true =>
    obtain ⟨joined, updates, counted⟩ := ok_of_bind done
    obtain ⟨before, found, writes, same, rest⟩ := updateMember_effect updates
    obtain ⟨tallies, members, rest⟩ := counts joined same rest counted
    rw [found]
    exact ⟨⟨writes.of_members members, tallies, rest⟩, rfl, nofun⟩
  | false =>
    obtain ⟨joined, creates, counted⟩ := ok_of_bind done
    obtain ⟨writes, same, rest, free, there⟩ := createMember_effect creates
    obtain ⟨tallies, members, rest⟩ := counts joined same rest counted
    rw [free]
    exact ⟨⟨writes.of_members members, tallies, rest⟩, rfl, fun _ => there⟩

theorem accept_effect (done : s.accept communityId userId = .ok t) :
    ∃ before, s.members.find? (communityId, userId) = some before ∧
      Counts s t communityId userId (some (before.withStatus .active s.now)) 1 := by
  obtain ⟨accepted, updates, counted⟩ := ok_of_bind done
  obtain ⟨before, found, writes, same, rest⟩ := updateMember_effect updates
  obtain ⟨tallies, members, further⟩ := countMembers_effect counted
  exact ⟨before, found, writes.of_members members, tallies.of_communities same, rest.trans further⟩

theorem leave_effect (done : s.leave communityId userId = .ok t) :
    Counts s t communityId userId none (-1) ∧ (s.members.find? (communityId, userId)).isSome := by
  obtain ⟨left, deletes, counted⟩ := ok_of_bind done
  obtain ⟨writes, same, rest, present⟩ := deleteMember_effect deletes
  obtain ⟨tallies, members, further⟩ := countMembers_effect counted
  exact ⟨⟨writes.of_members members, tallies.of_communities same, rest.trans further⟩, present⟩

end Motogram.Communities
