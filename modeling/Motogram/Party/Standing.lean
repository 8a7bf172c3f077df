import Motogram.Party.Gateway
import Motogram.Region

/-!
# Standing in a party

The claims about parties speak of three facts that the tables hold: that a user
is active in a party (a membership row with `leftAt` null), that a party is open
(its status is not `ENDED`), and who leads it. Here they are defined, every
write of the party service is described by what it does to them, and what the
service functions read is tied to them.
-/

set_option autoImplicit false

namespace Motogram

open Foundation Table Option

namespace State

variable (s : State)

/-- The user has a membership row in the party that is not closed. -/
def Active (partyId : PartyId) (userId : UserId) : Prop :=
  ∃ row, s.partyMembers.find? (partyId, userId) = some row ∧ row.leftAt = none

/-- The user has a row in the party, closed or not. -/
def Listed (partyId : PartyId) (userId : UserId) : Prop :=
  (s.partyMembers.find? (partyId, userId)).isSome

def Open (partyId : PartyId) : Prop :=
  ∃ party, s.parties.find? partyId = some party ∧ party.status ≠ .ended

def leaderOf (partyId : PartyId) : Option UserId :=
  (s.parties.find? partyId).map Party.leaderId

def activeRole (partyId : PartyId) (userId : UserId) : Option PartyRole :=
  ((s.partyMembers.find? (partyId, userId)).filter fun row => row.leftAt.isNone).map
    PartyMember.role

instance (partyId : PartyId) (userId : UserId) : Decidable (s.Active partyId userId) :=
  decidable_of_iff ((s.partyMembers.find? (partyId, userId)).any fun row => row.leftAt.isNone) <| by
    simp [Active, Option.any_eq_true]

instance (partyId : PartyId) : Decidable (s.Open partyId) :=
  decidable_of_iff ((s.parties.find? partyId).any fun party => decide (party.status ≠ .ended)) <| by
    simp [Open, Option.any_eq_true]

variable {s}

variable {partyId : PartyId} {userId : UserId}

theorem activeRole_eq_some {role : PartyRole} :
    s.activeRole partyId userId = some role ↔
      ∃ row, s.partyMembers.find? (partyId, userId) = some row ∧ row.leftAt = none ∧
        row.role = role := by
  simp [activeRole, filter_eq_some_iff, and_assoc]

theorem Active.activeRole (active : s.Active partyId userId) :
    ∃ role, s.activeRole partyId userId = some role := by
  obtain ⟨row, found, present⟩ := active
  exact ⟨row.role, activeRole_eq_some.mpr ⟨row, found, present, rfl⟩⟩

theorem active_of_activeRole {role : PartyRole} (holds : s.activeRole partyId userId = some role) :
    s.Active partyId userId := by
  obtain ⟨row, found, present, -⟩ := activeRole_eq_some.mp holds
  exact ⟨row, found, present⟩

end State

/-! ## What the writes do to standing -/

@[simp] theorem MemberPatch.leftAt_apply_leave (now : Time) (row : PartyMember) :
    (MemberPatch.leave.apply now row).leftAt = some now := rfl

@[simp] theorem MemberPatch.leftAt_apply_rejoin (now : Time) (row : PartyMember) :
    (MemberPatch.rejoin.apply now row).leftAt = none := rfl

@[simp] theorem MemberPatch.role_apply (now : Time) (patch : MemberPatch) (row : PartyMember) :
    (patch.apply now row).role = row.role := by
  cases patch <;> rfl

@[simp] theorem MemberPatch.joinedAt_apply (now : Time) (patch : MemberPatch) (row : PartyMember) :
    (patch.apply now row).joinedAt = row.joinedAt := by
  cases patch <;> rfl

theorem MemberPatch.leftAt_apply_presence {patch : MemberPatch} (presence : patch.region = .presence)
    (now : Time) (row : PartyMember) : (patch.apply now row).leftAt = row.leftAt := by
  cases patch with
  | rejoin | leave => cases presence
  | online | offline | hostname => rfl

namespace State

variable {s : State} {partyId other : PartyId} {userId member : UserId}

variable {s' : State} {newLeaderId : UserId}

theorem active_congr (same : s'.partyMembers = s.partyMembers) :
    s'.Active partyId userId ↔ s.Active partyId userId := by
  simp only [Active, same]

theorem open_congr (same : s'.parties = s.parties) : s'.Open partyId ↔ s.Open partyId := by
  simp only [Open, same]

theorem leaderOf_congr (same : s'.parties = s.parties) : s'.leaderOf partyId = s.leaderOf partyId := by
  simp only [leaderOf, same]

theorem activeRole_congr (same : s'.partyMembers = s.partyMembers) :
    s'.activeRole partyId userId = s.activeRole partyId userId := by
  simp only [activeRole, same]

/-- Closing one membership. -/
theorem active_patchMember_leave :
    (s.patchMember partyId userId .leave).Active other member ↔
      s.Active other member ∧ (other, member) ≠ (partyId, userId) := by
  simp only [Active, patchMember_partyMembers, find?_modify]
  by_cases same : (other, member) = (partyId, userId)
  · simp [same]
  · simp [same]

theorem activeRole_patchMember_leave (different : (other, member) ≠ (partyId, userId)) :
    (s.patchMember partyId userId .leave).activeRole other member = s.activeRole other member := by
  simp only [activeRole, patchMember_partyMembers, find?_modify_of_ne _ different]

theorem active_patchActive_leave :
    (s.patchActive (fun key => decide (key.1 = partyId)) .leave).Active other member ↔
      s.Active other member ∧ other ≠ partyId := by
  simp only [Active, patchActive_partyMembers, find?_modifyWhere]
  constructor
  · rintro ⟨row, found, present⟩
    obtain ⟨old, read, changed⟩ := map_eq_some_iff.mp found
    by_cases hit : (decide (other = partyId) && old.leftAt.isNone) = true
    · rw [if_pos hit] at changed
      subst changed
      cases present
    · rw [if_neg hit] at changed
      subst changed
      refine ⟨⟨old, read, present⟩, fun same => hit ?_⟩
      simp [same, present]
  · rintro ⟨⟨row, found, present⟩, different⟩
    exact ⟨row, by simp [found, different], present⟩

theorem activeRole_patchActive_leave (different : other ≠ partyId) :
    (s.patchActive (fun key => decide (key.1 = partyId)) .leave).activeRole other member =
      s.activeRole other member := by
  simp [activeRole, different]

/-- A change of presence closes and opens no membership. -/
theorem activeRole_patchMember_presence {patch : MemberPatch} (presence : patch.region = .presence) :
    (s.patchMember partyId userId patch).activeRole other member = s.activeRole other member := by
  simp only [activeRole, patchMember_partyMembers, find?_modify]
  by_cases same : (other, member) = (partyId, userId)
  · cases found : s.partyMembers.find? (other, member) with
    | none => simp [same]
    | some row =>
      simp only [if_pos same, map_some, filter_some, MemberPatch.leftAt_apply_presence presence]
      cases row.leftAt <;> simp
  · rw [if_neg same]

theorem activeRole_patchActive_presence {patch : MemberPatch} (presence : patch.region = .presence)
    (condition : PartyId × UserId → Bool) :
    (s.patchActive condition patch).activeRole other member = s.activeRole other member := by
  simp only [activeRole, patchActive_partyMembers, find?_modifyWhere]
  cases found : s.partyMembers.find? (other, member) with
  | none => rfl
  | some row =>
    by_cases hit : (condition (other, member) && row.leftAt.isNone) = true
    · simp only [map_some, if_pos hit, filter_some, MemberPatch.leftAt_apply_presence presence]
      cases row.leftAt <;> simp
    · simp only [map_some, if_neg hit]

theorem activeRole_isSome : (s.activeRole partyId userId).isSome ↔ s.Active partyId userId := by
  rw [isSome_iff_exists]
  exact ⟨fun ⟨_, holds⟩ => active_of_activeRole holds, Active.activeRole⟩

theorem active_of_activeRole_eq (same : s'.activeRole partyId userId = s.activeRole partyId userId) :
    s'.Active partyId userId ↔ s.Active partyId userId := by
  rw [← activeRole_isSome, ← activeRole_isSome, same]

/-- Reopening a membership that exists. -/
theorem activeRole_patchMember_rejoin {row : PartyMember}
    (found : s.partyMembers.find? (partyId, userId) = some row) :
    (s.patchMember partyId userId .rejoin).activeRole other member =
      if (other, member) = (partyId, userId) then some row.role
      else s.activeRole other member := by
  simp only [activeRole, patchMember_partyMembers, find?_modify]
  by_cases same : (other, member) = (partyId, userId)
  · rw [if_pos same, if_pos same, same, found]
    rfl
  · rw [if_neg same, if_neg same]

theorem activeRole_insertMember {now : Time} {role : PartyRole}
    (free : s.partyMembers.find? (partyId, userId) = none) :
    (s.insertMember partyId userId (newMember now role)).activeRole other member =
      if (other, member) = (partyId, userId) then some role else s.activeRole other member := by
  simp only [activeRole, insertMember_partyMembers, find?_insert, free, and_true]
  by_cases same : (other, member) = (partyId, userId)
  · rw [if_pos same, if_pos same]
    rfl
  · rw [if_neg same, if_neg same]

theorem open_markEnded : (s.markEnded partyId).Open other ↔ s.Open other ∧ other ≠ partyId := by
  simp only [Open, markEnded_parties, find?_modify]
  by_cases same : other = partyId
  · simp [same]
  · simp [same]

theorem leaderOf_markEnded : (s.markEnded partyId).leaderOf other = s.leaderOf other := by
  simp only [leaderOf, markEnded_parties, find?_modify]
  by_cases same : other = partyId
  · rw [if_pos same, map_map]
    rfl
  · rw [if_neg same]

theorem open_changeLeader : (s.changeLeader partyId newLeaderId).Open other ↔ s.Open other := by
  simp only [Open, changeLeader_parties, find?_modify]
  by_cases same : other = partyId
  · simp [same]
  · simp [same]

theorem leaderOf_changeLeader :
    (s.changeLeader partyId newLeaderId).leaderOf other =
      if other = partyId then (s.leaderOf other).map fun _ => newLeaderId else s.leaderOf other := by
  simp only [leaderOf, changeLeader_parties, find?_modify]
  by_cases same : other = partyId
  · rw [if_pos same, if_pos same, map_map, map_map]
    rfl
  · rw [if_neg same, if_neg same]

theorem activeRole_changeLeader :
    (s.changeLeader partyId newLeaderId).activeRole other member =
      if (other, member) = (partyId, newLeaderId) then
        (s.activeRole other member).map fun _ => .leader
      else s.activeRole other member := by
  simp only [activeRole, changeLeader_partyMembers, find?_modify]
  by_cases same : (other, member) = (partyId, newLeaderId)
  · rw [if_pos same, if_pos same]
    cases s.partyMembers.find? (other, member) with
    | none => rfl
    | some row =>
      simp only [map_some, filter_some]
      cases row.leftAt <;> simp
  · rw [if_neg same, if_neg same]

theorem active_changeLeader :
    (s.changeLeader partyId newLeaderId).Active other member ↔ s.Active other member := by
  rw [← activeRole_isSome, activeRole_changeLeader, ← activeRole_isSome]
  split
  · rw [isSome_map]
  · rfl

end State

/-! ## What is read -/

section Reading

variable {s : State} {partyId : PartyId} {userId : UserId}

/-- A party and its rows as they are read in one state. -/
abbrev snapshot (s : State) (partyId : PartyId) (party : Party) : PartyWithMembers :=
  ⟨party, s.membersOf partyId⟩

variable {party : Party} {row : PartyMember}

theorem mem_membersOf :
    (userId, row) ∈ s.membersOf partyId ↔ s.partyMembers.find? (partyId, userId) = some row := by
  rw [State.membersOf, List.mem_map]
  constructor
  · rintro ⟨⟨⟨party, user⟩, value⟩, member, equal⟩
    obtain ⟨found, same⟩ := mem_select.mp member
    cases equal
    rw [← of_decide_eq_true same, found]
  · intro found
    exact ⟨((partyId, userId), row), mem_select.mpr ⟨found, by simp⟩, rfl⟩

/-- No user has two rows in a party. -/
theorem nodup_membersOf (s : State) (partyId : PartyId) : ((s.membersOf partyId).map Prod.fst).Nodup := by
  rw [State.membersOf, List.map_map]
  refine List.Nodup.map_on ?_ (List.Nodup.of_map Prod.fst (nodup_select _ _))
  rintro ⟨⟨first, user⟩, row⟩ left ⟨⟨second, user'⟩, row'⟩ right (equal : user = user')
  obtain ⟨foundLeft, sameLeft⟩ := mem_select.mp left
  obtain ⟨foundRight, sameRight⟩ := mem_select.mp right
  have firstIs : first = partyId := of_decide_eq_true sameLeft
  have secondIs : second = partyId := of_decide_eq_true sameRight
  subst firstIs secondIs equal
  rw [foundLeft] at foundRight
  cases foundRight
  rfl

theorem find?_membersOf (s : State) (partyId : PartyId) (userId : UserId) :
    (s.membersOf partyId).find? (fun entry => decide (entry.1 = userId)) =
      (s.partyMembers.find? (partyId, userId)).map fun row => (userId, row) := by
  cases found : s.partyMembers.find? (partyId, userId) with
  | none =>
    rw [map_none, List.find?_eq_none]
    rintro ⟨member, row⟩ listed same
    cases of_decide_eq_true same
    rw [mem_membersOf.mp listed] at found
    cases found
  | some row =>
    cases search : (s.membersOf partyId).find? fun entry => decide (entry.1 = userId) with
    | none =>
      have absent := List.find?_eq_none.mp search _ (mem_membersOf.mpr found)
      simp at absent
    | some entry =>
      obtain ⟨member, read⟩ := entry
      have same : member = userId := by simpa using List.find?_some search
      subst same
      have here := mem_membersOf.mp (List.mem_of_find?_eq_some search)
      rw [found] at here
      cases here
      rfl

/-- The membership check of `leaveParty` is the check of an active row. -/
theorem isMember_iff : (snapshot s partyId party).isMember userId = true ↔ s.Active partyId userId := by
  rw [PartyWithMembers.isMember, find?_membersOf]
  cases found : s.partyMembers.find? (partyId, userId) with
  | none | some => simp [State.Active, found]

theorem mem_activeMembers :
    (userId, row) ∈ (snapshot s partyId party).activeMembers ↔
      s.partyMembers.find? (partyId, userId) = some row ∧ row.leftAt = none := by
  rw [PartyWithMembers.activeMembers, List.mem_filter, mem_membersOf, isNone_iff_eq_none]

theorem any_activeMembers :
    ((snapshot s partyId party).activeMembers.any fun entry =>
        decide (entry.1 = userId)) = true ↔ s.Active partyId userId := by
  rw [List.any_eq_true]
  constructor
  · rintro ⟨⟨member, row⟩, listed, same⟩
    cases of_decide_eq_true same
    exact ⟨row, mem_activeMembers.mp listed⟩
  · rintro ⟨row, standing⟩
    exact ⟨(userId, row), mem_activeMembers.mpr standing, by simp⟩

theorem mem_remaining {member : UserId} {row : PartyMember} :
    (member, row) ∈ (snapshot s partyId party).remaining userId ↔
      member ≠ userId ∧ s.partyMembers.find? (partyId, member) = some row ∧ row.leftAt = none := by
  rw [PartyWithMembers.remaining, List.mem_filter, mem_membersOf]
  simp only [Bool.and_eq_true, decide_eq_true_eq, isNone_iff_eq_none]
  exact ⟨fun ⟨found, different, present⟩ => ⟨different, found, present⟩,
    fun ⟨different, found, present⟩ => ⟨found, different, present⟩⟩

theorem remaining_eq_nil_iff :
    (snapshot s partyId party).remaining userId = [] ↔ ∀ member, member ≠ userId → ¬ s.Active partyId member := by
  rw [List.eq_nil_iff_forall_not_mem]
  constructor
  · rintro none member different ⟨row, found, present⟩
    exact none (member, row) (mem_remaining.mpr ⟨different, found, present⟩)
  · rintro none ⟨member, row⟩ listed
    obtain ⟨different, standing⟩ := mem_remaining.mp listed
    exact none member different ⟨row, standing⟩

theorem mem_onlineMembers {lite : PartyMemberLite} :
    lite ∈ ((snapshot s partyId party).electionInput partyId userId).onlineMembers ↔
      lite.userId ≠ userId ∧ ∃ row, s.partyMembers.find? (partyId, lite.userId) = some row ∧
        row.leftAt = none ∧ row.isOnline = true ∧ lite = .ofRow (lite.userId, row) := by
  simp only [PartyWithMembers.electionInput, PartyWithMembers.candidates, List.mem_filter,
    List.mem_map]
  constructor
  · rintro ⟨⟨⟨member, row⟩, listed, rfl⟩, online⟩
    obtain ⟨different, found, present⟩ := mem_remaining.mp listed
    exact ⟨different, row, found, present, online, rfl⟩
  · rintro ⟨different, row, found, present, online, equal⟩
    refine ⟨⟨(lite.userId, row), mem_remaining.mpr ⟨different, found, present⟩, equal.symm⟩, ?_⟩
    rw [equal]
    exact online

theorem oldestCandidate_eq_some {candidates : List PartyMemberLite} {fallback : UserId}
    (oldest : oldestCandidate candidates = some fallback) : ∃ lite ∈ candidates, lite.userId = fallback := by
  obtain ⟨lite, first, same⟩ := map_eq_some_iff.mp oldest
  refine ⟨lite, ?_, same⟩
  have listed := List.mem_of_mem_head? first
  exact (List.mem_insertionSort _).mp listed

theorem oldestCandidate_isSome {candidates : List PartyMemberLite} (some : candidates ≠ []) :
    ∃ fallback, oldestCandidate candidates = .some fallback := by
  cases sorted : sortByDate PartyMemberLite.joinedAt candidates with
  | nil =>
    have same := (List.perm_insertionSort
      (fun first second : PartyMemberLite => first.joinedAt ≤ second.joinedAt) candidates).length_eq
    rw [← sortByDate.eq_def, sorted] at same
    exact absurd (List.length_eq_zero_iff.mp same.symm) some
  | cons first rest => exact ⟨first.userId, by rw [oldestCandidate, sorted]; rfl⟩

theorem firstActiveMembership_eq_none :
    s.firstActiveMembership userId = none ↔
      ∀ partyId, s.Active partyId userId → s.partyIsLive partyId = false := by
  rw [State.firstActiveMembership, map_eq_none_iff, List.find?_eq_none]
  constructor
  · rintro none partyId ⟨row, found, present⟩
    have absent := none ((partyId, userId), row) ((mem_entries_iff _).mpr found)
    simpa [present] using absent
  · rintro none ⟨⟨partyId, member⟩, row⟩ listed hit
    simp only [Bool.and_eq_true, decide_eq_true_eq, isNone_iff_eq_none] at hit
    obtain ⟨⟨same, present⟩, alive⟩ := hit
    cases same
    rw [none partyId ⟨row, (mem_entries_iff _).mp listed, present⟩] at alive
    cases alive

theorem firstActiveMembership_eq_some {role : PartyRole}
    (found : s.firstActiveMembership userId = some (partyId, role)) :
    s.Active partyId userId ∧ s.partyIsLive partyId = true := by
  obtain ⟨⟨⟨party, member⟩, row⟩, search, equal⟩ := map_eq_some_iff.mp found
  have hit := List.find?_some search
  have listed := List.mem_of_find?_eq_some search
  simp only [Bool.and_eq_true, decide_eq_true_eq, isNone_iff_eq_none] at hit
  obtain ⟨⟨same, present⟩, alive⟩ := hit
  cases equal
  cases same
  exact ⟨⟨row, (mem_entries_iff _).mp listed, present⟩, alive⟩

end Reading

end Motogram
