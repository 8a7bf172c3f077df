import Motogram.Party.Election

/-!
# Whom the election chooses

The candidates are ordered by `joinedAt` and the user id. On candidates with different ids one of two
always comes strictly before the other, so the list has one least member, whatever order it is given in
(`Oldest.unique`). What is chosen is said of the members without their order (`Chosen`), and there is
one such choice (`Chosen.unique`): instances that list the members differently choose the same leader.
-/

set_option autoImplicit false

namespace Motogram

instance : Std.Total PartyMemberLite.before where
  total first second := by grind

instance : IsTrans PartyMemberLite PartyMemberLite.before where
  trans first second third := by grind

namespace ElectionInput

variable {input : ElectionInput} {leader leader' : UserId} {result result' : Option UserId × ElectionReason}

def Online (input : ElectionInput) (userId : UserId) : Prop :=
  ∃ member ∈ input.onlineMembers, member.userId = userId

def FirstCoLeader (input : ElectionInput) (leader : UserId) : Prop :=
  input.Online leader ∧ ∃ earlier later, input.coLeaderIds = earlier ++ leader :: later ∧
    ∀ other ∈ earlier, ¬ input.Online other

/-- The member who is least by `joinedAt` and the user id. -/
def Oldest (input : ElectionInput) (leader : UserId) : Prop :=
  ∃ member ∈ input.onlineMembers, member.userId = leader ∧ ∀ other ∈ input.onlineMembers, other ≠ member →
    member.joinedAt < other.joinedAt ∨ member.joinedAt = other.joinedAt ∧ member.userId < other.userId

inductive Chosen (input : ElectionInput) : Option UserId × ElectionReason → Prop where
  | nobody (empty : input.onlineMembers = []) : Chosen input (none, .noCandidates)
  | coLeader (leader : UserId) (first : input.FirstCoLeader leader) : Chosen input (some leader, .coLeader)
  | oldest (leader : UserId) (none : ∀ coLeader ∈ input.coLeaderIds, ¬ input.Online coLeader)
      (oldest : input.Oldest leader) : Chosen input (some leader, .oldestMember)

theorem FirstCoLeader.mem (first : input.FirstCoLeader leader) : leader ∈ input.coLeaderIds := by
  obtain ⟨-, earlier, later, listed, -⟩ := first
  rw [listed]
  exact List.mem_append_right earlier (List.mem_cons_self ..)

theorem FirstCoLeader.unique (first : input.FirstCoLeader leader) (first' : input.FirstCoLeader leader') :
    leader = leader' := by
  obtain ⟨online, earlier, later, listed, offline⟩ := first
  obtain ⟨online', earlier', later', listed', offline'⟩ := first'
  obtain ⟨middle, rfl, rest⟩ | ⟨middle, rfl, rest⟩ := List.append_eq_append_iff.mp (listed.symm.trans listed')
  · cases middle with
    | nil => exact (List.cons.inj rest).1
    | cons head middle =>
      obtain ⟨rfl, -⟩ := List.cons.inj rest
      exact absurd online (offline' leader (List.mem_append_right earlier (List.mem_cons_self ..)))
  · cases middle with
    | nil => exact (List.cons.inj rest).1.symm
    | cons head middle =>
      obtain ⟨rfl, -⟩ := List.cons.inj rest
      exact absurd online' (offline leader' (List.mem_append_right earlier' (List.mem_cons_self ..)))

/-- **There is one least member.** -/
theorem Oldest.unique (oldest : input.Oldest leader) (oldest' : input.Oldest leader') : leader = leader' := by
  obtain ⟨member, online, rfl, least⟩ := oldest
  obtain ⟨member', online', rfl, least'⟩ := oldest'
  by_contra different
  have apart : member' ≠ member := fun same => different (congrArg PartyMemberLite.userId same.symm)
  grind

theorem not_online_of_empty (empty : input.onlineMembers = []) : ¬ input.Online leader := by
  rintro ⟨member, online, -⟩
  rw [empty] at online
  cases online

theorem Oldest.online (oldest : input.Oldest leader) : input.Online leader := by
  obtain ⟨member, online, same, -⟩ := oldest
  exact ⟨member, online, same⟩

theorem Chosen.unique (chosen : input.Chosen result) (chosen' : input.Chosen result') : result = result' := by
  cases chosen with
  | nobody empty =>
    cases chosen' with
    | nobody => rfl
    | coLeader leader first => exact absurd first.1 (not_online_of_empty empty)
    | oldest leader none oldest => exact absurd oldest.online (not_online_of_empty empty)
  | coLeader leader first =>
    cases chosen' with
    | nobody empty => exact absurd first.1 (not_online_of_empty empty)
    | coLeader leader' first' => rw [first.unique first']
    | oldest leader' none oldest => exact absurd first.1 (none leader first.mem)
  | oldest leader none oldest =>
    cases chosen' with
    | nobody empty => exact absurd oldest.online (not_online_of_empty empty)
    | coLeader leader' first => exact absurd first.1 (none leader' first.mem)
    | oldest leader' none' oldest' => rw [oldest.unique oldest']

theorem Chosen.perm (chosen : input.Chosen result) {members : List PartyMemberLite}
    (perm : members.Perm input.onlineMembers) : Chosen { input with onlineMembers := members } result := by
  have online : ∀ userId, Online { input with onlineMembers := members } userId ↔ input.Online userId :=
    fun userId => exists_congr fun member => and_congr_left fun _ => perm.mem_iff
  cases chosen with
  | nobody empty =>
    rw [empty] at perm
    exact .nobody perm.eq_nil
  | coLeader leader first =>
    obtain ⟨here, earlier, later, listed, offline⟩ := first
    refine .coLeader leader ⟨(online leader).mpr here, earlier, later, listed, fun other before => ?_⟩
    rw [online]
    exact offline other before
  | oldest leader none oldest =>
    obtain ⟨member, here, same, least⟩ := oldest
    refine .oldest leader (fun coLeader listed => ?_) ⟨member, perm.mem_iff.mpr here, same, fun other there => ?_⟩
    · rw [online]
      exact none coLeader listed
    · exact least other (perm.mem_iff.mp there)

theorem any_eq_true_iff_online {userId : UserId} :
    (input.onlineMembers.any fun member => decide (member.userId = userId)) = true ↔ input.Online userId := by
  simp only [List.any_eq_true, decide_eq_true_eq, Online]

/-- `pickNextLeader` chooses so. -/
theorem chosen_pickNextLeader (distinct : (input.onlineMembers.map PartyMemberLite.userId).Nodup) :
    input.Chosen (pickNextLeader input) := by
  unfold pickNextLeader
  by_cases empty : input.onlineMembers = []
  · rw [if_pos (List.isEmpty_iff.mpr empty)]
    exact .nobody empty
  rw [if_neg (by rwa [List.isEmpty_iff])]
  cases found : input.coLeaderIds.find? fun coLeader =>
      input.onlineMembers.any fun member => decide (member.userId = coLeader) with
  | some leader =>
    obtain ⟨online, earlier, later, listed, offline⟩ := List.find?_eq_some_iff_append.mp found
    refine .coLeader leader ⟨any_eq_true_iff_online.mp online, earlier, later, listed, fun other before here => ?_⟩
    have unmatched := offline other before
    rw [any_eq_true_iff_online.mpr here] at unmatched
    cases unmatched
  | none =>
    have none : ∀ coLeader ∈ input.coLeaderIds, ¬ input.Online coLeader := by
      intro coLeader listed online
      exact List.find?_eq_none.mp found coLeader listed (any_eq_true_iff_online.mpr online)
    have perm := List.perm_insertionSort PartyMemberLite.before input.onlineMembers
    have ordered := List.pairwise_insertionSort PartyMemberLite.before input.onlineMembers
    cases sorted : input.onlineMembers.insertionSort PartyMemberLite.before with
    | nil =>
      rw [sorted] at perm
      exact absurd perm.symm.eq_nil empty
    | cons oldest rest =>
      rw [sorted] at perm ordered
      refine .oldest _ none ⟨oldest, perm.mem_iff.mp (List.mem_cons_self ..), rfl, fun other online apart => ?_⟩
      have later := (List.mem_cons.mp (perm.mem_iff.mpr online)).resolve_left apart
      have before := (List.pairwise_cons.mp ordered).1 other later
      have different : oldest.userId ≠ other.userId := by
        intro same
        have ids := (perm.map PartyMemberLite.userId).nodup_iff.mpr distinct
        refine (List.nodup_cons.mp ids).1 ?_
        rw [same]
        exact List.mem_map_of_mem later
      grind

end ElectionInput

/-- **Nobody is chosen when nobody is online; else the first co-leader who is online, and without one the
least member by `joinedAt` and the user id; whatever order the members are given in.** -/
theorem pickNextLeader_chooses (input : ElectionInput)
    (distinct : (input.onlineMembers.map PartyMemberLite.userId).Nodup) :
    ((pickNextLeader input).1 = none ↔ input.onlineMembers = []) ∧
      (∀ result, pickNextLeader input = result ↔ input.Chosen result) ∧
      ∀ members, members.Perm input.onlineMembers →
        pickNextLeader { input with onlineMembers := members } = pickNextLeader input := by
  have chosen := input.chosen_pickNextLeader distinct
  refine ⟨pickNextLeader_eq_none, fun result => ⟨fun same => same ▸ chosen, chosen.unique⟩, fun members perm => ?_⟩
  have distinct' := (perm.map PartyMemberLite.userId).nodup_iff.mpr distinct
  exact (ElectionInput.chosen_pickNextLeader distinct').unique (chosen.perm perm)

/-- Two members joined at once, and no co-leader is online. -/
theorem pickNextLeader_chooses_small :
    let input : ElectionInput := ⟨1, [9], [⟨7, 20, none, true⟩, ⟨5, 10, none, true⟩, ⟨4, 10, none, true⟩]⟩
    pickNextLeader input = (some 4, .oldestMember) ∧
      pickNextLeader { input with onlineMembers := input.onlineMembers.reverse } = pickNextLeader input := by
  intro input
  have chooses := pickNextLeader_chooses input (by decide)
  exact ⟨by decide, chooses.2.2 _ (List.reverse_perm _)⟩

end Motogram
