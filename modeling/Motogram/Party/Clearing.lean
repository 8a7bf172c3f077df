import Motogram.Party.Indexed
import Motogram.Party.Presence

/-!
# What a sweep clears

A sweep takes the parties of the index one after the other, and in each the stale entries of its watch, in
whatever order Redis returns them (`sweepZombieMembersIn`). A turn of the sweep touches one party only, so each
party can be followed by itself (`clearParties_party`).

In one party every active member whose turn comes leaves. A leader who leaves is succeeded by a member who is
online, and by nobody when there is none. So the members who leave last decide whether the party ends: it ends
when all of them go, the leader among them, and the last to go is the leader or online (`clearParty_spec`). A
party that ends takes its watch with it. In a party that goes on, `leaveParty` throws for an entry whose user has
left already, and the entry stays.
-/

set_option autoImplicit false

namespace Motogram

open Foundation Program Function Table State List

variable {s s' : State} {userId : UserId} {partyId : PartyId}

/-! ## The sweep, in any order of the entries -/

/-- The loop over the parties. The entries of each set come in an order that is not fixed. -/
def sweepPartiesIn (arrange : PartyId → List UserId → List UserId) (threshold : Int) :
    List PartyId → Flow Nat
  | [] => pure 0
  | partyId :: rest => do
    let stale : List UserId ← call (.zrangebyscoreZombieWatch partyId threshold)
    let removed ← sweepMembers partyId (arrange partyId stale)
    let more ← sweepPartiesIn arrange threshold rest
    pure (removed + more)

/-- `sweepZombieMembers`, with the entries of each set in an order that is not fixed. -/
def sweepZombieMembersIn (arrange : PartyId → List UserId → List UserId) : Flow Nat := do
  let now : Time ← call .dateNow
  let activePartyIds : List PartyId ← call .smembersActiveParties
  sweepPartiesIn arrange ((now : Int) - (zombieOfflineSeconds * 1000 : Nat)) activePartyIds

def clearParty (s : State) (partyId : PartyId) (members : List UserId) : State :=
  follow sweepTurn s (members.map fun userId => (partyId, userId))

def clearParties (arrange : PartyId → List UserId → List UserId) (threshold : Int) :
    State → List PartyId → State
  | s, [] => s
  | s, partyId :: rest =>
    clearParties arrange threshold
      (clearParty s partyId (arrange partyId (staleMembers (s.zombieWatch partyId) threshold))) rest

theorem exec_sweepPartiesIn (arrange : PartyId → List UserId → List UserId) (threshold : Int) (s : State)
    (partyIds : List PartyId) :
    ∃ count, (sweepPartiesIn arrange threshold partyIds).exec s =
      (.ok count, clearParties arrange threshold s partyIds) := by
  induction partyIds generalizing s with
  | nil => exact ⟨0, rfl⟩
  | cons partyId rest ih =>
    obtain ⟨removed, turns⟩ :=
      exec_sweepMembers s partyId (arrange partyId (staleMembers (s.zombieWatch partyId) threshold))
    obtain ⟨more, later⟩ := ih (clearParty s partyId
      (arrange partyId (staleMembers (s.zombieWatch partyId) threshold)))
    refine ⟨removed + more, ?_⟩
    unfold sweepPartiesIn Flow.exec
    simp only [run_sends, answer]
    rw [run_bind_of_ok _ turns]
    exact run_bind_of_ok _ later _

/-- The time before which an entry is stale. -/
def State.staleAt (s : State) : Int := (s.now : Int) - (zombieOfflineSeconds * 1000 : Nat)

theorem exec_sweepZombieMembersIn (arrange : PartyId → List UserId → List UserId) (s : State) :
    ((sweepZombieMembersIn arrange).exec s).2 = clearParties arrange s.staleAt s s.activePartyIndex := by
  obtain ⟨count, turns⟩ := exec_sweepPartiesIn arrange s.staleAt s s.activePartyIndex
  unfold sweepZombieMembersIn Flow.exec
  exact congrArg Prod.snd turns

/-! ## One party at a time -/

/-- The two states agree on a party: its row, its members and its watch. -/
structure KeepsParty (partyId : PartyId) (before after : State) : Prop where
  party : after.parties.find? partyId = before.parties.find? partyId
  members : ∀ userId, after.partyMembers.find? (partyId, userId) = before.partyMembers.find? (partyId, userId)
  watch : after.zombieWatch partyId = before.zombieWatch partyId

namespace KeepsParty

theorem refl (partyId : PartyId) (s : State) : KeepsParty partyId s s := ⟨rfl, fun _ => rfl, rfl⟩

theorem trans {first second third : State} (left : KeepsParty partyId first second)
    (right : KeepsParty partyId second third) : KeepsParty partyId first third where
  party := right.party.trans left.party
  members := fun userId => (right.members userId).trans (left.members userId)
  watch := right.watch.trans left.watch

theorem of_eq (parties : s'.parties = s.parties) (partyMembers : s'.partyMembers = s.partyMembers)
    (watch : s'.zombieWatch partyId = s.zombieWatch partyId) : KeepsParty partyId s s' :=
  ⟨by rw [parties], fun _ => by rw [partyMembers], watch⟩

variable {members : List UserId} {arrange : PartyId → List UserId → List UserId} {threshold : Int}
  {other : PartyId}

theorem departed (apart : partyId ≠ other) {reason : LeaveReason} :
    KeepsParty partyId s (s.departed other userId reason) := by
  refine ⟨rfl, fun member => ?_, rfl⟩
  simp only [State.departed, State.sent_partyMembers, State.withUserParty_partyMembers,
    State.withMemberSet_partyMembers, State.patchMember_partyMembers, find?_modify]
  rw [if_neg fun same => apart (Prod.mk.inj same).1]

theorem promoted (apart : partyId ≠ other) {newLeaderId : UserId} :
    KeepsParty partyId s (s.promoted other newLeaderId) := by
  refine ⟨?_, fun member => ?_, rfl⟩
  · simp only [State.promoted, State.withLeaderLock_parties, State.sent_parties,
      State.changeLeader_parties, find?_modify]
    rw [if_neg apart]
  · simp only [State.promoted, State.withLeaderLock_partyMembers, State.sent_partyMembers,
      State.changeLeader_partyMembers, find?_modify]
    rw [if_neg fun same => apart (Prod.mk.inj same).1]

theorem closed (apart : partyId ≠ other) {reason : EndReason} : KeepsParty partyId s (s.closed other reason) := by
  refine ⟨?_, fun member => ?_, ?_⟩
  · simp only [State.closed, State.sent_parties, State.withoutParty_parties,
      State.withActiveIndex_parties, State.withZombieWatch_parties, State.withMemberSet_parties,
      State.patchActive_parties, State.markEnded_parties, find?_modify]
    rw [if_neg apart]
  · simp only [State.closed, State.sent_partyMembers, State.withoutParty_partyMembers,
      State.withActiveIndex_partyMembers, State.withZombieWatch_partyMembers,
      State.withMemberSet_partyMembers, State.patchActive_partyMembers, State.markEnded_partyMembers,
      find?_modifyWhere]
    cases s.partyMembers.find? (partyId, member) with
    | none => rfl
    | some row => simp [apart]
  · have watch : (s.closed other reason).zombieWatch = update s.zombieWatch other [] := rfl
    rw [watch, update_of_ne apart]

end KeepsParty

variable {after : State} {members : List UserId} {other : PartyId}
  {arrange : PartyId → List UserId → List UserId} {threshold : Int}

theorem LeaveOutcome.elsewhere (apart : partyId ≠ other) {reason : LeaveReason}
    {result : Except ServiceError LeaveResult} (outcome : LeaveOutcome s userId other reason result s') :
    KeepsParty partyId s s' := by
  cases outcome with
  | rejected | finished => exact .refl partyId s
  | follower | leaderless | locked => exact .departed apart
  | alone => exact (KeepsParty.departed apart).trans (.closed apart)
  | elected => exact (KeepsParty.departed apart).trans (.promoted apart)

theorem sweepTurn_elsewhere (apart : partyId ≠ other) (s : State) (userId : UserId) :
    KeepsParty partyId s (sweepTurn s (other, userId)) := by
  obtain ⟨result, after, outcome, turned⟩ := sweepTurn_outcome s other userId
  rw [turned]
  have left := outcome.elsewhere apart
  cases result with
  | error error => exact left
  | ok result =>
    refine left.trans (.of_eq rfl rfl ?_)
    simp only [redis, withZombieWatch_zombieWatch]
    rw [update_of_ne apart]

theorem clearParty_elsewhere (apart : partyId ≠ other) (s : State) (members : List UserId) :
    KeepsParty partyId s (clearParty s other members) := by
  induction members generalizing s with
  | nil => exact .refl partyId s
  | cons userId rest ih => exact (sweepTurn_elsewhere apart s userId).trans (ih _)

theorem clearParty_settled (settled : s.Settled) (partyId : PartyId) (members : List UserId) :
    (clearParty s partyId members).Settled := by
  induction members generalizing s with
  | nil => exact settled
  | cons userId rest ih => exact ih (settled_rowsInvariant.sweepTurn (partyId, userId) settled trivial)

theorem clearParties_elsewhere (s : State) {partyIds : List PartyId} (apart : partyId ∉ partyIds) :
    KeepsParty partyId s (clearParties arrange threshold s partyIds) := by
  induction partyIds generalizing s with
  | nil => exact .refl partyId s
  | cons other rest ih =>
    rw [mem_cons, not_or] at apart
    exact (clearParty_elsewhere apart.1 s _).trans (ih _ apart.2)

/-- **A sweep does to each party of the index what its own turns do.** -/
theorem clearParties_party {partyIds : List PartyId} (settled : s.Settled) (distinct : partyIds.Nodup)
    (listed : partyId ∈ partyIds) :
    ∃ before, before.Settled ∧ KeepsParty partyId s before ∧
      KeepsParty partyId
        (clearParty before partyId (arrange partyId (staleMembers (s.zombieWatch partyId) threshold)))
        (clearParties arrange threshold s partyIds) := by
  induction partyIds generalizing s with
  | nil => cases listed
  | cons other rest ih =>
    rw [nodup_cons] at distinct
    rcases mem_cons.mp listed with rfl | later
    · exact ⟨s, settled, .refl partyId s, clearParties_elsewhere _ distinct.1⟩
    · have apart : partyId ≠ other := by
        rintro rfl
        exact distinct.1 later
      have kept := clearParty_elsewhere apart s
        (arrange other (staleMembers (s.zombieWatch other) threshold))
      have next : (clearParty s other (arrange other (staleMembers (s.zombieWatch other)
          threshold))).Settled := clearParty_settled settled other _
      obtain ⟨before, beforeSettled, reaches, rests⟩ := ih next distinct.2 later
      rw [kept.watch] at rests
      exact ⟨before, beforeSettled, kept.trans reaches, rests⟩

/-! ## A turn -/

inductive Turned (s : State) (partyId : PartyId) (userId : UserId) (s' : State) : Prop where
  /-- The leader was the last member. -/
  | ended (leads : s.leaderOf partyId = some userId)
      (last : ∀ member, s.Active partyId member → member = userId)
      (shut : ¬ s'.Open partyId) (empty : s'.zombieWatch partyId = [])
      (gone : ∀ member, ¬ s'.Active partyId member)
  /-- The party goes on without the user, and perhaps under another leader. -/
  | goesOn (standing : s'.Open partyId)
      (watch : s'.zombieWatch partyId = scoreRemove (s.zombieWatch partyId) userId)
      (active : ∀ member, s'.Active partyId member ↔ s.Active partyId member ∧ member ≠ userId)
      (online : ∀ member, s'.Online partyId member ↔ s.Online partyId member ∧ member ≠ userId)
      (leader : s.leaderOf partyId ≠ some userId ∧ s'.leaderOf partyId = s.leaderOf partyId ∨
        s.leaderOf partyId = some userId ∧ (∃ member, s'.Active partyId member) ∧
          ((∀ member, ¬ s'.Online partyId member) ∧ s'.leaderOf partyId = some userId ∨
            ∃ winner, s'.Online partyId winner ∧ s'.leaderOf partyId = some winner)) :
      Turned s partyId userId s'

theorem online_departed {member : UserId} {reason : LeaveReason} :
    (s.departed partyId userId reason).Online partyId member ↔ s.Online partyId member ∧ member ≠ userId := by
  simp only [State.Online, State.departed, State.sent_partyMembers, State.withUserParty_partyMembers,
    State.withMemberSet_partyMembers, State.patchMember_partyMembers, find?_modify]
  by_cases same : member = userId
  · subst same
    simp
  · simp [same]

theorem online_promoted {member newLeaderId : UserId} :
    (s.promoted partyId newLeaderId).Online partyId member ↔ s.Online partyId member := by
  simp only [State.Online, State.promoted, State.withLeaderLock_partyMembers, State.sent_partyMembers,
    State.changeLeader_partyMembers, find?_modify]
  by_cases same : member = newLeaderId
  · subst same
    simp
  · simp [same]

theorem turned_of_goesOn (standing : after.Open partyId)
    (watch : after.zombieWatch partyId = s.zombieWatch partyId)
    (active : ∀ member, after.Active partyId member ↔ s.Active partyId member ∧ member ≠ userId)
    (online : ∀ member, after.Online partyId member ↔ s.Online partyId member ∧ member ≠ userId)
    (leader : s.leaderOf partyId ≠ some userId ∧ after.leaderOf partyId = s.leaderOf partyId ∨ s.leaderOf partyId = some userId ∧ (∃ member, after.Active partyId member) ∧ ((∀ member, ¬ after.Online partyId member) ∧ after.leaderOf partyId = some userId ∨ ∃ winner, after.Online partyId winner ∧ after.leaderOf partyId = some winner))
    :
    Turned s partyId userId (after.redis (.zremZombieWatch partyId userId)) := by
  have removed : (after.redis (.zremZombieWatch partyId userId)).zombieWatch partyId =
      scoreRemove (s.zombieWatch partyId) userId := by
    rw [redis, withZombieWatch_zombieWatch, update_self, watch]
  exact .goesOn standing removed active online leader

theorem turned_of_ended (leads : s.leaderOf partyId = some userId)
    (last : ∀ member, s.Active partyId member → member = userId) (shut : ¬ after.Open partyId)
    (empty : after.zombieWatch partyId = []) (gone : ∀ member, ¬ after.Active partyId member) :
    Turned s partyId userId (after.redis (.zremZombieWatch partyId userId)) := by
  have emptied : (after.redis (.zremZombieWatch partyId userId)).zombieWatch partyId = [] := by
    rw [redis, withZombieWatch_zombieWatch, update_self, empty]
    rfl
  exact .ended leads last shut emptied gone

/-- **What a turn does in an open party.** -/
theorem turned_of_active (settled : s.Settled) (standing : s.Open partyId) (active : s.Active partyId userId) :
    Turned s partyId userId (sweepTurn s (partyId, userId)) := by
  have departs : ∀ member, (s.departed partyId userId .disconnectTimeout).Active partyId member ↔
      s.Active partyId member ∧ member ≠ userId := by
    intro member
    rw [active_departed, ne_eq, Prod.mk.injEq, not_and]
    exact and_congr_right fun _ => ⟨fun apart => apart rfl, fun apart _ => apart⟩
  obtain ⟨result, after, outcome, turned⟩ := sweepTurn_outcome s partyId userId
  rw [turned]
  cases outcome with
  | rejected error stranger => exact absurd active (stranger (settled.live_iff.mpr standing))
  | finished shut => exact absurd standing shut
  | follower _ _ follows =>
    exact turned_of_goesOn (open_departed.mpr standing) rfl departs (fun _ => online_departed)
      (.inl ⟨follows, leaderOf_departed⟩)
  | alone _ _ leads last =>
    have only : ∀ member, s.Active partyId member → member = userId := fun member inside =>
      not_not.mp fun other => last member other inside
    have emptied : ((s.departed partyId userId .disconnectTimeout).closed partyId
        .leaderLeftAlone).zombieWatch partyId = [] := update_self ..
    exact turned_of_ended leads only (fun running => (open_closed.mp running).2 rfl) emptied
      fun member inside => (active_closed.mp inside).2 rfl
  | leaderless fallback _ _ leads other stays offline =>
    have nobody : ∀ member, ¬ (s.departed partyId userId .disconnectTimeout).Online partyId member := by
      intro member online
      obtain ⟨⟨row, listed, present, up⟩, different⟩ := online_departed.mp online
      rw [offline member row different listed present] at up
      cases up
    have leaves : (s.departed partyId userId .disconnectTimeout).leaderOf partyId = some userId :=
      leaderOf_departed.trans leads
    exact turned_of_goesOn (open_departed.mpr standing) rfl departs (fun _ => online_departed)
      (.inr ⟨leads, ⟨fallback, (departs fallback).mpr ⟨stays, other⟩⟩, .inl ⟨nobody, leaves⟩⟩)
  | locked fallback _ _ leads held =>
    rw [settled.unlocked partyId] at held
    exact absurd rfl held
  | elected newLeaderId row _ _ leads other candidate stays online free =>
    have active : ∀ member, ((s.departed partyId userId .disconnectTimeout).promoted partyId
        newLeaderId).Active partyId member ↔ s.Active partyId member ∧ member ≠ userId :=
      fun member => active_promoted.trans (departs member)
    have up : ∀ member, ((s.departed partyId userId .disconnectTimeout).promoted partyId
        newLeaderId).Online partyId member ↔ s.Online partyId member ∧ member ≠ userId :=
      fun member => online_promoted.trans online_departed
    have winner : s.Online partyId newLeaderId := ⟨row, candidate, stays, online⟩
    have leads' : ((s.departed partyId userId .disconnectTimeout).promoted partyId
        newLeaderId).leaderOf partyId = some newLeaderId := by
      rw [leaderOf_promoted, if_pos rfl, leaderOf_departed, leads]
      rfl
    exact turned_of_goesOn (open_promoted.mpr (open_departed.mpr standing)) rfl active up
      (.inr ⟨leads, ⟨newLeaderId, (active newLeaderId).mpr ⟨⟨row, candidate, stays⟩, other⟩⟩,
        .inr ⟨newLeaderId, (up newLeaderId).mpr ⟨winner, other⟩, leads'⟩⟩)

theorem sweepTurn_of_absent (standing : s.Open partyId) (absent : ¬ s.Active partyId userId) :
    sweepTurn s (partyId, userId) = s := by
  obtain ⟨result, after, outcome, turned⟩ := sweepTurn_outcome s partyId userId
  rw [turned]
  cases outcome with
  | rejected error stranger => rfl
  | finished shut => exact absurd standing shut
  | follower _ active | alone _ active | leaderless _ _ active | locked _ _ active
  | elected _ _ _ active => exact absurd active absent

/-- The party has ended, and nothing is left of it. -/
structure State.Dissolved (s : State) (partyId : PartyId) : Prop where
  shut : ¬ s.Open partyId
  watch : s.zombieWatch partyId = []
  gone : ∀ userId, ¬ s.Active partyId userId

theorem State.Dissolved.turn (ended : s.Dissolved partyId) (userId : UserId) :
    (sweepTurn s (partyId, userId)).Dissolved partyId := by
  obtain ⟨result, after, outcome, turned⟩ := sweepTurn_outcome s partyId userId
  rw [turned]
  cases outcome with
  | rejected error stranger => exact ended
  | finished shut =>
    have removed : (s.redis (.zremZombieWatch partyId userId)).zombieWatch partyId = [] := by
      rw [redis, withZombieWatch_zombieWatch, update_self, ended.watch]
      rfl
    exact ⟨ended.shut, removed, ended.gone⟩
  | follower standing | alone standing | leaderless _ standing | locked _ standing
  | elected _ _ standing => exact absurd standing ended.shut

theorem State.Dissolved.clearParty (ended : s.Dissolved partyId) (members : List UserId) :
    (clearParty s partyId members).Dissolved partyId := by
  induction members generalizing s with
  | nil => exact ended
  | cons userId rest ih => exact ih (ended.turn userId)

/-! ## The turns of one party -/

/-- The turns of these members end the party: every active member is among them, the leader is active, and the
last of them to leave is the leader or online. -/
def State.Disbands (s : State) (partyId : PartyId) (members : List UserId) : Prop :=
  (∀ userId, s.Active partyId userId → userId ∈ members) ∧
    ∃ leaderId last, s.leaderOf partyId = some leaderId ∧ s.Active partyId leaderId ∧
      (members.filter fun userId => (s.activeRole partyId userId).isSome).getLast? = some last ∧
        (last = leaderId ∨ s.Online partyId last)

/-- What the turns of an open party come to. -/
structure Cleared (s : State) (partyId : PartyId) (members : List UserId) (s' : State) : Prop where
  active : ∀ userId, s'.Active partyId userId ↔ s.Active partyId userId ∧ userId ∉ members
  standing : s'.Open partyId ↔ ¬ s.Disbands partyId members
  left : s'.Open partyId → ∀ entry, entry ∈ s'.zombieWatch partyId ↔
    entry ∈ s.zombieWatch partyId ∧ ¬ (s.Active partyId entry.1 ∧ entry.1 ∈ members)
  empty : ¬ s'.Open partyId → s'.zombieWatch partyId = []

theorem disbands_cons_of_absent (absent : ¬ s.Active partyId userId) :
    s.Disbands partyId (userId :: members) ↔ s.Disbands partyId members := by
  have skipped : ((userId :: members).filter fun userId => (s.activeRole partyId userId).isSome) =
      members.filter fun userId => (s.activeRole partyId userId).isSome :=
    filter_cons_of_neg (by rw [activeRole_isSome]; exact absent)
  rw [State.Disbands, skipped]
  refine and_congr_left' (forall_congr' fun member => imp_congr_right fun active => ?_)
  rw [mem_cons]
  refine or_iff_right ?_
  rintro rfl
  exact absent active

theorem disbands_cons_of_goesOn (notAgain : userId ∉ members) (member : s.Active partyId userId)
    (active : ∀ member, s'.Active partyId member ↔ s.Active partyId member ∧ member ≠ userId)
    (online : ∀ member, s'.Online partyId member ↔ s.Online partyId member ∧ member ≠ userId)
    (leader : s.leaderOf partyId ≠ some userId ∧ s'.leaderOf partyId = s.leaderOf partyId ∨ s.leaderOf partyId = some userId ∧ (∃ member, s'.Active partyId member) ∧ ((∀ member, ¬ s'.Online partyId member) ∧ s'.leaderOf partyId = some userId ∨ ∃ winner, s'.Online partyId winner ∧ s'.leaderOf partyId = some winner))
    :
    s.Disbands partyId (userId :: members) ↔ s'.Disbands partyId members := by
  -- those who follow, in the order of their turns
  have others : (members.filter fun userId => (s'.activeRole partyId userId).isSome) =
      members.filter fun userId => (s.activeRole partyId userId).isSome := by
    refine filter_congr fun other inside => ?_
    rw [Bool.eq_iff_iff, activeRole_isSome, activeRole_isSome, active other]
    refine and_iff_left ?_
    rintro rfl
    exact notAgain inside
  have first : ((userId :: members).filter fun userId => (s.activeRole partyId userId).isSome) =
      userId :: members.filter fun userId => (s.activeRole partyId userId).isSome :=
    filter_cons_of_pos (activeRole_isSome.mpr member)
  have everybody : (∀ other, s.Active partyId other → other ∈ userId :: members) ↔
      ∀ other, s'.Active partyId other → other ∈ members := by
    constructor
    · intro all other inside
      obtain ⟨before, different⟩ := (active other).mp inside
      exact (mem_cons.mp (all other before)).resolve_left different
    · intro all other inside
      by_cases same : other = userId
      · exact mem_cons.mpr (.inl same)
      · exact mem_cons.mpr (.inr (all other ((active other).mpr ⟨inside, same⟩)))
  rw [State.Disbands, State.Disbands, others, first, everybody]
  refine and_congr_right fun all => ?_
  have inRest : ∀ other, s'.Active partyId other →
      other ∈ members.filter fun userId => (s.activeRole partyId userId).isSome := fun other inside =>
    mem_filter.mpr ⟨all other inside, activeRole_isSome.mpr ((active other).mp inside).1⟩
  have apart : ∀ other ∈ members.filter fun userId => (s.activeRole partyId userId).isSome,
      other ≠ userId := by
    rintro other inside rfl
    exact notAgain (mem_filter.mp inside).1
  generalize (members.filter fun userId => (s.activeRole partyId userId).isSome) = rest at inRest apart
  rw [getLast?_cons]
  cases ends : rest.getLast? with
  | none =>
    -- nobody is left, so the leader who leaves would have been the last
    rw [getLast?_eq_none_iff] at ends
    subst ends
    have nobody : ∀ other, ¬ s'.Active partyId other := fun other inside => not_mem_nil (inRest other inside)
    refine iff_of_false ?_ (by simp)
    rintro ⟨leaderId, last, leads, inside, -⟩
    rcases leader with ⟨follows, -⟩ | ⟨-, ⟨other, stays⟩, -⟩
    · refine nobody leaderId ((active leaderId).mpr ⟨inside, ?_⟩)
      rintro rfl
      exact follows leads
    · exact nobody other stays
  | some last =>
    have different : last ≠ userId := apart last (mem_of_getLast? ends)
    have online_iff : s'.Online partyId last ↔ s.Online partyId last :=
      (online last).trans (and_iff_left different)
    simp only [Option.getD_some, Option.some.injEq]
    rcases leader with ⟨follows, same⟩ | ⟨leads, -, ⟨nobody, stays⟩ | ⟨winner, up, wins⟩⟩
    · rw [same]
      constructor
      · rintro ⟨leaderId, _, leadsNow, inside, rfl, decides⟩
        have stays : leaderId ≠ userId := fun here => follows (here ▸ leadsNow)
        exact ⟨leaderId, last, leadsNow, (active leaderId).mpr ⟨inside, stays⟩, rfl,
          decides.imp_right online_iff.mpr⟩
      · rintro ⟨leaderId, _, leadsNow, inside, rfl, decides⟩
        exact ⟨leaderId, last, leadsNow, ((active leaderId).mp inside).1, rfl,
          decides.imp_right online_iff.mp⟩
    · refine iff_of_false ?_ ?_
      · rintro ⟨leaderId, _, leadsNow, inside, rfl, here | up⟩
        · rw [leads] at leadsNow
          exact different (here.trans (Option.some.inj leadsNow).symm)
        · exact nobody last (online_iff.mpr up)
      · rintro ⟨leaderId, _, leadsNow, inside, -⟩
        rw [stays] at leadsNow
        exact ((active leaderId).mp inside).2 (Option.some.inj leadsNow).symm
    · constructor
      · rintro ⟨leaderId, _, leadsNow, inside, rfl, here | lastUp⟩
        · rw [leads] at leadsNow
          exact absurd (here.trans (Option.some.inj leadsNow).symm) different
        · exact ⟨winner, last, wins, up.active, rfl, .inr (online_iff.mpr lastUp)⟩
      · rintro ⟨leaderId, _, leadsNow, inside, rfl, here | lastUp⟩
        · rw [wins] at leadsNow
          rw [← Option.some.inj leadsNow] at here
          exact ⟨userId, last, leads, member, rfl, .inr (online_iff.mp (here ▸ up))⟩
        · exact ⟨userId, last, leads, member, rfl, .inr (online_iff.mp lastUp)⟩

/-- **What the turns of an open party come to.** -/
theorem clearParty_spec (settled : s.Settled) (standing : s.Open partyId) (distinct : members.Nodup) :
    Cleared s partyId members (clearParty s partyId members) := by
  induction members generalizing s with
  | nil =>
    refine ⟨fun userId => by simp [clearParty], iff_of_true standing ?_, fun _ entry => by simp [clearParty],
      fun shut => absurd standing shut⟩
    rintro ⟨-, leaderId, last, -, -, none, -⟩
    cases none
  | cons userId rest ih =>
    rw [nodup_cons] at distinct
    have next : clearParty s partyId (userId :: rest) =
        clearParty (sweepTurn s (partyId, userId)) partyId rest := rfl
    rw [next]
    by_cases active : s.Active partyId userId
    · have after : (sweepTurn s (partyId, userId)).Settled :=
        settled_rowsInvariant.sweepTurn (partyId, userId) settled trivial
      cases turned_of_active settled standing active with
      | ended leads last shut empty gone =>
        have dissolved : (clearParty (sweepTurn s (partyId, userId)) partyId rest).Dissolved partyId :=
          State.Dissolved.clearParty ⟨shut, empty, gone⟩ rest
        have alone : ((userId :: rest).filter fun userId => (s.activeRole partyId userId).isSome) =
            [userId] := by
          have first : ((userId :: rest).filter fun userId => (s.activeRole partyId userId).isSome) =
              userId :: rest.filter fun userId => (s.activeRole partyId userId).isSome :=
            filter_cons_of_pos (activeRole_isSome.mpr active)
          have nobody : (rest.filter fun userId => (s.activeRole partyId userId).isSome) = [] := by
            refine filter_eq_nil_iff.mpr fun other inside isActive => ?_
            have here := last other (activeRole_isSome.mp isActive)
            exact distinct.1 (here ▸ inside)
          rw [first, nobody]
        have disbands : s.Disbands partyId (userId :: rest) := by
          refine ⟨fun other inside => mem_cons.mpr (.inl (last other inside)), userId, userId, leads,
            active, ?_, .inl rfl⟩
          rw [alone]
          rfl
        refine ⟨fun other => iff_of_false (dissolved.gone other) ?_,
          iff_of_false dissolved.shut (not_not.mpr disbands),
          fun running => absurd running dissolved.shut, fun _ => dissolved.watch⟩
        rintro ⟨inside, outside⟩
        exact outside (disbands.1 other inside)
      | goesOn running watch stays online leader =>
        have cleared := ih after running distinct.2
        refine ⟨fun other => ?_, ?_, fun open' entry => ?_, cleared.empty⟩
        · rw [cleared.active other, stays other, mem_cons, not_or, and_assoc]
        · rw [cleared.standing, disbands_cons_of_goesOn distinct.1 active stays online leader]
        · rw [cleared.left open' entry, watch, stays]
          by_cases here : entry.1 = userId
          · simp [here, active]
          · simp [here]
    · rw [sweepTurn_of_absent standing active]
      have cleared := ih settled standing distinct.2
      have skipped : ∀ other, s.Active partyId other ∧ other ∉ userId :: rest ↔
          s.Active partyId other ∧ other ∉ rest := by
        intro other
        rw [mem_cons, not_or]
        refine and_congr_right fun inside => and_iff_right ?_
        rintro rfl
        exact active inside
      refine ⟨fun other => (cleared.active other).trans (skipped other).symm, ?_, fun running entry => ?_,
        cleared.empty⟩
      · rw [cleared.standing, disbands_cons_of_absent active]
      · rw [cleared.left running entry]
        by_cases here : entry.1 = userId
        · simp [here, active]
        · simp [here]

/-! ## The whole sweep -/

namespace KeepsParty

theorem active (kept : KeepsParty partyId s s') : s'.Active partyId userId ↔ s.Active partyId userId := by
  simp only [State.Active, kept.members]

theorem activeRole (kept : KeepsParty partyId s s') :
    s'.activeRole partyId userId = s.activeRole partyId userId := by
  simp only [State.activeRole, kept.members]

theorem isOpen (kept : KeepsParty partyId s s') : s'.Open partyId ↔ s.Open partyId := by
  simp only [State.Open, kept.party]

theorem disbands (kept : KeepsParty partyId s s') {members : List UserId} :
    s'.Disbands partyId members ↔ s.Disbands partyId members := by
  simp only [State.Disbands, State.Online, leaderOf, kept.active, kept.activeRole, kept.party,
    kept.members]

end KeepsParty

/-- What the turns come to is a matter of the party alone. -/
theorem Cleared.of_keepsParty {before after : State} {members : List UserId}
    (cleared : Cleared before partyId members after) (earlier : KeepsParty partyId s before)
    (later : KeepsParty partyId after s') : Cleared s partyId members s' where
  active := fun userId => by rw [later.active, cleared.active, earlier.active]
  standing := by rw [later.isOpen, cleared.standing, earlier.disbands]
  left := fun running entry => by
    rw [later.watch, cleared.left (later.isOpen.mp running), earlier.watch, earlier.active]
  empty := fun shut => by
    rw [later.watch]
    exact cleared.empty (mt later.isOpen.mpr shut)

theorem mem_staleMembers {watch : List (UserId × Time)} {threshold : Int} :
    userId ∈ staleMembers watch threshold ↔ ∃ score, (userId, score) ∈ watch ∧ (score : Int) ≤ threshold := by
  rw [staleMembers, mem_map]
  constructor
  · rintro ⟨⟨member, score⟩, sorted, rfl⟩
    have selected := (mem_insertionSort _).mp sorted
    simp only [mem_filter, decide_eq_true_eq] at selected
    exact ⟨score, selected⟩
  · rintro ⟨score, inside, stale⟩
    refine ⟨(userId, score), (mem_insertionSort _).mpr ?_, rfl⟩
    simp only [mem_filter, decide_eq_true_eq]
    exact ⟨inside, stale⟩

theorem nodup_staleMembers {watch : List (UserId × Time)} (distinct : (watch.map Prod.fst).Nodup)
    (threshold : Int) : (staleMembers watch threshold).Nodup := by
  have sorted := (perm_insertionSort
    (fun first second : UserId × Time => first.2 < second.2 ∨ first.2 = second.2 ∧ first.1 ≤ second.1)
    (watch.filter fun entry => decide ((entry.2 : Int) ≤ threshold))).map Prod.fst
  exact sorted.nodup_iff.mpr (distinct.sublist (filter_sublist.map _))

def State.Ended (s : State) (partyId : PartyId) : Prop :=
  ∃ party, s.parties.find? partyId = some party ∧ party.status = .ended

theorem LeaveOutcome.stored {reason : LeaveReason} {result : Except ServiceError LeaveResult}
    (outcome : LeaveOutcome s userId other reason result s') :
    (s'.parties.find? partyId).isSome = (s.parties.find? partyId).isSome := by
  cases outcome with
  | rejected | finished | follower | leaderless | locked => rfl
  | alone =>
    have same : ((s.departed other userId reason).closed other .leaderLeftAlone).parties =
        (s.markEnded other).parties := rfl
    rw [same, State.markEnded_parties, isSome_find?_modify]
  | elected newLeaderId =>
    have same : ((s.departed other userId reason).promoted other newLeaderId).parties =
        (s.changeLeader other newLeaderId).parties := rfl
    rw [same, State.changeLeader_parties, isSome_find?_modify]

theorem sweepTurn_stored (s : State) (turn : SweepTurn) :
    ((sweepTurn s turn).parties.find? partyId).isSome = (s.parties.find? partyId).isSome := by
  obtain ⟨other, userId⟩ := turn
  obtain ⟨result, after, outcome, turned⟩ := sweepTurn_outcome s other userId
  rw [turned]
  cases result with
  | error | ok => exact outcome.stored

theorem clearParties_stored (s : State) (partyIds : List PartyId) :
    ((clearParties arrange threshold s partyIds).parties.find? partyId).isSome =
      (s.parties.find? partyId).isSome := by
  have one : ∀ (members : List UserId) (other : PartyId) (s : State),
      ((clearParty s other members).parties.find? partyId).isSome = (s.parties.find? partyId).isSome := by
    intro members other
    induction members with
    | nil => exact fun s => rfl
    | cons userId rest ih => exact fun s => (ih _).trans (sweepTurn_stored s _)
  induction partyIds generalizing s with
  | nil => rfl
  | cons other rest ih => exact (ih _).trans (one _ other s)

/-- What a sweep is to achieve. No entry of an indexed party is stale any more, nobody with a stale entry is
still active, and a party all of whose active members had one has ended. -/
structure State.SweptClean (s s' : State) : Prop where
  cleared : ∀ partyId ∈ s.activePartyIndex, staleMembers (s'.zombieWatch partyId) s.staleAt = []
  gone : ∀ partyId ∈ s.activePartyIndex, ∀ userId ∈ staleMembers (s.zombieWatch partyId) s.staleAt,
    ¬ s'.Active partyId userId
  ended : ∀ partyId, (s.parties.find? partyId).isSome →
    (∀ userId, s.Active partyId userId → userId ∈ staleMembers (s.zombieWatch partyId) s.staleAt) →
      s'.Ended partyId

/-- A party the sweep can handle: when all active members are stale their turns end it, and otherwise every
stale entry is of an active member. -/
def State.Sweepable (s : State) (arrange : PartyId → List UserId → List UserId) (partyId : PartyId) : Prop :=
  (∀ userId, s.Active partyId userId → userId ∈ staleMembers (s.zombieWatch partyId) s.staleAt) ∧
      s.Disbands partyId (arrange partyId (staleMembers (s.zombieWatch partyId) s.staleAt)) ∨
    ¬ (∀ userId, s.Active partyId userId → userId ∈ staleMembers (s.zombieWatch partyId) s.staleAt) ∧
      ∀ userId ∈ staleMembers (s.zombieWatch partyId) s.staleAt, s.Active partyId userId

theorem swept_party (indexed : s.Indexed) (distinct : s.Distinct) (standing : s.Open partyId)
    {arrange : PartyId → List UserId → List UserId}
    (orders : ∀ partyId stale, (arrange partyId stale).Perm stale) :
    Cleared s partyId (arrange partyId (staleMembers (s.zombieWatch partyId) s.staleAt))
      ((sweepZombieMembersIn arrange).exec s).2 := by
  rw [exec_sweepZombieMembersIn]
  obtain ⟨before, settled, earlier, later⟩ := clearParties_party indexed.settled distinct.index
    ((indexed.standing partyId).mp standing)
  have once := (orders partyId _).nodup_iff.mpr (nodup_staleMembers (distinct.watch partyId) s.staleAt)
  exact (clearParty_spec settled (earlier.isOpen.mpr standing) once).of_keepsParty earlier later

theorem ended_after_sweep_iff (indexed : s.Indexed) (distinct : s.Distinct) (standing : s.Open partyId)
    {arrange : PartyId → List UserId → List UserId}
    (orders : ∀ partyId stale, (arrange partyId stale).Perm stale) :
    ((sweepZombieMembersIn arrange).exec s).2.Ended partyId ↔
      s.Disbands partyId (arrange partyId (staleMembers (s.zombieWatch partyId) s.staleAt)) := by
  have cleared := swept_party indexed distinct standing orders
  have stored : (((sweepZombieMembersIn arrange).exec s).2.parties.find? partyId).isSome := by
    obtain ⟨party, found, -⟩ := standing
    rw [exec_sweepZombieMembersIn, clearParties_stored, found]
    rfl
  obtain ⟨party, found⟩ := Option.isSome_iff_exists.mp stored
  have shut_iff : ¬ ((sweepZombieMembersIn arrange).exec s).2.Open partyId ↔
      ((sweepZombieMembersIn arrange).exec s).2.Ended partyId := by
    constructor
    · intro shut
      refine ⟨party, found, ?_⟩
      by_contra running
      exact shut ⟨party, found, running⟩
    · rintro ⟨ended, read, status⟩ ⟨running, read', unended⟩
      obtain rfl : ended = running := Option.some.inj (read.symm.trans read')
      exact unended status
  rw [← shut_iff, cleared.standing, not_not]

/-- **In a settled state a sweep achieves what it is for exactly when it can handle every open party.** -/
theorem sweptClean_iff (indexed : s.Indexed) (distinct : s.Distinct)
    {arrange : PartyId → List UserId → List UserId}
    (orders : ∀ partyId stale, (arrange partyId stale).Perm stale) :
    s.SweptClean ((sweepZombieMembersIn arrange).exec s).2 ↔
      ∀ partyId, s.Open partyId → s.Sweepable arrange partyId := by
  constructor
  · intro clean partyId standing
    have cleared := swept_party indexed distinct standing orders
    have listed := (indexed.standing partyId).mp standing
    obtain ⟨party, found, -⟩ := id standing
    by_cases all : ∀ userId, s.Active partyId userId →
        userId ∈ staleMembers (s.zombieWatch partyId) s.staleAt
    · have ended := clean.ended partyId (by rw [found]; rfl) all
      exact .inl ⟨all, (ended_after_sweep_iff indexed distinct standing orders).mp ended⟩
    · refine .inr ⟨all, fun userId stale => ?_⟩
      -- the party goes on, so an entry of somebody else would still be there
      have running : ((sweepZombieMembersIn arrange).exec s).2.Open partyId := by
        refine cleared.standing.mpr fun disbands => all fun userId active => ?_
        exact (orders partyId _).mem_iff.mp (disbands.1 userId active)
      by_contra absent
      obtain ⟨score, inside, past⟩ := mem_staleMembers.mp stale
      have still : userId ∈ staleMembers
          (((sweepZombieMembersIn arrange).exec s).2.zombieWatch partyId) s.staleAt :=
        mem_staleMembers.mpr ⟨score, (cleared.left running (userId, score)).mpr
          ⟨inside, fun both => absent both.1⟩, past⟩
      rw [clean.cleared partyId listed] at still
      cases still
  · intro sweepable
    refine ⟨fun partyId listed => ?_, fun partyId listed userId stale active => ?_,
      fun partyId stored all => ?_⟩
    · have standing := (indexed.standing partyId).mpr listed
      have cleared := swept_party indexed distinct standing orders
      refine eq_nil_iff_forall_not_mem.mpr fun userId still => ?_
      obtain ⟨score, inside, past⟩ := mem_staleMembers.mp still
      by_cases running : ((sweepZombieMembersIn arrange).exec s).2.Open partyId
      · obtain ⟨before, kept⟩ := (cleared.left running (userId, score)).mp inside
        have stale : userId ∈ staleMembers (s.zombieWatch partyId) s.staleAt :=
          mem_staleMembers.mpr ⟨score, before, past⟩
        rcases sweepable partyId standing with ⟨-, disbands⟩ | ⟨-, members⟩
        · exact cleared.standing.mp running disbands
        · exact kept ⟨members userId stale, (orders partyId _).mem_iff.mpr stale⟩
      · rw [cleared.empty running] at inside
        cases inside
    · have cleared := swept_party indexed distinct ((indexed.standing partyId).mpr listed) orders
      exact ((cleared.active userId).mp active).2 ((orders partyId _).mem_iff.mpr stale)
    · by_cases standing : s.Open partyId
      · rcases sweepable partyId standing with ⟨-, disbands⟩ | ⟨some, -⟩
        · exact (ended_after_sweep_iff indexed distinct standing orders).mpr disbands
        · exact absurd all some
      · -- an ended party is not in the index, and the sweep passes it by
        obtain ⟨party, found⟩ := Option.isSome_iff_exists.mp stored
        have apart := mt (indexed.standing partyId).mpr standing
        have kept : KeepsParty partyId s (clearParties arrange s.staleAt s s.activePartyIndex) :=
          clearParties_elsewhere s apart
        refine ⟨party, ?_, ?_⟩
        · rw [exec_sweepZombieMembersIn, kept.party, found]
        · by_contra running
          exact standing ⟨party, found, running⟩

section Runs

variable (deployment : Deployment) (now : Time) (users : UserId → Option User)
  (routes : RouteId → Option Route) (follows : Table (UserId × UserId) FollowStatus)
  (blocks : List (UserId × UserId)) (liveSessions : UserId → Option Bool)

/-- **After every run, a sweep achieves what it is for exactly when it can handle every open party**, in
whatever order the sets are read. -/
theorem sweep_achieves_iff (ops : List Op) (arrange : PartyId → List UserId → List UserId)
    (orders : ∀ partyId stale, (arrange partyId stale).Perm stale) {s : State}
    (reached : follow step (.initial deployment now users routes follows blocks liveSessions) ops = s) :
    s.SweptClean ((sweepZombieMembersIn arrange).exec s).2 ↔
      ∀ partyId, s.Open partyId → s.Sweepable arrange partyId := by
  have ⟨indexed, distinct⟩ := indexed_of_run deployment now users routes follows blocks liveSessions ops
  rw [reached] at indexed distinct
  exact sweptClean_iff indexed distinct orders

end Runs

/-- A party whose only member has been away for a minute. -/
def lonelyParty : State :=
  follow step smallInstallation
    [.createParty 1 10 smallParty, .markOffline 1 10, .environment (.elapse 60000)]

/-- The sweep ends it. -/
theorem lonely_party_swept :
    lonelyParty.SweptClean ((sweepZombieMembersIn fun _ stale => stale).exec lonelyParty).2 := by
  have only : ∀ key row, lonelyParty.partyMembers.find? key = some row → key = (10, 1) := by
    decide +kernel
  have stored : ∀ partyId party, lonelyParty.parties.find? partyId = some party → partyId = 10 := by
    decide +kernel
  refine (sweep_achieves_iff smallDeployment 0 _ _ _ _ _
    [.createParty 1 10 smallParty, .markOffline 1 10, .environment (.elapse 60000)] (fun _ stale => stale)
    (fun _ stale => .refl stale) rfl).mpr ?_
  rintro partyId ⟨party, found, -⟩
  obtain rfl := stored partyId party found
  refine .inl ⟨?_, ?_, 1, 1, by decide +kernel, ?_, by decide +kernel, .inl rfl⟩
  · rintro userId ⟨row, listed, -⟩
    cases only _ row listed
    exact List.mem_of_elem_eq_true (by decide +kernel)
  · rintro userId ⟨row, listed, -⟩
    cases only _ row listed
    exact List.mem_of_elem_eq_true (by decide +kernel)
  · decide +kernel

/-- A member leaves who was marked offline before, and the entry stays. Two members are offline, and the party
goes on without any. -/
theorem sweep_fails :
    ¬ (follow step smallInstallation [.createParty 1 10 smallParty, .joinParty 2 10, .markOffline 2 10,
        .leaveParty 2 10 .left, .environment (.elapse 60000)]).SweptClean
      ((sweepZombieMembersIn fun _ stale => stale).exec (follow step smallInstallation
        [.createParty 1 10 smallParty, .joinParty 2 10, .markOffline 2 10, .leaveParty 2 10 .left,
          .environment (.elapse 60000)])).2 ∧
    ¬ (follow step smallInstallation [.createParty 1 10 smallParty, .joinParty 2 10, .markOffline 1 10,
        .markOffline 2 10, .environment (.elapse 60000)]).SweptClean
      ((sweepZombieMembersIn fun _ stale => stale).exec (follow step smallInstallation
        [.createParty 1 10 smallParty, .joinParty 2 10, .markOffline 1 10, .markOffline 2 10,
          .environment (.elapse 60000)])).2 := by
  constructor
  · intro clean
    have empty := clean.cleared 10 (by decide +kernel)
    revert empty
    decide +kernel
  · intro clean
    have all : ∀ key row, (follow step smallInstallation [.createParty 1 10 smallParty, .joinParty 2 10,
        .markOffline 1 10, .markOffline 2 10, .environment (.elapse 60000)]).partyMembers.find? key = some row →
          key = (10, 1) ∨ key = (10, 2) := by
      decide +kernel
    obtain ⟨party, found, ended⟩ := clean.ended 10 (by decide +kernel) (by
      rintro userId ⟨row, listed, -⟩
      rcases all _ row listed with here | here <;> cases here <;>
        exact List.mem_of_elem_eq_true (by decide +kernel))
    have running : (((sweepZombieMembersIn fun _ stale => stale).exec (follow step smallInstallation
        [.createParty 1 10 smallParty, .joinParty 2 10, .markOffline 1 10, .markOffline 2 10,
          .environment (.elapse 60000)])).2.parties.find? 10).map Party.status = some .waiting := by
      decide +kernel
    rw [found, Option.map_some, ended] at running
    cases running

end Motogram
