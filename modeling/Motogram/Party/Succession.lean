import Motogram.Party.Stages

/-!
# Leaving at the same time

Any number of members, the leader among them, leave one party together while
somebody stays: their calls of `leaveParty` are interleaved call by call. Every
leave decides from what it read at its start whether it has to replace the
leader, and the leader it elects is installed later.

The party has an active leader when all have left exactly when every winner that
was installed could still lead at that moment (he was active and no leave of his
was about to close his membership) and every election found the lock free
(`leader_remains_iff`).
-/

set_option autoImplicit false

namespace Motogram

open Foundation Function

/-- Calls of `leaveParty` for one party that are about to start. -/
def leaves {Index : Type} (calls : Index → LeaveRequest) (partyId : PartyId) (s : State) :
    Pool Index StoreCall StoreReply ServiceError LeaveResult State where
  threads := fun index => leaveParty (calls index).userId partyId (calls index).reason
  store := s

/-- The party has not ended, and its leader is an active member. -/
def State.Led (s : State) (partyId : PartyId) : Prop :=
  s.Open partyId ∧ ∃ leader, s.leaderOf partyId = some leader ∧ s.Active partyId leader

/-- When the call installs a leader, he is active and no leave of his is about to
close his membership. When it asks for the election lock, the lock is free. -/
def HandsOver {Index : Type} (pool : Pool Index StoreCall StoreReply ServiceError LeaveResult State) :
    StoreCall → Prop
  | .changeLeaderTransaction partyId winner =>
    pool.store.Active partyId winner ∧
      ∀ index, pool.next? index ≠ some (.partyMemberUpdate partyId winner .leave)
  | .setLeaderLockNx partyId _ _ =>
    Expiring.live pool.store.now (pool.store.leaderLock partyId) = none
  | _ => True

/-! ## Who replaces the leader -/

/-- The leave is on its way to replace the leader. -/
def Stage.Replacing (userId : UserId) : Stage → Prop
  | .close found => found.party.leaderId = userId
  | .unlist found => found.party.leaderId = userId
  | .announce found => found.party.leaderId = userId
  | .contend _ _ => True
  | .install _ => True
  | _ => False

/-- The membership is closed, and what was read is still in use. -/
def Stage.HasLeft : Stage → Prop
  | .unlist _ => True
  | .announce _ => True
  | .contend _ _ => True
  | .install _ => True
  | _ => False

section Moves

variable {leave : LeaveRequest} {partyId : PartyId} {s s' : State} {stage stage' : Stage}

theorem Stage.requests_leave {member : UserId} :
    stage.request? leave partyId = some (.partyMemberUpdate partyId member .leave) ↔
      member = leave.userId ∧ ∃ found, stage = .close found := by
  cases stage <;> simp [Stage.request?, eq_comm]

theorem Stage.requests_changeLeader {other : PartyId} {winner : UserId} :
    stage.request? leave partyId = some (.changeLeaderTransaction other winner) ↔
      other = partyId ∧ stage = .install winner := by
  cases stage <;> simp [Stage.request?, eq_comm]

theorem Stage.requests_lock {other : PartyId} {winner : UserId} {seconds : Nat}
    (asked : stage.request? leave partyId = some (.setLeaderLockNx other winner seconds)) :
    other = partyId ∧ ∃ found, stage = .contend found winner := by
  cases stage with
  | contend found chosen =>
    cases asked
    exact ⟨rfl, found, rfl⟩
  | _ => cases asked

theorem Moves.replacing (moves : Moves leave partyId s stage stage' s') (replacing : stage.Replacing leave.userId)
    (elects : ∀ found, stage.found? = some found → (found.electionInput partyId leave.userId).onlineMembers ≠ [])
    (free : ∀ found winner, stage = .contend found winner → Expiring.live s.now (s.leaderLock partyId) = none) :
    stage'.Replacing leave.userId ∨ ∃ winner, stage = .install winner := by
  cases moves with
  | @install winner => exact .inr ⟨winner, rfl⟩
  | follow follows => exact absurd replacing follows
  | @strand found fallback leads nobody =>
    exact absurd (pickNextLeader_eq_none.mp nobody) (elects found rfl)
  | @lose found winner fallback held => exact absurd (free found winner rfl) held
  | close | unlist => exact .inl replacing
  | contend | win => exact .inl trivial
  | read | refuse | proclaim | unlock => cases replacing

/-- A leave takes this upon itself by reading that its user leads the party. -/
theorem Moves.was_replacing (moves : Moves leave partyId s stage stage' s')
    (replacing : stage'.Replacing leave.userId) :
    stage.Replacing leave.userId ∨
      stage = .start ∧ s.leaderOf partyId = some leave.userId ∧ s.Active partyId leave.userId := by
  cases moves with
  | @read party found active =>
    refine .inr ⟨rfl, ?_, active⟩
    rw [State.leaderOf, found]
    exact congrArg some replacing
  | close | unlist => exact .inl replacing
  | contend leads => exact .inl leads
  | win => exact .inl trivial
  | refuse | follow | strand | lose | install | proclaim | unlock => cases replacing

/-- A membership that was closed stays closed. -/
theorem Moves.hasLeft (moves : Moves leave partyId s stage stage' s')
    (gone : stage.HasLeft → ¬ s.Active partyId leave.userId) (left : stage'.HasLeft) :
    ¬ s'.Active partyId leave.userId := by
  intro active
  have before := moves.was_active active
  cases moves with
  | close => exact (State.active_patchMember_leave.mp active).2 rfl
  | unlist | contend | win => exact gone trivial before
  | read | refuse | follow | strand | lose | install | proclaim | unlock => cases left

theorem Moves.reads {found : PartyWithMembers} (moves : Moves leave partyId s stage (.close found) s') :
    s.leaderOf partyId = some found.party.leaderId ∧ ∀ winner, stage ≠ .install winner := by
  cases moves with
  | read stored active => exact ⟨by rw [State.leaderOf, stored]; rfl, nofun⟩

end Moves

/-! ## The pool and its stages -/

section Pool

variable {Index : Type} {calls : Index → LeaveRequest} {partyId : PartyId} {stayer : UserId}
  {stages : Index → Stage}
  {pool : Pool Index StoreCall StoreReply ServiceError LeaveResult State}

/-- The stages the leaves of a pool have come to, and what they know. -/
structure Staged (calls : Index → LeaveRequest) (partyId : PartyId) (stayer : UserId)
    (stages : Index → Stage)
    (pool : Pool Index StoreCall StoreReply ServiceError LeaveResult State) : Prop where
  programs : ∀ index, pool.threads index = (stages index).program (calls index) partyId
  live : pool.store.partyIsLive partyId = true
  sound : ∀ index, (stages index).Sound (calls index).userId partyId pool.store
  others : ∀ index, (calls index).userId ≠ stayer
  stays : ∃ row, pool.store.partyMembers.find? (partyId, stayer) = some row ∧
    row.leftAt = none ∧ row.isOnline = true
  elects : ∀ index found, (stages index).found? = some found →
    (found.electionInput partyId (calls index).userId).onlineMembers ≠ []
  gone : ∀ index, (stages index).HasLeft → ¬ pool.store.Active partyId (calls index).userId

theorem Staged.next? (staged : Staged calls partyId stayer stages pool) (index : Index) :
    pool.next? index = (stages index).request? (calls index) partyId := by
  rw [Pool.next?, staged.programs, Stage.next?_program]

/-- A leave that is over is at its last stage. -/
theorem Staged.finished (staged : Staged calls partyId stayer stages pool) {index : Index}
    (ended : (pool.threads index).Ended) : ∃ outcome, stages index = .finished outcome := by
  have none : (stages index).request? (calls index) partyId = none :=
    (staged.next? index).symm.trans ended
  cases here : stages index with
  | finished outcome => exact ⟨outcome, rfl⟩
  | _ => rw [here] at none; cases none

theorem Moves.keepsStayer {leave : LeaveRequest} {s s' : State} {stage stage' : Stage}
    (moves : Moves leave partyId s stage stage' s') (other : leave.userId ≠ stayer)
    (stays : ∃ row, s.partyMembers.find? (partyId, stayer) = some row ∧ row.leftAt = none ∧ row.isOnline = true) :
    ∃ row, s'.partyMembers.find? (partyId, stayer) = some row ∧ row.leftAt = none ∧ row.isOnline = true := by
  obtain ⟨row, found, present, online⟩ := stays
  obtain ⟨members, -⟩ | ⟨-, -, rfl⟩ | ⟨winner, -, rfl⟩ := moves.tables
  · exact ⟨row, members ▸ found, present, online⟩
  · refine ⟨row, ?_, present, online⟩
    rwa [State.patchMember_partyMembers, Table.find?_modify_of_ne]
    exact fun same => other (Prod.mk.inj same).2.symm
  · rw [State.changeLeader_partyMembers, Table.find?_modify]
    by_cases same : (partyId, stayer) = (partyId, winner)
    · exact ⟨{ row with role := .leader }, by rw [if_pos same, found]; rfl, present, online⟩
    · exact ⟨row, by rw [if_neg same, found], present, online⟩

theorem Moves.elects {leave : LeaveRequest} {s s' : State} {stage stage' : Stage}
    (moves : Moves leave partyId s stage stage' s') (other : leave.userId ≠ stayer)
    (stays : ∃ row, s.partyMembers.find? (partyId, stayer) = some row ∧ row.leftAt = none ∧ row.isOnline = true)
    (elects : ∀ found, stage.found? = some found → (found.electionInput partyId leave.userId).onlineMembers ≠ [])
    (found : PartyWithMembers) (read : stage'.found? = some found) :
    (found.electionInput partyId leave.userId).onlineMembers ≠ [] := by
  cases moves with
  | read stored active =>
    cases read
    obtain ⟨row, listed, present, online⟩ := stays
    refine List.ne_nil_of_mem (a := .ofRow (stayer, row)) (mem_onlineMembers.mpr ?_)
    exact ⟨Ne.symm other, row, listed, present, online, rfl⟩
  | close | unlist | contend => exact elects found read
  | refuse | follow | strand | win | lose | install | proclaim | unlock => cases read

variable [DecidableEq Index]

/-- **A step of the pool is a move of one leave**, or nothing when that leave is
over. -/
theorem Staged.advance (staged : Staged calls partyId stayer stages pool) (index : Index) :
    (pool.advance answer index = pool ∧ pool.next? index = none) ∨
      ∃ stage', Moves (calls index) partyId pool.store (stages index) stage'
          (pool.advance answer index).store ∧
        Staged calls partyId stayer (update stages index stage')
          (pool.advance answer index) := by
  obtain ⟨row, listed, present, online⟩ := staged.stays
  obtain ⟨outcome, stopped⟩ | ⟨request, next, sends, stage', moves, goesOn⟩ :=
    stage_moves (stages index) staged.live (staged.sound index)
  · have none : pool.next? index = none := by
      rw [staged.next?, stopped]
      rfl
    exact .inl ⟨Pool.store_advance_of_none none, none⟩
  · have here : pool.threads index = .call request next := (staged.programs index).trans sends
    rw [Pool.advance_of_call here]
    refine .inr ⟨stage', moves, ?_⟩
    have accompanied : ∃ member, member ≠ (calls index).userId ∧
        pool.store.Active partyId member :=
      ⟨stayer, (staged.others index).symm, row, listed, present⟩
    refine ⟨fun other => ?_, moves.live staged.live, ?_, staged.others,
      moves.keepsStayer (staged.others index) staged.stays, ?_, ?_⟩
    · by_cases same : other = index
      · subst same
        simpa only [update_self] using goesOn
      · simpa only [update_of_ne same] using staged.programs other
    · refine (forall_update_iff stages fun other stage =>
        stage.Sound (calls other).userId partyId _).mpr ⟨moves.sound (staged.sound index)
          accompanied, fun other _ => (staged.sound other).mono fun _ => moves.listed⟩
    · refine (forall_update_iff stages fun other stage =>
        ∀ found, stage.found? = some found →
          (found.electionInput partyId (calls other).userId).onlineMembers ≠ []).mpr
            ⟨?_, fun other _ => staged.elects other⟩
      exact moves.elects (staged.others index) staged.stays (staged.elects index)
    · refine (forall_update_iff stages fun other stage =>
        stage.HasLeft → ¬ State.Active _ partyId (calls other).userId).mpr
          ⟨moves.hasLeft (staged.gone index), fun other _ left active => ?_⟩
      exact staged.gone other left (moves.was_active active)

/-! ## What the succession needs -/

/-- Somebody is replacing the leader, or the leader is active and no leave of his
is about to close his membership. -/
def Secure (calls : Index → LeaveRequest) (partyId : PartyId) (stages : Index → Stage)
    (s : State) : Prop :=
  (∃ index, (stages index).Replacing (calls index).userId) ∨
    ∃ leader, s.leaderOf partyId = some leader ∧ s.Active partyId leader ∧
      ∀ index found, stages index = .close found → (calls index).userId ≠ leader

/-- Whoever replaces the leader is the leader who is stored. -/
def Exclusive (calls : Index → LeaveRequest) (partyId : PartyId) (stages : Index → Stage)
    (s : State) : Prop :=
  ∀ index, (stages index).Replacing (calls index).userId →
    s.leaderOf partyId = some (calls index).userId

/-- The step hands the party over properly. -/
abbrev HandsOverAt (pool : Pool Index StoreCall StoreReply ServiceError LeaveResult State)
    (index : Index) : Prop :=
  ∀ request, pool.next? index = some request → HandsOver pool request

variable {index : Index} {stage' : Stage} {s' : State}

theorem Secure.advance (secure : Secure calls partyId stages pool.store)
    (staged : Staged calls partyId stayer stages pool)
    (moves : Moves (calls index) partyId pool.store (stages index) stage' s') (hands : HandsOverAt pool index) :
    Secure calls partyId (update stages index stage') s' := by
  by_cases installs : ∃ winner, stages index = .install winner
  · -- the winner leads from now on
    obtain ⟨winner, here⟩ := installs
    obtain ⟨active, nobody⟩ : HandsOver pool (.changeLeaderTransaction partyId winner) :=
      hands _ ((staged.next? index).trans (Stage.requests_changeLeader.mpr ⟨rfl, here⟩))
    rw [here] at moves
    refine .inr ⟨winner, moves.installs staged.live, moves.still_active active ?_, ?_⟩
    · rintro - found ⟨⟩
    · intro other found closes same
      obtain ⟨rfl, closes'⟩ | ⟨-, closes'⟩ := eq_of_update closes
      · subst closes'
        exact moves.reads.2 winner rfl
      · exact nobody other ((staged.next? other).trans
          (Stage.requests_leave.mpr ⟨same.symm, found, closes'⟩))
  · have kept := moves.leaderOf fun winner here => installs ⟨winner, here⟩
    rcases secure with ⟨other, replacing⟩ | ⟨leader, stored, active, nobody⟩
    · by_cases own : other = index
      · subst own
        have free (found : PartyWithMembers) (winner : UserId)
            (here : stages other = .contend found winner) :
            HandsOver pool (.setLeaderLockNx partyId winner leaderLockSeconds) :=
          hands _ ((staged.next? other).trans (by rw [here]; rfl))
        rcases moves.replacing replacing (staged.elects other) free with goesOn | installed
        · exact .inl ⟨other, by rwa [update_self]⟩
        · exact absurd installed installs
      · exact .inl ⟨other, by rwa [update_of_ne own]⟩
    · by_cases leads : (calls index).userId = leader ∧ ∃ found, stage' = .close found
      · -- the leader himself has just read the party
        obtain ⟨same, found, rfl⟩ := leads
        refine .inl ⟨index, ?_⟩
        rw [update_self]
        have read := moves.reads.1.symm.trans stored
        exact (Option.some.inj read).trans same.symm
      · refine .inr ⟨leader, kept.trans stored, moves.still_active active ?_, ?_⟩
        · exact fun same found closes => nobody index found closes same.symm
        · intro other found closes same
          obtain ⟨rfl, closes'⟩ | ⟨-, closes'⟩ := eq_of_update closes
          · exact leads ⟨same, found, closes'⟩
          · exact nobody other found closes' same

section Injective

variable (once : Injective fun index => (calls index).userId)

include once

theorem Secure.before (moves : Moves (calls index) partyId pool.store (stages index) stage' s')
    (secure : Secure calls partyId (update stages index stage') s') : Secure calls partyId stages pool.store := by
  rcases secure with ⟨other, replacing⟩ | ⟨leader, stored, active, nobody⟩
  · obtain ⟨rfl, replacing'⟩ | ⟨-, replacing'⟩ := of_update replacing
    · rcases moves.was_replacing replacing' with before | ⟨starts, leads, active⟩
      · exact .inl ⟨other, before⟩
      · refine .inr ⟨_, leads, active, fun third found closes same => ?_⟩
        rw [once same, starts] at closes
        cases closes
    · exact .inl ⟨other, replacing'⟩
  · by_cases installs : ∃ winner, stages index = .install winner
    · obtain ⟨winner, here⟩ := installs
      exact .inl ⟨index, by rw [here]; trivial⟩
    · have kept := moves.leaderOf fun winner here => installs ⟨winner, here⟩
      refine .inr ⟨leader, kept.symm.trans stored, moves.was_active active, ?_⟩
      intro other found closes same
      by_cases own : other = index
      · subst own same
        rw [closes] at moves
        exact moves.closes active
      · exact nobody other found (by rwa [update_of_ne own]) same

theorem Exclusive.advance (exclusive : Exclusive calls partyId stages pool.store)
    (moves : Moves (calls index) partyId pool.store (stages index) stage' s') :
    Exclusive calls partyId (update stages index stage') s' := by
  by_cases installs : ∃ winner, stages index = .install winner
  · -- nobody else was replacing the leader
    obtain ⟨winner, here⟩ := installs
    have stored := exclusive index (by rw [here]; trivial)
    intro other replacing
    obtain ⟨rfl, replacing'⟩ | ⟨own, replacing'⟩ := of_update replacing
    · rw [here] at moves
      cases moves
      cases replacing'
    · have same := (exclusive other replacing').symm.trans stored
      exact absurd (once (Option.some.inj same)) own
  · have kept := moves.leaderOf fun winner here => installs ⟨winner, here⟩
    intro other replacing
    rw [kept]
    obtain ⟨rfl, replacing'⟩ | ⟨-, replacing'⟩ := of_update replacing
    · rcases moves.was_replacing replacing' with before | ⟨-, leads, -⟩
      · exact exclusive other before
      · exact leads
    · exact exclusive other replacing'

theorem Secure.lost (exclusive : Exclusive calls partyId stages pool.store)
    (staged : Staged calls partyId stayer stages pool)
    (moves : Moves (calls index) partyId pool.store (stages index) stage' s') (fails : ¬ HandsOverAt pool index) :
    ¬ Secure calls partyId (update stages index stage') s' := by
  obtain ⟨request, asked, unmet⟩ : ∃ request, pool.next? index = some request ∧
      ¬ HandsOver pool request := by
    simpa [HandsOverAt] using fails
  rw [staged.next?] at asked
  -- either way this leave was replacing the leader, and nobody else was
  have alone (replaces : (stages index).Replacing (calls index).userId) (other : Index)
      (different : other ≠ index) : ¬ (stages other).Replacing (calls other).userId := by
    intro replacing
    have same := (exclusive other replacing).symm.trans (exclusive index replaces)
    exact different (once (Option.some.inj same))
  cases request with
  | changeLeaderTransaction other winner =>
    obtain ⟨rfl, here⟩ := Stage.requests_changeLeader.mp asked
    have replaces : (stages index).Replacing (calls index).userId := by rw [here]; trivial
    have apart := alone replaces
    rw [here] at moves
    have leads := moves.installs staged.live
    rintro (⟨third, replacing⟩ | ⟨leader, stored, active, nobody⟩)
    · obtain ⟨rfl, replacing'⟩ | ⟨own, replacing'⟩ := of_update replacing
      · cases moves
        cases replacing'
      · exact apart third own replacing'
    · obtain rfl : winner = leader := Option.some.inj (leads.symm.trans stored)
      refine unmet ⟨moves.was_active active, fun third closing => ?_⟩
      rw [staged.next?] at closing
      obtain ⟨same, found, closes⟩ := Stage.requests_leave.mp closing
      have own : third ≠ index := by
        rintro rfl
        rw [here] at closes
        cases closes
      exact nobody third found (by rwa [update_of_ne own]) same.symm
  | setLeaderLockNx other winner seconds =>
    obtain ⟨rfl, found, here⟩ := Stage.requests_lock asked
    have replaces : (stages index).Replacing (calls index).userId := by rw [here]; trivial
    have apart := alone replaces
    have stored := exclusive index replaces
    have gone := staged.gone index (by rw [here]; trivial)
    rw [here] at moves
    cases moves with
    | win free => exact absurd free unmet
    | lose fallback held =>
      rintro (⟨third, replacing⟩ | ⟨leader, leads, active, -⟩)
      · obtain ⟨rfl, replacing'⟩ | ⟨own, replacing'⟩ := of_update replacing
        · cases replacing'
        · exact apart third own replacing'
      · rw [stored] at leads
        cases leads
        exact gone active
  | _ => exact absurd trivial unmet

end Injective

/-! ## Whole interleavings -/

def InSuccession (calls : Index → LeaveRequest) (partyId : PartyId) (stayer : UserId)
    (pool : Pool Index StoreCall StoreReply ServiceError LeaveResult State) : Prop :=
  ∃ stages, Staged calls partyId stayer stages pool ∧ Secure calls partyId stages pool.store

theorem InSuccession.advance (sound : InSuccession calls partyId stayer pool) (hands : HandsOverAt pool index) :
    InSuccession calls partyId stayer (pool.advance answer index) := by
  obtain ⟨stages, staged, secure⟩ := sound
  obtain ⟨same, -⟩ | ⟨stage', moves, staged'⟩ := staged.advance index
  · rw [same]
    exact ⟨stages, staged, secure⟩
  · exact ⟨_, staged', secure.advance staged moves hands⟩

/-- The leaves of a pool, with stages at which the stored leader alone replaces
himself, and what is said of their succession. -/
def Accounted (calls : Index → LeaveRequest) (partyId : PartyId) (stayer : UserId)
    (status : Prop → Prop)
    (pool : Pool Index StoreCall StoreReply ServiceError LeaveResult State) : Prop :=
  ∃ stages, Staged calls partyId stayer stages pool ∧
    Exclusive calls partyId stages pool.store ∧ status (Secure calls partyId stages pool.store)

section Injective

variable (once : Injective fun index => (calls index).userId)

include once

theorem Accounted.kept (sound : Accounted calls partyId stayer id pool) (hands : HandsOverAt pool index) :
    Accounted calls partyId stayer id (pool.advance answer index) := by
  obtain ⟨stages, staged, exclusive, secure⟩ := sound
  obtain ⟨same, -⟩ | ⟨stage', moves, staged'⟩ := staged.advance index
  · rw [same]
    exact ⟨stages, staged, exclusive, secure⟩
  · exact ⟨_, staged', exclusive.advance once moves, Secure.advance secure staged moves hands⟩

theorem Accounted.lost (sound : Accounted calls partyId stayer id pool) (fails : ¬ HandsOverAt pool index) :
    Accounted calls partyId stayer Not (pool.advance answer index) := by
  obtain ⟨stages, staged, exclusive, -⟩ := sound
  obtain ⟨-, silent⟩ | ⟨stage', moves, staged'⟩ := staged.advance index
  · refine absurd (fun request asked => ?_) fails
    rw [silent] at asked
    cases asked
  · exact ⟨_, staged', exclusive.advance once moves,
      Secure.lost once exclusive staged moves fails⟩

theorem Accounted.stuck (lost : Accounted calls partyId stayer Not pool) :
    Accounted calls partyId stayer Not (pool.advance answer index) := by
  obtain ⟨stages, staged, exclusive, insecure⟩ := lost
  obtain ⟨same, -⟩ | ⟨stage', moves, staged'⟩ := staged.advance index
  · rw [same]
    exact ⟨stages, staged, exclusive, insecure⟩
  · exact ⟨_, staged', exclusive.advance once moves,
      fun secure => insecure (Secure.before once moves secure)⟩

end Injective

omit [DecidableEq Index] in
/-- When all leaves are over the succession is secure exactly when the leader is
active. -/
theorem Staged.secure_iff (staged : Staged calls partyId stayer stages pool)
    (completed : ∀ index, (pool.threads index).Ended) :
    Secure calls partyId stages pool.store ↔ pool.store.Led partyId := by
  have stopped (other : Index) : ∃ outcome, stages other = .finished outcome :=
    staged.finished (completed other)
  obtain ⟨party, found, running, -⟩ := partyIsLive_iff.mp staged.live
  constructor
  · rintro (⟨other, replacing⟩ | ⟨leader, stored, active, -⟩)
    · obtain ⟨outcome, here⟩ := stopped other
      rw [here] at replacing
      cases replacing
    · exact ⟨⟨party, found, running⟩, leader, stored, active⟩
  · rintro ⟨-, leader, stored, active⟩
    refine .inr ⟨leader, stored, active, fun other read closes => ?_⟩
    obtain ⟨outcome, here⟩ := stopped other
    rw [here] at closes
    cases closes

omit [DecidableEq Index] in
theorem staged_leaves {s : State} (live : s.partyIsLive partyId = true)
    (others : ∀ index, (calls index).userId ≠ stayer)
    (stays : ∃ row, s.partyMembers.find? (partyId, stayer) = some row ∧ row.leftAt = none ∧
      row.isOnline = true) :
    Staged calls partyId stayer (fun _ => .start) (leaves calls partyId s) where
  programs := fun _ => rfl
  live := live
  sound := fun _ => Stage.sound_of_none rfl rfl
  others := others
  stays := stays
  elects := fun _ _ read => by cases read
  gone := fun _ left => by cases left

/-- **The party has an active leader after its members have left together when
every leader was handed the party properly; and when each member leaves once,
only then.** -/
theorem leader_remains_iff (calls : Index → LeaveRequest) (partyId : PartyId) (s : State)
    (live : s.partyIsLive partyId = true)
    (leads : ∃ leader, s.leaderOf partyId = some leader ∧ s.Active partyId leader)
    (online : ∀ userId row, s.partyMembers.find? (partyId, userId) = some row →
      row.leftAt = none → row.isOnline = true)
    (stays : ∃ stayer, s.Active partyId stayer ∧ ∀ index, (calls index).userId ≠ stayer)
    (schedule : List Index)
    (completed : ∀ index, ((follow (Pool.advance answer) (leaves calls partyId s)
      schedule).threads index).Ended) :
    (EachStep (Pool.advance answer) HandsOverAt (leaves calls partyId s) schedule →
        (follow (Pool.advance answer) (leaves calls partyId s) schedule).store.Led partyId) ∧
      ((Injective fun index => (calls index).userId) →
        (follow (Pool.advance answer) (leaves calls partyId s) schedule).store.Led partyId →
          EachStep (Pool.advance answer) HandsOverAt (leaves calls partyId s) schedule) := by
  obtain ⟨stayer, ⟨row, listed, present⟩, others⟩ := stays
  have staged := staged_leaves live others ⟨row, listed, present, online stayer row listed present⟩
  have secure : Secure calls partyId (fun _ => .start) s := by
    obtain ⟨leader, stored, active⟩ := leads
    exact .inr ⟨leader, stored, active, fun _ _ closes => by cases closes⟩
  refine ⟨fun steps => ?_, fun once led => ?_⟩
  · obtain ⟨stages, staged', secure'⟩ :=
      last_of_keeps (fun pool index (sound : InSuccession calls partyId stayer pool) hands =>
        sound.advance hands) ⟨_, staged, secure⟩ steps
    exact (staged'.secure_iff completed).mp secure'
  · have exclusive : Exclusive calls partyId (fun _ => .start) s := fun _ replacing => by
      cases replacing
    have unspoiled : ¬ Accounted calls partyId stayer Not
        (follow (Pool.advance answer) (leaves calls partyId s) schedule) := by
      rintro ⟨stages, staged', -, lost⟩
      exact lost ((staged'.secure_iff completed).mpr led)
    have initially : Accounted calls partyId stayer id (leaves calls partyId s) :=
      ⟨_, staged, exclusive, secure⟩
    refine eachStep_of_unspoiled (fun pool index sound hands => ?_)
      (fun pool index sound fails => ?_) (fun pool index lost => ?_) initially unspoiled
    · exact Accounted.kept once sound hands
    · exact Accounted.lost once sound fails
    · exact Accounted.stuck once lost

end Pool

/-- Rider 1 leads a party that riders 2 and 3 have joined. -/
def partyOfThree : State :=
  follow step smallInstallation [.createParty 1 10 smallParty, .joinParty 2 10, .joinParty 3 10]

/-- Riders 1 and 2 leave it; rider 3 stays. -/
def leadersLeave (second : Bool) : LeaveRequest := ⟨if second then 2 else 1, .left⟩

theorem partyOfThree_online (userId : UserId) (row : PartyMember)
    (found : partyOfThree.partyMembers.find? (10, userId) = some row) : row.isOnline = true := by
  have every : ∀ entry ∈ partyOfThree.partyMembers.entries, entry.2.isOnline = true := by
    decide +kernel
  exact every ((10, userId), row) ((Table.mem_entries_iff _).mpr found)

theorem partyOfThree_stays : ∃ stayer, partyOfThree.Active 10 stayer ∧
    ∀ second, (leadersLeave second).userId ≠ stayer :=
  ⟨3, by decide +kernel, by decide⟩

/-- One after the other: the leader first, then the member who has succeeded him. -/
theorem leader_remains_small :
    (EachStep (Pool.advance answer) HandsOverAt (leaves leadersLeave 10 partyOfThree)
          (List.replicate 8 false ++ List.replicate 8 true) →
        (follow (Pool.advance answer) (leaves leadersLeave 10 partyOfThree)
          (List.replicate 8 false ++ List.replicate 8 true)).store.Led 10) ∧
      ((Injective fun second => (leadersLeave second).userId) →
        (follow (Pool.advance answer) (leaves leadersLeave 10 partyOfThree)
          (List.replicate 8 false ++ List.replicate 8 true)).store.Led 10 →
          EachStep (Pool.advance answer) HandsOverAt (leaves leadersLeave 10 partyOfThree)
            (List.replicate 8 false ++ List.replicate 8 true)) :=
  leader_remains_iff leadersLeave 10 partyOfThree (by decide +kernel)
    ⟨1, by decide +kernel, by decide +kernel⟩
    (fun userId row found _ => partyOfThree_online userId row found) partyOfThree_stays _
    (by decide +kernel)

/-- Both read the party, rider 2 is gone first, and the leader hands it to him. -/
def crossedLeaves : List Bool :=
  [false, true, true, true, true, false, false, false, false, false, false, false]

/-- Everybody is online and rider 3 stays; when both leaves are over, the party
is led by rider 2, who has left it. -/
theorem departed_member_leads :
    (∀ userId row, partyOfThree.partyMembers.find? (10, userId) = some row →
        row.isOnline = true) ∧
      (∃ stayer, partyOfThree.Active 10 stayer ∧
        ∀ second, (leadersLeave second).userId ≠ stayer) ∧
      (∀ second, ((follow (Pool.advance answer) (leaves leadersLeave 10 partyOfThree)
        crossedLeaves).threads second).Ended) ∧
      ¬ (follow (Pool.advance answer) (leaves leadersLeave 10 partyOfThree)
        crossedLeaves).store.Led 10 := by
  refine ⟨partyOfThree_online, partyOfThree_stays, by decide +kernel, ?_⟩
  rintro ⟨-, leader, stored, active⟩
  have second : (follow (Pool.advance answer) (leaves leadersLeave 10 partyOfThree)
      crossedLeaves).store.leaderOf 10 = some 2 := by decide +kernel
  obtain rfl : 2 = leader := Option.some.inj (second.symm.trans stored)
  exact absurd active (by decide +kernel)

end Motogram
