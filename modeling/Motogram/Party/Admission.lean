import Motogram.Party.Rows

/-!
# Joining and creating at the same time

`joinParty` and `createParty` check and then act: they read that the party has
room and that the user is in no other party, and insert the row in a later call.
Here any number of such calls run together, interleaved call by call, every
transaction atomic.

The limits of the parties hold through an interleaving exactly when each row is
inserted in a state in which the checks would pass once more
(`limits_hold_iff`). Nothing makes them: no lock, no constraint and no second
check stands between the read and the insertion.
-/

set_option autoImplicit false

namespace Motogram

open Foundation Program Table Pool State

/-- A call of `joinParty` or of `createParty`. -/
inductive Admission where
  | join (userId : UserId) (partyId : PartyId)
  | create (leaderId : UserId) (partyId : PartyId) (dto : CreatePartyDto)

/-- The call as a program; its result is not looked at. -/
def Admission.program : Admission → Flow Unit
  | .join userId partyId => do
    let _ ← joinParty userId partyId
    pure ()
  | .create leaderId partyId dto => do
    let _ ← createParty leaderId partyId dto
    pure ()

/-- Calls that are about to start on the same stores. -/
def admissions {Index : Type} (calls : Index → Admission) (s : State) :
    Pool Index StoreCall StoreReply ServiceError Unit State where
  threads := fun index => (calls index).program
  store := s

/-- No party has more active members than its maximum, and nobody is active in two
open parties. -/
structure State.WithinLimits (s : State) : Prop where
  capacity : ∀ partyId party, s.parties.find? partyId = some party →
    s.activeCount partyId ≤ party.maxMembers
  single : ∀ userId first second, s.Active first userId → s.Open first → s.Active second userId →
    s.Open second → first = second

def State.Unattached (s : State) (userId : UserId) : Prop :=
  ∀ other, s.Active other userId → ¬ s.Open other

/-- When the call inserts a row, the checks that were made before would pass in the
state it inserts it into. -/
def InsertionFits : StoreCall → State → Prop
  | .createPartyTransaction partyId leaderId _, s =>
    s.parties.find? partyId = none → s.partyMembers.find? (partyId, leaderId) = none →
      s.users leaderId ≠ none → s.Unattached leaderId
  | .partyMemberCreate partyId userId _, s =>
    ∀ party, s.parties.find? partyId = some party →
      s.partyMembers.find? (partyId, userId) = none → s.users userId ≠ none →
        s.activeCount partyId < party.maxMembers ∧ (s.Open partyId → s.Unattached userId)
  | _, _ => True

/-! ## What admissions do to the tables -/

/-- The regions an admission writes besides memberships. -/
def admissionRegions : List Region := [.membershipKeys, .invites, .counters, .outbox]

/-- A call an admission may send: it inserts rows, touches the row of a member who
is active, or leaves the tables of parties alone. -/
def Admits : StoreCall → State → Prop
  | .createPartyTransaction _ _ _, _ => True
  | .partyMemberCreate _ _ _, _ => True
  | .partyMemberUpdate partyId userId patch, s => patch = .rejoin ∧ s.Active partyId userId
  | call, _ => call.regions ⊆ admissionRegions

def StaysActive (before after : State) : Prop :=
  ∀ partyId userId, before.Active partyId userId → after.Active partyId userId

theorem StaysActive.refl (s : State) : StaysActive s s := fun _ _ active => active

theorem StaysActive.trans (first second third : State) (left : StaysActive first second)
    (right : StaysActive second third) : StaysActive first third :=
  fun partyId userId active => right partyId userId (left partyId userId active)

section

variable {s : State} {partyId : PartyId} {userId : UserId}

theorem answer_keepsTables {call : StoreCall} (within : call.regions ⊆ admissionRegions) (s : State) :
    (answer call s).2.partyMembers = s.partyMembers ∧ (answer call s).2.parties = s.parties := by
  cases call with
  | multi commands => exact multi_keepsTables s commands
  | redis command => cases command <;> exact ⟨rfl, rfl⟩
  | createPartyTransaction | endPartyTransaction | changeLeaderTransaction | partyMemberCreate
  | environment => simp [admissionRegions] at within
  | partyMemberUpdate partyId userId patch | partyMemberUpdateManyActive partyId userId patch =>
    cases patch <;> simp [admissionRegions, MemberPatch.region] at within
  | partyInviteCreate =>
    simp only [answer]
    split
    · exact ⟨rfl, rfl⟩
    · split <;> exact ⟨rfl, rfl⟩
  | partyInviteDecline | setLeaderLockNx | releaseLeaderLock | userUpdateLocationSharing
  | socketConnect =>
    simp only [answer]
    split <;> exact ⟨rfl, rfl⟩
  | _ => exact ⟨rfl, rfl⟩

variable {now : Time} {role : PartyRole} {other : PartyId} {request : StoreCall}

theorem activeCount_insertMember (unlisted : s.partyMembers.find? (partyId, userId) = none) :
    (s.insertMember partyId userId (newMember now role)).activeCount other =
      s.activeCount other + if other = partyId then 1 else 0 := by
  rw [activeCount, insertMember_partyMembers, count_insert unlisted,
    ← activeCount]
  simp [newMember, eq_comm]

theorem active_insertMember {member : UserId} (unlisted : s.partyMembers.find? (partyId, userId) = none) :
    (s.insertMember partyId userId (newMember now role)).Active other member ↔
      (other, member) = (partyId, userId) ∨ s.Active other member := by
  rw [← activeRole_isSome, activeRole_insertMember unlisted, ← activeRole_isSome]
  split
  · rename_i here
    simp [here]
  · rename_i elsewhere
    simp [elsewhere]

theorem active_rejoin (active : s.Active partyId userId) {other : PartyId} {member : UserId} :
    (s.patchMember partyId userId .rejoin).Active other member ↔ s.Active other member := by
  obtain ⟨row, found, present⟩ := active
  rw [← activeRole_isSome, activeRole_patchMember_rejoin found,
    ← activeRole_isSome]
  split
  · rename_i here
    cases here
    rw [activeRole_eq_some.mpr ⟨row, found, present, rfl⟩]
  · rfl

theorem activeCount_rejoin (active : s.Active partyId userId) (other : PartyId) :
    (s.patchMember partyId userId .rejoin).activeCount other = s.activeCount other := by
  obtain ⟨row, found, present⟩ := active
  rw [activeCount, patchMember_partyMembers]
  refine count_modifyWhere _ _ _ _ fun key stored read hit => ?_
  obtain rfl : key = (partyId, userId) := of_decide_eq_true hit
  rw [found] at read
  cases read
  simp [MemberPatch.apply, present]

theorem State.WithinLimits.of_same {s' : State} (limits : s.WithinLimits)
    (count : ∀ partyId, s'.activeCount partyId = s.activeCount partyId)
    (active : ∀ partyId userId, s'.Active partyId userId ↔ s.Active partyId userId)
    (parties : s'.parties = s.parties) : s'.WithinLimits := by
  refine ⟨fun partyId party found => ?_, fun userId first second => ?_⟩
  · rw [count]
    exact limits.capacity partyId party (parties ▸ found)
  · rw [active, active, open_congr parties, open_congr parties]
    exact limits.single userId first second

theorem withinLimits_insertMember_iff {party : Party} (limits : s.WithinLimits)
    (found : s.parties.find? partyId = some party)
    (unlisted : s.partyMembers.find? (partyId, userId) = none) :
    (s.insertMember partyId userId (newMember now role)).WithinLimits ↔
      s.activeCount partyId < party.maxMembers ∧ (s.Open partyId → s.Unattached userId) := by
  have absent : ¬ s.Active partyId userId := by
    rintro ⟨row, listed, -⟩
    rw [unlisted] at listed
    cases listed
  have running (other : PartyId) :
      (s.insertMember partyId userId (newMember now role)).Open other ↔ s.Open other :=
    open_congr rfl
  constructor
  · intro later
    refine ⟨?_, fun standing other active open' => ?_⟩
    · have within := later.capacity partyId party found
      rw [activeCount_insertMember unlisted, if_pos rfl] at within
      exact within
    · have same := later.single userId other partyId
        ((active_insertMember unlisted).mpr (.inr active)) ((running other).mpr open')
        ((active_insertMember unlisted).mpr (.inl rfl)) ((running partyId).mpr standing)
      exact absent (same ▸ active)
  · rintro ⟨space, free⟩
    refine ⟨fun other stored read => ?_, fun member first second => ?_⟩
    · rw [activeCount_insertMember unlisted]
      by_cases here : other = partyId
      · subst here
        rw [insertMember_parties, found] at read
        cases read
        rw [if_pos rfl]
        exact space
      · rw [if_neg here]
        exact limits.capacity other stored read
    · rw [active_insertMember unlisted, active_insertMember unlisted, running, running]
      rintro (here | active) standing (there | present) open'
      · exact (Prod.mk.inj here).1.trans (Prod.mk.inj there).1.symm
      · obtain ⟨rfl, rfl⟩ := Prod.mk.inj here
        exact absurd open' (free standing second present)
      · obtain ⟨rfl, rfl⟩ := Prod.mk.inj there
        exact absurd standing (free open' first active)
      · exact limits.single member first second active standing present open'

/-- A party of a new name has no members. -/
theorem activeCount_fresh (foreignKey : s.ForeignKey) (fresh : s.parties.find? partyId = none) :
    s.activeCount partyId = 0 := by
  rw [activeCount, count, List.countP_eq_zero]
  rintro ⟨⟨other, member⟩, row⟩ listed hit
  simp only [Bool.and_eq_true, decide_eq_true_eq] at hit
  obtain ⟨rfl, -⟩ := hit
  have stored := foreignKey other member
    (Option.isSome_of_eq_some ((mem_entries_iff _).mp listed))
  rw [fresh] at stored
  cases stored

theorem withinLimits_insertParty_iff {dto : CreatePartyDto} (limits : s.WithinLimits) (foreignKey : s.ForeignKey)
    (fresh : s.parties.find? partyId = none) (unlisted : s.partyMembers.find? (partyId, userId) = none) :
    (s.insertParty partyId userId dto).WithinLimits ↔ s.Unattached userId := by
  have running (other : PartyId) :
      (s.insertParty partyId userId dto).Open other ↔ s.Open other ∨ other = partyId :=
    open_opened fresh
  have shut : ¬ s.Open partyId := by
    rintro ⟨party, found, -⟩
    rw [fresh] at found
    cases found
  have active (other : PartyId) (member : UserId) :
      (s.insertParty partyId userId dto).Active other member ↔
        (other, member) = (partyId, userId) ∨ s.Active other member :=
    active_insertMember unlisted
  have count (other : PartyId) : (s.insertParty partyId userId dto).activeCount other =
      s.activeCount other + if other = partyId then 1 else 0 :=
    activeCount_insertMember unlisted
  constructor
  · intro later other present standing
    have same := later.single userId other partyId ((active other userId).mpr (.inr present))
      ((running other).mpr (.inl standing)) ((active partyId userId).mpr (.inl rfl))
      ((running partyId).mpr (.inr rfl))
    exact shut (same ▸ standing)
  · intro free
    refine ⟨fun other stored read => ?_, fun member first second => ?_⟩
    · rw [count]
      rw [insertParty_parties, find?_insert] at read
      by_cases here : other = partyId
      · subst here
        rw [if_pos ⟨rfl, fresh⟩] at read
        cases read
        rw [if_pos rfl, activeCount_fresh foreignKey fresh]
        have range := dto.maxMembers_range.1
        show 0 + 1 ≤ dto.maxMembers
        omega
      · rw [if_neg fun both => here both.1] at read
        rw [if_neg here]
        exact limits.capacity other stored read
    · rw [active, active, running, running]
      -- nobody is active in the new party but its founder, who was in no other
      have absent : ¬ s.Active partyId member := by
        rintro ⟨row, listed, -⟩
        have stored := foreignKey partyId member (Option.isSome_of_eq_some listed)
        rw [fresh] at stored
        cases stored
      rintro (here | before) standing (there | present) open'
      · exact (Prod.mk.inj here).1.trans (Prod.mk.inj there).1.symm
      · obtain ⟨rfl, rfl⟩ := Prod.mk.inj here
        rcases open' with open' | rfl
        · exact absurd open' (free second present)
        · rfl
      · obtain ⟨rfl, rfl⟩ := Prod.mk.inj there
        rcases standing with standing | rfl
        · exact absurd standing (free first before)
        · rfl
      · rcases standing with standing | rfl
        · rcases open' with open' | rfl
          · exact limits.single member first second before standing present open'
          · exact absurd present absent
        · exact absurd before absent

/-- **A call of an admission keeps the limits exactly when the row it inserts
fits.** -/
theorem withinLimits_answer_iff (admits : Admits request s) (limits : s.WithinLimits)
    (foreignKey : s.ForeignKey) : (answer request s).2.WithinLimits ↔ InsertionFits request s := by
  cases request with
  | createPartyTransaction partyId leaderId dto =>
    simp only [answer, InsertionFits]
    split
    · rename_i taken
      refine iff_of_true limits fun fresh unlisted => ?_
      simp [fresh, unlisted] at taken
    · rename_i free
      simp only [Bool.or_eq_true, Option.isSome_iff_ne_none, not_or, not_not] at free
      split
      · rename_i unknown
        exact iff_of_true limits fun _ _ known => absurd (by simpa using unknown) known
      · rename_i known
        rw [withinLimits_insertParty_iff limits foreignKey free.1 free.2]
        exact ⟨fun unattached _ _ _ => unattached,
          fun fits => fits free.1 free.2 (by simpa using known)⟩
  | partyMemberCreate partyId userId role =>
    simp only [answer, InsertionFits]
    split
    · rename_i taken
      refine iff_of_true limits fun party found unlisted => ?_
      simp [unlisted] at taken
    · rename_i unlisted
      rw [Option.isSome_iff_ne_none, not_not] at unlisted
      cases found : s.parties.find? partyId with
      | none => simpa using limits
      | some party =>
        cases known : s.users userId with
        | none => simpa using limits
        | some user =>
          simp only [Option.isNone_some, Bool.or_self, Bool.false_eq_true, if_false]
          rw [withinLimits_insertMember_iff limits found unlisted]
          exact ⟨fun fits stored read _ _ => by cases read; exact fits,
            fun fits => fits party rfl unlisted (by simp)⟩
  | partyMemberUpdate partyId userId patch =>
    obtain ⟨rfl, active⟩ := admits
    refine iff_of_true ?_ trivial
    obtain ⟨row, found, -⟩ := id active
    simp only [answer, found]
    exact limits.of_same (activeCount_rejoin active) (fun _ _ => active_rejoin active) rfl
  | _ =>
    obtain ⟨members, parties⟩ := answer_keepsTables admits s
    refine iff_of_true (limits.of_same (fun _ => ?_) (fun _ _ => active_congr members)
      parties) trivial
    simp only [activeCount, members]

theorem foreignKey_answer (admits : Admits request s) (foreignKey : s.ForeignKey) :
    (answer request s).2.ForeignKey := by
  cases request with
  | createPartyTransaction partyId leaderId dto =>
    simp only [answer]
    split
    · exact foreignKey
    · rename_i free
      simp only [Bool.or_eq_true, Option.isSome_iff_ne_none, not_or, not_not] at free
      split
      · exact foreignKey
      · exact foreignKey.insertParty free.1
  | partyMemberCreate partyId userId role =>
    simp only [answer]
    split
    · exact foreignKey
    · split
      · exact foreignKey
      · rename_i known
        simp only [Bool.or_eq_true, Option.isNone_iff_eq_none, not_or] at known
        obtain ⟨party, found⟩ := Option.ne_none_iff_exists'.mp known.1
        exact foreignKey.insertMember found
  | partyMemberUpdate partyId userId patch =>
    simp only [answer]
    split
    · exact foreignKey
    · intro other member listed
      refine foreignKey other member ?_
      rw [patchMember_partyMembers, find?_modify] at listed
      split at listed
      · simpa using listed
      · exact listed
  | _ =>
    obtain ⟨members, parties⟩ := answer_keepsTables admits s
    intro other member listed
    rw [members] at listed
    rw [parties]
    exact foreignKey other member listed

theorem staysActive_answer (request : StoreCall) (s : State) (admits : Admits request s) :
    StaysActive s (answer request s).2 := by
  intro other member active
  cases request with
  | createPartyTransaction partyId leaderId dto =>
    simp only [answer]
    split
    · exact active
    · rename_i free
      simp only [Bool.or_eq_true, Option.isSome_iff_ne_none, not_or, not_not] at free
      split
      · exact active
      · exact (active_insertMember free.2).mpr (.inr active)
  | partyMemberCreate partyId userId role =>
    simp only [answer]
    split
    · exact active
    · rename_i unlisted
      rw [Option.isSome_iff_ne_none, not_not] at unlisted
      split
      · exact active
      · exact (active_insertMember unlisted).mpr (.inr active)
  | partyMemberUpdate partyId userId patch =>
    obtain ⟨rfl, here⟩ := admits
    obtain ⟨row, found, -⟩ := id here
    simp only [answer, found]
    exact (active_rejoin here).mpr active
  | _ => exact (active_congr (answer_keepsTables admits s).1).mpr active

/-! ## What admissions send -/

/-- The program sends what an admission may send, whatever the others do. -/
abbrev AdmitsAll {Value : Type} (flow : Flow Value) (s : State) : Prop :=
  flow.Promises answer StaysActive Admits s

theorem AdmitsAll.bind {First Second : Type} {flow : Flow First} {next : First → Flow Second}
    (first : AdmitsAll flow s) (rest : ∀ value later, StaysActive s later →
      AdmitsAll (next value) later) : AdmitsAll (flow >>= next) s :=
  Promises.bind StaysActive.refl StaysActive.trans staysActive_answer first rest

theorem admits_of_regions (within : request.regions ⊆ admissionRegions) (s : State) : Admits request s := by
  cases request with
  | partyMemberUpdate partyId userId patch =>
    cases patch <;> simp [admissionRegions, MemberPatch.region] at within
  | createPartyTransaction | partyMemberCreate => trivial
  | _ => exact within

theorem admitsAll_of_writes {Value : Type} {flow : Flow Value} {allowed : List Region}
    (writes : flow.Writes allowed) (within : allowed ⊆ admissionRegions) (s : State) : AdmitsAll flow s :=
  Uses.promises writes
    (fun _ regions s => admits_of_regions (List.Subset.trans regions within) s) s

/-- An existing row is touched only when the rows that were read held it as an
active one, and it is active still. -/
theorem admitsAll_writeMembership {found : PartyWithMembers}
    (seen : (found.activeMembers.any fun entry => decide (entry.1 = userId)) = true →
      s.Active partyId userId) : AdmitsAll (writeMembership userId partyId found) s := by
  unfold writeMembership
  split
  · rename_i present
    refine AdmitsAll.bind (fun later stays => ⟨⟨rfl, stays _ _ (seen present)⟩, trivial⟩) ?_
    intro updated later stays
    exact admitsAll_of_writes (rethrow_writes updated []) (by simp) later
  · refine AdmitsAll.bind (fun later stays => ⟨trivial, trivial⟩) fun created later stays => ?_
    exact admitsAll_of_writes (rethrow_writes created []) (by simp) later

theorem admitsAll_of_reads {Value : Type} {flow : Flow Value} (reads : flow.Writes []) (s : State) :
    AdmitsAll flow s :=
  admitsAll_of_writes reads (List.nil_subset _) s

theorem admitsAll_createParty (leaderId : UserId) (partyId : PartyId) (dto : CreatePartyDto)
    (s : State) : AdmitsAll (createParty leaderId partyId dto) s := by
  refine AdmitsAll.bind (admitsAll_of_writes (incrementActionCount_writes _ _)
    (by simp [admissionRegions]) s) fun count later _ => ?_
  refine AdmitsAll.bind (admitsAll_of_reads (by simp) later) fun _ later _ => ?_
  refine AdmitsAll.bind (admitsAll_of_reads (by simp [findActivePartyForUser]) later)
    fun existing later _ => ?_
  cases existing with
  | some other => trivial
  | none =>
    refine AdmitsAll.bind (admitsAll_of_reads (requireRoute_writes _) later) fun _ later _ => ?_
    refine AdmitsAll.bind (fun _ _ => ⟨trivial, trivial⟩) fun created later _ => ?_
    refine AdmitsAll.bind (admitsAll_of_reads (rethrow_writes created []) later)
      fun party later _ => ?_
    exact AdmitsAll.bind (fun _ _ => ⟨by simp [Admits, admissionRegions], trivial⟩)
      fun _ _ _ => trivial

theorem admitsAll_joinParty (userId : UserId) (partyId : PartyId) (s : State) :
    AdmitsAll (joinParty userId partyId) s := by
  unfold joinParty
  rw [call_bind]
  intro first _
  refine ⟨by simp [Admits, admissionRegions], ?_⟩
  simp only [answer, done_bind]
  cases found : first.parties.find? partyId with
  | none => trivial
  | some party =>
    -- what the rows that were read say of the user stays true
    have seen (later : State) (stays : StaysActive first later) :
        ((snapshot first partyId party).activeMembers.any fun entry =>
          decide (entry.1 = userId)) = true → later.Active partyId userId :=
      fun present => stays _ _ (any_activeMembers.mp present)
    have admitted (later : State) (stays : StaysActive first later) :
        AdmitsAll (requireInvite userId partyId party >>= fun _ =>
          joinAdmitted userId partyId (snapshot first partyId party)) later := by
      refine AdmitsAll.bind (admitsAll_of_reads (requireInvite_writes ..) later)
        fun _ next moved => ?_
      refine AdmitsAll.bind (admitsAll_writeMembership (seen next (stays.trans _ _ _ moved)))
        fun member last _ => ?_
      exact admitsAll_of_writes (completeJoin_writes ..) (by simp [admissionRegions]) last
    refine AdmitsAll.bind (admitsAll_of_reads (by simp) first) fun _ second toSecond => ?_
    refine AdmitsAll.bind (admitsAll_of_reads (by simp) second) fun _ third toThird => ?_
    refine AdmitsAll.bind (admitsAll_of_reads (by simp [findActivePartyForUser]) third)
      fun other fourth toFourth => ?_
    have toHere : StaysActive first fourth :=
      (toSecond.trans _ _ _ toThird).trans _ _ _ toFourth
    cases other with
    | none => exact admitted fourth toHere
    | some membership =>
      refine AdmitsAll.bind (admitsAll_of_reads (by simp) fourth) fun _ fifth toFifth => ?_
      exact admitted fifth (toHere.trans _ _ _ toFifth)

theorem admitsAll_program (admission : Admission) (s : State) : AdmitsAll admission.program s := by
  cases admission with
  | join userId partyId => exact (admitsAll_joinParty userId partyId s).bind fun _ _ _ => trivial
  | create leaderId partyId dto =>
    exact (admitsAll_createParty leaderId partyId dto s).bind fun _ _ _ => trivial

end

/-! ## Interleavings -/

section Pool

variable {Index : Type} [DecidableEq Index]

/-- What holds in an interleaving of admissions while its limits hold. -/
structure Orderly (pool : Pool Index StoreCall StoreReply ServiceError Unit State) : Prop where
  admits : pool.AllPromise answer StaysActive Admits
  foreignKey : pool.store.ForeignKey
  limits : pool.store.WithinLimits

theorem Orderly.limits_iff {pool : Pool Index StoreCall StoreReply ServiceError Unit State}
    (orderly : Orderly pool) {index : Index} {request : StoreCall} (here : pool.next? index = some request) :
    (pool.advance answer index).store.WithinLimits ↔ InsertionFits request pool.store := by
  rw [store_advance here]
  exact withinLimits_answer_iff (orderly.admits.obliged_next StaysActive.refl index request here)
    orderly.limits orderly.foreignKey

theorem Orderly.advance {pool : Pool Index StoreCall StoreReply ServiceError Unit State} (orderly : Orderly pool)
    (index : Index) (fits : pool.Obliged InsertionFits index) : Orderly (pool.advance answer index) := by
  cases here : pool.next? index with
  | none => rwa [store_advance_of_none here]
  | some request =>
    refine ⟨orderly.admits.advance StaysActive.refl StaysActive.trans staysActive_answer index, ?_,
      (orderly.limits_iff here).mpr (fits request here)⟩
    rw [store_advance here]
    exact foreignKey_answer (orderly.admits.obliged_next StaysActive.refl index request here)
      orderly.foreignKey

/-- **The limits of the parties hold throughout an interleaving of admissions
exactly when every row fits where it is inserted.** -/
theorem limits_hold_iff (calls : Index → Admission) (s : State) (foreignKey : s.ForeignKey)
    (limits : s.WithinLimits) (schedule : List Index) :
    Throughout (advance answer) (fun pool => pool.store.WithinLimits) (admissions calls s)
        schedule ↔
      EachStep (advance answer) (Obliged InsertionFits) (admissions calls s) schedule := by
  have orderly : Orderly (admissions calls s) :=
    ⟨fun index => admitsAll_program (calls index) s, foreignKey, limits⟩
  refine throughout_iff_eachStep (fun pool (held : Orderly pool) => held.limits)
    (fun pool index held fits => held.advance index fits) (fun pool index held unfit later => ?_)
    orderly schedule
  refine unfit fun request here => ?_
  exact (held.limits_iff here).mp later

end Pool

/-- A rider creates a party while another one joins it. -/
theorem limits_hold_small :
    Throughout (advance answer) (fun pool => pool.store.WithinLimits)
        (admissions (fun late : Bool => if late then .join 2 10 else .create 1 10 smallParty)
          smallInstallation) [false, false, false, false, true, true, true, false] ↔
      EachStep (advance answer) (Obliged InsertionFits)
        (admissions (fun late : Bool => if late then .join 2 10 else .create 1 10 smallParty)
          smallInstallation) [false, false, false, false, true, true, true, false] := by
  refine limits_hold_iff _ _ (fun _ _ listed => ?_) ⟨fun _ _ found => ?_, fun _ _ _ active => ?_⟩ _
  · cases listed
  · cases found
  · obtain ⟨row, found, -⟩ := active
    cases found

/-- Two parties that rider 2 can join. -/
def twoParties : State :=
  follow step smallInstallation [.createParty 1 10 smallParty, .createParty 3 11 smallParty]

/-- Rider 2 joins both at the same time: each call reads before the other one
inserts. -/
theorem user_in_two_parties :
    ¬ Throughout (advance answer) (fun pool => pool.store.WithinLimits)
      (admissions (fun second : Bool => .join 2 (if second then 11 else 10)) twoParties)
      [false, false, true, true, false, true] := by
  intro holds
  have single := holds.last.single 2 10 11 (by decide +kernel) (by decide +kernel)
    (by decide +kernel) (by decide +kernel)
  exact absurd single (by decide)

end Motogram
