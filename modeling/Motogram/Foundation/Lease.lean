import Mathlib.Logic.Function.Basic
import Mathlib.Data.Option.Basic

/-!
# Leases that are told apart by their value

A key holds a value until a deadline. Taking the lease writes a value when the key is not live. Giving it back
deletes the key when it holds the value that is given back. Nothing else tells two takings apart: when two of
them write the same value, one can delete the key of the other.

The ledger notes who is between taking and giving, who wrote each key last, and every deletion of a key by
somebody else than its writer. While nobody gives back a value that another taker is holding live under the
same key, a live taker holds its key (`Sound.step`); so of two takers inside with one key the first has
expired (`Sound.apart`). A step outside this condition deletes the key of another (`Sound.strays_of_untimely`).
-/

set_option autoImplicit false

namespace Motogram.Foundation

open Function

variable {Index Resource Value : Type}

/-- A taker between taking and giving: the key, the value written and the deadline. -/
structure Tenure (Resource Value : Type) where
  resource : Resource
  value : Value
  deadline : Nat
  deriving DecidableEq

/-- Who is inside, who wrote each key last, and who deleted a key of whom. -/
structure Ledger (Index Resource Value : Type) where
  inside : Index → Option (Tenure Resource Value)
  writer : Resource → Option Index
  strays : List (Index × Option Index)

/-- The clock, the keys, each with its deadline if it has one, and the ledger. -/
structure Lease (Index Resource Value : Type) where
  now : Nat
  key : Resource → Option (Value × Option Nat)
  ledger : Ledger Index Resource Value

/-- What happens to a lease. -/
inductive LeaseEvent (Index Resource Value : Type) where
  | pass (time : Nat)
  | take (index : Index) (resource : Resource) (value : Value) (lifetime : Nat)
  | give (index : Index) (resource : Resource) (value : Value)

namespace Ledger

/-- Before the first event. -/
def empty : Ledger Index Resource Value := ⟨fun _ => none, fun _ => none, []⟩

end Ledger

namespace Lease

/-- The key as it is read: absent from its deadline on. -/
def live (lease : Lease Index Resource Value) (resource : Resource) : Option (Value × Option Nat) :=
  (lease.key resource).filter fun entry => entry.2.all fun deadline => decide (lease.now < deadline)

variable [DecidableEq Index] [DecidableEq Resource] [DecidableEq Value]

def taken (lease : Lease Index Resource Value) (index : Index) (resource : Resource) (value : Value)
    (lifetime : Nat) : Lease Index Resource Value where
  now := lease.now
  key := update lease.key resource (some (value, some (lease.now + lifetime)))
  ledger :=
    { inside := update lease.ledger.inside index (some ⟨resource, value, lease.now + lifetime⟩)
      writer := update lease.ledger.writer resource (some index)
      strays := lease.ledger.strays }

def deleted (lease : Lease Index Resource Value) (index : Index) (resource : Resource) :
    Lease Index Resource Value where
  now := lease.now
  key := update lease.key resource none
  ledger :=
    { inside := update lease.ledger.inside index none
      writer := update lease.ledger.writer resource none
      strays :=
        if lease.ledger.writer resource = some index then lease.ledger.strays
        else (index, lease.ledger.writer resource) :: lease.ledger.strays }

/-- A taker is no longer inside, and its key is left alone. -/
def withdrawn (lease : Lease Index Resource Value) (index : Index) : Lease Index Resource Value where
  now := lease.now
  key := lease.key
  ledger := { lease.ledger with inside := update lease.ledger.inside index none }

def step (lease : Lease Index Resource Value) : LeaseEvent Index Resource Value → Lease Index Resource Value
  | .pass time => { lease with now := lease.now + time }
  | .take index resource value lifetime =>
    if (lease.live resource).isSome then lease else lease.taken index resource value lifetime
  | .give index resource value =>
    if (lease.live resource).map Prod.fst = some value then lease.deleted index resource
    else lease.withdrawn index

/-- A taker takes when it is not inside, and gives back what it took. -/
def Orderly (lease : Lease Index Resource Value) : LeaseEvent Index Resource Value → Prop
  | .pass _ => True
  | .take index _ _ _ => lease.ledger.inside index = none
  | .give index resource value =>
    ∃ deadline, lease.ledger.inside index = some ⟨resource, value, deadline⟩

/-- Nobody gives back a value that another taker inside is holding live under the same key. -/
def Timely (lease : Lease Index Resource Value) : LeaseEvent Index Resource Value → Prop
  | .give index resource value => ∀ other tenure, other ≠ index → lease.ledger.inside other = some tenure →
      tenure.resource = resource → tenure.value = value → tenure.deadline ≤ lease.now
  | _ => True

/-- Whoever gives back deletes a key of its own only, and of two takers inside with one key the first has
expired. -/
structure Safe (lease : Lease Index Resource Value) : Prop where
  own : lease.ledger.strays = []
  apart : ∀ first second earlier later, first ≠ second → lease.ledger.inside first = some earlier →
    lease.ledger.inside second = some later → earlier.resource = later.resource →
      earlier.deadline ≤ later.deadline → earlier.deadline ≤ lease.now

/-- A taker who has not expired holds its key, and a live key is held by a taker inside, or nobody has taken
it. -/
structure Sound (lease : Lease Index Resource Value) : Prop where
  own : lease.ledger.strays = []
  holds : ∀ index tenure, lease.ledger.inside index = some tenure → lease.now < tenure.deadline →
    lease.live tenure.resource = some (tenure.value, some tenure.deadline) ∧
      lease.ledger.writer tenure.resource = some index
  held : ∀ resource entry, lease.live resource = some entry →
    (∀ index tenure, lease.ledger.inside index = some tenure → tenure.resource ≠ resource) ∨
      ∃ index tenure, lease.ledger.inside index = some tenure ∧ tenure.resource = resource ∧
        entry = (tenure.value, some tenure.deadline)

omit [DecidableEq Index] [DecidableEq Resource] [DecidableEq Value] in
theorem live_eq_some {lease : Lease Index Resource Value} {resource : Resource} {entry : Value × Option Nat} :
    lease.live resource = some entry ↔
      lease.key resource = some entry ∧ ∀ deadline, entry.2 = some deadline → lease.now < deadline := by
  rw [live, Option.filter_eq_some_iff]
  refine and_congr_right fun _ => ?_
  cases entry.2 with
  | none | some => simp

variable {lease : Lease Index Resource Value}

omit [DecidableEq Index] [DecidableEq Resource] [DecidableEq Value] in
theorem sound_of_empty (now : Nat) (key : Resource → Option (Value × Option Nat)) :
    Sound (⟨now, key, .empty⟩ : Lease Index Resource Value) where
  own := rfl
  holds := fun _ _ inside => nomatch inside
  held := fun _ _ _ => .inl fun _ _ inside => nomatch inside

namespace Sound

omit [DecidableEq Index] [DecidableEq Resource] [DecidableEq Value] in
/-- Two takers who have not expired cannot both have written the key. -/
theorem apart (sound : lease.Sound) {first second : Index} {earlier later : Tenure Resource Value}
    (different : first ≠ second) (inFirst : lease.ledger.inside first = some earlier)
    (inSecond : lease.ledger.inside second = some later) (same : earlier.resource = later.resource)
    (ordered : earlier.deadline ≤ later.deadline) : earlier.deadline ≤ lease.now := by
  by_contra running
  have firstWrote := (sound.holds first earlier inFirst (by omega)).2
  have secondWrote := (sound.holds second later inSecond (by omega)).2
  rw [← same, firstWrote] at secondWrote
  exact different (Option.some.inj secondWrote)

omit [DecidableEq Index] [DecidableEq Resource] [DecidableEq Value] in
theorem safe (sound : lease.Sound) : lease.Safe :=
  ⟨sound.own, fun _ _ _ _ different inFirst inSecond same ordered =>
    sound.apart different inFirst inSecond same ordered⟩

omit [DecidableEq Index] [DecidableEq Resource] [DecidableEq Value] in
/-- Time passes: what is live was live before. -/
theorem pass (sound : lease.Sound) (time : Nat) : Sound { lease with now := lease.now + time } := by
  refine ⟨sound.own, fun index tenure inside running => ?_, fun resource entry alive => ?_⟩
  · have earlier : lease.now < tenure.deadline := by
      have later : lease.now + time < tenure.deadline := running
      omega
    obtain ⟨alive, wrote⟩ := sound.holds index tenure inside earlier
    refine ⟨live_eq_some.mpr ⟨(live_eq_some.mp alive).1, ?_⟩, wrote⟩
    rintro deadline ⟨⟩
    exact running
  · obtain ⟨stored, running⟩ := live_eq_some.mp alive
    refine sound.held resource entry (live_eq_some.mpr ⟨stored, fun deadline ends => ?_⟩)
    have later : lease.now + time < deadline := running deadline ends
    omega

omit [DecidableEq Value] in
theorem taken (sound : lease.Sound) {index : Index} {resource : Resource} {value : Value} {lifetime : Nat}
    (outside : lease.ledger.inside index = none) (free : lease.live resource = none) :
    (lease.taken index resource value lifetime).Sound := by
  have expired : ∀ other tenure, lease.ledger.inside other = some tenure → tenure.resource = resource →
      tenure.deadline ≤ lease.now := by
    rintro other tenure inside rfl
    by_contra running
    rw [(sound.holds other tenure inside (by omega)).1] at free
    cases free
  refine ⟨sound.own, fun other tenure inside running => ?_, fun other entry alive => ?_⟩
  · replace running : lease.now < tenure.deadline := running
    by_cases same : other = index
    · subst same
      simp only [Lease.taken, update_self, Option.some.injEq] at inside
      subst inside
      refine ⟨live_eq_some.mpr ⟨update_self .., ?_⟩, update_self ..⟩
      rintro deadline ⟨⟩
      exact running
    · simp only [Lease.taken, update_of_ne same] at inside
      have elsewhere : tenure.resource ≠ resource := by
        intro clash
        have late := expired other tenure inside clash
        omega
      obtain ⟨alive, wrote⟩ := sound.holds other tenure inside running
      obtain ⟨stored, ends⟩ := live_eq_some.mp alive
      exact ⟨live_eq_some.mpr ⟨(update_of_ne elsewhere ..).trans stored, ends⟩,
        (update_of_ne elsewhere ..).trans wrote⟩
  · obtain ⟨stored, ends⟩ := live_eq_some.mp alive
    by_cases same : other = resource
    · subst same
      simp only [Lease.taken, update_self, Option.some.injEq] at stored
      exact .inr ⟨index, _, update_self .., rfl, stored.symm⟩
    · simp only [Lease.taken, update_of_ne same] at stored
      rcases sound.held other entry (live_eq_some.mpr ⟨stored, ends⟩) with
        nobody | ⟨taker, tenure, inside, holds⟩
      · refine .inl fun taker tenure inside => ?_
        by_cases new : taker = index
        · subst new
          simp only [Lease.taken, update_self, Option.some.injEq] at inside
          subst inside
          exact fun clash => same clash.symm
        · simp only [Lease.taken, update_of_ne new] at inside
          exact nobody taker tenure inside
      · have old : taker ≠ index := by
          rintro rfl
          rw [outside] at inside
          cases inside
        exact .inr ⟨taker, tenure, (update_of_ne old ..).trans inside, holds⟩

omit [DecidableEq Resource] [DecidableEq Value] in
/-- A taker who gives back and finds its value finds its own key. -/
theorem wrote (sound : lease.Sound) {index : Index} {tenure : Tenure Resource Value}
    (inside : lease.ledger.inside index = some tenure)
    (timely : lease.Timely (.give index tenure.resource tenure.value))
    (found : (lease.live tenure.resource).map Prod.fst = some tenure.value) :
    lease.ledger.writer tenure.resource = some index := by
  obtain ⟨entry, alive, value⟩ := Option.map_eq_some_iff.mp found
  rcases sound.held tenure.resource entry alive with nobody | ⟨taker, other, inOther, same, rfl⟩
  · exact absurd rfl (nobody index tenure inside)
  · have running : lease.now < other.deadline := (live_eq_some.mp alive).2 other.deadline rfl
    by_cases own : taker = index
    · subst own
      rw [← same]
      exact (sound.holds taker other inOther running).2
    · have late := timely taker other own inOther same value
      omega

omit [DecidableEq Value] in
/-- A taker deletes its own key. -/
theorem deleted (sound : lease.Sound) {index : Index} {tenure : Tenure Resource Value}
    (inside : lease.ledger.inside index = some tenure)
    (wrote : lease.ledger.writer tenure.resource = some index) : (lease.deleted index tenure.resource).Sound := by
  refine ⟨?_, fun other later inOther running => ?_, fun other entry alive => ?_⟩
  · simp only [Lease.deleted, if_pos wrote]
    exact sound.own
  · replace running : lease.now < later.deadline := running
    have different : other ≠ index := by
      rintro rfl
      simp only [Lease.deleted, update_self] at inOther
      cases inOther
    simp only [Lease.deleted, update_of_ne different] at inOther
    obtain ⟨alive, wroteOther⟩ := sound.holds other later inOther running
    have elsewhere : later.resource ≠ tenure.resource := by
      intro clash
      rw [clash, wrote] at wroteOther
      exact different (Option.some.inj wroteOther).symm
    obtain ⟨stored, ends⟩ := live_eq_some.mp alive
    exact ⟨live_eq_some.mpr ⟨(update_of_ne elsewhere ..).trans stored, ends⟩,
      (update_of_ne elsewhere ..).trans wroteOther⟩
  · obtain ⟨stored, ends⟩ := live_eq_some.mp alive
    have elsewhere : other ≠ tenure.resource := by
      rintro rfl
      simp only [Lease.deleted, update_self] at stored
      cases stored
    simp only [Lease.deleted, update_of_ne elsewhere] at stored
    rcases sound.held other entry (live_eq_some.mpr ⟨stored, ends⟩) with
      nobody | ⟨taker, later, inOther, same, holds⟩
    · refine .inl fun taker later inOther => ?_
      by_cases gone : taker = index
      · subst gone
        simp only [Lease.deleted, update_self] at inOther
        cases inOther
      · simp only [Lease.deleted, update_of_ne gone] at inOther
        exact nobody taker later inOther
    · have old : taker ≠ index := by
        rintro rfl
        rw [inside] at inOther
        cases inOther
        exact elsewhere same.symm
      exact .inr ⟨taker, later, (update_of_ne old ..).trans inOther, same, holds⟩

omit [DecidableEq Resource] [DecidableEq Value] in
/-- A taker who finds another value, or none, leaves the key alone. -/
theorem withdrawn (sound : lease.Sound) {index : Index} {tenure : Tenure Resource Value}
    (inside : lease.ledger.inside index = some tenure)
    (other : (lease.live tenure.resource).map Prod.fst ≠ some tenure.value) : (lease.withdrawn index).Sound := by
  refine ⟨sound.own, fun taker later inLater running => ?_, fun resource entry alive => ?_⟩
  · have different : taker ≠ index := by
      rintro rfl
      simp only [Lease.withdrawn, update_self] at inLater
      cases inLater
    simp only [Lease.withdrawn, update_of_ne different] at inLater
    exact sound.holds taker later inLater running
  · rcases sound.held resource entry alive with nobody | ⟨taker, later, inLater, same, rfl⟩
    · refine .inl fun taker later inLater => ?_
      by_cases gone : taker = index
      · subst gone
        simp only [Lease.withdrawn, update_self] at inLater
        cases inLater
      · simp only [Lease.withdrawn, update_of_ne gone] at inLater
        exact nobody taker later inLater
    · have old : taker ≠ index := by
        rintro rfl
        rw [inside] at inLater
        cases inLater
        have found : lease.live tenure.resource = some (tenure.value, some tenure.deadline) := by
          rw [same]
          exact alive
        rw [found] at other
        exact other rfl
      exact .inr ⟨taker, later, (update_of_ne old ..).trans inLater, same, rfl⟩

/-- **Orderly, timely events keep the lease sound.** -/
theorem step (sound : lease.Sound) {event : LeaseEvent Index Resource Value} (orderly : lease.Orderly event)
    (timely : lease.Timely event) : (lease.step event).Sound := by
  cases event with
  | pass time => exact sound.pass time
  | take index resource value lifetime =>
    rw [Lease.step]
    split
    · exact sound
    · rename_i free
      exact sound.taken orderly (Option.not_isSome_iff_eq_none.mp free)
  | give index resource value =>
    obtain ⟨deadline, inside⟩ := orderly
    rw [Lease.step]
    split
    · rename_i found
      exact sound.deleted inside (sound.wrote inside timely found)
    · rename_i other
      exact sound.withdrawn inside other

/-- **An untimely giving back deletes the key of another.** -/
theorem strays_of_untimely (sound : lease.Sound) {event : LeaseEvent Index Resource Value}
    (untimely : ¬ lease.Timely event) : (lease.step event).ledger.strays ≠ [] := by
  cases event with
  | give index resource value =>
    simp only [Timely, not_forall, Nat.not_le] at untimely
    obtain ⟨other, tenure, different, inside, rfl, rfl, running⟩ := untimely
    obtain ⟨alive, wrote⟩ := sound.holds other tenure inside running
    have stray : lease.ledger.writer tenure.resource ≠ some index := by
      rw [wrote]
      exact fun same => different (Option.some.inj same)
    rw [Lease.step, if_pos (by rw [alive]; rfl)]
    simp only [Lease.deleted, if_neg stray]
    exact List.cons_ne_nil _ _
  | _ => exact absurd trivial untimely

end Sound

end Lease

end Motogram.Foundation
