import Mathlib.Data.List.Nodup
import Mathlib.Data.List.Perm.Basic
import Mathlib.Order.Lattice

/-!
# A limit that stands before a filter

A list in ascending rank is cut at a limit, and what is left is filtered. What passes is in
order and among the nearest of what could have passed; but hidden items count towards the
limit, so what passes can be too little. `nearest_take_iff` says when it is not: when no
hidden item within the limit displaces a shown one beyond it (`Undisplaced`).
-/

set_option autoImplicit false

namespace Motogram.Foundation

open List

variable {Item Shown Rank : Type}

/-- Either everything within the limit is shown, or nothing beyond it is. -/
def Undisplaced (shows : Item → Option Shown) (limit : Nat) (items : List Item) : Prop :=
  (∀ item ∈ items.take limit, (shows item).isSome = true) ∨
    ∀ item ∈ items.drop limit, shows item = none

instance (shows : Item → Option Shown) (limit : Nat) (items : List Item) :
    Decidable (Undisplaced shows limit items) :=
  have : DecidablePred fun item => shows item = none := fun _ =>
    decidable_of_iff _ Option.isNone_iff_eq_none
  inferInstanceAs (Decidable (_ ∨ _))

theorem length_filterMap_eq_iff {shows : Item → Option Shown} {items : List Item} :
    (items.filterMap shows).length = items.length ↔ ∀ item ∈ items, (shows item).isSome = true := by
  induction items with
  | nil => simp
  | cons item items ih =>
    have bound := length_filterMap_le shows items
    rw [filterMap_cons, forall_mem_cons]
    cases shows item with
    | none => simp; omega
    | some shown => simp [ih]

/-- **What passes is as much as the limit allows exactly when nothing is displaced.** -/
theorem length_take_filterMap_iff {shows : Item → Option Shown} {limit : Nat} {items : List Item} :
    ((items.take limit).filterMap shows).length = min limit (items.filterMap shows).length ↔
      Undisplaced shows limit items := by
  have parts : (items.filterMap shows).length =
      ((items.take limit).filterMap shows).length + ((items.drop limit).filterMap shows).length := by
    rw [← length_append, ← filterMap_append, take_append_drop]
  have bound := length_filterMap_le shows (items.take limit)
  have beyond := length_filterMap_le shows (items.drop limit)
  have taken := length_take (i := limit) (l := items)
  have dropped := length_drop (i := limit) (l := items)
  rw [Undisplaced, ← length_filterMap_eq_iff, ← filterMap_eq_nil_iff, ← length_eq_zero_iff]
  omega

variable [LinearOrder Rank]

structure Nearest (rank : Shown → Rank) (candidates : List Shown) (limit : Nat)
    (chosen : List Shown) : Prop where
  ordered : chosen.Pairwise fun first second => rank first ≤ rank second
  distinct : chosen.Nodup
  among : chosen ⊆ candidates
  full : chosen.length = min limit candidates.length
  nearest : ∀ kept ∈ chosen, ∀ other ∈ candidates, other ∉ chosen → rank kept ≤ rank other

variable {rank : Shown → Rank} {shows : Item → Option Shown} {itemRank : Item → Rank}
  {items : List Item} {candidates chosen : List Shown} {limit : Nat}

theorem pairwise_filterMap_take (agrees : ∀ item shown, shows item = some shown → rank shown = itemRank item)
    (ordered : items.Pairwise fun first second => itemRank first ≤ itemRank second) (limit : Nat) :
    ((items.take limit).filterMap shows).Pairwise fun first second => rank first ≤ rank second := by
  rw [pairwise_filterMap]
  refine (ordered.sublist (take_sublist limit items)).imp ?_
  intro first second below shown passed shown' passed'
  rw [agrees _ shown passed, agrees _ shown' passed']
  exact below

/-- **A limit before the filter leaves the nearest exactly when no hidden item displaces a
shown one.** The order of the candidates does not matter. -/
theorem nearest_take_iff (agrees : ∀ item shown, shows item = some shown → rank shown = itemRank item)
    (ordered : items.Pairwise fun first second => itemRank first ≤ itemRank second)
    (all : (items.filterMap shows).Perm candidates) (distinct : candidates.Nodup)
    (same : ((items.take limit).filterMap shows).Perm chosen)
    (sorted : chosen.Pairwise fun first second => rank first ≤ rank second) :
    Nearest rank candidates limit chosen ↔ Undisplaced shows limit items := by
  have count : ((items.take limit).filterMap shows).length = min limit (items.filterMap shows).length ↔
      Undisplaced shows limit items := length_take_filterMap_iff
  rw [all.length_eq, same.length_eq] at count
  refine ⟨fun nearest => count.mp nearest.full, fun undisplaced => ?_⟩
  have inside : ((items.take limit).filterMap shows).Sublist (items.filterMap shows) :=
    (take_sublist limit items).filterMap shows
  refine ⟨sorted, ?_, ?_, count.mpr undisplaced, ?_⟩
  · exact same.nodup_iff.mp ((all.nodup_iff.mpr distinct).sublist inside)
  · intro kept passed
    exact all.mem_iff.mp (inside.subset (same.mem_iff.mpr passed))
  · intro kept passed other candidate apart
    obtain ⟨item, taken, shown⟩ := mem_filterMap.mp (same.mem_iff.mpr passed)
    obtain ⟨item', listed, shown'⟩ := mem_filterMap.mp (all.mem_iff.mpr candidate)
    rw [← take_append_drop limit items] at listed ordered
    rcases mem_append.mp listed with within | beyond
    · exact absurd (same.mem_iff.mp (mem_filterMap.mpr ⟨item', within, shown'⟩)) apart
    · rw [agrees item kept shown, agrees item' other shown']
      exact (pairwise_append.mp ordered).2.2 item taken item' beyond

theorem nearest_nil_iff : Nearest rank candidates limit [] ↔ limit = 0 ∨ candidates = [] := by
  constructor
  · intro nearest
    have full := nearest.full
    rw [length_nil, eq_comm, Nat.min_eq_zero_iff] at full
    exact full.imp_right length_eq_zero_iff.mp
  · intro none
    refine ⟨.nil, .nil, nil_subset _, ?_, fun kept listed => absurd listed not_mem_nil⟩
    rw [length_nil, eq_comm, Nat.min_eq_zero_iff]
    exact none.imp_right length_eq_zero_iff.mpr

end Motogram.Foundation
