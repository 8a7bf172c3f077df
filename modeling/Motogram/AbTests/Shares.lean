import Mathlib.Order.Interval.Finset.Nat
import Motogram.AbTests.Stickiness

/-!
# The shares of the variants

Of the buckets below the sum of the weights each variant takes as many as its weight, from where the
variants before it end (`pickFrom_eq_iff`). So every bucket is taken, and the last variant is never
picked for want of another (`pickFrom_isSome`).
-/

set_option autoImplicit false

namespace Motogram.AbTests

variable {bucket cum : Nat} {variant : AbTestVariant} {variants before after : List AbTestVariant}

theorem totalWeight_cons (variant : AbTestVariant) (rest : List AbTestVariant) :
    totalWeight (variant :: rest) = variant.weight + totalWeight rest := List.sum_cons

theorem pickFrom_isSome (from' : cum ≤ bucket) (below : bucket < cum + totalWeight variants) :
    (pickFrom bucket cum variants).isSome := by
  induction variants generalizing cum with
  | nil => exact absurd below (Nat.not_lt.mpr from')
  | cons variant rest ih =>
    rw [pickFrom]
    split
    · rfl
    · rename_i later
      rw [totalWeight_cons, ← Nat.add_assoc] at below
      exact ih (Nat.not_lt.mp later) below

/-- **The share of a variant begins where the shares before it end.** -/
theorem pickFrom_eq_iff (distinct : ((before ++ variant :: after).map AbTestVariant.id).Nodup)
    (from' : cum ≤ bucket) :
    pickFrom bucket cum (before ++ variant :: after) = some variant.id ↔
      cum + totalWeight before ≤ bucket ∧ bucket < cum + totalWeight before + variant.weight := by
  induction before generalizing cum with
  | nil =>
    change (if bucket < cum + variant.weight then some variant.id else _) = _ ↔
      cum ≤ bucket ∧ bucket < cum + variant.weight
    by_cases here : bucket < cum + variant.weight
    · rw [if_pos here]
      exact iff_of_true rfl ⟨from', here⟩
    · rw [if_neg here]
      refine iff_of_false (fun picks => ?_) fun both => here both.2
      exact (List.nodup_cons.mp distinct).1 (pickFrom_mem picks)
  | cons first rest ih =>
    obtain ⟨other, distinct⟩ := List.nodup_cons.mp distinct
    rw [List.cons_append, pickFrom, totalWeight_cons, ← Nat.add_assoc]
    by_cases here : bucket < cum + first.weight
    · rw [if_pos here]
      refine iff_of_false (fun same => other ?_) fun both => by omega
      rw [Option.some.inj same]
      exact List.mem_map_of_mem (List.mem_append_right rest (List.mem_cons_self ..))
    · rw [if_neg here]
      exact ih distinct (Nat.not_lt.mp here)

def bucketOf (sha1 : String → BitVec 160) (config : AbTestConfig) (userId : String) : Nat :=
  ((sha1 (config.key ++ ":" ++ userId)).extractLsb' 128 32).toNat % totalWeight config.variants

/-- **Each variant is picked for as many buckets as its weight**, one after the other in the order of the
variants, and every user falls into the share of the variant that is picked. -/
theorem pickVariant_shares (sha1 : String → BitVec 160) (config : AbTestConfig) (nonempty : config.variants ≠ [])
    (distinct : (config.variants.map AbTestVariant.id).Nodup)
    (positive : ∀ variant ∈ config.variants, 0 < variant.weight) :
    (∀ userId, pickFrom (bucketOf sha1 config userId) 0 config.variants = some (pickVariant sha1 config userId)) ∧
      (∀ bucket < totalWeight config.variants, (pickFrom bucket 0 config.variants).isSome) ∧
      ∀ before variant after, config.variants = before ++ variant :: after →
        (Finset.range (totalWeight config.variants)).filter
            (fun bucket => pickFrom bucket 0 config.variants = some variant.id) =
          Finset.Ico (totalWeight before) (totalWeight before + variant.weight) ∧
        ((Finset.range (totalWeight config.variants)).filter
          fun bucket => pickFrom bucket 0 config.variants = some variant.id).card = variant.weight := by
  have taken : ∀ bucket < totalWeight config.variants, (pickFrom bucket 0 config.variants).isSome :=
    fun bucket below => pickFrom_isSome (Nat.zero_le _) (by rwa [Nat.zero_add])
  refine ⟨fun userId => ?_, taken, fun before variant after split => ?_⟩
  · have total : 0 < totalWeight config.variants := by
      obtain ⟨first, rest, variants⟩ := List.exists_cons_of_ne_nil nonempty
      rw [variants]
      exact Nat.add_pos_left (positive first (by rw [variants]; exact List.mem_cons_self ..)) _
    obtain ⟨picked, picks⟩ := Option.isSome_iff_exists.mp (taken (bucketOf sha1 config userId) (Nat.mod_lt _ total))
    change _ = some ((pickFrom (bucketOf sha1 config userId) 0 config.variants).getD _)
    rw [picks, Option.getD_some]
  · have total : totalWeight config.variants = totalWeight before + (variant.weight + totalWeight after) := by
      rw [split, totalWeight, List.map_append, List.sum_append]
      rfl
    have share : (Finset.range (totalWeight config.variants)).filter
        (fun bucket => pickFrom bucket 0 config.variants = some variant.id) =
          Finset.Ico (totalWeight before) (totalWeight before + variant.weight) := by
      ext bucket
      rw [split] at distinct
      rw [Finset.mem_filter, Finset.mem_range, Finset.mem_Ico, split,
        pickFrom_eq_iff distinct (Nat.zero_le _), ← split]
      omega
    exact ⟨share, by rw [share, Nat.card_Ico, Nat.add_sub_cancel_left]⟩

theorem pickVariant_shares_small :
    (Finset.range 100).filter (fun bucket => pickFrom bucket 0 [⟨"A", 30, none⟩, ⟨"B", 70, none⟩] = some "B") =
      Finset.Ico 30 100 := by
  have shares := pickVariant_shares (fun _ => 0) ⟨"feed", none, [⟨"A", 30, none⟩, ⟨"B", 70, none⟩], true, none, none⟩
    (by decide) (by decide) (by decide)
  exact (shares.2.2 [⟨"A", 30, none⟩] ⟨"B", 70, none⟩ [] rfl).1

end Motogram.AbTests
