import Motogram.Foundation.Table

/-!
# Counters beside the rows they count

A counter is a column of one table, and what it counts are the rows of another that satisfy a
condition on the key of its own row. The drift of a counter is how far it is from that number; a
counter that is not there has none. Each way to change either table adds to the drift what it
adds to the counter, and takes from it what it adds to the rows.
-/

set_option autoImplicit false

namespace Motogram.Foundation.Table

variable {Kept Parent Key Row : Type} [DecidableEq Kept]

/-- How far a counter is from the number of its rows. -/
def drift (parents : Table Kept Parent) (counter : Parent → Int) (children : Table Key Row)
    (counts : Kept → Key → Row → Bool) (key : Kept) : Int :=
  match parents.find? key with
  | none => 0
  | some row => counter row - children.count (counts key)

variable {parents : Table Kept Parent} {counter : Parent → Int} {children : Table Key Row}
  {counts : Kept → Key → Row → Bool}

theorem drift_eq_zero_iff (key : Kept) : parents.drift counter children counts key = 0 ↔
    ∀ row, parents.find? key = some row → counter row = children.count (counts key) := by
  unfold drift
  cases parents.find? key with
  | none => simp
  | some row =>
    simp only [Option.some.injEq, forall_eq']
    omega

theorem drift_modify (parents : Table Kept Parent) (children : Table Key Row) (key : Kept)
    (change : Parent → Parent) (added : Int) (adds : ∀ row, counter (change row) = counter row + added)
    (present : (parents.find? key).isSome) (other : Kept) :
    (parents.modify key change).drift counter children counts other =
      parents.drift counter children counts other + if other = key then added else 0 := by
  unfold drift
  rw [find?_modify]
  by_cases same : other = key
  · subst same
    obtain ⟨row, found⟩ := Option.isSome_iff_exists.mp present
    rw [if_pos rfl, if_pos rfl, found, Option.map_some]
    dsimp only
    rw [adds]
    omega
  · rw [if_neg same, if_neg same, Int.add_zero]

theorem drift_modify_other (parents : Table Kept Parent) (children : Table Key Row) (key : Kept)
    (change : Parent → Parent) (same : ∀ row, counter (change row) = counter row) (other : Kept) :
    (parents.modify key change).drift counter children counts other =
      parents.drift counter children counts other := by
  unfold drift
  rw [find?_modify]
  by_cases here : other = key
  · rw [if_pos here]
    cases parents.find? other with
    | none => rfl
    | some row => simp only [Option.map_some, same]
  · rw [if_neg here]

theorem drift_insert (key : Kept) (row : Parent) (zero : counter row = 0)
    (nothing : parents.find? key = none → children.count (counts key) = 0) (other : Kept) :
    (parents.insert key row).drift counter children counts other =
      parents.drift counter children counts other := by
  unfold drift
  rw [find?_insert]
  by_cases new : other = key ∧ parents.find? key = none
  · obtain ⟨rfl, free⟩ := new
    rw [free]
    simp [zero, nothing free]
  · rw [if_neg new]

theorem drift_children {children' : Table Key Row} (added : Kept → Int)
    (rows : ∀ key, (children'.count (counts key) : Int) = children.count (counts key) + added key) {other : Kept}
    (present : added other ≠ 0 → (parents.find? other).isSome) :
    parents.drift counter children' counts other = parents.drift counter children counts other - added other := by
  unfold drift
  cases found : parents.find? other with
  | none =>
    by_cases nothing : added other = 0
    · simp [nothing]
    · have here := present nothing
      rw [found] at here
      cases here
  | some row =>
    dsimp only
    rw [rows]
    omega

theorem drift_of_count {children' : Table Key Row}
    (same : ∀ key, children'.count (counts key) = children.count (counts key)) (other : Kept) :
    parents.drift counter children' counts other = parents.drift counter children counts other := by
  unfold drift
  rw [same]

variable [DecidableEq Key]

omit [DecidableEq Kept] in
theorem count_modify_same (table : Table Key Row) (key : Key) (change : Row → Row)
    (condition : Key → Row → Bool) (same : ∀ row, condition key (change row) = condition key row) :
    (table.modify key change).count condition = table.count condition := by
  refine count_modifyWhere table condition _ change fun other row _ here => ?_
  rw [decide_eq_true_eq] at here
  rw [here]
  exact same row

omit [DecidableEq Kept] in
theorem count_modify (table : Table Key Row) (key : Key) (change : Row → Row)
    (condition : Key → Row → Bool) :
    ((table.modify key change).count condition : Int) = table.count condition +
      ((table.find? key).any fun row => condition key (change row)).toNat -
        ((table.find? key).any (condition key)).toNat := by
  have after := count_eq_add_erase (table.modify key change) key condition
  have before := count_eq_add_erase table key condition
  rw [erase_modify, find?_modify_self, Option.any_map] at after
  omega

omit [DecidableEq Kept] in
theorem count_of_erase_eq {first second : Table Key Row} {key : Key}
    (others : second.erase key = first.erase key) (condition : Key → Row → Bool) :
    (second.count condition : Int) = first.count condition +
      ((second.find? key).any (condition key)).toNat - ((first.find? key).any (condition key)).toNat := by
  have after := count_eq_add_erase second key condition
  have before := count_eq_add_erase first key condition
  rw [others] at after
  omega

omit [DecidableEq Kept] in
theorem count_insert_int {table : Table Key Row} {key : Key} (free : table.find? key = none)
    (row : Row) (condition : Key → Row → Bool) :
    ((table.insert key row).count condition : Int) =
      table.count condition + if condition key row then 1 else 0 := by
  rw [count_insert free]
  split <;> simp

section Child

variable {child : Key} {row : Row} {own : Kept} (present : (parents.find? own).isSome)

include present

theorem drift_child_insert (free : children.find? child = none)
    (counted : ∀ key, counts key child row = decide (key = own)) (other : Kept) :
    parents.drift counter (children.insert child row) counts other =
      parents.drift counter children counts other - if other = own then 1 else 0 := by
  refine drift_children (fun key => if key = own then 1 else 0) (fun key => ?_) fun added => ?_
  · rw [count_insert_int free, counted]
    simp only [decide_eq_true_eq]
  · by_cases same : other = own
    · rwa [same]
    · exact absurd (if_neg same) added

theorem drift_child_erase (found : children.find? child = some row)
    (counted : ∀ key, counts key child row = decide (key = own)) (other : Kept) :
    parents.drift counter (children.erase child) counts other =
      parents.drift counter children counts other - if other = own then -1 else 0 := by
  refine drift_children (fun key => if key = own then -1 else 0) (fun key => ?_) fun added => ?_
  · rw [count_erase, found, Option.any_some, counted]
    by_cases same : key = own
    · simp [same, Int.sub_eq_add_neg]
    · simp [same]
  · by_cases same : other = own
    · rwa [same]
    · exact absurd (if_neg same) added

theorem drift_child_modify (change : Row → Row) (found : children.find? child = some row)
    (before : ∀ key, counts key child row = decide (key = own))
    (after : ∀ key, counts key child (change row) = false) (other : Kept) :
    parents.drift counter (children.modify child change) counts other =
      parents.drift counter children counts other - if other = own then -1 else 0 := by
  refine drift_children (fun key => if key = own then -1 else 0) (fun key => ?_) fun added => ?_
  · rw [count_modify, found, Option.any_some, Option.any_some, before, after]
    by_cases same : key = own
    · simp [same, Int.sub_eq_add_neg]
    · simp [same]
  · by_cases same : other = own
    · rwa [same]
    · exact absurd (if_neg same) added

end Child

end Motogram.Foundation.Table
