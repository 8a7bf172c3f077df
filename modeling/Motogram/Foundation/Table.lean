import Mathlib.Data.List.Nodup
import Mathlib.Data.List.Perm.Basic

/-!
# Tables with a primary key

A table is a list of keyed rows in which no key occurs twice. The uniqueness of
the key is a field, so a table that breaks it cannot be built, and every
operation below returns a table again.

The operations are those of a relational store: look a row up by its key,
insert a row whose key is new, change the rows that satisfy a condition, select
and count. `find?` determines the table up to the order of its rows
(`mem_entries_iff`), and each operation has one lemma that says what it does to
`find?`. Counting is compared before and after an insertion and a change, which
is what a bound on the number of selected rows needs.
-/

set_option autoImplicit false

namespace Motogram.Foundation

open List

/-- Rows under a primary key. -/
structure Table (Key Row : Type) where
  entries : List (Key × Row)
  nodup : (entries.map Prod.fst).Nodup

namespace Table

variable {Key Row : Type}

def empty : Table Key Row := ⟨[], List.nodup_nil⟩

section Lookup

variable [DecidableEq Key]

def lookup : List (Key × Row) → Key → Option Row
  | [], _ => none
  | (head, row) :: entries, key => if head = key then some row else lookup entries key

def find? (table : Table Key Row) (key : Key) : Option Row := lookup table.entries key

theorem lookup_eq_none {entries : List (Key × Row)} {key : Key} :
    lookup entries key = none ↔ key ∉ entries.map Prod.fst := by
  induction entries with
  | nil => simp [lookup]
  | cons entry entries ih =>
    obtain ⟨head, row⟩ := entry
    by_cases same : head = key
    · simp [lookup, same]
    · simp only [lookup, if_neg same, ih, map_cons, mem_cons, not_or]
      exact ⟨fun absent => ⟨Ne.symm same, absent⟩, And.right⟩

theorem lookup_eq_some {entries : List (Key × Row)} (nodup : (entries.map Prod.fst).Nodup)
    {key : Key} {row : Row} : lookup entries key = some row ↔ (key, row) ∈ entries := by
  induction entries with
  | nil => simp [lookup]
  | cons entry entries ih =>
    obtain ⟨head, value⟩ := entry
    simp only [map_cons, nodup_cons] at nodup
    by_cases same : head = key
    · subst same
      have elsewhere : (head, row) ∉ entries := fun member =>
        nodup.1 (mem_map_of_mem (f := Prod.fst) member)
      simp only [lookup, if_true, Option.some.injEq, mem_cons, Prod.mk.injEq, true_and]
      exact ⟨fun equal => Or.inl equal.symm, fun member =>
        member.elim Eq.symm fun later => absurd later elsewhere⟩
    · simp only [lookup, if_neg same, ih nodup.2, mem_cons, Prod.mk.injEq]
      exact ⟨Or.inr, fun member => member.elim (fun equal => absurd equal.1.symm same) id⟩

theorem mem_entries_iff (table : Table Key Row) {key : Key} {row : Row} :
    (key, row) ∈ table.entries ↔ table.find? key = some row :=
  (lookup_eq_some table.nodup).symm

theorem forall_find?_iff (table : Table Key Row) (condition : Key → Row → Prop) :
    (∀ key row, table.find? key = some row → condition key row) ↔
      ∀ entry ∈ table.entries, condition entry.1 entry.2 := by
  constructor
  · rintro holds ⟨key, row⟩ member
    exact holds key row ((mem_entries_iff table).mp member)
  · intro holds key row found
    exact holds (key, row) ((mem_entries_iff table).mpr found)

instance (table : Table Key Row) (condition : Key → Row → Prop)
    [∀ key row, Decidable (condition key row)] :
    Decidable (∀ key row, table.find? key = some row → condition key row) :=
  decidable_of_iff' _ (table.forall_find?_iff condition)

theorem forall_pair_iff {Left Right : Type} [DecidableEq Left] [DecidableEq Right]
    (table : Table (Left × Right) Row) (condition : Left → Right → Prop) :
    (∀ left right, (table.find? (left, right)).isSome = true → condition left right) ↔
      ∀ key row, table.find? key = some row → condition key.1 key.2 := by
  constructor
  · rintro all ⟨left, right⟩ row found
    exact all left right (Option.isSome_iff_exists.mpr ⟨row, found⟩)
  · intro all left right here
    obtain ⟨row, found⟩ := Option.isSome_iff_exists.mp here
    exact all (left, right) row found

instance {Left Right : Type} [DecidableEq Left] [DecidableEq Right] (table : Table (Left × Right) Row)
    (condition : Left → Right → Prop) [∀ left right, Decidable (condition left right)] :
    Decidable (∀ left right, (table.find? (left, right)).isSome = true → condition left right) :=
  decidable_of_iff' _ (table.forall_pair_iff condition)

@[simp] theorem find?_empty (key : Key) : (empty : Table Key Row).find? key = none := rfl

end Lookup

section Write

variable [DecidableEq Key]

def insert (table : Table Key Row) (key : Key) (row : Row) : Table Key Row :=
  if taken : key ∈ table.entries.map Prod.fst then table
  else
    { entries := table.entries ++ [(key, row)]
      nodup := by
        rw [List.map_append]
        exact List.nodup_append.mpr ⟨table.nodup, List.nodup_singleton _, fun other member same =>
          by rintro single equal; simp only [List.map_cons, List.map_nil, List.mem_singleton] at single
             exact taken (single ▸ equal ▸ member)⟩ }

def modifyWhere (table : Table Key Row) (condition : Key → Row → Bool) (change : Row → Row) :
    Table Key Row where
  entries := table.entries.map fun entry =>
    (entry.1, if condition entry.1 entry.2 then change entry.2 else entry.2)
  nodup := by
    rw [List.map_map]
    exact table.nodup

def modify (table : Table Key Row) (key : Key) (change : Row → Row) : Table Key Row :=
  table.modifyWhere (fun other _ => decide (other = key)) change

/-- Remove the rows that satisfy the condition. -/
def eraseWhere (table : Table Key Row) (condition : Key → Row → Bool) : Table Key Row where
  entries := table.entries.filter fun entry => !condition entry.1 entry.2
  nodup := (List.filter_sublist.map Prod.fst).nodup table.nodup

/-- Set the row with the given key, new or not. -/
def put (table : Table Key Row) (key : Key) (row : Row) : Table Key Row :=
  (table.eraseWhere fun other _ => decide (other = key)).insert key row

/-- Remove the row with the given key. -/
def erase (table : Table Key Row) (key : Key) : Table Key Row :=
  table.eraseWhere fun other _ => decide (other = key)

/-- Change the row with the given key to this one, or insert it. -/
def upsert (table : Table Key Row) (key : Key) (row : Row) : Table Key Row :=
  if (lookup table.entries key).isSome then table.modify key fun _ => row else table.insert key row

/-- The same rows listed in another order. -/
def reorder (table : Table Key Row) (order : List (Key × Row))
    (perm : order.Perm table.entries) : Table Key Row where
  entries := order
  nodup := ((perm.map Prod.fst).nodup_iff).mpr table.nodup

theorem lookup_append (first second : List (Key × Row)) (key : Key) :
    lookup (first ++ second) key = (lookup first key).or (lookup second key) := by
  induction first with
  | nil => rfl
  | cons entry entries ih =>
    obtain ⟨head, row⟩ := entry
    by_cases same : head = key
    · simp [lookup, same]
    · simp only [cons_append, lookup, if_neg same, ih]

variable (table : Table Key Row)

variable (first second condition : Key → Row → Bool) (key other : Key) (row : Row) (change : Row → Row)

theorem find?_insert :
    (table.insert key row).find? other =
      if other = key ∧ table.find? key = none then some row else table.find? other := by
  have present : key ∈ table.entries.map Prod.fst ↔ table.find? key ≠ none := by
    rw [find?, Ne, lookup_eq_none, not_not]
  by_cases taken : key ∈ table.entries.map Prod.fst
  · rw [insert, dif_pos taken, if_neg fun both => present.mp taken both.2]
  · have free : table.find? key = none := not_not.mp (mt present.mpr taken)
    rw [insert, dif_neg taken]
    simp only [find?, lookup_append, lookup]
    rw [find?] at free
    by_cases same : other = key
    · subst same
      simp [free]
    · simp [same, Ne.symm same]

theorem find?_insert_self {table : Table Key Row} {key : Key} (free : table.find? key = none)
    (row : Row) : (table.insert key row).find? key = some row := by
  simp [find?_insert, free]

theorem find?_insert_of_ne {key other : Key} (different : other ≠ key) (row : Row) :
    (table.insert key row).find? other = table.find? other := by
  simp [find?_insert, different]

theorem lookup_map (entries : List (Key × Row)) (condition : Key → Row → Bool)
    (change : Row → Row) (key : Key) :
    lookup (entries.map fun entry =>
        (entry.1, if condition entry.1 entry.2 then change entry.2 else entry.2)) key =
      (lookup entries key).map fun row => if condition key row then change row else row := by
  induction entries with
  | nil => rfl
  | cons entry entries ih =>
    obtain ⟨head, row⟩ := entry
    by_cases same : head = key
    · simp [lookup, same]
    · simp only [map_cons, lookup, if_neg same, ih]

@[simp] theorem find?_modifyWhere (key : Key) :
    (table.modifyWhere condition change).find? key =
      (table.find? key).map fun row => if condition key row then change row else row :=
  lookup_map table.entries condition change key

theorem find?_modify :
    (table.modify key change).find? other =
      if other = key then (table.find? other).map change else table.find? other := by
  rw [modify]
  by_cases same : other = key
  · simp [same]
  · simp [same]

@[simp] theorem find?_modify_self : (table.modify key change).find? key = (table.find? key).map change := by
  rw [find?_modify, if_pos rfl]

theorem find?_modify_of_ne {key other : Key} (different : other ≠ key) (change : Row → Row) :
    (table.modify key change).find? other = table.find? other := by
  rw [find?_modify, if_neg different]

/-- A change of a row removes none. -/
@[simp] theorem isSome_find?_modify :
    ((table.modify key change).find? other).isSome = (table.find? other).isSome := by
  rw [find?_modify]
  split
  · rw [Option.isSome_map]
  · rfl

@[simp] theorem find?_eraseWhere :
    (table.eraseWhere condition).find? key = (table.find? key).filter fun row => !condition key row := by
  refine Option.ext fun row => ?_
  rw [← mem_entries_iff, Option.filter_eq_some_iff, ← mem_entries_iff, eraseWhere,
    mem_filter]

omit [DecidableEq Key] in
theorem ext_entries {first second : Table Key Row} (same : first.entries = second.entries) : first = second := by
  cases first
  cases second
  cases same
  rfl

omit [DecidableEq Key] in
theorem eraseWhere_eraseWhere :
    (table.eraseWhere first).eraseWhere second =
      table.eraseWhere fun key row => first key row || second key row := by
  refine ext_entries ?_
  simp only [eraseWhere, filter_filter, Bool.not_or]
  exact filter_congr fun entry _ => Bool.and_comm _ _

omit [DecidableEq Key] in
theorem eraseWhere_congr {table : Table Key Row} {first second : Key → Row → Bool}
    (same : ∀ entry ∈ table.entries, first entry.1 entry.2 = second entry.1 entry.2) :
    table.eraseWhere first = table.eraseWhere second := by
  refine ext_entries (filter_congr fun entry member => ?_)
  rw [same entry member]

omit [DecidableEq Key] in
theorem eraseWhere_nothing : (table.eraseWhere fun _ _ => false) = table :=
  ext_entries (filter_eq_self.mpr fun _ _ => rfl)

omit [DecidableEq Key] in
theorem modifyWhere_nothing : table.modifyWhere (fun _ _ => false) change = table :=
  ext_entries (map_id table.entries)

omit [DecidableEq Key] in
/-- A removal that looks at nothing a change touches may come first. -/
theorem eraseWhere_modifyWhere (changed gone : Key → Row → Bool) (change : Row → Row)
    (same : ∀ key row, gone key (change row) = gone key row) :
    (table.modifyWhere changed change).eraseWhere gone = (table.eraseWhere gone).modifyWhere changed change := by
  refine ext_entries (filter_map.trans (congrArg _ (filter_congr fun entry _ => ?_)))
  rw [Function.comp_apply]
  split
  · rw [same]
  · rfl

omit [DecidableEq Key] in
theorem modifyWhere_modifyWhere (both : Key → Row → Bool) {change : Row → Row}
    (once : ∀ entry ∈ table.entries, first entry.1 entry.2 = true → second entry.1 (change entry.2) = false ∧ both entry.1 entry.2 = true)
    (left : ∀ entry ∈ table.entries, first entry.1 entry.2 = false → both entry.1 entry.2 = second entry.1 entry.2)
    :
    (table.modifyWhere first change).modifyWhere second change = table.modifyWhere both change := by
  refine ext_entries (map_map.trans (map_congr_left fun entry member => ?_))
  rw [Function.comp_apply]
  cases here : first entry.1 entry.2 with
  | true =>
    obtain ⟨apart, chosen⟩ := once entry member here
    simp only [if_true, apart, chosen, Bool.false_eq_true, if_false]
  | false =>
    have same := left entry member here
    simp only [Bool.false_eq_true, if_false, same]

@[simp] theorem find?_put :
    (table.put key row).find? other = if other = key then some row else table.find? other := by
  rw [put, find?_insert, find?_eraseWhere, find?_eraseWhere]
  by_cases same : other = key
  · subst same
    simp
  · rw [if_neg fun both => same both.1, if_neg same]
    cases table.find? other with
    | none => rfl
    | some stored => simp [same]

@[simp] theorem find?_erase :
    (table.erase key).find? other = if other = key then none else table.find? other := by
  rw [erase, find?_eraseWhere]
  by_cases same : other = key
  · simp [same]
  · cases table.find? other <;> simp [same]

@[simp] theorem find?_upsert :
    (table.upsert key row).find? other = if other = key then some row else table.find? other := by
  rw [upsert, ← find?]
  by_cases same : other = key
  · subst same
    cases found : table.find? other with
    | none => simp [find?_insert, found]
    | some stored => simp [found]
  · split
    · exact find?_modify_of_ne table same _
    · exact find?_insert_of_ne table same row

/-- A row that is written as it is changes nothing. -/
theorem upsert_of_find? {table : Table Key Row} {key : Key} {row : Row}
    (found : table.find? key = some row) : table.upsert key row = table := by
  rw [upsert, ← find?, found, Option.isSome_some]
  refine ext_entries ?_
  conv_rhs => rw [← map_id table.entries]
  refine map_congr_left ?_
  rintro ⟨other, stored⟩ member
  by_cases same : other = key
  · subst same
    obtain rfl : stored = row := Option.some.inj (((mem_entries_iff table).mp member).symm.trans found)
    simp
  · simp [same]

@[simp] theorem find?_reorder (order : List (Key × Row)) (perm : order.Perm table.entries) (key : Key) :
    (table.reorder order perm).find? key = table.find? key := by
  refine Option.ext fun row => ?_
  rw [← mem_entries_iff, ← mem_entries_iff]
  exact perm.mem_iff

end Write

section Select

variable [DecidableEq Key]

/-- The rows that satisfy the condition, in the order of the table. -/
def select (table : Table Key Row) (condition : Key → Row → Bool) : List (Key × Row) :=
  table.entries.filter fun entry => condition entry.1 entry.2

/-- The number of rows that satisfy the condition. -/
def count (table : Table Key Row) (condition : Key → Row → Bool) : Nat :=
  table.entries.countP fun entry => condition entry.1 entry.2

variable (table : Table Key Row)

variable (key : Key) (row : Row) (condition : Key → Row → Bool)

omit [DecidableEq Key] in
theorem length_select : (table.select condition).length = table.count condition :=
  countP_eq_length_filter.symm

theorem mem_select {table : Table Key Row} {condition : Key → Row → Bool} {key : Key} {row : Row} :
    (key, row) ∈ table.select condition ↔ table.find? key = some row ∧ condition key row = true := by
  rw [select, mem_filter, mem_entries_iff]

omit [DecidableEq Key] in
theorem nodup_select : ((table.select condition).map Prod.fst).Nodup :=
  table.nodup.sublist (filter_sublist.map _)

theorem count_eq_zero {table : Table Key Row} {condition : Key → Row → Bool} :
    table.count condition = 0 ↔ ∀ key row, table.find? key = some row → ¬ condition key row = true := by
  rw [count, countP_eq_zero]
  exact (table.forall_find?_iff fun key row => ¬ condition key row = true).symm

/-- An insertion under a new key adds the row to a selection it satisfies. -/
theorem count_insert {table : Table Key Row} {key : Key} (free : table.find? key = none) (row : Row)
    (condition : Key → Row → Bool) :
    (table.insert key row).count condition = table.count condition + if condition key row then 1 else 0 := by
  have untaken : key ∉ table.entries.map Prod.fst := lookup_eq_none.mp free
  rw [count, insert, dif_neg untaken, countP_append, ← count, countP_singleton]

theorem count_modifyWhere (changed : Key → Row → Bool) (change : Row → Row)
    (same : ∀ key row, table.find? key = some row → changed key row = true → condition key (change row) = condition key row)
    :
    (table.modifyWhere changed change).count condition = table.count condition := by
  rw [count, modifyWhere, countP_map]
  refine countP_congr ?_
  rintro ⟨key, row⟩ member
  by_cases hit : changed key row = true
  · simp only [Function.comp_apply, hit, if_true]
    rw [same key row ((mem_entries_iff table).mp member) hit]
  · simp [hit]

omit [DecidableEq Key] in
/-- A change that makes no row count. -/
theorem count_modifyWhere_le {table : Table Key Row} {condition changed : Key → Row → Bool} {change : Row → Row}
    (fewer : ∀ key row, condition key (change row) = true → condition key row = true) :
    (table.modifyWhere changed change).count condition ≤ table.count condition := by
  rw [count, modifyWhere, countP_map]
  refine countP_mono_left fun entry _ counted => ?_
  rw [Function.comp_apply] at counted
  split at counted
  · exact fewer entry.1 entry.2 counted
  · exact counted

theorem count_eq_add_erase :
    table.count condition =
      ((table.find? key).any (condition key)).toNat + (table.erase key).count condition := by
  obtain ⟨entries, nodup⟩ := table
  simp only [count, erase, eraseWhere, find?]
  induction entries with
  | nil => rfl
  | cons entry entries ih =>
    obtain ⟨head, row⟩ := entry
    rw [map_cons, nodup_cons] at nodup
    have rest := ih nodup.2
    by_cases same : head = key
    · subst same
      have absent : lookup entries head = none := lookup_eq_none.mpr nodup.1
      rw [absent] at rest
      have gone : ((head, row) :: entries).filter (fun entry => !decide (entry.1 = head)) =
          entries.filter fun entry => !decide (entry.1 = head) := by
        rw [filter_cons, if_neg (by simp)]
      rw [countP_cons, rest, lookup]
      cases held : condition head row <;> simp [held, Nat.add_comm]
    · have kept : ((head, row) :: entries).filter (fun entry => !decide (entry.1 = key)) =
          (head, row) :: entries.filter fun entry => !decide (entry.1 = key) := by
        rw [filter_cons, if_pos (by simp [same])]
      rw [kept, countP_cons, countP_cons, rest, lookup, if_neg same, Nat.add_assoc]

/-- A selection has a key at most once. -/
theorem countP_select (key : Key) :
    ((table.select condition).countP fun entry => decide (entry.1 = key)) =
      ((table.find? key).any (condition key)).toNat := by
  have whole : ((table.select condition).countP fun entry => decide (entry.1 = key)) =
      table.count fun other row => decide (other = key) && condition other row :=
    countP_filter
  have others : ((table.erase key).count fun other row => decide (other = key) && condition other row) = 0 := by
    rw [count, countP_eq_zero]
    rintro ⟨other, row⟩ member
    have kept := (table.erase key).mem_entries_iff.mp member
    rw [find?_erase] at kept
    split at kept
    · cases kept
    · rename_i different
      simp [different]
  rw [whole, count_eq_add_erase table key, others]
  simp

/-- Removing a row takes it out of the count. -/
theorem count_erase :
    ((table.erase key).count condition : Int) =
      table.count condition - ((table.find? key).any (condition key)).toNat := by
  rw [count_eq_add_erase table key condition]
  omega

/-- Counting a narrower condition counts as many when it holds of all that the other counts. -/
theorem countP_eq_iff {α : Type} {list : List α} {narrow wide : α → Bool}
    (implies : ∀ a, narrow a = true → wide a = true) :
    list.countP narrow = list.countP wide ↔ ∀ a ∈ list, wide a = true → narrow a = true := by
  induction list with
  | nil => simp
  | cons head tail ih =>
    have le : tail.countP narrow ≤ tail.countP wide := countP_mono_left fun a _ => implies a
    rw [countP_cons, countP_cons, forall_mem_cons, ← ih]
    cases held : narrow head with
    | true => simp [implies head held]
    | false =>
      cases counted : wide head with
      | true =>
        simp only [if_true]
        constructor
        · intro same
          simp only [Bool.false_eq_true, if_false] at same
          omega
        · intro both
          exact absurd (both.1 trivial) Bool.false_ne_true
      | false => simp

/-- Removing rows leaves a count as it was exactly when none of them was counted. -/
theorem count_eraseWhere_eq_iff (gone condition : Key → Row → Bool) :
    (table.eraseWhere gone).count condition = table.count condition ↔
      ∀ key row, table.find? key = some row → condition key row = true → gone key row = false := by
  rw [count, eraseWhere, countP_filter, count, countP_eq_iff fun entry both => by
    rw [Bool.and_eq_true] at both
    exact both.1]
  constructor
  · intro kept key row found held
    have both := kept (key, row) ((mem_entries_iff table).mpr found) held
    rw [Bool.and_eq_true, Bool.not_eq_true'] at both
    exact both.2
  · rintro kept ⟨key, row⟩ member held
    have here := kept key row ((mem_entries_iff table).mp member) held
    rw [Bool.and_eq_true, Bool.not_eq_true']
    exact ⟨held, here⟩

/-- **Counters of rows in another table**: when rows of both are removed, the counters that
are left count right exactly when no row counted in one that is left was removed. -/
theorem counters_survive_iff {Parent Kept : Type} [DecidableEq Kept] (parents : Table Kept Parent)
    (children : Table Key Row) (counter : Parent → Int) (counts : Kept → Key → Row → Bool)
    (parentGone : Kept → Parent → Bool) (gone : Key → Row → Bool)
    (before : ∀ key row, parents.find? key = some row → counter row = children.count (counts key)) :
    (∀ key row, (parents.eraseWhere parentGone).find? key = some row →
        counter row = (children.eraseWhere gone).count (counts key)) ↔
      ∀ key row, parents.find? key = some row → parentGone key row = false →
        ∀ child value, children.find? child = some value → counts key child value = true →
          gone child value = false := by
  simp only [find?_eraseWhere, Option.filter_eq_some_iff, Bool.not_eq_true', and_imp]
  refine forall_congr' fun key => forall_congr' fun row => forall_congr' fun found =>
    forall_congr' fun _ => ?_
  rw [before key row found, ← count_eraseWhere_eq_iff]
  constructor
  · intro same
    exact_mod_cast same.symm
  · intro same
    rw [same]

theorem forall_modifyWhere_iff {Value : Type} (table : Table Key Row) (condition : Key → Row → Bool)
    (change : Row → Row) (column : Row → Value) (same : ∀ row, column (change row) = column row)
    (property : Key → Value → Prop) :
    (∀ key row, (table.modifyWhere condition change).find? key = some row → property key (column row)) ↔
      ∀ key row, table.find? key = some row → property key (column row) := by
  have column_eq : ∀ key row, column (if condition key row then change row else row) = column row := by
    intro key row
    split
    · exact same row
    · rfl
  simp only [find?_modifyWhere, Option.map_eq_some_iff]
  constructor
  · intro holds key row found
    have here := holds key _ ⟨row, found, rfl⟩
    rwa [column_eq] at here
  · rintro holds key _ ⟨row, found, rfl⟩
    rw [column_eq]
    exact holds key row found

theorem erase_insert {table : Table Key Row} {key : Key} (free : table.find? key = none) (row : Row) :
    (table.insert key row).erase key = table.erase key := by
  have untaken : key ∉ table.entries.map Prod.fst := lookup_eq_none.mp free
  rw [erase, erase, eraseWhere, eraseWhere, insert, dif_neg untaken]
  simp

theorem erase_modify (change : Row → Row) : (table.modify key change).erase key = table.erase key := by
  refine ext_entries ?_
  simp only [erase, eraseWhere, modify, modifyWhere]
  induction table.entries with
  | nil => rfl
  | cons entry entries ih =>
    obtain ⟨head, row⟩ := entry
    rw [map_cons, filter_cons, ih]
    by_cases same : head = key
    · simp [same]
    · simp [same]

/-- Writing a row takes the one it replaces out of the count, and adds the new one. -/
theorem count_upsert :
    ((table.upsert key row).count condition : Int) = table.count condition +
      (condition key row).toNat - ((table.find? key).any (condition key)).toNat := by
  have others : (table.upsert key row).erase key = table.erase key := by
    rw [upsert, ← find?]
    cases found : table.find? key with
    | none => exact erase_insert found row
    | some stored => exact erase_modify table key _
  have after := count_eq_add_erase (table.upsert key row) key condition
  have before := count_eq_add_erase table key condition
  rw [others, find?_upsert, if_pos rfl, Option.any_some] at after
  omega

/-- An insertion under a new key adds the row at the end of a selection. -/
theorem select_insert {table : Table Key Row} {key : Key} (free : table.find? key = none)
    (row : Row) (condition : Key → Row → Bool) :
    (table.insert key row).select condition =
      table.select condition ++ if condition key row then [(key, row)] else [] := by
  have untaken : key ∉ table.entries.map Prod.fst := lookup_eq_none.mp free
  rw [select, insert, dif_neg untaken, filter_append, ← select, filter_singleton,
    cond_eq_ite]

omit [DecidableEq Key] in
/-- A change outside a selection leaves it as it was. -/
theorem select_modifyWhere_of_apart {condition changed : Key → Row → Bool} {change : Row → Row}
    (apart : ∀ key row, changed key row = true → condition key row = false ∧ condition key (change row) = false) :
    (table.modifyWhere changed change).select condition = table.select condition := by
  simp only [select, modifyWhere]
  induction table.entries with
  | nil => rfl
  | cons entry entries ih =>
    obtain ⟨key, row⟩ := entry
    rw [map_cons, filter_cons, filter_cons, ih]
    by_cases hit : changed key row = true
    · rw [if_pos hit, (apart key row hit).1, (apart key row hit).2]
      rfl
    · rw [if_neg hit]

omit [DecidableEq Key] in
theorem select_modifyWhere_eq_nil {condition changed : Key → Row → Bool} {change : Row → Row}
    (none : ∀ key row, condition key (if changed key row then change row else row) = false) :
    (table.modifyWhere changed change).select condition = [] := by
  rw [select, modifyWhere, filter_eq_nil_iff]
  rintro ⟨key, row⟩ listed
  obtain ⟨⟨stored, value⟩, -, same⟩ := mem_map.mp listed
  cases same
  simp [none stored value]

end Select

end Table

end Motogram.Foundation
