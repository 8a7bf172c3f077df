import Motogram.Foundation.Table

/-!
# Keys with a time to live

A keyspace holds values under keys, each with the time it expires at, if it
does. A key is read as absent from that time on; nothing has to remove it. The
operations are those of a key-value store: set, get, delete, delete many, and
list the keys that satisfy a condition. What each does to `get?` is one lemma,
and the list is described through `get?` too.
-/

set_option autoImplicit false

namespace Motogram.Foundation

/-- Values under keys, each with an optional deadline. -/
structure Keyspace (Key Value : Type) where
  table : Table Key (Value × Option Nat)

namespace Keyspace

variable {Key Value : Type} [DecidableEq Key]

def empty : Keyspace Key Value := ⟨.empty⟩

/-- The value of a key at a time: none from its deadline on. -/
def get? (space : Keyspace Key Value) (now : Nat) (key : Key) : Option Value :=
  ((space.table.find? key).filter fun stored =>
    stored.2.all fun deadline => decide (now < deadline)).map Prod.fst

def set (space : Keyspace Key Value) (key : Key) (value : Value) (deadline : Option Nat) :
    Keyspace Key Value :=
  ⟨space.table.put key (value, deadline)⟩

def deleteWhere (space : Keyspace Key Value) (condition : Key → Bool) : Keyspace Key Value :=
  ⟨space.table.eraseWhere fun key _ => condition key⟩

def delete (space : Keyspace Key Value) (key : Key) : Keyspace Key Value :=
  space.deleteWhere fun other => decide (other = key)

/-- The keys that are present at a time and satisfy the condition. -/
def keys (space : Keyspace Key Value) (now : Nat) (condition : Key → Bool) : List Key :=
  (space.table.entries.map Prod.fst).filter fun key =>
    condition key && (space.get? now key).isSome

variable {space : Keyspace Key Value} {now : Nat} {key other : Key} {value : Value}

@[simp] theorem get?_empty : (empty : Keyspace Key Value).get? now key = none := rfl

theorem get?_set {deadline : Option Nat} :
    (space.set key value deadline).get? now other =
      if other = key then
        if deadline.all fun time => decide (now < time) then some value else none
      else space.get? now other := by
  rw [get?, set, Table.find?_put]
  by_cases same : other = key
  · rw [if_pos same, if_pos same]
    by_cases alive : (deadline.all fun time => decide (now < time)) = true
    · rw [if_pos alive, Option.filter_some, if_pos alive, Option.map_some]
    · rw [if_neg alive, Option.filter_some, if_neg alive, Option.map_none]
  · rw [if_neg same, if_neg same, get?]

@[simp] theorem get?_deleteWhere {condition : Key → Bool} :
    (space.deleteWhere condition).get? now key = if condition key = true then none else space.get? now key := by
  rw [get?, deleteWhere, Table.find?_eraseWhere, get?]
  cases held : condition key with
  | true | false => simp

@[simp] theorem get?_delete :
    (space.delete key).get? now other = if other = key then none else space.get? now other := by
  simp [delete]

/-- A key that is absent stays absent as time passes. -/
theorem get?_isSome_of_le {later : Nat} (le : now ≤ later)
    (present : (space.get? later key).isSome) : (space.get? now key).isSome := by
  unfold get? at present ⊢
  cases found : space.table.find? key with
  | none =>
    rw [found] at present
    cases present
  | some stored =>
    rw [found] at present
    cases deadline : stored.2 with
    | none => simp [deadline]
    | some time =>
      have alive : later < time := by
        by_contra late
        simp [Option.filter, deadline, late] at present
      simp [Option.filter, deadline, Nat.lt_of_le_of_lt le alive]

theorem mem_of_present (present : (space.get? now key).isSome) : key ∈ space.table.entries.map Prod.fst := by
  by_contra absent
  have missing : space.table.find? key = none := Table.lookup_eq_none.mpr absent
  rw [get?, missing] at present
  cases present

theorem mem_keys {condition : Key → Bool} :
    key ∈ space.keys now condition ↔ condition key = true ∧ (space.get? now key).isSome := by
  rw [keys, List.mem_filter, Bool.and_eq_true]
  exact ⟨And.right, fun holds => ⟨mem_of_present holds.2, holds⟩⟩

end Keyspace

end Motogram.Foundation
