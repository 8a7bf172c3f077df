import Mathlib.Data.List.Basic
import Mathlib.Logic.Function.Basic

/-!
# An index kept in shards

An index lists keys with values, in shards. Whoever writes an entry chooses the shard, so
an index can list a key twice and keep an old value of it.

Two properties of an index are kept together: it lists every key in one shard at most
(`Exclusive`), and every value it lists is the latest of its key (`Current`). Losing
entries keeps both (`Within`). Writing an entry keeps both exactly when the index lists
the key in no other shard (`Puts.keeps_iff`).
-/

set_option autoImplicit false

namespace Motogram.Foundation

open Function

abbrev Index (Shard Key Value : Type) := Shard → List (Key × Value)

namespace Index

variable {Shard Key Value : Type}

def Lists (index : Index Shard Key Value) (key : Key) (shard : Shard) : Prop :=
  ∃ value, (key, value) ∈ index shard

def Exclusive (index : Index Shard Key Value) : Prop :=
  ∀ key first second, index.Lists key first → index.Lists key second → first = second

def Current (index : Index Shard Key Value) (latest : Key → Option Value) : Prop :=
  ∀ shard key value, (key, value) ∈ index shard → latest key = some value

/-- Every shard lists at most what it listed in another index. -/
def Within (later earlier : Index Shard Key Value) : Prop := ∀ shard, later shard ⊆ earlier shard

variable {index later : Index Shard Key Value} {latest : Key → Option Value}

theorem Within.refl (index : Index Shard Key Value) : index.Within index :=
  fun shard => List.Subset.refl (index shard)

theorem Within.trans {first second third : Index Shard Key Value} (one : first.Within second)
    (two : second.Within third) : first.Within third :=
  fun shard => List.Subset.trans (one shard) (two shard)

theorem Within.lists {key : Key} {shard : Shard} (within : later.Within index)
    (listed : later.Lists key shard) : index.Lists key shard := by
  obtain ⟨value, member⟩ := listed
  exact ⟨value, within shard member⟩

theorem Exclusive.within (exclusive : index.Exclusive) (within : later.Within index) : later.Exclusive := by
  intro key first second one two
  exact exclusive key first second (within.lists one) (within.lists two)

theorem Current.within (current : index.Current latest) (within : later.Within index) : later.Current latest := by
  intro shard key value member
  exact current shard key value (within shard member)

/-- One shard lists the key with the value, in the place of any value it listed it with;
the other shards are as they were. -/
structure Puts (before after : Index Shard Key Value) (shard : Shard) (key : Key) (value : Value) :
    Prop where
  here : ∀ entry, entry ∈ after shard ↔ entry = (key, value) ∨ entry ∈ before shard ∧ entry.1 ≠ key
  elsewhere : ∀ other, other ≠ shard → after other = before other

variable {before after : Index Shard Key Value} {shard : Shard} {key : Key} {value : Value}

theorem Puts.lists (puts : Puts before after shard key value) : after.Lists key shard :=
  ⟨value, (puts.here _).mpr (.inl rfl)⟩

/-- What is listed after a write is what was written, or was listed before. -/
theorem Puts.mem (puts : Puts before after shard key value) {other : Shard} {entry : Key × Value}
    (member : entry ∈ after other) :
    other = shard ∧ entry = (key, value) ∨ entry ∈ before other ∧ ¬ (other = shard ∧ entry.1 = key) := by
  by_cases same : other = shard
  · subst same
    rcases (puts.here entry).mp member with written | ⟨kept, apart⟩
    · exact .inl ⟨rfl, written⟩
    · exact .inr ⟨kept, fun clash => apart clash.2⟩
  · rw [puts.elsewhere other same] at member
    exact .inr ⟨member, fun clash => same clash.1⟩

theorem Puts.alone_of_exclusive (puts : Puts before after shard key value) (exclusive : after.Exclusive)
    {other : Shard} (listed : before.Lists key other) : other = shard := by
  obtain ⟨old, listed⟩ := listed
  by_contra apart
  have stays : after.Lists key other := ⟨old, by rwa [puts.elsewhere other apart]⟩
  exact apart (exclusive key other shard stays puts.lists)

variable [DecidableEq Key]

/-- **A write keeps both properties exactly when no other shard lists the key.** -/
theorem Puts.keeps_iff (puts : Puts before after shard key value) (exclusive : before.Exclusive)
    (current : before.Current latest) :
    after.Exclusive ∧ after.Current (update latest key (some value)) ↔
      ∀ other, before.Lists key other → other = shard := by
  constructor
  · rintro ⟨alone, -⟩ other listed
    exact puts.alone_of_exclusive alone listed
  · intro nowhere
    refine ⟨?_, ?_⟩
    · have place : ∀ k place, after.Lists k place →
          k = key ∧ place = shard ∨ k ≠ key ∧ before.Lists k place := by
        rintro k place ⟨v, member⟩
        rcases puts.mem member with ⟨rfl, same⟩ | ⟨kept, apart⟩
        · exact .inl ⟨congrArg Prod.fst same, rfl⟩
        · by_cases same : k = key
          · subst same
            exact absurd ⟨nowhere place ⟨v, kept⟩, rfl⟩ apart
          · exact .inr ⟨same, v, kept⟩
      intro k first second one two
      rcases place k first one with ⟨same, rfl⟩ | ⟨apart, was⟩
      · rcases place k second two with ⟨-, rfl⟩ | ⟨apart, -⟩
        · rfl
        · exact absurd same apart
      · rcases place k second two with ⟨same, -⟩ | ⟨-, was'⟩
        · exact absurd same apart
        · exact exclusive k first second was was'
    · intro place k v member
      rcases puts.mem member with ⟨-, same⟩ | ⟨kept, apart⟩
      · obtain ⟨rfl, rfl⟩ := Prod.mk.inj same
        rw [update_self]
      · have other : k ≠ key := by
          rintro rfl
          exact apart ⟨nowhere place ⟨v, kept⟩, rfl⟩
        rw [update_of_ne other]
        exact current place k v kept

theorem Current.update_iff (current : index.Current latest) :
    index.Current (update latest key (some value)) ↔ ∀ shard old, (key, old) ∈ index shard → old = value := by
  constructor
  · intro later shard old listed
    have same := later shard key old listed
    rw [update_self] at same
    exact (Option.some.inj same).symm
  · intro same shard k v listed
    by_cases own : k = key
    · subst own
      rw [update_self, same shard v listed]
    · rw [update_of_ne own]
      exact current shard k v listed

end Index

end Motogram.Foundation
