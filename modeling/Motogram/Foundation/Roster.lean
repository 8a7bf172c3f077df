import Mathlib.Data.Set.Basic
import Mathlib.Data.Set.Insert
import Mathlib.Data.Set.Disjoint
import Mathlib.Logic.Function.Basic
import Mathlib.Logic.Relation

/-!
# Rosters of exclusive groups

Groups are open or not, and every person is at home in at most one group, which
is open. That a person cannot be in two groups, and that a group that is not
open has nobody in it, are then facts about the data and need no proof at a use.

A roster changes by founding a group, entering one, leaving and closing. A store
that keeps memberships in several places is right when all of them describe one
roster, and an operation is right when it takes a store that describes a roster
to one that describes a roster reached by such moves.
-/

set_option autoImplicit false

namespace Motogram.Foundation

open Function

variable {Group Person : Type}

structure Roster (Group Person : Type) where
  isOpen : Set Group
  home : Person → Option Group
  home_isOpen : ∀ {person group}, home person = some group → group ∈ isOpen

namespace Roster

variable (roster : Roster Group Person)

/-- The people of a group. -/
def members (group : Group) : Set Person := { person | roster.home person = some group }

@[simp] theorem mem_members {group : Group} {person : Person} :
    person ∈ roster.members group ↔ roster.home person = some group := Iff.rfl

def empty : Roster Group Person where
  isOpen := ∅
  home := fun _ => none
  home_isOpen := fun none => nomatch none

variable [DecidableEq Person]

/-- Found a group with its first member. -/
def found (group : Group) (person : Person) : Roster Group Person where
  isOpen := insert group roster.isOpen
  home := update roster.home person (some group)
  home_isOpen := by
    intro other otherGroup at_home
    by_cases same : other = person
    · subst same
      rw [update_self] at at_home
      cases at_home
      exact Set.mem_insert ..
    · rw [update_of_ne same] at at_home
      exact Set.mem_insert_of_mem _ (roster.home_isOpen at_home)

def enter (group : Group) (isOpen : group ∈ roster.isOpen) (person : Person) :
    Roster Group Person where
  isOpen := roster.isOpen
  home := update roster.home person (some group)
  home_isOpen := by
    intro other otherGroup at_home
    by_cases same : other = person
    · subst same
      rw [update_self] at at_home
      cases at_home
      exact isOpen
    · rw [update_of_ne same] at at_home
      exact roster.home_isOpen at_home

def leave (person : Person) : Roster Group Person where
  isOpen := roster.isOpen
  home := update roster.home person none
  home_isOpen := by
    intro other group at_home
    by_cases same : other = person
    · subst same
      rw [update_self] at at_home
      cases at_home
    · rw [update_of_ne same] at at_home
      exact roster.home_isOpen at_home

omit [DecidableEq Person] in
/-- Close a group: everyone in it is without a home. -/
def close [DecidableEq Group] (group : Group) : Roster Group Person where
  isOpen := { other | other ∈ roster.isOpen ∧ other ≠ group }
  home := fun person => if roster.home person = some group then none else roster.home person
  home_isOpen := by
    intro person other at_home
    by_cases here : roster.home person = some group
    · rw [if_pos here] at at_home
      cases at_home
    · rw [if_neg here] at at_home
      exact ⟨roster.home_isOpen at_home, fun same => here (same ▸ at_home)⟩

omit [DecidableEq Person] in
theorem home_close [DecidableEq Group] {group other : Group} {person : Person} :
    (roster.close group).home person = some other ↔ roster.home person = some other ∧ other ≠ group := by
  change (if roster.home person = some group then none else roster.home person) = some other ↔ _
  by_cases here : roster.home person = some group
  · rw [if_pos here, here]
    constructor
    · intro none
      cases none
    · rintro ⟨same, different⟩
      exact absurd (Option.some.inj same).symm different
  · rw [if_neg here]
    exact ⟨fun at_home => ⟨at_home, fun same => here (same ▸ at_home)⟩, And.left⟩

theorem home_leave {group : Group} {person other : Person} :
    (roster.leave person).home other = some group ↔ roster.home other = some group ∧ other ≠ person := by
  unfold leave
  by_cases same : other = person
  · subst same
    simp
  · simp [same]

theorem home_enter {group other : Group} (isOpen : group ∈ roster.isOpen) {person member : Person}
    (free : roster.home person = none) :
    (roster.enter group isOpen person).home member = some other ↔
      roster.home member = some other ∨ (other, member) = (group, person) := by
  unfold enter
  by_cases same : member = person
  · subst same
    simp [free, eq_comm]
  · simp [same]

theorem home_found {group other : Group} {person member : Person}
    (free : roster.home person = none) :
    (roster.found group person).home member = some other ↔
      roster.home member = some other ∨ (other, member) = (group, person) := by
  unfold found
  by_cases same : member = person
  · subst same
    simp [free, eq_comm]
  · simp [same]

/-- The ways a roster changes. -/
inductive Move [DecidableEq Group] : Roster Group Person → Roster Group Person → Prop where
  | found (roster : Roster Group Person) (group : Group) (person : Person)
      (fresh : group ∉ roster.isOpen) (free : roster.home person = none) :
      Move roster (roster.found group person)
  | enter (roster : Roster Group Person) (group : Group) (isOpen : group ∈ roster.isOpen)
      (person : Person) (free : roster.home person = none) :
      Move roster (roster.enter group isOpen person)
  | leave (roster : Roster Group Person) (person : Person) : Move roster (roster.leave person)
  | close (roster : Roster Group Person) (group : Group) (isOpen : group ∈ roster.isOpen) :
      Move roster (roster.close group)

abbrev Reaches [DecidableEq Group] (before after : Roster Group Person) : Prop :=
  Relation.ReflTransGen Move before after

end Roster

end Motogram.Foundation
