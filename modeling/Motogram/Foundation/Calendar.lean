import Mathlib.Data.Nat.Find
import Mathlib.Order.Bounds.Basic
import Mathlib.Order.Monotone.Basic
import Mathlib.Order.WellFounded

/-!
# Periods between boundaries

A period lasts from one boundary to the next. The next boundary after a time is the least one that is
later (`IsNext`); it stays the same until it is reached, and does not come earlier as time goes on.

Days, weeks and months are such periods. Times are counted in milliseconds from the first of January
1970, a Thursday, at midnight; a week begins on Sunday.
-/

set_option autoImplicit false

namespace Motogram.Foundation.Calendar

/-! ## The next boundary -/

def IsNext (boundary : Nat → Prop) (time next : Nat) : Prop :=
  IsLeast {other | boundary other ∧ time < other} next

section IsNext

variable {boundary : Nat → Prop} {time time' next next' : Nat}

theorem IsNext.lt (isNext : IsNext boundary time next) : time < next := isNext.1.2

theorem IsNext.unique (first : IsNext boundary time next) (second : IsNext boundary time next') : next = next' :=
  IsLeast.unique first second

theorem IsNext.later (isNext : IsNext boundary time next) (after : time ≤ time') (before : time' < next) :
    IsNext boundary time' next := by
  refine ⟨⟨isNext.1.1, before⟩, ?_⟩
  rintro other ⟨boundary, above⟩
  exact isNext.2 ⟨boundary, after.trans_lt above⟩

theorem IsNext.le (first : IsNext boundary time next) (second : IsNext boundary time' next')
    (after : time ≤ time') : next ≤ next' :=
  first.2 ⟨second.1.1, after.trans_lt second.lt⟩

end IsNext

/-! ## Days -/

def dayMs : Nat := 86400000

/-- The number of the day. -/
def dayOf (time : Nat) : Nat := time / dayMs

def midnight (day : Nat) : Nat := day * dayMs

theorem dayMs_pos : 0 < dayMs := by decide

theorem lt_midnight_iff {time day : Nat} : time < midnight day ↔ dayOf time < day :=
  (Nat.div_lt_iff_lt_mul dayMs_pos).symm

theorem midnight_le_midnight {first second : Nat} (le : first ≤ second) : midnight first ≤ midnight second :=
  Nat.mul_le_mul_right dayMs le

def MidnightOf (days : Nat → Prop) (time : Nat) : Prop := ∃ day, days day ∧ time = midnight day

theorem isNext_midnight {days : Nat → Prop} {time day : Nat} (among : days day) (later : dayOf time < day)
    (least : ∀ other, days other → dayOf time < other → day ≤ other) :
    IsNext (MidnightOf days) time (midnight day) := by
  refine ⟨⟨⟨day, among, rfl⟩, lt_midnight_iff.mpr later⟩, ?_⟩
  rintro - ⟨⟨other, among', rfl⟩, above⟩
  exact midnight_le_midnight (least other among' (lt_midnight_iff.mp above))

theorem isNext_day (time : Nat) : IsNext (MidnightOf fun _ => True) time (midnight (dayOf time + 1)) :=
  isNext_midnight trivial (Nat.lt_succ_self _) fun _ _ later => later

/-! ## Weeks -/

/-- The day of the week: 0 is Sunday. -/
def weekday (day : Nat) : Nat := (day + 4) % 7

/-- The days until Sunday, of which there are seven on a Sunday. -/
def daysToSunday (day : Nat) : Nat := if (7 - weekday day) % 7 = 0 then 7 else (7 - weekday day) % 7

theorem daysToSunday_spec (day : Nat) : 0 < daysToSunday day ∧ weekday (day + daysToSunday day) = 0 ∧
    ∀ other, weekday other = 0 → day < other → day + daysToSunday day ≤ other := by
  unfold daysToSunday weekday
  split
  · exact ⟨by omega, by omega, fun other sunday later => by omega⟩
  · exact ⟨by omega, by omega, fun other sunday later => by omega⟩

theorem isNext_sunday (time : Nat) : IsNext (MidnightOf fun day => weekday day = 0) time
    (midnight (dayOf time + daysToSunday (dayOf time))) := by
  obtain ⟨positive, sunday, least⟩ := daysToSunday_spec (dayOf time)
  exact isNext_midnight sunday (Nat.lt_add_of_pos_right positive) least

/-! ## Months -/

/-- The days of the month that many months after January 1970. -/
def monthLength (month : Nat) : Nat :=
  let year := 1970 + month / 12
  match month % 12 with
  | 1 => if year % 4 = 0 ∧ (year % 100 ≠ 0 ∨ year % 400 = 0) then 29 else 28
  | 3 | 5 | 8 | 10 => 30
  | _ => 31

/-- The first day of the month. -/
def monthStart : Nat → Nat
  | 0 => 0
  | month + 1 => monthStart month + monthLength month

def monthOf (day : Nat) : Nat := Nat.findGreatest (fun month => monthStart month ≤ day) day

theorem monthLength_pos (month : Nat) : 0 < monthLength month := by
  unfold monthLength
  dsimp only
  split
  · split <;> decide
  all_goals decide

theorem monthStart_strictMono : StrictMono monthStart :=
  strictMono_nat_of_lt_succ fun month => Nat.lt_add_of_pos_right (monthLength_pos month)

theorem monthStart_monthOf_le (day : Nat) : monthStart (monthOf day) ≤ day := by
  have first : monthStart 0 ≤ day := Nat.zero_le day
  exact Nat.findGreatest_spec (P := fun month => monthStart month ≤ day) (Nat.zero_le day) first

theorem lt_monthStart_monthOf_succ (day : Nat) : day < monthStart (monthOf day + 1) := by
  by_cases within : monthOf day + 1 ≤ day
  · have above := Nat.findGreatest_is_greatest (Nat.lt_succ_self (monthOf day)) within
    exact Nat.lt_of_not_le above
  · have far := monthStart_strictMono.le_apply (x := monthOf day + 1)
    exact (Nat.lt_of_not_le within).trans_le far

theorem isNext_month (time : Nat) : IsNext (MidnightOf fun day => ∃ month, day = monthStart month) time
    (midnight (monthStart (monthOf (dayOf time) + 1))) := by
  refine isNext_midnight ⟨_, rfl⟩ (lt_monthStart_monthOf_succ _) ?_
  rintro - ⟨month, rfl⟩ later
  have before := (monthStart_monthOf_le (dayOf time)).trans_lt later
  exact monthStart_strictMono.monotone (monthStart_strictMono.lt_iff_lt.mp before)

end Motogram.Foundation.Calendar
