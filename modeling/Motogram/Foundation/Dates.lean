import Mathlib.Data.Int.ConditionallyCompleteOrder
import Mathlib.Data.Nat.Find
import Mathlib.Order.Bounds.Basic
import Mathlib.Order.Monotone.Basic

/-!
# The `Date` of the language

The time value of a `Date` counts milliseconds from the first of January 1970, at most a hundred
million days away from it on either side; a value farther off makes the date invalid (`timeClip`).

Days are numbered from the same date, and months from the January of the year 0, so that the carry of
`MakeDay` from months into years is a division by twelve. The day belongs to the month whose first day
is the last one that is not after it (`monthStart_monthOf_le`, `lt_monthStart_monthOf_succ`).
-/

set_option autoImplicit false

namespace Motogram.Foundation.Dates

/-! ## Years -/

def InLeapYear (year : Int) : Prop := year % 4 = 0 ∧ (year % 100 ≠ 0 ∨ year % 400 = 0)

instance (year : Int) : Decidable (InLeapYear year) := inferInstanceAs (Decidable (_ ∧ _))

def daysInYear (year : Int) : Int := if InLeapYear year then 366 else 365

/-- `DayFromYear`. -/
def dayFromYear (year : Int) : Int :=
  365 * (year - 1970) + (year - 1969) / 4 - (year - 1901) / 100 + (year - 1601) / 400

/-- The year of the day: four hundred years have 146097 days, and what they make of the day is at most
one year off. -/
def yearOf (day : Int) : Int :=
  let estimate := 1970 + 400 * day / 146097
  if day < dayFromYear estimate then estimate - 1
  else if dayFromYear (estimate + 1) ≤ day then estimate + 1
  else estimate

theorem dayFromYear_succ (year : Int) : dayFromYear (year + 1) = dayFromYear year + daysInYear year := by
  by_cases leap : InLeapYear year
  · rw [daysInYear, if_pos leap]
    unfold InLeapYear at leap
    unfold dayFromYear
    omega
  · rw [daysInYear, if_neg leap]
    unfold InLeapYear at leap
    unfold dayFromYear
    omega

theorem yearOf_spec (day : Int) : dayFromYear (yearOf day) ≤ day ∧ day < dayFromYear (yearOf day + 1) := by
  unfold yearOf
  dsimp only
  split
  · next below =>
    rw [Int.sub_add_cancel]
    refine ⟨?_, below⟩
    unfold dayFromYear
    omega
  · next above =>
    split
    · next beyond =>
      refine ⟨beyond, ?_⟩
      unfold dayFromYear
      omega
    · next within => exact ⟨Int.not_lt.mp above, Int.not_le.mp within⟩

/-! ## Months -/

/-- The days of a month, of which January is the first. -/
def daysInMonth (year : Int) : Nat → Int
  | 1 => if InLeapYear year then 29 else 28
  | 3 | 5 | 8 | 10 => 30
  | _ => 31

def daysBefore (year : Int) : Nat → Int
  | 0 => 0
  | month + 1 => daysBefore year month + daysInMonth year month

def monthStart (month : Int) : Int := dayFromYear (month / 12) + daysBefore (month / 12) (month % 12).toNat

def monthOf (day : Int) : Int :=
  12 * yearOf day + Nat.findGreatest (fun month => dayFromYear (yearOf day) + daysBefore (yearOf day) month ≤ day) 11

theorem daysInMonth_pos (year : Int) (month : Nat) : 0 < daysInMonth year month := by
  unfold daysInMonth
  split
  · split
    · decide
    · decide
  all_goals decide

theorem daysBefore_twelve (year : Int) : daysBefore year 12 = daysInYear year := by
  simp only [daysBefore, daysInMonth, daysInYear]
  split
  · rfl
  · rfl

theorem monthStart_of_year (year : Int) {month : Nat} (within : month ≤ 12) :
    monthStart (12 * year + month) = dayFromYear year + daysBefore year month := by
  obtain rfl | fewer := within.eq_or_lt
  · have next : (12 * year + (12 : Nat)) / 12 = year + 1 := by omega
    have first : ((12 * year + (12 : Nat)) % 12).toNat = 0 := by omega
    rw [monthStart, next, first, dayFromYear_succ, daysBefore_twelve]
    exact Int.add_zero _
  · have same : (12 * year + month) / 12 = year := by omega
    have place : ((12 * year + month) % 12).toNat = month := by omega
    rw [monthStart, same, place]

theorem monthStart_succ (month : Int) :
    monthStart (month + 1) = monthStart month + daysInMonth (month / 12) (month % 12).toNat := by
  have next : month + 1 = 12 * (month / 12) + ((month % 12).toNat + 1 : Nat) := by omega
  rw [next, monthStart_of_year _ (by omega), daysBefore, ← Int.add_assoc, monthStart]

theorem monthStart_lt_iff {first second : Int} : monthStart first < monthStart second ↔ first < second := by
  refine (strictMono_int_of_lt_succ fun month => ?_).lt_iff_lt
  have positive := daysInMonth_pos (month / 12) (month % 12).toNat
  rw [monthStart_succ]
  omega

theorem monthStart_monthOf_le (day : Int) : monthStart (monthOf day) ≤ day := by
  have few := Nat.findGreatest_le (P := fun month => dayFromYear (yearOf day) + daysBefore (yearOf day) month ≤ day) 11
  have first : dayFromYear (yearOf day) + daysBefore (yearOf day) 0 ≤ day := by
    rw [daysBefore, Int.add_zero]
    exact (yearOf_spec day).1
  rw [monthOf, monthStart_of_year _ (by omega)]
  exact Nat.findGreatest_spec (P := fun month => dayFromYear (yearOf day) + daysBefore (yearOf day) month ≤ day)
    (Nat.zero_le 11) first

theorem lt_monthStart_monthOf_succ (day : Int) : day < monthStart (monthOf day + 1) := by
  have few := Nat.findGreatest_le (P := fun month => dayFromYear (yearOf day) + daysBefore (yearOf day) month ≤ day) 11
  rw [monthOf, Int.add_assoc, ← Int.natCast_succ, monthStart_of_year _ (by omega)]
  obtain last | earlier := few.eq_or_lt
  · rw [last, daysBefore_twelve, ← dayFromYear_succ]
    exact (yearOf_spec day).2
  · exact Int.not_le.mp (Nat.findGreatest_is_greatest (Nat.lt_succ_self _) earlier)

theorem monthOf_eq {day month : Int} (begun : monthStart month ≤ day) (before : day < monthStart (month + 1)) :
    monthOf day = month := by
  have above := monthStart_lt_iff.mp ((monthStart_monthOf_le day).trans_lt before)
  have below := monthStart_lt_iff.mp (begun.trans_lt (lt_monthStart_monthOf_succ day))
  omega

/-! ## Dates -/

def msPerDay : Int := 86400000

/-- The largest distance of a time value. -/
def maxTime : Int := 8640000000000000

/-- A date that is valid. -/
abbrev Date := { time : Int // -maxTime ≤ time ∧ time ≤ maxTime }

def timeClip (time : Int) : Option Date :=
  if representable : -maxTime ≤ time ∧ time ≤ maxTime then some ⟨time, representable⟩ else none

def dayOf (time : Int) : Int := time / msPerDay

def timeWithinDay (time : Int) : Int := time % msPerDay

def makeTime (hour min sec ms : Int) : Int := hour * 3600000 + min * 60000 + sec * 1000 + ms

def makeDay (year month date : Int) : Int := monthStart (12 * year + month) + date - 1

def makeDate (day time : Int) : Int := day * msPerDay + time

def getUTCFullYear (time : Int) : Int := monthOf (dayOf time) / 12

/-- January is 0. -/
def getUTCMonth (time : Int) : Int := monthOf (dayOf time) % 12

def getUTCDate (time : Int) : Int := dayOf time - monthStart (monthOf (dayOf time)) + 1

/-- Sunday is 0. -/
def getUTCDay (time : Int) : Int := (dayOf time + 4) % 7

def setUTCHours (date : Date) (hour min sec ms : Int) : Option Date :=
  timeClip (makeDate (dayOf date) (makeTime hour min sec ms))

def setUTCDate (date : Date) (day : Int) : Option Date :=
  timeClip (makeDate (makeDay (getUTCFullYear date) (getUTCMonth date) day) (timeWithinDay date))

def setUTCMonth (date : Date) (month day : Int) : Option Date :=
  timeClip (makeDate (makeDay (getUTCFullYear date) month day) (timeWithinDay date))

end Motogram.Foundation.Dates
