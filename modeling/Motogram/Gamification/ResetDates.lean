import Motogram.Foundation.Dates
import Motogram.Gamification.Service

/-!
# Dates of reset

`nextResetAt` changes a copy of the date step by step: to the midnight it begins with and some days on,
or to the first day of the next month and to the midnight of that. Either way what it comes to is the
midnight of one day (`startOfDay_later`, `startOfMonth_next`), so it remains that no earlier day will do.
Between the two steps of a month the date is not at midnight yet; it is representable all the same, for the
last day that is representable is not the first one of a month.

The dates of a quest are at or after 1970, and for these the function is the one of the service
(`nextResetAt_agrees`).
-/

set_option autoImplicit false

namespace Motogram.Gamification.ResetDates

open Foundation
open Foundation.Dates

/-- `nextResetAt`: no date for a period that is none, and an invalid one where the steps make it so. -/
def nextResetAt (from' : Date) : QuestResetPeriod → Option (Option Date)
  | .daily => some do
    let d ← setUTCHours from' 0 0 0 0
    setUTCDate d (getUTCDate d + 1)
  | .weekly => some do
    let day := getUTCDay from'
    let diff := if (7 - day) % 7 = 0 then 7 else (7 - day) % 7
    let d ← setUTCHours from' 0 0 0 0
    setUTCDate d (getUTCDate d + diff)
  | .monthly => some do
    let d ← setUTCMonth from' (getUTCMonth from' + 1) 1
    setUTCHours d 0 0 0 0
  | .none => none

def Midnight (time : Int) : Prop := timeWithinDay time = 0

/-- Where a period ends and the next one begins. -/
def Boundary : QuestResetPeriod → Int → Prop
  | .daily, time => Midnight time
  | .weekly, time => Midnight time ∧ getUTCDay time = 0
  | .monthly, time => Midnight time ∧ getUTCDate time = 1
  | .none, _ => False

/-- The result is the first boundary strictly after the date, as far as a `Date` can represent it. -/
def ReturnsFirst (boundary : Int → Prop) (date : Date) (result : Option (Option Date)) : Prop :=
  ∃ next : Int, IsLeast {time | boundary time ∧ ↑date < time} next ∧ result = some (timeClip next)

/-! ## Midnights -/

section Midnights

variable {time day : Int}

theorem dayOf_makeDate (day : Int) : dayOf (makeDate day 0) = day := by
  unfold dayOf makeDate msPerDay
  omega

theorem midnight_makeDate (day : Int) : Midnight (makeDate day 0) := by
  unfold Midnight timeWithinDay makeDate msPerDay
  omega

theorem eq_makeDate (midnight : Midnight time) : time = makeDate (dayOf time) 0 := by
  unfold Midnight timeWithinDay msPerDay at midnight
  unfold makeDate dayOf msPerDay
  omega

theorem lt_makeDate_iff : time < makeDate day 0 ↔ dayOf time < day := by
  unfold makeDate dayOf msPerDay
  omega

theorem makeDate_le_makeDate {first second : Int} (le : first ≤ second) : makeDate first 0 ≤ makeDate second 0 := by
  unfold makeDate msPerDay
  omega

theorem isLeast_midnight {boundary : Int → Prop} (midnights : ∀ other, boundary other → Midnight other)
    (among : boundary (makeDate day 0)) (later : dayOf time < day)
    (least : ∀ other, boundary (makeDate other 0) → dayOf time < other → day ≤ other) :
    IsLeast {other | boundary other ∧ time < other} (makeDate day 0) := by
  refine ⟨⟨among, lt_makeDate_iff.mpr later⟩, ?_⟩
  rintro other ⟨among', after⟩
  have same := eq_makeDate (midnights other among')
  rw [same] at among' after ⊢
  exact makeDate_le_makeDate (least (dayOf other) among' (lt_makeDate_iff.mp after))

end Midnights

/-! ## What the steps come to -/

section Steps

variable (date : Date)

theorem dayOf_bounds : -100000000 ≤ dayOf date ∧ dayOf date ≤ 100000000 := by
  have bounds := date.2
  unfold maxTime at bounds
  unfold dayOf msPerDay
  omega

theorem setUTCHours_midnight : setUTCHours date 0 0 0 0 = timeClip (makeDate (dayOf date) 0) := rfl

theorem startOfDay_representable : -maxTime ≤ makeDate (dayOf date) 0 ∧ makeDate (dayOf date) 0 ≤ maxTime := by
  have bounds := dayOf_bounds date
  unfold makeDate maxTime msPerDay
  omega

theorem setUTCDate_later (days : Int) : setUTCDate date (getUTCDate date + days) =
    timeClip (makeDate (dayOf date + days) (timeWithinDay date)) := by
  have month : 12 * getUTCFullYear date + getUTCMonth date = monthOf (dayOf date) := Int.mul_ediv_add_emod _ 12
  have day : makeDay (getUTCFullYear date) (getUTCMonth date) (getUTCDate date + days) = dayOf date + days := by
    rw [makeDay, month, getUTCDate]
    omega
  rw [setUTCDate, day]

theorem startOfDay_later (days : Int) :
    (do let d ← setUTCHours date 0 0 0 0; setUTCDate d (getUTCDate d + days)) =
      timeClip (makeDate (dayOf date + days) 0) := by
  have start : setUTCHours date 0 0 0 0 = some ⟨makeDate (dayOf date) 0, startOfDay_representable date⟩ :=
    dif_pos (startOfDay_representable date)
  rw [start]
  refine (setUTCDate_later _ days).trans ?_
  rw [dayOf_makeDate, midnight_makeDate]

/-- The last day that is representable is in the middle of September. -/
theorem monthStart_ne_last (month : Int) : monthStart month ≠ 100000000 := by
  have september : monthStart 3309128 < 100000000 ∧ 100000000 < monthStart 3309129 := by decide
  intro same
  rw [← same] at september
  have after := monthStart_lt_iff.mp september.1
  have before := monthStart_lt_iff.mp september.2
  omega

theorem startOfMonth_next :
    (do let d ← setUTCMonth date (getUTCMonth date + 1) 1; setUTCHours d 0 0 0 0) =
      timeClip (makeDate (monthStart (monthOf (dayOf date) + 1)) 0) := by
  have later := lt_monthStart_monthOf_succ (dayOf date)
  have bounds := dayOf_bounds date
  have last := monthStart_ne_last (monthOf (dayOf date) + 1)
  have month : 12 * getUTCFullYear date + (getUTCMonth date + 1) = monthOf (dayOf date) + 1 := by
    unfold getUTCFullYear getUTCMonth
    omega
  have step : setUTCMonth date (getUTCMonth date + 1) 1 =
      timeClip (makeDate (monthStart (monthOf (dayOf date) + 1)) (timeWithinDay date)) := by
    rw [setUTCMonth, makeDay, month, Int.add_sub_cancel]
  rw [step]
  generalize monthStart (monthOf (dayOf date) + 1) = first at later last
  have within : 0 ≤ timeWithinDay date ∧ timeWithinDay date < msPerDay := by
    unfold timeWithinDay msPerDay
    omega
  have same : dayOf (makeDate first (timeWithinDay date)) = first := by
    unfold dayOf makeDate
    unfold msPerDay at within ⊢
    omega
  by_cases representable : first ≤ 100000000
  · have between : -maxTime ≤ makeDate first (timeWithinDay date) ∧ makeDate first (timeWithinDay date) ≤ maxTime := by
      unfold makeDate maxTime
      unfold msPerDay at within ⊢
      omega
    rw [timeClip, dif_pos between]
    exact (setUTCHours_midnight _).trans (by rw [same])
  · have beyond : ¬(-maxTime ≤ makeDate first (timeWithinDay date) ∧ makeDate first (timeWithinDay date) ≤ maxTime) := by
      unfold makeDate maxTime
      unfold msPerDay at within ⊢
      omega
    have beyond' : ¬(-maxTime ≤ makeDate first 0 ∧ makeDate first 0 ≤ maxTime) := by
      unfold makeDate maxTime msPerDay
      omega
    rw [timeClip, dif_neg beyond, timeClip, dif_neg beyond']
    rfl

end Steps

/-! ## The first boundary -/

theorem nextResetAt_first (date : Date) :
    ReturnsFirst (Boundary .daily) date (nextResetAt date .daily) ∧
      ReturnsFirst (Boundary .weekly) date (nextResetAt date .weekly) ∧
      ReturnsFirst (Boundary .monthly) date (nextResetAt date .monthly) := by
  refine ⟨?daily, ?weekly, ?monthly⟩
  case daily =>
    refine ⟨_, ?_, congrArg some (startOfDay_later date 1)⟩
    refine isLeast_midnight (fun _ midnight => midnight) (midnight_makeDate _) (by omega) ?_
    omega
  case weekly =>
    refine ⟨_, ?_, congrArg some (startOfDay_later date _)⟩
    have sunday : ∀ day, getUTCDay (makeDate day 0) = (day + 4) % 7 := fun day => by
      rw [getUTCDay, dayOf_makeDate]
    refine isLeast_midnight (fun _ boundary => boundary.1) ⟨midnight_makeDate _, ?_⟩ ?_ ?_
    · rw [sunday, getUTCDay]
      split
      · omega
      · omega
    · split
      · omega
      · omega
    · rintro other ⟨-, among⟩ later
      rw [sunday] at among
      rw [getUTCDay]
      split
      · omega
      · omega
  case monthly =>
    refine ⟨_, ?_, congrArg some (startOfMonth_next date)⟩
    have first : ∀ day, getUTCDate (makeDate day 0) = 1 ↔ day = monthStart (monthOf day) := fun day => by
      rw [getUTCDate, dayOf_makeDate]
      omega
    have next : monthOf (monthStart (monthOf (dayOf date) + 1)) = monthOf (dayOf date) + 1 :=
      monthOf_eq le_rfl (monthStart_lt_iff.mpr (Int.lt_succ _))
    refine isLeast_midnight (fun _ boundary => boundary.1) ⟨midnight_makeDate _, (first _).mpr (by rw [next])⟩
      (lt_monthStart_monthOf_succ _) ?_
    rintro other ⟨-, among⟩ later
    have start := (first other).mp among
    rw [start] at later ⊢
    have begun := (monthStart_monthOf_le (dayOf date)).trans_lt later
    exact not_lt.mp fun back => not_lt.mpr (monthStart_lt_iff.mp begun) (monthStart_lt_iff.mp back)

/-! ## Dates from 1970 on -/

theorem midnight_natCast (day : Nat) : (Calendar.midnight day : Int) = makeDate day 0 := by
  unfold Calendar.midnight Calendar.dayMs makeDate msPerDay
  omega

theorem dayOf_natCast (time : Nat) : dayOf time = Calendar.dayOf time := by
  unfold dayOf Calendar.dayOf msPerDay Calendar.dayMs
  omega

theorem monthStart_natCast (month : Nat) : monthStart (23640 + month) = Calendar.monthStart month := by
  induction month with
  | zero => decide
  | succ month ih =>
    have year : (23640 + month : Int) / 12 = 1970 + (month / 12 : Nat) := by omega
    have place : ((23640 + month : Int) % 12).toNat = month % 12 := by omega
    have length : daysInMonth (1970 + (month / 12 : Nat)) (month % 12) = Calendar.monthLength month := by
      have leap : InLeapYear (1970 + (month / 12 : Nat)) ↔ (1970 + month / 12) % 4 = 0 ∧
          ((1970 + month / 12) % 100 ≠ 0 ∨ (1970 + month / 12) % 400 = 0) := by
        unfold InLeapYear
        omega
      unfold daysInMonth Calendar.monthLength
      dsimp only
      generalize month % 12 = place
      split
      · rw [if_congr leap rfl rfl]
        split
        · rfl
        · rfl
      all_goals simp_all
    rw [Int.natCast_succ, ← Int.add_assoc, monthStart_succ, ih, year, place, length]
    exact (Int.natCast_add _ _).symm

theorem monthOf_natCast (day : Nat) : monthOf day = 23640 + Calendar.monthOf day := by
  have begun := Calendar.monthStart_monthOf_le day
  have before := Calendar.lt_monthStart_monthOf_succ day
  refine monthOf_eq ?_ ?_
  · rw [monthStart_natCast]
    exact Int.ofNat_le.mpr begun
  · rw [Int.add_assoc, ← Int.natCast_succ, monthStart_natCast]
    exact Int.ofNat_lt.mpr before

theorem nextResetAt_agrees (date : Date) (time : Nat) (same : (date : Int) = time) (period : QuestResetPeriod) :
    nextResetAt date period = (Gamification.nextResetAt time period).map fun next => timeClip next := by
  have day : dayOf date = Calendar.dayOf time := by rw [same, dayOf_natCast]
  cases period with
  | daily =>
    refine congrArg some ((startOfDay_later date 1).trans ?_)
    rw [midnight_natCast, day, Int.natCast_succ]
  | weekly =>
    refine congrArg some ((startOfDay_later date _).trans ?_)
    have days : (if (7 - getUTCDay date) % 7 = 0 then 7 else (7 - getUTCDay date) % 7) =
        (Calendar.daysToSunday (Calendar.dayOf time) : Int) := by
      unfold Calendar.daysToSunday Calendar.weekday getUTCDay
      split
      · split
        · omega
        · omega
      · split
        · omega
        · omega
    rw [midnight_natCast, Int.natCast_add, ← days, ← day]
  | monthly =>
    refine congrArg some ((startOfMonth_next date).trans ?_)
    rw [midnight_natCast, day, monthOf_natCast, Int.add_assoc, ← Int.natCast_succ, monthStart_natCast]
  | none => rfl

end Motogram.Gamification.ResetDates
