import Mathlib.Data.Int.Log
import Mathlib.Data.Rat.Floor
import Motogram.Entities
import Motogram.Foundation.Calendar
import Motogram.Foundation.JsonText
import Motogram.Text

/-!
# Numbers and dates as JavaScript reads and writes them

`Number(text)` reads a numeral and rounds it to the nearest number of double precision; here it is
what it reads when that is finite. `JSON.stringify` writes a number with as few digits as read back as
the same number. `toISOString` writes a date.
-/

set_option autoImplicit false

namespace Motogram

open Foundation Foundation.Calendar List

/-! ## Numerals -/

/-- What a letter counts as a digit. -/
def digitValue (c : Char) : Nat :=
  if '0' ≤ c ∧ c ≤ '9' then c.toNat - '0'.toNat
  else if 'a' ≤ c ∧ c ≤ 'z' then c.toNat - 'a'.toNat + 10
  else if 'A' ≤ c ∧ c ≤ 'Z' then c.toNat - 'A'.toNat + 10
  else 36

/-- The number that digits of a base write; there is one at least. -/
def readDigits (base : Nat) (letters : List Char) : Option Nat :=
  if letters ≠ [] ∧ letters.all fun c => decide (digitValue c < base) then
    some (letters.foldl (fun value c => value * base + digitValue c) 0)
  else none

/-- Digits, with a decimal point or without. -/
def readMantissa (letters : List Char) : Option ℚ :=
  match letters.span fun c => c ≠ '.' with
  | (whole, []) => (readDigits 10 whole).map fun value => (value : ℚ)
  | (whole, _ :: fraction) =>
    (readDigits 10 (whole ++ fraction)).map fun value => (value : ℚ) / 10 ^ fraction.length

/-- A sign, or none, and the rest. -/
def readSigned {Value : Type} [Neg Value] (read : List Char → Option Value) : List Char → Option Value
  | '+' :: letters => read letters
  | '-' :: letters => (read letters).map Neg.neg
  | letters => read letters

/-- `StrUnsignedDecimalLiteral`, but for `Infinity`. -/
def readDecimal (letters : List Char) : Option ℚ :=
  match letters.span fun c => c ≠ 'e' && c ≠ 'E' with
  | (mantissa, []) => readMantissa mantissa
  | (mantissa, _ :: exponent) => do
    let value ← readMantissa mantissa
    let power ← readSigned (fun digits => (readDigits 10 digits).map fun value => (value : ℤ)) exponent
    pure (value * 10 ^ power)

/-- `StringNumericLiteral`, without the white space around it. -/
def readNumeral : List Char → Option ℚ
  | [] => some 0
  | '0' :: 'x' :: letters | '0' :: 'X' :: letters => (readDigits 16 letters).map fun value => (value : ℚ)
  | '0' :: 'o' :: letters | '0' :: 'O' :: letters => (readDigits 8 letters).map fun value => (value : ℚ)
  | '0' :: 'b' :: letters | '0' :: 'B' :: letters => (readDigits 2 letters).map fun value => (value : ℚ)
  | letters => readSigned readDecimal letters

/-! ### The minus signs of a numeral

One for the number and one for its exponent are all there can be. -/

theorem no_minus_of_readDigits {base : Nat} {letters : List Char} (small : base ≤ 36)
    (read : readDigits base letters ≠ none) : letters.count '-' = 0 := by
  rw [count_eq_zero]
  intro member
  unfold readDigits at read
  split at read
  · rename_i fine
    have digit := of_decide_eq_true (all_eq_true.mp fine.2 '-' member)
    have sign : digitValue '-' = 36 := rfl
    omega
  · exact read rfl

theorem count_span {test : Char → Bool} {letters before after : List Char} {c : Char}
    (parts : letters.span test = (before, after)) : letters.count c = before.count c + after.count c := by
  rw [span_eq_takeWhile_dropWhile] at parts
  obtain ⟨rfl, rfl⟩ := Prod.mk.inj parts
  rw [← count_append, takeWhile_append_dropWhile]

theorem stops_of_span {test : Char → Bool} {letters before after : List Char} {c : Char}
    (parts : letters.span test = (before, c :: after)) : test c = false := by
  rw [span_eq_takeWhile_dropWhile] at parts
  have fails := head?_dropWhile_not test letters
  rw [(Prod.mk.inj parts).2] at fails
  exact fails

variable {letters : List Char} {value : ℚ}

theorem no_minus_of_readMantissa (read : readMantissa letters = some value) : letters.count '-' = 0 := by
  unfold readMantissa at read
  split at read
  · rename_i whole parts
    have digits : readDigits 10 whole ≠ none := by
      intro unread
      rw [unread] at read
      cases read
    rw [count_span parts, no_minus_of_readDigits (by decide) digits]
    rfl
  · rename_i whole point fraction parts
    have digits : readDigits 10 (whole ++ fraction) ≠ none := by
      intro unread
      rw [unread] at read
      cases read
    have none := no_minus_of_readDigits (by decide) digits
    have isPoint : point = '.' := by
      have stops := stops_of_span parts
      exact not_not.mp (of_decide_eq_false stops)
    rw [count_span parts, isPoint]
    rw [count_append] at none
    exact none

theorem minus_of_readSigned {Value : Type} [Neg Value] {read : List Char → Option Value}
    {letters : List Char} {value : Value} {bound : Nat}
    (bounded : ∀ letters value, read letters = some value → letters.count '-' ≤ bound)
    (signed : readSigned read letters = some value) : letters.count '-' ≤ bound + 1 := by
  unfold readSigned at signed
  split at signed
  · rename_i rest
    have within := bounded rest value signed
    exact within.trans (Nat.le_succ _)
  · rename_i rest
    obtain ⟨size, inner, -⟩ := Option.map_eq_some_iff.mp signed
    rw [count_cons_self]
    exact Nat.succ_le_succ (bounded rest size inner)
  · exact (bounded letters value signed).trans (Nat.le_succ _)

theorem minus_of_readDecimal (read : readDecimal letters = some value) : letters.count '-' ≤ 1 := by
  unfold readDecimal at read
  split at read
  · rename_i mantissa parts
    rw [count_span parts, no_minus_of_readMantissa read]
    exact Nat.zero_le _
  · rename_i mantissa letter exponent parts
    obtain ⟨size, mantissa', read⟩ := Option.bind_eq_some_iff.mp read
    obtain ⟨power, exponent', -⟩ := Option.bind_eq_some_iff.mp read
    have isLetter : letter ≠ '-' := by
      rintro rfl
      cases stops_of_span parts
    have within : exponent.count '-' ≤ 0 + 1 := by
      refine minus_of_readSigned (fun digits number read => ?_) exponent'
      have inner : readDigits 10 digits ≠ none := by
        intro unread
        rw [unread] at read
        cases read
      exact (no_minus_of_readDigits (by decide) inner).le
    rw [count_span parts, no_minus_of_readMantissa mantissa', count_cons_of_ne isLetter, Nat.zero_add]
    exact within

theorem minus_of_readNumeral (read : readNumeral letters = some value) : letters.count '-' ≤ 2 := by
  have based : ∀ (base : Nat) (rest : List Char), base ≤ 36 →
      ((readDigits base rest).map fun value => (value : ℚ)) = some value → rest.count '-' = 0 := by
    intro base rest small read
    refine no_minus_of_readDigits small fun unread => ?_
    rw [unread] at read
    cases read
  unfold readNumeral at read
  split at read
  · exact Nat.zero_le _
  · have none := based 16 _ (by decide) read
    simp [none]
  · have none := based 16 _ (by decide) read
    simp [none]
  · have none := based 8 _ (by decide) read
    simp [none]
  · have none := based 8 _ (by decide) read
    simp [none]
  · have none := based 2 _ (by decide) read
    simp [none]
  · have none := based 2 _ (by decide) read
    simp [none]
  · exact minus_of_readSigned (fun rest number => minus_of_readDecimal) read

/-! ## Double precision -/

/-- The nearest whole number, the even one of two that are as near. -/
def roundHalfEven (value : ℚ) : ℤ :=
  let floor := ⌊value⌋
  if value - floor < 1 / 2 then floor
  else if 1 / 2 < value - floor then floor + 1
  else if floor % 2 = 0 then floor else floor + 1

/-- The distance of the doubles around a positive number. -/
def doubleStep (value : ℚ) : ℚ := 2 ^ (max (Int.log 2 value) (-1022) - 52)

/-- The nearest number of double precision, when it is finite. -/
def toDouble (value : ℚ) : Option ℚ :=
  if value = 0 then some 0
  else
    let rounded := roundHalfEven (value / doubleStep |value|) * doubleStep |value|
    if |rounded| < 2 ^ 1024 then some rounded else none

/-- `Number(text)`, when `Number.isFinite` holds of it. -/
def finiteNumber (text : String) : Option ℚ := (readNumeral (jsTrim text).toList).bind toDouble

/-- White space has no minus sign in it. -/
theorem count_jsTrim (text : String) : (jsTrim text).toList.count '-' = text.toList.count '-' := by
  have start : ∀ letters : List Char, (letters.dropWhile isJsSpace).count '-' = letters.count '-' := by
    intro letters
    have spaces : (letters.takeWhile isJsSpace).count '-' = 0 := by
      rw [count_eq_zero]
      intro member
      have space := mem_takeWhile_imp member
      cases space
    conv_rhs => rw [← takeWhile_append_dropWhile (p := isJsSpace) (l := letters)]
    rw [count_append, spaces, Nat.zero_add]
  unfold jsTrim
  rw [String.toList_ofList, count_reverse, start, count_reverse, start]

/-- **A text that reads as a finite number has two minus signs at most.** -/
theorem minus_of_finiteNumber {text : String} {value : ℚ} (read : finiteNumber text = some value) :
    text.toList.count '-' ≤ 2 := by
  obtain ⟨number, numeral, -⟩ := Option.bind_eq_some_iff.mp read
  rw [← count_jsTrim]
  exact minus_of_readNumeral numeral

/-! ## Writing numbers -/

/-- The nearest decimal number of so many digits: its digits, and where its point is. -/
def decimalOf (value : ℚ) (length : Nat) : Nat × ℤ :=
  let point := Int.log 10 value + 1
  let digits := (roundHalfEven (value / 10 ^ (point - length))).toNat
  if digits = 10 ^ length then (10 ^ (length - 1), point + 1) else (digits, point)

/-- The decimal number with the fewest digits that reads back as the double. -/
def shortestDecimal (value : ℚ) : Nat × ℤ :=
  let lengths := (List.range 17).map fun less => less + 1
  let fitting := lengths.find? fun length =>
    decide (toDouble ((decimalOf value length).1 * 10 ^ ((decimalOf value length).2 - length)) = some value)
  decimalOf value (fitting.getD 17)

/-- `Number::toString` of digits with a point, for a number above zero. -/
def decimalText (digits : List Char) (point : ℤ) : List Char :=
  if digits.length ≤ point ∧ point ≤ 21 then digits ++ List.replicate (point - digits.length).toNat '0'
  else if 0 < point ∧ point ≤ 21 then digits.take point.toNat ++ '.' :: digits.drop point.toNat
  else if -6 < point ∧ point ≤ 0 then '0' :: '.' :: (List.replicate (-point).toNat '0' ++ digits)
  else
    let exponent := (if point < 1 then '-' else '+') :: Nat.toDigits 10 (point - 1).natAbs
    match digits with
    | first :: second :: rest => first :: '.' :: second :: (rest ++ 'e' :: exponent)
    | _ => digits ++ 'e' :: exponent

/-- `Number::toString` of a finite number. -/
def numberText (value : ℚ) : List Char :=
  if value = 0 then ['0']
  else
    let decimal := shortestDecimal |value|
    let text := decimalText (Nat.toDigits 10 decimal.1) decimal.2
    if value < 0 then '-' :: text else text

/-- A number that `JSON.parse` reads: too large a numeral is read as infinite. -/
inductive JsNumber where
  | finite (value : ℚ)
  | infinite (negative : Bool)
  deriving DecidableEq

/-- How `JSON.stringify` writes a number. -/
def JsNumber.write : JsNumber → List Char
  | .finite value => numberText value
  | .infinite _ => "null".toList

/-! ## What a number is written with -/

open JsonText

theorem isDigit_of_mem_toDigits {value : Nat} {c : Char} (member : c ∈ Nat.toDigits 10 value) :
    c.isDigit = true :=
  Nat.isDigit_of_mem_toDigits (by decide) (by decide) member

theorem numberText_decimalText {digits : List Char} (some_digit : digits ≠ [])
    (areDigits : ∀ c ∈ digits, c.isDigit = true) (point : ℤ) : NumberText (decimalText digits point) := by
  have numeric : ∀ c ∈ digits, Numeric c := fun c member => numeric_of_isDigit (areDigits c member)
  have zeros : ∀ count, ∀ c ∈ replicate count '0', c.isDigit = true := by
    intro count c member
    rw [eq_of_mem_replicate member]
    decide
  unfold decimalText
  split
  · refine NumberText.of_numeric (append_ne_nil_of_left_ne_nil some_digit _) fun c member => ?_
    obtain inDigits | inZeros := mem_append.mp member
    · exact numeric c inDigits
    · exact numeric_of_isDigit (zeros _ c inZeros)
  · rename_i beyond
    split
    · -- the point is before the end, so a digit follows it
      have shorter : point.toNat < digits.length := by omega
      rw [drop_eq_getElem_cons shorter]
      refine NumberText.of_point ?_ (areDigits _ (getElem_mem shorter)) ?_
      · exact fun c member => numeric c (mem_of_mem_take member)
      · exact fun c member => numeric c (mem_of_mem_drop member)
    · split
      · have all : ∀ c ∈ replicate (-point).toNat '0' ++ digits, c.isDigit = true := by
          intro c member
          obtain inZeros | inDigits := mem_append.mp member
          · exact zeros _ c inZeros
          · exact areDigits c inDigits
        cases tail : replicate (-point).toNat '0' ++ digits with
        | nil => exact absurd (append_eq_nil_iff.mp tail).2 some_digit
        | cons digit rest =>
          rw [tail] at all
          have zero : ∀ c ∈ ['0'], Numeric c := by
            intro c member
            rw [mem_singleton.mp member]
            exact numeric_of_isDigit rfl
          exact NumberText.of_point zero (all digit mem_cons_self)
            fun c member => numeric_of_isDigit (all c (mem_cons_of_mem _ member))
      · have letter : Numeric 'e' := by
          refine ⟨⟨?_, ?_, ?_⟩, ?_⟩ <;> decide
        have sign : Numeric (if point < 1 then '-' else '+') := by
          split <;> refine ⟨⟨?_, ?_, ?_⟩, ?_⟩ <;> decide
        have power : ∀ c ∈ 'e' :: (if point < 1 then '-' else '+') :: Nat.toDigits 10 (point - 1).natAbs,
            Numeric c := by
          intro c member
          obtain rfl | member := mem_cons.mp member
          · exact letter
          · obtain rfl | member := mem_cons.mp member
            · exact sign
            · exact numeric_of_isDigit (isDigit_of_mem_toDigits member)
        have joined : ∀ first : List Char, (∀ c ∈ first, Numeric c) →
            ∀ c ∈ first ++ 'e' :: (if point < 1 then '-' else '+') :: Nat.toDigits 10 (point - 1).natAbs,
              Numeric c := by
          intro first fine c member
          obtain early | late := mem_append.mp member
          · exact fine c early
          · exact power c late
        dsimp only
        split
        · rename_i first second rest
          have front : ∀ c ∈ [first], Numeric c := by
            intro c member
            rw [mem_singleton.mp member]
            exact numeric first mem_cons_self
          refine NumberText.of_point front (areDigits second (mem_cons_of_mem _ mem_cons_self))
            (joined rest fun c member => ?_)
          exact numeric c (mem_cons_of_mem _ (mem_cons_of_mem _ member))
        · exact NumberText.of_numeric (append_ne_nil_of_left_ne_nil some_digit _)
            (joined digits numeric)

/-- **However a number is written, it is the text of a number.** -/
theorem numberText_write (value : JsNumber) : NumberText (JsNumber.write value) := by
  cases value with
  | infinite negative =>
    refine NumberText.of_numeric (cons_ne_nil _ _) fun c member => ?_
    have letters : c ∈ ['n', 'u', 'l', 'l'] := member
    simp only [mem_cons, not_mem_nil, or_false] at letters
    obtain rfl | rfl | rfl | rfl := letters <;> refine ⟨⟨?_, ?_, ?_⟩, ?_⟩ <;> decide
  | finite value =>
    rw [JsNumber.write, numberText]
    split
    · exact NumberText.of_numeric (by decide) fun c member => by
        rw [mem_singleton.mp member]
        exact numeric_of_isDigit rfl
    · have decimal : NumberText (decimalText (Nat.toDigits 10 (shortestDecimal |value|).1)
          (shortestDecimal |value|).2) :=
        numberText_decimalText Nat.toDigits_ne_nil (fun c member => isDigit_of_mem_toDigits member) _
      split
      · exact decimal.minus
      · exact decimal

/-! ## Dates -/

/-- A number in that many digits at least. -/
def padded (width value : Nat) : String :=
  String.ofList (List.replicate (width - (toString value).length) '0') ++ toString value

/-- The year of a date: six digits and a sign when four do not suffice. -/
def yearText (year : Nat) : String := if year ≤ 9999 then padded 4 year else "+" ++ padded 6 year

/-- `Date.prototype.toISOString`. -/
def toISOString (time : Time) : String :=
  let day := dayOf time
  let month := monthOf day
  let milliseconds := time % dayMs
  yearText (1970 + month / 12) ++ "-" ++ padded 2 (month % 12 + 1) ++ "-" ++
    padded 2 (day - monthStart month + 1) ++ "T" ++ padded 2 (milliseconds / 3600000) ++ ":" ++
      padded 2 (milliseconds / 60000 % 60) ++ ":" ++ padded 2 (milliseconds / 1000 % 60) ++ "." ++
        padded 3 (milliseconds % 1000) ++ "Z"

end Motogram
