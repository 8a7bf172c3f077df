import Mathlib.Data.List.Basic
import Mathlib.Tactic.Common

/-!
# The text of a JSON value

How a value is written without white space, and what a reader who goes through the text letter by
letter sees: whether a letter is inside a string or outside. A text that is written starts and ends
outside (`scan_write`).

A text that ends another one cannot be read both ways: from the inside of a string and from the outside
it does not end alike (`not_both_outside`). So what follows a dot in the text of an object is no text of
a value (`not_text_after_dot`).

How numbers are written is left open; all that matters is that no quotation mark, backslash or closing
brace occurs in a number, and that a digit follows a dot.
-/

set_option autoImplicit false

namespace Motogram.Foundation

/-- A value of JSON, over some numbers. -/
inductive JsonValue (Number : Type) where
  | null
  | bool (value : Bool)
  | number (value : Number)
  | string (text : String)
  | array (items : List (JsonValue Number))
  | object (fields : List (String × JsonValue Number))

namespace JsonText

variable {Number : Type}

/-! ## Writing -/

def hexLetter (value : Nat) : Char := value.digitChar

/-- A letter of a string as it is written. -/
def escape (c : Char) : List Char :=
  if c = '"' then ['\\', '"']
  else if c = '\\' then ['\\', '\\']
  else if c.toNat = 8 then ['\\', 'b']
  else if c.toNat = 9 then ['\\', 't']
  else if c.toNat = 10 then ['\\', 'n']
  else if c.toNat = 12 then ['\\', 'f']
  else if c.toNat = 13 then ['\\', 'r']
  else if c.toNat < 32 then ['\\', 'u', '0', '0', hexLetter (c.toNat / 16), hexLetter (c.toNat % 16)]
  else [c]

def writeString (text : String) : List Char := '"' :: (text.toList.flatMap escape ++ ['"'])

/-- Parts with commas between them. -/
def separated : List (List Char) → List Char
  | [] => []
  | [part] => part
  | part :: rest => part ++ ',' :: separated rest

mutual

def write (writeNumber : Number → List Char) : JsonValue Number → List Char
  | .null => "null".toList
  | .bool value => if value then "true".toList else "false".toList
  | .number value => writeNumber value
  | .string text => writeString text
  | .array items => '[' :: (separated (writeItems writeNumber items) ++ [']'])
  | .object fields => '{' :: (separated (writeFields writeNumber fields) ++ ['}'])

def writeItems (writeNumber : Number → List Char) : List (JsonValue Number) → List (List Char)
  | [] => []
  | item :: rest => write writeNumber item :: writeItems writeNumber rest

def writeFields (writeNumber : Number → List Char) : List (String × JsonValue Number) → List (List Char)
  | [] => []
  | (name, value) :: rest =>
    (writeString name ++ ':' :: write writeNumber value) :: writeFields writeNumber rest

end

/-! ## Reading letter by letter -/

/-- Where a reader is: outside of strings, perhaps right after a dot, or inside, perhaps right after a
backslash. -/
inductive Place where
  | outside (afterDot : Bool)
  | inside (afterBackslash : Bool)
  deriving DecidableEq

/-- The place after a letter; none when the letter cannot be there. -/
def Place.next : Place → Char → Option Place
  | .outside true, c => if c.isDigit then some (.outside false) else none
  | .outside false, c =>
    if c = '"' then some (.inside false)
    else if c = '\\' then none
    else some (.outside (decide (c = '.')))
  | .inside true, _ => some (.inside false)
  | .inside false, c =>
    if c = '"' then some (.outside false) else some (.inside (decide (c = '\\')))

/-- The place after a text. -/
def scan (place : Place) : List Char → Option Place
  | [] => some place
  | c :: rest => (place.next c).bind fun next => scan next rest

variable {letters : List Char} (place : Place)

@[simp] theorem scan_nil : scan place [] = some place := rfl

theorem scan_cons (c : Char) (rest : List Char) :
    scan place (c :: rest) = (place.next c).bind fun next => scan next rest := rfl

theorem scan_append (first second : List Char) :
    scan place (first ++ second) = (scan place first).bind fun next => scan next second := by
  induction first generalizing place with
  | nil => rfl
  | cons c rest ih =>
    rw [List.cons_append, scan_cons, scan_cons, Option.bind_assoc]
    exact congrArg _ (funext fun next => ih next)

/-- The text starts and ends outside of strings. -/
def Closed (letters : List Char) : Prop := scan (.outside false) letters = some (.outside false)

theorem Closed.append {first second : List Char} (one : Closed first) (two : Closed second) :
    Closed (first ++ second) := by
  rw [Closed, scan_append, one]
  exact two

/-- A letter that is neither a quotation mark nor a backslash nor a dot. -/
def Plain (c : Char) : Prop := c ≠ '"' ∧ c ≠ '\\' ∧ c ≠ '.'

theorem closed_of_plain (plain : ∀ c ∈ letters, Plain c) : Closed letters := by
  induction letters with
  | nil => rfl
  | cons c rest ih =>
    obtain ⟨quote, backslash, dot⟩ := plain c List.mem_cons_self
    rw [Closed, scan_cons, Place.next, if_neg quote, if_neg backslash, decide_eq_false dot]
    exact ih fun other member => plain other (List.mem_cons_of_mem _ member)

theorem closed_dot {digit : Char} (isDigit : digit.isDigit = true) : Closed ['.', digit] := by
  rw [Closed]
  simp [Place.next, scan_cons, isDigit]

/-! ## What is written -/

/-- A number is written without quotation marks, backslashes and braces, and a digit follows a dot. -/
structure NumberText (letters : List Char) : Prop where
  closed : Closed letters
  noBrace : '}' ∉ letters
  nonempty : letters ≠ []

/-- A letter that may stand anywhere in a number. -/
def Numeric (c : Char) : Prop := Plain c ∧ c ≠ '}'

theorem numeric_of_isDigit {c : Char} (isDigit : c.isDigit = true) : Numeric c := by
  refine ⟨⟨?_, ?_, ?_⟩, ?_⟩ <;>
  · rintro rfl
    cases isDigit

theorem NumberText.of_numeric (nonempty : letters ≠ []) (numeric : ∀ c ∈ letters, Numeric c) :
    NumberText letters where
  closed := closed_of_plain fun c member => (numeric c member).1
  noBrace := fun member => (numeric _ member).2 rfl
  nonempty := nonempty

theorem NumberText.of_point {first rest : List Char} {digit : Char} (numeric : ∀ c ∈ first, Numeric c)
    (isDigit : digit.isDigit = true) (numeric' : ∀ c ∈ rest, Numeric c) :
    NumberText (first ++ '.' :: digit :: rest) where
  closed := by
    have before := closed_of_plain fun c member => (numeric c member).1
    have after := closed_of_plain fun c member => (numeric' c member).1
    exact before.append ((closed_dot isDigit).append after)
  noBrace := by
    intro member
    obtain early | late := List.mem_append.mp member
    · exact (numeric _ early).2 rfl
    · obtain ⟨⟩ | ⟨-, late⟩ := late
      obtain ⟨⟩ | ⟨-, late⟩ := late
      · exact (numeric_of_isDigit isDigit).2 rfl
      · exact (numeric' _ late).2 rfl
  nonempty := List.append_ne_nil_of_right_ne_nil _ (List.cons_ne_nil _ _)

theorem NumberText.minus (text : NumberText letters) : NumberText ('-' :: letters) where
  closed := by
    have sign : Closed ['-'] := rfl
    exact sign.append text.closed
  noBrace := by
    intro member
    obtain ⟨⟩ | ⟨-, member⟩ := member
    exact text.noBrace member
  nonempty := List.cons_ne_nil _ _

/-- A letter other than a quotation mark and a backslash leaves the reader inside. -/
theorem next_inside {c : Char} (quote : c ≠ '"') (backslash : c ≠ '\\') :
    Place.next (.inside false) c = some (.inside false) := by
  rw [Place.next, if_neg quote, decide_eq_false backslash]

theorem next_hexLetter (value : Nat) : Place.next (.inside false) (hexLetter value) = some (.inside false) :=
  next_inside (Nat.digitChar_ne _ (by decide)) (Nat.digitChar_ne _ (by decide))

theorem scan_escape (c : Char) : scan (.inside false) (escape c) = some (.inside false) := by
  unfold escape
  split
  · rfl
  · rename_i quote
    split
    · rfl
    · rename_i backslash
      repeat' split
      any_goals rfl
      · change (Place.next (.inside false) (hexLetter _)).bind _ = _
        rw [next_hexLetter]
        change (Place.next (.inside false) (hexLetter _)).bind _ = _
        rw [next_hexLetter]
        rfl
      · rw [scan_cons, next_inside quote backslash]
        rfl

theorem closed_writeString (text : String) : Closed (writeString text) := by
  have inner : ∀ letters : List Char,
      scan (.inside false) (letters.flatMap escape) = some (.inside false) := by
    intro letters
    induction letters with
    | nil => rfl
    | cons c rest ih =>
      rw [List.flatMap_cons, scan_append, scan_escape]
      exact ih
  rw [Closed, writeString, scan_cons]
  change scan (.inside false) _ = _
  rw [scan_append, inner]
  rfl

theorem closed_separated {parts : List (List Char)} (closed : ∀ part ∈ parts, Closed part) :
    Closed (separated parts) := by
  induction parts with
  | nil => rfl
  | cons part rest ih =>
    have first := closed part List.mem_cons_self
    have others := ih fun other member => closed other (List.mem_cons_of_mem _ member)
    cases rest with
    | nil => exact first
    | cons next rest =>
      have comma : Closed [','] := rfl
      exact first.append (comma.append others)

variable {writeNumber : Number → List Char}

mutual

/-- **A text that is written starts and ends outside of strings.** -/
theorem scan_write (numbers : ∀ value, NumberText (writeNumber value)) :
    (value : JsonValue Number) → Closed (write writeNumber value)
  | .null => rfl
  | .bool true => rfl
  | .bool false => rfl
  | .number value => by
    rw [write]
    exact (numbers value).closed
  | .string text => by
    rw [write]
    exact closed_writeString text
  | .array items => by
    have opened : Closed ['['] := rfl
    have ended : Closed [']'] := rfl
    rw [write]
    exact opened.append ((closed_separated (closed_writeItems numbers items)).append ended)
  | .object fields => by
    have opened : Closed ['{'] := rfl
    have ended : Closed ['}'] := rfl
    rw [write]
    exact opened.append ((closed_separated (closed_writeFields numbers fields)).append ended)

theorem closed_writeItems (numbers : ∀ value, NumberText (writeNumber value)) :
    (items : List (JsonValue Number)) → ∀ part ∈ writeItems writeNumber items, Closed part
  | [] => fun _ => nofun
  | item :: rest => by
    intro part member
    rw [writeItems] at member
    obtain rfl | later := List.mem_cons.mp member
    · exact scan_write numbers item
    · exact closed_writeItems numbers rest part later

theorem closed_writeFields (numbers : ∀ value, NumberText (writeNumber value)) :
    (fields : List (String × JsonValue Number)) → ∀ part ∈ writeFields writeNumber fields, Closed part
  | [] => fun _ => nofun
  | (name, value) :: rest => by
    intro part member
    rw [writeFields] at member
    obtain rfl | later := List.mem_cons.mp member
    · have colon : Closed [':'] := rfl
      exact (closed_writeString name).append (colon.append (scan_write numbers value))
    · exact closed_writeFields numbers rest part later

end

/-! ## What follows a dot -/

theorem not_both_outside {letters : List Char} {dot dot' dot'' : Bool}
    (within : scan (.inside false) letters = some (.outside dot'))
    (without : scan (.outside dot) letters = some (.outside dot'')) : False := by
  -- the two readers change places at every quotation mark, and no backslash can stand for either
  suffices apart : ∀ (letters : List Char) (dot dot' dot'' : Bool),
      ¬ (scan (.inside false) letters = some (.outside dot') ∧
        scan (.outside dot) letters = some (.outside dot'')) by
    exact apart letters dot dot' dot'' ⟨within, without⟩
  intro letters
  induction letters with
  | nil =>
    rintro dot dot' dot'' ⟨⟨⟩, -⟩
  | cons c rest ih =>
    rintro dot dot' dot'' ⟨within, without⟩
    rw [scan_cons] at within without
    cases dot with
    | true =>
      rw [Place.next] at without
      split at without
      · rename_i digit
        have quote : c ≠ '"' := by
          rintro rfl
          cases digit
        have backslash : c ≠ '\\' := by
          rintro rfl
          cases digit
        rw [next_inside quote backslash] at within
        exact ih false dot' dot'' ⟨within, without⟩
      · cases without
    | false =>
      simp only [Place.next] at within without
      by_cases quote : c = '"'
      · rw [if_pos quote] at within without
        exact ih false dot'' dot' ⟨without, within⟩
      · rw [if_neg quote] at within without
        by_cases backslash : c = '\\'
        · rw [if_pos backslash] at without
          cases without
        · rw [decide_eq_false backslash] at within
          rw [if_neg backslash] at without
          exact ih _ dot' dot'' ⟨within, without⟩

theorem write_ne_nil (numbers : ∀ value, NumberText (writeNumber value)) (value : JsonValue Number) :
    write writeNumber value ≠ [] := by
  cases value with
  | null => exact nofun
  | bool value => cases value <;> exact nofun
  | number value =>
    exact (numbers value).nonempty
  | string | array | object =>
    exact nofun

theorem number_of_digit {value : JsonValue Number} {digit : Char} {rest : List Char}
    (starts : write writeNumber value = digit :: rest) (isDigit : digit.isDigit = true) :
    ∃ number, value = .number number := by
  cases value with
  | number value => exact ⟨value, rfl⟩
  | null | array | object =>
    cases starts
    cases isDigit
  | bool value =>
    cases value <;> cases starts <;> cases isDigit
  | string text =>
    cases starts
    cases isDigit

/-- **What follows a dot in the text of an object is not the text of a value.** -/
theorem not_text_after_dot (numbers : ∀ value, NumberText (writeNumber value))
    (fields : List (String × JsonValue Number)) (value : JsonValue Number) (before : List Char) :
    write writeNumber (.object fields) ≠ before ++ '.' :: write writeNumber value := by
  intro same
  have whole := scan_write numbers (.object fields)
  have part := scan_write numbers value
  rw [Closed, same, scan_append] at whole
  cases place : scan (.outside false) before with
  | none =>
    rw [place] at whole
    cases whole
  | some place' =>
    rw [place] at whole
    change (place'.next '.').bind _ = _ at whole
    cases place' with
    | inside escaped =>
      -- the reader of the whole is inside a string where the reader of the rest is outside
      have stays : Place.next (.inside escaped) '.' = some (.inside false) := by
        cases escaped <;> rfl
      rw [stays] at whole
      exact not_both_outside whole part
    | outside afterDot =>
      cases afterDot with
      | true => cases whole
      | false =>
        -- a digit follows, so the rest is a number, but it ends with the brace of the object
        change scan (.outside true) (write writeNumber value) = _ at whole
        cases starts : write writeNumber value with
        | nil => exact write_ne_nil numbers value starts
        | cons digit rest =>
          rw [starts, scan_cons, Place.next] at whole
          split at whole
          · rename_i isDigit
            obtain ⟨number, rfl⟩ := number_of_digit starts isDigit
            have last : (before ++ '.' :: write writeNumber (.number number)).getLast? = some '}' := by
              rw [← same, write, ← List.cons_append, List.getLast?_append]
              rfl
            rw [starts, List.getLast?_append, List.getLast?_cons_cons] at last
            have ends : (digit :: rest).getLast? = some '}' := by
              cases there : (digit :: rest).getLast? with
              | none => cases List.getLast?_eq_none_iff.mp there
              | some c =>
                rw [there] at last
                exact last
            rw [← starts] at ends
            have brace := List.mem_of_getLast? ends
            exact (numbers number).noBrace brace
          · cases whole

end JsonText

end Motogram.Foundation
