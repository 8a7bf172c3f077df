import Mathlib.Data.List.Infix

/-!
# Glob patterns

A glob is read letter by letter: `*` stands for any letters, `?` for any one letter, brackets for one letter
of a class, a backslash takes the next letter literally, and any other letter stands for itself. A class
that is not closed reaches to the end of the pattern.

Letters that are none of these read as themselves in front of any pattern (`parse_append`), so letters and
a star after them match what begins with the letters (`globMatches_begins`).
-/

set_option autoImplicit false

namespace Motogram.Foundation

/-- A piece of a glob. The letters of a class are given as ranges. -/
inductive GlobToken where
  | letter (c : Char)
  | one
  | many
  | oneOf (negated : Bool) (ranges : List (Char × Char))
  deriving DecidableEq

namespace Glob

/-- The class that is being read, when one is. -/
abbrev Open := Option (Bool × List (Char × Char))

def parse : Open → List Char → List GlobToken
  | none, [] => []
  | none, '*' :: rest => .many :: parse none rest
  | none, '?' :: rest => .one :: parse none rest
  | none, '[' :: '^' :: rest => parse (some (true, [])) rest
  | none, '[' :: rest => parse (some (false, [])) rest
  | none, '\\' :: c :: rest => .letter c :: parse none rest
  | none, c :: rest => .letter c :: parse none rest
  | some (negated, ranges), [] => [.oneOf negated ranges]
  | some (negated, ranges), '\\' :: c :: rest => parse (some (negated, (c, c) :: ranges)) rest
  | some (negated, ranges), ']' :: rest => .oneOf negated ranges :: parse none rest
  | some (negated, ranges), first :: '-' :: last :: rest =>
    parse (some (negated, (first, last) :: ranges)) rest
  | some (negated, ranges), c :: rest => parse (some (negated, (c, c) :: ranges)) rest

/-- The class has the letter. The ends of a range may stand in either order. -/
def hasLetter (negated : Bool) (ranges : List (Char × Char)) (c : Char) : Bool :=
  (ranges.any fun range => decide (range.1 ≤ c ∧ c ≤ range.2 ∨ range.2 ≤ c ∧ c ≤ range.1)) != negated

/-- The pattern matches the whole text. -/
def fits : List GlobToken → List Char → Bool
  | [], text => text.isEmpty
  | .many :: pattern, text => text.tails.any fun rest => fits pattern rest
  | _ :: _, [] => false
  | .letter letter :: pattern, c :: text => decide (letter = c) && fits pattern text
  | .one :: pattern, _ :: text => fits pattern text
  | .oneOf negated ranges :: pattern, c :: text => hasLetter negated ranges c && fits pattern text

end Glob

def globMatches (pattern text : List Char) : Bool := Glob.fits (Glob.parse none pattern) text

namespace Glob

/-- The letter stands for itself. -/
def Plain (c : Char) : Prop := c ≠ '*' ∧ c ≠ '?' ∧ c ≠ '[' ∧ c ≠ '\\'

instance (c : Char) : Decidable (Plain c) := inferInstanceAs (Decidable (_ ∧ _ ∧ _ ∧ _))

theorem parse_cons {c : Char} (plain : Plain c) (rest : List Char) :
    parse none (c :: rest) = .letter c :: parse none rest := by
  obtain ⟨star, question, bracket, backslash⟩ := plain
  rw [parse.eq_def]
  split <;> simp_all

theorem parse_append {letters : List Char} (plain : ∀ c ∈ letters, Plain c) (rest : List Char) :
    parse none (letters ++ rest) = letters.map .letter ++ parse none rest := by
  induction letters with
  | nil => rfl
  | cons c letters ih =>
    rw [List.cons_append, parse_cons (plain c (List.mem_cons_self ..)), List.map_cons, List.cons_append,
      ih fun other member => plain other (List.mem_cons_of_mem _ member)]

theorem fits_letters (letters : List Char) (pattern : List GlobToken) (text : List Char) :
    fits (letters.map .letter ++ pattern) text = true ↔
      ∃ rest, text = letters ++ rest ∧ fits pattern rest = true := by
  induction letters generalizing text with
  | nil => simp
  | cons letter letters ih =>
    cases text with
    | nil => simp [fits]
    | cons c text =>
      rw [List.map_cons, List.cons_append, fits, Bool.and_eq_true, decide_eq_true_eq, ih]
      constructor
      · rintro ⟨rfl, rest, rfl, matched⟩
        exact ⟨rest, rfl, matched⟩
      · rintro ⟨rest, whole, matched⟩
        obtain ⟨rfl, rfl⟩ := List.cons.inj whole
        exact ⟨rfl, rest, rfl, matched⟩

theorem fits_many (text : List Char) : fits [.many] text = true := by
  rw [fits, List.any_eq_true]
  exact ⟨[], (List.mem_tails [] text).mpr List.nil_suffix, rfl⟩

end Glob

/-- **Plain letters and a star match what begins with the letters.** -/
theorem globMatches_begins {letters : List Char} (plain : ∀ c ∈ letters, Glob.Plain c) (text : List Char) :
    globMatches (letters ++ ['*']) text = true ↔ letters <+: text := by
  have star : Glob.parse none ['*'] = [.many] := rfl
  rw [globMatches, Glob.parse_append plain, Glob.fits_letters]
  constructor
  · rintro ⟨rest, rfl, -⟩
    exact List.prefix_append letters rest
  · rintro ⟨rest, rfl⟩
    exact ⟨rest, rfl, Glob.fits_many rest⟩

end Motogram.Foundation
