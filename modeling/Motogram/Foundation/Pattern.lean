import Mathlib.Data.List.Infix

/-!
# Patterns with wildcards

A pattern is a list of tokens: a letter stands for itself, `one` for any one letter and `many`
for any number of letters. `Token.parse` reads a pattern from a text in which three letters are
the two wildcards and an escape that takes the next letter literally; a text that ends with the
escape is no pattern.
-/

set_option autoImplicit false

namespace Motogram.Foundation

variable {Letter : Type} [DecidableEq Letter]

inductive Token (Letter : Type) where
  | literal (letter : Letter)
  | one
  | many
  deriving DecidableEq

/-- The letters that are not taken literally. -/
structure Wildcards (Letter : Type) where
  one : Letter
  many : Letter
  escape : Letter

namespace Wildcards

variable (wildcards : Wildcards Letter)

def token (letter : Letter) : Token Letter :=
  if letter = wildcards.one then .one
  else if letter = wildcards.many then .many
  else .literal letter

/-- The pattern a text is read as. -/
def parse : List Letter → Option (List (Token Letter))
  | [] => some []
  | [letter] => if letter = wildcards.escape then none else some [wildcards.token letter]
  | letter :: next :: rest =>
    if letter = wildcards.escape then (parse rest).map fun tokens => .literal next :: tokens
    else (parse (next :: rest)).map fun tokens => wildcards.token letter :: tokens

end Wildcards

/-- The pattern matches the whole text. -/
def Token.fits : List (Token Letter) → List Letter → Bool
  | [], text => text.isEmpty
  | .literal _ :: _, [] => false
  | .literal letter :: pattern, first :: text => decide (letter = first) && fits pattern text
  | .one :: _, [] => false
  | .one :: pattern, _ :: text => fits pattern text
  | .many :: pattern, text => text.tails.any fun rest => fits pattern rest

namespace Wildcards

variable (wildcards : Wildcards Letter)

/-- `text LIKE pattern`. -/
def like (text pattern : List Letter) : Bool :=
  (wildcards.parse pattern).any fun tokens => Token.fits tokens text

variable {wildcards}

end Wildcards

end Motogram.Foundation
