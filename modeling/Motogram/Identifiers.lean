import Motogram.Literals

/-!
# The texts of identifiers

The two shapes an identifier has in the shared schemas: a UUID, and a key in snake case. What the
services build of such texts they take apart again, or compare as a whole; it matters which letters an
identifier is free of.
-/

set_option autoImplicit false

namespace Motogram

/-! ## Cutting a text -/

/-- What comes before the first mark, and what comes after it, are read off the whole. -/
theorem eq_of_cut {Letter : Type} [DecidableEq Letter] {mark : Letter} {before before' after after' : List Letter}
    (free : mark ∉ before) (free' : mark ∉ before') (same : before ++ mark :: after = before' ++ mark :: after') :
    before = before' ∧ after = after' := by
  have pieces := congrArg (List.splitOn mark) same
  rw [List.splitOn_append_cons_self_of_not_mem free, List.splitOn_append_cons_self_of_not_mem free'] at pieces
  obtain ⟨rfl, -⟩ := List.cons.inj pieces
  exact ⟨rfl, (List.cons.inj (List.append_cancel_left same)).2⟩

/-! ## UUIDs -/

/-- A letter of a UUID: a hyphen or a hexadecimal digit of either case. -/
def uuidLetter (letter : Char) : Bool := decide (letter = '-') || decide (digitValue letter < 16)

/-- `z.string().uuid()`: 8, 4, 4, 4 and 12 hexadecimal digits with hyphens between. -/
def isUuid (text : String) : Bool :=
  decide ((text.toList.splitOn '-').map List.length = [8, 4, 4, 4, 12]) && text.toList.all uuidLetter

variable {letter : Char} {text : String}

theorem uuidLetter_of_isUuid (valid : isUuid text = true) : ∀ letter ∈ text.toList, uuidLetter letter = true := by
  rw [isUuid, Bool.and_eq_true, List.all_eq_true] at valid
  exact valid.2

theorem isUuid_ne_empty (valid : isUuid text = true) : text ≠ "" := by
  rintro rfl
  cases valid

theorem not_mem_of_isUuid (valid : isUuid text = true) {letter : Char} (other : uuidLetter letter = false) :
    letter ∉ text.toList := by
  intro member
  rw [uuidLetter_of_isUuid valid letter member] at other
  cases other

theorem toNat_lt_of_uuidLetter (valid : uuidLetter letter = true) : letter.toNat < 128 := by
  rw [uuidLetter, Bool.or_eq_true, decide_eq_true_eq, decide_eq_true_eq] at valid
  obtain rfl | digit := valid
  · decide
  · unfold digitValue at digit
    split at digit
    · rename_i between
      have high : letter.toNat ≤ '9'.toNat := Char.le_def.mp between.2
      exact high.trans_lt (by decide)
    · split at digit
      · rename_i between
        have high : letter.toNat ≤ 'z'.toNat := Char.le_def.mp between.2
        exact high.trans_lt (by decide)
      · split at digit
        · rename_i between
          have high : letter.toNat ≤ 'Z'.toNat := Char.le_def.mp between.2
          exact high.trans_lt (by decide)
        · cases Nat.not_lt.mpr (by decide : 16 ≤ 36) digit

theorem not_space_of_uuidLetter (valid : uuidLetter letter = true) : isJsSpace letter = false := by
  have each : ∀ code < 128, uuidLetter (Char.ofNat code) = true → isJsSpace (Char.ofNat code) = false := by
    decide +kernel
  have found := each letter.toNat (toNat_lt_of_uuidLetter valid)
  rw [Char.ofNat_toNat] at found
  exact found valid

/-! ## Keys in snake case -/

/-- `/[a-z0-9_]/` -/
def keyLetter (letter : Char) : Bool :=
  letter.isLower || letter.isDigit || decide (letter = '_')

/-- `/^[a-z][a-z0-9_]{1,63}$/` -/
def isSnakeCaseKey (text : String) : Bool :=
  match text.toList with
  | [] => false
  | first :: rest =>
    first.isLower && decide (1 ≤ rest.length) && decide (rest.length ≤ 63) && rest.all keyLetter

theorem keyLetter_of_isSnakeCaseKey (valid : isSnakeCaseKey text = true) :
    ∀ letter ∈ text.toList, keyLetter letter = true := by
  intro letter member
  unfold isSnakeCaseKey at valid
  split at valid
  · cases valid
  · rename_i first rest shape
    rw [shape] at member
    simp only [Bool.and_eq_true, List.all_eq_true] at valid
    obtain rfl | later := List.mem_cons.mp member
    · rw [keyLetter, valid.1.1.1]
      rfl
    · exact valid.2 letter later

theorem not_mem_of_isSnakeCaseKey (valid : isSnakeCaseKey text = true) {letter : Char}
    (other : keyLetter letter = false) : letter ∉ text.toList := by
  intro member
  rw [keyLetter_of_isSnakeCaseKey valid letter member] at other
  cases other

end Motogram
