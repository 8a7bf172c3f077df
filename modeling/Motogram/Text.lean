import Mathlib.Data.List.DropRight

/-!
# Text as JavaScript handles it

The string functions of the language that several services use.
-/

set_option autoImplicit false

namespace Motogram

/-- The white space and line terminators that `String.prototype.trim` removes. -/
def isJsSpace (c : Char) : Bool :=
  c.toNat ∈ [0x9, 0xA, 0xB, 0xC, 0xD, 0x20, 0xA0, 0x1680, 0x2028, 0x2029, 0x202F, 0x205F, 0x3000,
    0xFEFF] || (0x2000 ≤ c.toNat && c.toNat ≤ 0x200A)

def jsTrim (text : String) : String :=
  String.ofList ((text.toList.dropWhile isJsSpace).reverse.dropWhile isJsSpace).reverse

/-- What is trimmed has nothing left to trim. -/
theorem jsTrim_jsTrim (text : String) : jsTrim (jsTrim text) = jsTrim text := by
  have trims : ∀ letters : List Char, (letters.dropWhile isJsSpace).rdropWhile isJsSpace =
      (((letters.dropWhile isJsSpace).rdropWhile isJsSpace).dropWhile isJsSpace).rdropWhile isJsSpace := by
    intro letters
    have start : ((letters.dropWhile isJsSpace).rdropWhile isJsSpace).dropWhile isJsSpace =
        (letters.dropWhile isJsSpace).rdropWhile isJsSpace := by
      rw [List.dropWhile_eq_self_iff]
      intro filled
      have before := List.rdropWhile_prefix isJsSpace (letters.dropWhile isJsSpace)
      have longer := filled.trans_le before.length_le
      rw [before.getElem filled]
      exact List.dropWhile_get_zero_not isJsSpace letters longer
    rw [start, List.rdropWhile_idempotent]
  refine String.toList_injective ?_
  unfold jsTrim
  rw [String.toList_ofList, String.toList_ofList]
  exact (trims text.toList).symm

end Motogram
