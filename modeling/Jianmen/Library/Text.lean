import Mathlib.Data.Int.Notation
import Mathlib.Data.List.DropRight
import Mathlib.Tactic.Common

/-!
# Trimmed texts and numbers

Texts without white space at their ends, and decimal numbers.
-/

namespace Jianmen

/-- A decimal number with an optional sign, within 64 bits. -/
def parseInt64 (text : List UInt8) : Option ℤ :=
  let negative := text.head? == some 0x2D
  let digits := if negative || text.head? == some 0x2B then text.drop 1 else text
  if digits = [] ∨ !digits.all (fun digit => 0x30 ≤ digit && digit ≤ 0x39) then none
  else
    let value : ℕ := digits.foldl (fun value digit => value * 10 + (digit.toNat - 0x30)) 0
    if negative then if value ≤ 9223372036854775808 then some (-Int.ofNat value) else none
    else if value ≤ 9223372036854775807 then some (Int.ofNat value) else none

/-- White space as the Go library has it. -/
def isSpace (character : Char) : Bool :=
  [0x09, 0x0a, 0x0b, 0x0c, 0x0d, 0x20, 0x85, 0xa0, 0x1680, 0x2028, 0x2029, 0x202f, 0x205f,
    0x3000].contains character.toNat ||
    (0x2000 ≤ character.toNat && character.toNat ≤ 0x200a)

def trimSpace (text : String) : String :=
  String.ofList (((text.toList.dropWhile isSpace).reverse.dropWhile isSpace).reverse)

theorem trimSpace_idem (text : String) : trimSpace (trimSpace text) = trimSpace text := by
  unfold trimSpace
  rw [String.toList_ofList]
  have started : ∀ letters : List Char, (letters.dropWhile isSpace).rdropWhile isSpace =
        ((letters.dropWhile isSpace).rdropWhile isSpace).dropWhile isSpace := by
    intro letters
    have first := List.head?_dropWhile_not isSpace letters
    obtain ⟨_, split⟩ := List.rdropWhile_prefix isSpace (l := letters.dropWhile isSpace)
    cases kept : (letters.dropWhile isSpace).rdropWhile isSpace with
    | nil => rfl
    | cons =>
      rw [kept] at split
      rw [← split] at first
      simp at first
      simp [first]
  change String.ofList ((((text.toList.dropWhile isSpace).rdropWhile isSpace).dropWhile
    isSpace).rdropWhile isSpace) = _
  rw [← started, List.rdropWhile_idempotent]
  rfl

end Jianmen
