import SecretSync.Text.Digit

/-!
# Halves of surrogate pairs

An escape in a document may name half of a surrogate pair, which is no character.  Text keeps such
a half as a character of the last private use plane that no text has a use for; two halves that
make a pair stay two.  Text with a half in it cannot be written as UTF-8.
-/

namespace SecretSync.Text

/-- The character that stands for the first half. -/
def firstHalf : Nat := 0x10a000

/-- How many halves there are. -/
def halfCount : Nat := 0x800

/-- The character that stands for the half with a number from 0xd800 to 0xdfff. -/
def half (code : Nat) : Char := Char.ofNat (firstHalf + (code - 0xd800))

/-- The number of the half that a character stands for. -/
def halfCode? (c : Char) : Option Nat :=
  if firstHalf ≤ c.toNat ∧ c.toNat < firstHalf + halfCount then some (c.toNat - firstHalf + 0xd800)
  else none

/-- Whether a character stands for a half. -/
def isHalf (c : Char) : Bool := (halfCode? c).isSome

/-- Whether a text has a half in it. -/
def hasHalf (s : String) : Bool := s.toList.any isHalf

/-- A half as an escape in a message or in JSON. -/
def halfEscape (code : Nat) : List Char := '\\' :: 'u' :: hexText 4 code

end SecretSync.Text
