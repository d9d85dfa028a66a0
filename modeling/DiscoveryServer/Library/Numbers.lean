import Mathlib.Data.Nat.Digits.Defs

/-!
# Numbers read from text

What reading an `int` from a stream and `stol` make of a string.
-/

namespace Library

/-- `isspace` in the C locale. -/
def isSpace (c : Char) : Bool := c ∈ [' ', '\t', '\n', '\x0b', '\x0c', '\r']

/-- The number the leading digits spell, zero when there are none. -/
def leadingNumber (cs : List Char) : Nat := Nat.ofDigitChars 10 (cs.takeWhile Char.isDigit) 0

/-- `stream >> value` for a 32 bit `int`. The value saturates, and is zero when there
is no number; from blank text nothing is extracted and the variable is not written. -/
def extractInt (s : String) : Option Int :=
  match s.toList.dropWhile isSpace with
  | [] => none
  | '-' :: cs => some (max (-2147483648) (-(leadingNumber cs : Int)))
  | '+' :: cs => some (min 2147483647 (leadingNumber cs))
  | cs => some (min 2147483647 (leadingNumber cs))

/-- `stol` of a string of digits: it throws when there are none, and when the number
does not fit a 64 bit `long`. -/
def stol (digits : List Char) : Option Nat :=
  if digits = [] then none
  else if leadingNumber digits < 9223372036854775808 then some (leadingNumber digits)
  else none

end Library
