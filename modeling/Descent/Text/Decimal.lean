/-!
# Decimal digits

The number that a row of decimal digits stands for, as long as it stays below a bound.
-/

namespace Descent.Text

/-- The value of a decimal digit. -/
def digitValue? (c : Char) : Option Nat :=
  if c.isDigit then some (c.toNat - '0'.toNat) else none

/-- Reads further digits behind those that stand for `value`. There is no answer once a number on
the way is not below the bound. -/
def readDigits (bound value : Nat) : List Nat → Option Nat
  | [] => some value
  | digit :: digits =>
    if 10 * value + digit < bound then readDigits bound (10 * value + digit) digits else none

end Descent.Text
