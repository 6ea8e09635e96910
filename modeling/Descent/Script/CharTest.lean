import Descent.Text.CharClass

/-!
# Character tests of scripts
-/

namespace Descent.Script

/-- A test that a script may ask of a character. -/
inductive CharTest where
  | any
  | none
  | alphabetic
  | alphanumeric
  | blank
  /-- A decimal digit of ASCII. -/
  | digit
  /-- A capital letter of ASCII. -/
  | upper
  /-- A small letter of ASCII. -/
  | lower
  | oneOf (chars : String)
  | noneOf (chars : String)

/-- Does the character pass the test? -/
def CharTest.holds : CharTest → Char → Bool
  | any, _ => true
  | none, _ => false
  | alphabetic, c => Text.isAlphabetic c
  | alphanumeric, c => Text.isAlphanumeric c
  | blank, c => Text.isBlank c
  | digit, c => c.isDigit
  | upper, c => c.isUpper
  | lower, c => c.isLower
  | oneOf chars, c => chars.toList.contains c
  | noneOf chars, c => !chars.toList.contains c

end Descent.Script
