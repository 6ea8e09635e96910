import Descent.Text.Alphabetic
import Descent.Text.Numeric
import Descent.Text.Extending
import Descent.Text.Unprintable

/-!
# Character classes

The classes that parsers and quoting ask about, on all of Unicode. Inside ASCII each class is core's
own test, so that closed facts about ASCII text evaluate without a look at the tables.
-/

namespace Descent.Text

/-- Letters of all scripts, with the vowel signs that Unicode counts as alphabetic. -/
def isAlphabetic (c : Char) : Bool :=
  if c.toNat < 0x80 then c.isAlpha else CodeRange.any alphabeticRanges c

/-- Digits, letter numerals and other numerals of all scripts. -/
def isNumeric (c : Char) : Bool :=
  if c.toNat < 0x80 then c.isDigit else CodeRange.any numericRanges c

/-- Letters and numerals of all scripts. -/
def isAlphanumeric (c : Char) : Bool :=
  isAlphabetic c || isNumeric c

/-- White space beyond ASCII, in rising order. -/
def blankRanges : List CodeRange :=
  [(0x85, 0x85), (0xA0, 0xA0), (0x1680, 0x1680), (0x2000, 0x200A), (0x2028, 0x2029),
   (0x202F, 0x202F), (0x205F, 0x205F), (0x3000, 0x3000)]

/-- White space: the space, tab, line feed, vertical tab, form feed and carriage return of ASCII,
and the blanks and separators of other scripts. -/
def isBlank (c : Char) : Bool :=
  if c.toNat < 0x80 then c == ' ' || (0x09 ≤ c.toNat && c.toNat ≤ 0x0D)
  else CodeRange.any blankRanges c

/-- Does the character join the one before it, as a combining accent does? -/
def isExtending (c : Char) : Bool :=
  0x80 ≤ c.toNat && CodeRange.any extendingRanges c

/-- Has the character a printed form of its own? The space has; all other separators have not. -/
def isPrintable (c : Char) : Bool :=
  if c.toNat < 0x80 then 0x20 ≤ c.toNat && c.toNat < 0x7F
  else !CodeRange.any unprintableRanges c

end Descent.Text
