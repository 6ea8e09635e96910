import Descent.Parser.Character
import Descent.Parser.Choice
import Descent.Parser.Repeat
import Descent.Parser.Sequence
import Descent.Text.Decimal

/-!
# Numbers in decimal

Rows of digits for the natural numbers below `2 ^ 64`, and with an optional minus sign for the
integers between `-(2 ^ 63)` and `2 ^ 63`, without either end. The smallest number of the signed
type has no literal. Zeros may stand in front. A number that is too large fails where it began.
-/

namespace Descent.Parser

variable {m : Type → Type} [Effect m]

/-- Reads a digit and gives its value. -/
def digit : Parser m Nat :=
  scan fun c =>
    match c.peek?.bind Text.digitValue? with
    | some value => .success value (c.advance 1)
    | none => .failure (c.failure "not a digit")

/-- The number that the digits stand for, if it is below `2 ^ 64`. -/
def naturalOfDigits (digits : List Nat) : Except String UInt64 :=
  match Text.readDigits UInt64.size 0 digits with
  | some value => .ok value.toUInt64
  | none => .error "natural number too large"

/-- Reads a natural number below `2 ^ 64`. -/
def natural : Parser m UInt64 := (many1 digit).refine naturalOfDigits

/-- The number that a sign and digits stand for, if its magnitude is below `2 ^ 63`. The magnitude
is read as a natural number, to which the sign is applied when it is known to be an integer. -/
def integerOfDigits (literal : Option Unit × List Nat) : Except String Int64 :=
  match (Text.readDigits UInt64.size 0 literal.2).filter (· < UInt64.size / 2) with
  | some magnitude =>
    .ok (if literal.1.isSome then -Int64.ofNat magnitude else Int64.ofNat magnitude)
  | none => .error "integer too large"

/-- Reads an integer of magnitude below `2 ^ 63`. -/
def integer : Parser m Int64 :=
  ((optional (skipChar '-')).pair (many1 digit)).refine integerOfDigits

end Descent.Parser
