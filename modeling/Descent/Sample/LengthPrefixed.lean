import Descent.Parser.Number

/-!
# Sample: texts with their length in front

A text of any characters is written as the number of its characters, a colon and the text itself, so
that no character needs an escape.
-/

namespace Descent.Sample.LengthPrefixed

/-- Reads a length, a colon and as many characters, for which there is taken to be room. -/
def field {m : Type → Type} [Effect m] : Parser m String :=
  .map String.ofList
    (.bind .natural fun length =>
      .bind (.skipChar ':') fun _ => .count length.toNat .anyChar)

/-- The written form of a text. -/
def encode (text : String) : String := toString text.length ++ ":" ++ text

end Descent.Sample.LengthPrefixed
