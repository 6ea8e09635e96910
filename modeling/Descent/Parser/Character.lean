import Descent.Parser.Report

/-!
# Single characters

Parsers that look at one character at most.
-/

namespace Descent.Parser

variable {m : Type → Type} [Effect m]

/-- Reads one accepted character. -/
def satisfy (accepts : Char → Bool) : Parser m Char :=
  scan fun c =>
    match c.peek? with
    | some next =>
      if accepts next then .success next (c.advance 1) else .failure (c.failure "satisfy")
    | none => .failure (c.failure "satisfy")

/-- Reads the given character and forgets it. -/
def skipChar (expected : Char) : Parser m Unit :=
  scan fun c =>
    if c.peek? = some expected then .success () (c.advance 1) else .failure (c.failure "satisfy")

/-- Looks at the next character without reading it. -/
def peek : Parser m Char :=
  scan fun c =>
    match c.peek? with
    | some next => .success next c
    | none => .failure (c.failure "unexpected end of input")

/-- Succeeds at the end of the text only. -/
def eof : Parser m Unit :=
  scan fun c =>
    if c.atEnd then .success () c else .failure (c.failure "expected the end of the string")

/-- Reads any character. -/
def anyChar : Parser m Char := satisfy fun _ => true

/-- Reads a letter of any script. -/
def letter : Parser m Char := label "expected letter" (satisfy Text.isAlphabetic)

/-- Reads a letter or numeral of any script. -/
def alphanumeric : Parser m Char := label "expected alphanum" (satisfy Text.isAlphanumeric)

end Descent.Parser
