import Descent.Cursor.Search
import Descent.Parser

/-!
# Passages of text

Parsers that read several characters at once and give them as a text.
-/

namespace Descent.Parser

variable {m : Type → Type} [Effect m]

/-- Reads exactly the given text. -/
def literal (text : String) : Parser m String :=
  scan fun c =>
    if c.startsWith text.toList then .success text (c.advance text.length)
    else .failure (c.failure ("string " ++ Text.Quoted.encode text))

/-- Reads the longest run of accepted characters, which may be empty. -/
def takeWhile (accepts : Char → Bool) : Parser m String :=
  scan fun c => .success (c.textUntil (c.skipWhile accepts)) (c.skipWhile accepts)

/-- Reads the longest run of accepted characters, which has at least one. -/
def takeWhile1 (accepts : Char → Bool) : Parser m String :=
  scan fun c =>
    let stop := c.skipWhile accepts
    if stop.position = c.position then .failure (c.failure "satisfy")
    else .success (c.textUntil stop) stop

/-- Reads up to the first place where the given text stands, and that text too, which it forgets. If
the text stands nowhere, the failure is at the end. -/
def takeUntil (stop : String) : Parser m String :=
  scan fun c =>
    match c.find? stop.toList with
    | some found => .success (c.textUntil found) (found.advance stop.length)
    | none => .failure (c.toEnd.failure ("end of string reached - " ++ stop ++ " not found"))

end Descent.Parser
