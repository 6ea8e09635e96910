import Descent.Cursor

/-!
# Failures

A failed parse names the place where it failed and says what was wrong there.
-/

namespace Descent

/-- Why a parse failed, and where. -/
structure Failure where
  /-- The number of characters before the place of the failure. -/
  position : Nat
  /-- What was wrong, or what was expected, at that place. -/
  message : String
deriving DecidableEq

/-- A failure at the cursor. -/
def Cursor.failure (c : Cursor) (message : String) : Failure := ⟨c.position, message⟩

namespace Failure

/-- The same place with another message. -/
def withMessage (e : Failure) (message : String) : Failure := { e with message }

/-- The failure in one line. -/
def summary (e : Failure) : String :=
  "Parse failed at position " ++ toString e.position ++ ": " ++ e.message

/-- The failure as a record of its fields. -/
def shown (e : Failure) : Text.Shown :=
  .ofFields "ParseError"
    [("position", .text (toString e.position)), ("message", .text (Text.Quoted.encode e.message))]

end Failure

end Descent
