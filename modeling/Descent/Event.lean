import Descent.Reply

/-!
# Events

What a parse reports while it runs. A whole parse reports its beginning and its outcome; each traced
parser reports where it was entered and how it ended.
-/

namespace Descent

/-- One report of a running parse. -/
inductive Event where
  /-- A parse began on a text of so many characters. -/
  | opened (characters : Nat)
  /-- A traced parser was entered. -/
  | entered (name : String) (position : Nat)
  /-- A traced parser read the text between two positions. -/
  | matched (name : String) (start stop : Nat)
  /-- A traced parser failed. -/
  | failed (name : String) (reason : Failure)
  /-- The whole parse succeeded and stopped at the position. -/
  | succeeded (position : Nat)
  /-- The whole parse failed. -/
  | rejected (reason : Failure)
deriving DecidableEq

namespace Event

/-- How much a reader of events has to care. -/
inductive Level where
  | trace
  | debug
deriving DecidableEq, Repr

/-- A failed parse is worth a look; all else is reported for those who follow every step. -/
def level : Event → Level
  | rejected _ => .debug
  | _ => .trace

end Event

namespace Reply

variable {α : Type}

/-- How a traced parser entered at `start` reports its answer; an unfinished one never ends. -/
def traceEvent? (name : String) (start : Cursor) : Reply α → Option Event
  | success _ next => some (.matched name start.position next.position)
  | failure e => some (.failed name e)
  | unfinished => none

/-- How a whole parse reports its answer. -/
def closingEvent? : Reply α → Option Event
  | success _ next => some (.succeeded next.position)
  | failure e => some (.rejected e)
  | unfinished => none

end Reply

end Descent
