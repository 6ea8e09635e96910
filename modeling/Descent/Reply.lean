import Descent.Failure

/-!
# Replies

What a parser answers from a place in a text. A third answer stands beside success and failure: a
parse that would go on for ever, or that breaks down because a list cannot be given the room it asks
for, is `unfinished`. It is never mistaken for a failure, so that no alternative is taken in its
place.
-/

namespace Descent

/-- The answer of a parser. -/
inductive Reply (α : Type) where
  /-- The parser read a value and stopped at the given place. -/
  | success (value : α) (next : Cursor)
  /-- The text was not as the parser expects it. -/
  | failure (reason : Failure)
  /-- The parser comes to no end: it would go on for ever, or it has broken down. -/
  | unfinished
deriving DecidableEq

namespace Reply

variable {α β : Type}

/-- The same answer with another value in case of success. -/
def map (f : α → β) : Reply α → Reply β
  | success a next => success (f a) next
  | failure e => failure e
  | unfinished => unfinished

/-- The same answer with another message in case of failure. -/
def relabel (message : String) : Reply α → Reply α
  | success a next => success a next
  | failure e => failure (e.withMessage message)
  | unfinished => unfinished

/-- A failure gives way to success with `default` at `start`. -/
def recover (start : Cursor) (default : α) : Reply α → Reply α
  | success a next => success a next
  | failure _ => success default start
  | unfinished => unfinished

/-- A refused value turns success into a failure at `start`. -/
def refine (start : Cursor) (f : α → Except String β) : Reply α → Reply β
  | success a next =>
    match f a with
    | .ok b => success b next
    | .error message => failure (start.failure message)
  | failure e => failure e
  | unfinished => unfinished

/-- Success turns into a failure at `start`, and failure into success there. -/
def refuse (start : Cursor) (message : String) : Reply α → Reply Unit
  | success _ _ => failure (start.failure message)
  | failure _ => success () start
  | unfinished => unfinished

/-- Success short of the end of the text turns into a failure where the parser stopped. -/
def requireEnd (message : String) : Reply α → Reply α
  | success a next => if next.atEnd then success a next else failure (next.failure message)
  | failure e => failure e
  | unfinished => unfinished

end Reply

end Descent
