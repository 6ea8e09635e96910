import Descent.Script.Host

/-!
# Sessions with a cursor

A session moves one cursor through a text, step by step. It can put places aside under a name and
come back to them.
-/

namespace Descent.Script

/-- A cursor, and the places put aside, the latest first. -/
structure Session where
  current : Cursor
  saved : List (String × Cursor) := []

/-- One step of a session. -/
inductive Step (count : Nat) : Type 1 where
  | look
  | advance (distance : Nat)
  /-- Puts the place aside. -/
  | save (slot : String)
  /-- Goes back to a place put aside. -/
  | load (slot : String)
  /-- Is the place the one put aside? -/
  | compare (slot : String)
  | startsWith (text : String)
  | shown
  | source
  /-- A failure at the place. -/
  | failure (message : String)
  /-- Reads with a form; the place changes only on success. -/
  | run (form : Form count)

/-- What a step finds out. -/
inductive Finding where
  | nothing
  | truth (holds : Bool)
  | text (shown : String)
  | failure (e : Failure)
  | reply (answer : Reply Value)

/-- Takes a step. There is no answer where a name is unknown. -/
def Session.take {count : Nat} (rules : Rules (vocabulary count)) (session : Session) :
    Step count → Option (Session × Finding)
  | .look => some (session, .nothing)
  | .advance distance =>
    some ({ session with current := session.current.advance distance }, .nothing)
  | .save slot =>
    some ({ session with saved := (slot, session.current) :: session.saved }, .nothing)
  | .load slot =>
    (session.saved.lookup slot).map fun place => ({ session with current := place }, .nothing)
  | .compare slot =>
    (session.saved.lookup slot).map fun place => (session, .truth (session.current = place))
  | .startsWith text => some (session, .truth (session.current.startsWith text.toList))
  | .shown => some (session, .text session.current.shown.inline)
  | .source => some (session, .text (String.ofList session.current.source.toList))
  | .failure message => some (session, .failure (session.current.failure message))
  | .run form =>
    let answer := ((rules.parser sayParser form).run session.current : Plain (Reply Value)).value
    match answer with
    | .success _ next => some ({ session with current := next }, .reply answer)
    | _ => some (session, .reply answer)

end Descent.Script
