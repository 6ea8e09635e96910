import Descent.Text.Record

/-!
# Spans

A span is a stretch of a text, from one position to another. The two ways to read its text differ
when it does not lie inside the text: `slice` then gives nothing, `text?` what there is of it.
-/

namespace Descent

/-- The characters from position `start` up to and without position `stop`. -/
structure Span where
  start : Nat
  stop : Nat
deriving DecidableEq, Repr

namespace Span

/-- What can be wrong with a span. -/
inductive Error where
  /-- It stops before it starts, so that it has no length. -/
  | reversed
deriving DecidableEq, Repr

/-- The wording of the error. -/
def Error.message : Error → String
  | .reversed => "attempt to subtract with overflow"

/-- The number of characters in the span. -/
def length (span : Span) : Except Error Nat :=
  if span.start ≤ span.stop then .ok (span.stop - span.start) else .error .reversed

/-- Does the span hold no character? -/
def isEmpty (span : Span) : Bool := span.start == span.stop

/-- The text of a span that lies inside the given one, and no text of any other. -/
def slice (span : Span) (text : String) : String :=
  if span.start ≤ span.stop ∧ span.stop ≤ text.length then
    String.ofList ((text.toList.drop span.start).take (span.stop - span.start))
  else ""

/-- As many characters as the span has, from its start on; fewer where the text ends before. -/
def text? (span : Span) (text : String) : Except Error String :=
  span.length.map fun count => String.ofList ((text.toList.drop span.start).take count)

/-- The span as a record of its ends. -/
def shown (span : Span) : Text.Shown :=
  .ofFields "Span" [("start", .text (toString span.start)), ("end", .text (toString span.stop))]

end Span

end Descent
