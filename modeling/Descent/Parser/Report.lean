import Descent.Parser
import Descent.Span

/-!
# Saying more about a parser

Wrappers that read exactly what the wrapped parser reads: a label replaces the message of a failure,
a span is added to a value, and a traced parser reports its course.
-/

namespace Descent

/-- The same answer, its value paired with the span from `start` to where the parser stopped. -/
def Reply.withSpan {α : Type} (start : Cursor) : Reply α → Reply (α × Span)
  | success a next => success (a, ⟨start.position, next.position⟩) next
  | failure e => failure e
  | unfinished => unfinished

namespace Parser

variable {m : Type → Type} [Effect m] {α : Type}

/-- Fails with the given message whenever the parser fails. -/
def label (message : String) (p : Parser m α) : Parser m α where
  run c := Reply.relabel message <$> p.run c

/-- Tells which stretch of the text the value was read from. -/
def withSpan (p : Parser m α) : Parser m (α × Span) where
  run c := Reply.withSpan c <$> p.run c

/-- Reports, under the given name, where the parser is entered and how it ends. -/
def traced (name : String) (p : Parser m α) : Parser m α where
  run c := do
    Effect.emit (.entered name c.position)
    let reply ← p.run c
    match reply.traceEvent? name c with
    | some event => Effect.emit event
    | none => pure ()
    pure reply

end Parser

end Descent
