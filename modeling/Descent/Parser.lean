import Descent.Effect

/-!
# Parsers

A parser reads a text from a cursor on, inside an effect, and answers with a `Reply`. Parsers in one
effect form a monad: `Parser.bind` runs a second parser where the first one stopped, chosen by the
value that the first one read.
-/

namespace Descent

/-- A reader of text with effects in `m` and values in `α`. -/
structure Parser (m : Type → Type) (α : Type) where
  /-- Reads from a cursor on. -/
  run : Cursor → m (Reply α)

namespace Parser

variable {m : Type → Type} {α β : Type}

@[ext]
theorem ext {p q : Parser m α} (run_eq : ∀ c, p.run c = q.run c) : p = q := by
  cases p
  cases q
  congr
  exact funext run_eq

variable [Effect m]

/-- A parser that answers by looking at the text, without effects. -/
def scan (look : Cursor → Reply α) : Parser m α := ⟨fun c => pure (look c)⟩

/-- Reads nothing and succeeds with the value. -/
protected def pure (a : α) : Parser m α := ⟨fun c => pure (.success a c)⟩

/-- Reads nothing and fails with the message. -/
def fail (message : String) : Parser m α := ⟨fun c => pure (.failure (c.failure message))⟩

/-- Reads nothing, runs the computation of the effect and succeeds with its value. -/
def lift (x : m α) : Parser m α := ⟨fun c => (fun a => .success a c) <$> x⟩

/-- Reads on with the parser that the first one's value chooses; a failure is passed on. -/
protected def bind (p : Parser m α) (next : α → Parser m β) : Parser m β where
  run c := do
    match ← p.run c with
    | .success a rest => (next a).run rest
    | .failure e => pure (.failure e)
    | .unfinished => pure .unfinished

/-- Applies the function to the value. -/
protected def map (f : α → β) (p : Parser m α) : Parser m β := ⟨fun c => Reply.map f <$> p.run c⟩

instance : Monad (Parser m) where
  pure := Parser.pure
  bind := Parser.bind
  map := Parser.map

end Parser

end Descent
