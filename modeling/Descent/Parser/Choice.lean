import Descent.Parser

/-!
# Choosing between parsers

What takes the place of a failed parser starts again where that parser started: nothing it read is
lost. Only failures are replaced. An unfinished parse stays unfinished.
-/

namespace Descent.Parser

variable {m : Type → Type} [Effect m] {α : Type}

/-- The first parser, or from the same place the second one if the first fails. -/
def orElse (p q : Parser m α) : Parser m α where
  run c := do
    match ← p.run c with
    | .success a rest => pure (.success a rest)
    | .failure _ => q.run c
    | .unfinished => pure .unfinished

/-- The choice between no parsers. -/
def empty : Parser m α := fail "no alternative left"

/-- The parser, or the given value if it fails. -/
def orDefault (default : α) (p : Parser m α) : Parser m α where
  run c := Reply.recover c default <$> p.run c

/-- The parser, or no value if it fails. -/
def optional (p : Parser m α) : Parser m (Option α) where
  run c := (fun reply => (reply.map some).recover c none) <$> p.run c

/-- Succeeds where the parser fails and fails where it succeeds, without reading anything. -/
def notAhead (p : Parser m α) : Parser m Unit where
  run c := Reply.refuse c "negative lookahead failed: unexpected match" <$> p.run c

end Descent.Parser
