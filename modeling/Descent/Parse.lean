import Descent.Parser

/-!
# Whole parses

A whole parse runs a parser from the start of a text and reports its beginning and its outcome. It
may require that the parser reads the text to its end.
-/

namespace Descent

/-- What a whole parse asks for. -/
structure Config where
  /-- Must the parser read the whole text? -/
  consumeAll : Bool := false
deriving DecidableEq

/-- The settings as a record. -/
def Config.shown (config : Config) : Text.Shown :=
  .ofFields "ParseConfig" [("consume_all", .text (toString config.consumeAll))]

/-- The answer of the parser, judged as the settings ask. -/
def Config.judge {α : Type} (config : Config) (reply : Reply α) : Reply α :=
  if config.consumeAll then reply.requireEnd "expected the end of the string" else reply

namespace Parser

variable {m : Type → Type} [Effect m] {α : Type}

/-- Parses the text from its start on. -/
def parseWith (config : Config) (p : Parser m α) (text : String) : m (Reply α) := do
  let start := Cursor.ofString text
  Effect.emit (.opened start.limit)
  let reply ← config.judge <$> p.run start
  match reply.closingEvent? with
  | some event => Effect.emit event
  | none => pure ()
  pure reply

/-- Parses the text from its start on, as far as the parser reads. -/
def parse (p : Parser m α) (text : String) : m (Reply α) := parseWith {} p text

end Parser

end Descent
