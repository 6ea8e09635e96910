import Descent.Parser.Character
import Descent.Parser.Passage
import Descent.Parser.Repeat
import Descent.Parser.Sequence

/-!
# White space and tokens

White space is skipped after a token, never before it, so that after any token the next character is
the beginning of something.
-/

namespace Descent.Parser

variable {m : Type → Type} [Effect m] {α : Type}

/-- Reads one blank. -/
def space : Parser m Char := satisfy Text.isBlank

/-- Skips all blanks, if there are any. -/
def spaces : Parser m Unit := label "white space" (many space).discard

/-- Skips all blanks, of which there is at least one. -/
def spaces1 : Parser m Unit := label "whitespaces" (many1 space).discard

/-- Reads with the parser and skips the blanks after it. -/
def lexeme (p : Parser m α) : Parser m α := p.keepLeft spaces

/-- Reads exactly the given text and skips the blanks after it. -/
def token (text : String) : Parser m Unit :=
  label ("token " ++ Text.Quoted.encode text) (lexeme (literal text).discard)

/-- Reads with the parser between round brackets. -/
def parens (p : Parser m α) : Parser m α := between (token "(") p (token ")")

end Descent.Parser
