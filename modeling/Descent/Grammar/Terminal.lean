import Descent.Parser.Blank
import Descent.Parser.Number

/-!
# Terminals

The parsers that are not built from others by whoever writes a grammar, named so that they can stand
in a grammar. A terminal reads text and has no effect.
-/

namespace Descent

/-- A ready-made parser, by the type of its values. -/
inductive Terminal : Type → Type where
  | satisfy (accepts : Char → Bool) : Terminal Char
  | skipChar (expected : Char) : Terminal Unit
  | anyChar : Terminal Char
  | letter : Terminal Char
  | alphanumeric : Terminal Char
  | space : Terminal Char
  | peek : Terminal Char
  | eof : Terminal Unit
  | spaces : Terminal Unit
  | spaces1 : Terminal Unit
  | literal (text : String) : Terminal String
  | token (text : String) : Terminal Unit
  | takeWhile (accepts : Char → Bool) : Terminal String
  | takeWhile1 (accepts : Char → Bool) : Terminal String
  | takeUntil (stop : String) : Terminal String
  | digit : Terminal Nat
  | natural : Terminal UInt64
  | integer : Terminal Int64

/-- The parser that a terminal names. -/
def Terminal.parser {m : Type → Type} [Effect m] : {α : Type} → Terminal α → Parser m α
  | _, satisfy accepts => .satisfy accepts
  | _, skipChar expected => .skipChar expected
  | _, anyChar => .anyChar
  | _, letter => .letter
  | _, alphanumeric => .alphanumeric
  | _, space => .space
  | _, peek => .peek
  | _, eof => .eof
  | _, spaces => .spaces
  | _, spaces1 => .spaces1
  | _, literal text => .literal text
  | _, token text => .token text
  | _, takeWhile accepts => .takeWhile accepts
  | _, takeWhile1 accepts => .takeWhile1 accepts
  | _, takeUntil stop => .takeUntil stop
  | _, digit => .digit
  | _, natural => .natural
  | _, integer => .integer

end Descent
