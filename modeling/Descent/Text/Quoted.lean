import Descent.Text.CharClass

/-!
# Quoted text

Text between double quotes, with every character that a reader could not see or could mistake
written as an escape: the quote and the backslash, the control characters, what joins the character
before it, and what has no printed form. All else stands for itself, the single quote included.
-/

namespace Descent.Text.Quoted

/-- An escape that names a code point: its hexadecimal digits between braces. -/
def codeEscape (c : Char) : List Char :=
  '\\' :: 'u' :: '\x7b' :: (Nat.toDigits 16 c.toNat ++ ['\x7d'])

/-- The written form of one character inside double quotes. -/
def encodeChar (c : Char) : List Char :=
  match c with
  | '\x00' => ['\\', '0']
  | '\t' => ['\\', 't']
  | '\r' => ['\\', 'r']
  | '\n' => ['\\', 'n']
  | '"' => ['\\', '"']
  | '\\' => ['\\', '\\']
  | c => if isExtending c || !isPrintable c then codeEscape c else [c]

/-- The text between double quotes, escaped. -/
def encode (text : String) : String :=
  String.ofList ('"' :: (text.toList.flatMap encodeChar ++ ['"']))

end Descent.Text.Quoted
