import Descent.Grammar

/-!
# Sample: arithmetic

Sums, differences and products of integers, with brackets. Products bind closer than sums and
differences, all three group to the left, and the arithmetic is that of 64-bit words, which wraps.
-/

namespace Descent.Sample.Arithmetic

/-- The one rule that is referred to by name: an expression may stand in brackets. -/
inductive Rule where
  | expression
deriving DecidableEq

/-- Expressions have 64-bit values, and nothing is asked of the effect. -/
abbrev vocabulary : Vocabulary := ⟨Rule, fun _ => Int64, Empty, fun _ => Unit⟩

/-- A binary operator, by its sign and its function. -/
def operator (sign : String) (f : Int64 → Int64 → Int64) :
    Grammar vocabulary (Int64 → Int64 → Int64) :=
  .map (fun _ => f) (.terminal (.token sign))

/-- An integer, or an expression in brackets. -/
def factor : Grammar vocabulary Int64 :=
  .orElse (.lexeme (.terminal .integer)) (.parens (.rule (V := vocabulary) Rule.expression))

/-- Factors with multiplication signs between them. -/
def term : Grammar vocabulary Int64 :=
  .chainLeft1 factor (operator "*" (· * ·))

/-- Terms with plus and minus signs between them. -/
def expression : Grammar vocabulary Int64 :=
  .chainLeft1 term (.orElse (operator "+" (· + ·)) (operator "-" (· - ·)))

/-- The rule stands for an expression. -/
def rules : Rules vocabulary where
  names := [.expression]
  body | .expression => expression
  mem_names | .expression => by decide

/-- An expression after blanks. -/
def document {m : Type → Type} [Effect m] : Parser m Int64 :=
  rules.parser (fun action => nomatch action) (.keepRight (.terminal .spaces) expression)

/-- The value of a text that holds an expression and nothing else. -/
def evaluate {m : Type → Type} [Effect m] (text : String) : m (Reply Int64) :=
  document.parseWith { consumeAll := true } text

end Descent.Sample.Arithmetic
