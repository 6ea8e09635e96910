import Descent.Parser.Blank
import Descent.Parser.Number
import Descent.Parser.Separated

/-!
# Sample: settings files

Named lists of integers, `name = [1, 2, 3]`, with semicolons between them. Blanks may stand at the
beginning and after every token.
-/

namespace Descent.Sample.Settings

variable {m : Type → Type} [Effect m]

/-- May the character stand in a name? -/
def isNameChar (c : Char) : Bool := Text.isAlphanumeric c || c == '_'

/-- Reads a name. -/
def name : Parser m String := .lexeme (.takeWhile1 isNameChar)

/-- Reads a list of integers between square brackets. -/
def values : Parser m (List Int64) :=
  .keepLeft (.keepRight (.token "[") (.sepBy (.lexeme .integer) (.token ","))) (.token "]")

/-- Reads a name and its values. -/
def entry : Parser m (String × List Int64) := .pair (.keepLeft name (.token "=")) values

/-- Reads a whole file. -/
def file : Parser m (List (String × List Int64)) :=
  .keepLeft (.keepRight .spaces (.sepBy entry (.token ";"))) .eof

end Descent.Sample.Settings
