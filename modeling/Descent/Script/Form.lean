import Descent.Grammar
import Descent.Script.CharTest
import Descent.Script.Value

/-!
# Forms of scripts

The grammars that a script is made of. Each form is a constructor of `Grammar` whose values are
gathered into `Value`.
-/

namespace Descent.Script

/-- A script with so many rules, which are numbered. What it says to the effect is a text. -/
abbrev vocabulary (rules : Nat) : Vocabulary := ⟨Fin rules, fun _ => Value, String, fun _ => Unit⟩

/-- A grammar of a script with so many rules. -/
abbrev Form (rules : Nat) : Type 1 := Grammar (vocabulary rules) Value

namespace Form

variable {rules : Nat}

/-! ### Terminals -/

/-- A terminal, with its values gathered. -/
def ofTerminal {α : Type} (gather : α → Value) (t : Terminal α) : Form rules :=
  .map gather (.terminal t)

def ofChar (t : Terminal Char) : Form rules := ofTerminal .char t

/-- A terminal whose value is of no interest. -/
def ofUnit (t : Terminal Unit) : Form rules := ofTerminal (fun _ => .unit) t

def ofText (t : Terminal String) : Form rules := ofTerminal .string t

def digit : Form rules := ofTerminal .digit .digit

def natural : Form rules := ofTerminal .natural .natural

def integer : Form rules := ofTerminal .integer .integer

/-! ### Looks at the text -/

/-- What a script may ask of a cursor. -/
inductive Look where
  | take (count : Nat)
  /-- The position, without reading. -/
  | position
  /-- The cursor as a record, without reading. -/
  | shown
  /-- A failure so many characters further on. -/
  | reject (distance : Nat)

/-- What is seen from the cursor. -/
def Look.from (c : Cursor) : Look → Reply Value
  | take count =>
    if count ≤ c.remaining then .success (.string (c.textUntil (c.advance count))) (c.advance count)
    else .failure (c.failure ("need " ++ toString count ++ " characters"))
  | position => .success (.natural c.position.toUInt64) c
  | shown => .success (.string c.shown.inline) c
  | reject distance => .failure ((Failure.mk (c.position + distance) "placed").withMessage "moved")

def look (l : Look) : Form rules := .scan fun c => l.from c

/-! ### Values and effects -/

/-- Says the text to the effect. -/
def say (text : String) : Form rules := .map (fun _ => .unit) (.perform text)

def mapped (f : Mapper) (g : Form rules) : Form rules := .map f.apply g

/-- Reads an argument and then a function, and keeps the application. -/
def applied (function argument : Form rules) : Form rules :=
  .applyTo (.map (fun f a => Value.applied f a) function) argument

/-! ### Combinations -/

def pair (g h : Form rules) : Form rules := .map (fun both => .pair both.1 both.2) (.pair g h)

def discard (g : Form rules) : Form rules := .map (fun _ => .unit) (.discard g)

def optional (g : Form rules) : Form rules :=
  .map (fun value => value.elim .none .some) (.optional g)

def notAhead (g : Form rules) : Form rules := .map (fun _ => .unit) (.notAhead g)

def withSpan (g : Form rules) : Form rules :=
  .map (fun found => .spanned found.2 found.1) (.withSpan g)

def ofList (g : Grammar (vocabulary rules) (List Value)) : Form rules := .map .list g

def count (times : Nat) (g : Form rules) : Form rules :=
  ofList (.countInRoom Value.slot times g)

/-- An operator form, by how its values join operands. -/
def operator (joiner : Joiner) (g : Form rules) :
    Grammar (vocabulary rules) (Value → Value → Value) :=
  .map joiner.apply g

def chainLeft1 (joiner : Joiner) (operand sign : Form rules) : Form rules :=
  Grammar.chainLeft1 operand (operator joiner sign)

def chainRight1 (joiner : Joiner) (operand sign : Form rules) : Form rules :=
  Grammar.chainRight1 operand (operator joiner sign)

/-! ### Continuations -/

/-- How a script goes on, depending on a value that it has read. -/
inductive Continuation (rules : Nat) : Type 1 where
  | pure
  /-- With a failure that quotes the text of the value. -/
  | fail
  | literal
  | takeUntil
  /-- With as many runs of a form as the size of the value. -/
  | count (body : Form rules)
  /-- With a form, whose value is paired with the one before. -/
  | pair (body : Form rules)
  | say
  /-- With the entry of a table under the text of the value; a missing entry is said to the
  effect. -/
  | lookup (table : List (String × Value))
  /-- With one of several forms, chosen by the text of the value. -/
  | select (cases : List (String × Form rules)) (default : Form rules)

/-- The grammar with which a script goes on after the value. -/
def Continuation.after (value : Value) : Continuation rules → Form rules
  | pure => .pure value
  | fail => .fail ("rejected " ++ value.text)
  | literal => ofText (.literal value.text)
  | takeUntil => ofText (.takeUntil value.text)
  | count body => Form.count value.size body
  | pair body => .map (fun next => .pair value next) body
  | say => .map (fun _ => value) (.perform value.text)
  | lookup table =>
    match table.lookup value.text with
    | some entry => .lift entry
    | none => .map (fun _ => value) (.perform ("unknown variable " ++ value.text))
  | select cases default => (cases.lookup value.text).getD default

/-- Reads with the form and goes on as the continuation says. -/
def followedBy (g : Form rules) (next : Continuation rules) : Form rules :=
  .bind g fun value => next.after value

end Form

/-- The rules of a script, from their forms in the order of their numbers. -/
def rulesOf {count : Nat} (forms : Vector (Form count) count) : Rules (vocabulary count) where
  names := List.finRange count
  body r := forms[r]
  mem_names := List.mem_finRange

end Descent.Script
