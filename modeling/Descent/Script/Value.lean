import Descent.Span

/-!
# Values of scripts

A script writes a grammar in which every parser has values of one type, so that grammars can be put
together while a program runs. Two readings of a value decide what a script does next: its text and
its size.
-/

namespace Descent.Script

/-- What a parser of a script reads. -/
inductive Value where
  | unit
  | char (c : Char)
  | string (text : String)
  /-- The value of a single digit. -/
  | digit (value : Nat)
  | natural (value : UInt64)
  | integer (value : Int64)
  | list (items : List Value)
  | pair (first second : Value)
  | none
  | some (value : Value)
  | spanned (span : Span) (value : Value)
  /-- A function value, applied to an argument. -/
  | applied (function argument : Value)
  /-- An operator with its operands. -/
  | node (operator left right : Value)
  | tagged (name : String) (value : Value)

namespace Value

/-- The bytes that a value takes in a list: the kind of the value, and the place and length of what
is stored elsewhere. -/
def slot : Nat := 32

mutual

/-- The characters that a value stands for. -/
def chars : Value → List Char
  | unit => []
  | char c => [c]
  | string text => text.toList
  | digit value => (toString value).toList
  | natural value => (toString value.toNat).toList
  | integer value => (toString value.toInt).toList
  | list items => charsAll items
  | pair first second => chars first ++ chars second
  | none => []
  | some value => chars value
  | spanned _ value => chars value
  | applied function argument => chars function ++ chars argument
  | node operator left right => chars left ++ (chars operator ++ chars right)
  | tagged _ value => chars value

/-- The characters of all values, one after another. -/
def charsAll : List Value → List Char
  | [] => []
  | value :: values => chars value ++ charsAll values

end

/-- The text of a value. -/
def text (value : Value) : String := String.ofList value.chars

/-- The size of a value: a number itself, but nothing below zero; the length of a text or a list;
and zero for all else. -/
def size : Value → Nat
  | digit value => value
  | natural value => value.toNat
  | integer value => value.toInt.toNat
  | string text => text.length
  | list items => items.length
  | _ => 0

end Value

/-- What a script may do with a value that it has read. -/
inductive Mapper where
  | text
  | size
  /-- One more than the size, in 64 bits. -/
  | successor
  | const (value : Value)
  | tag (name : String)

/-- The value that a mapper makes of another. -/
def Mapper.apply : Mapper → Value → Value
  | text, value => .string value.text
  | size, value => .natural value.size.toUInt64
  | successor, value => .natural (value.size.toUInt64 + 1)
  | const result, _ => result
  | tag name, value => .tagged name value

/-- How a chain joins two operands. -/
inductive Joiner where
  | node
  /-- Integers are added, subtracted or multiplied in 64 bits where the operator is one of the three
  signs; all else is joined to a node. -/
  | arithmetic

/-- The operation that an operator sign stands for. -/
def operation? (sign : String) : Option (Int64 → Int64 → Int64) :=
  if sign = "+" then some (· + ·)
  else if sign = "-" then some (· - ·)
  else if sign = "*" then some (· * ·)
  else none

/-- The value of two operands with the operator between them. -/
def Joiner.apply (joiner : Joiner) (operator left right : Value) : Value :=
  match joiner, left, right, operation? operator.text with
  | arithmetic, .integer a, .integer b, some f => .integer (f a b)
  | _, _, _, _ => .node operator left right

end Descent.Script
