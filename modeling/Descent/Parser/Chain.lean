import Descent.Parser.Separated

/-!
# Chains of operands

Operands with an operator between any two of them, combined into one value. The two chains read the
same text and differ in the side from which they combine. An operator after which no operand follows
is left unread.
-/

namespace Descent.Parser

variable {m : Type → Type} [Effect m] {α : Type}

/-- Combines from the left: `1 - 2 - 3` is `(1 - 2) - 3`. -/
def chainLeft1 (operand : Parser m α) (operator : Parser m (α → α → α)) (spare : Nat := 0) :
    Parser m α :=
  operand.bind fun first =>
    foldBehind (fun left combine right => combine left right) first operator operand spare

/-- Combines `first` with the value of everything right of it, where `steps` holds the operators and
operands still to be placed left of that value, last one first. -/
def combineRight (first : α) (operator : α → α → α) (value : α) : List ((α → α → α) × α) → α
  | [] => operator first value
  | (earlier, operand) :: steps => combineRight first earlier (operator operand value) steps

/-- Combines a chain from the right, where `steps` holds its operators and operands, last one
first. -/
def foldRight (first : α) : List ((α → α → α) × α) → α
  | [] => first
  | (operator, operand) :: steps => combineRight first operator operand steps

/-- Combines from the right: `2 ^ 3 ^ 2` is `2 ^ (3 ^ 2)`. -/
def chainRight1 (operand : Parser m α) (operator : Parser m (α → α → α)) (spare : Nat := 0) :
    Parser m α :=
  operand.bind fun first =>
    (foldBehind (fun steps combine right => (combine, right) :: steps) [] operator operand
      spare).map
      (foldRight first)

end Descent.Parser
