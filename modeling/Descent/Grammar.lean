import Descent.Grammar.Terminal
import Descent.Parse
import Descent.Parser.Chain
import Descent.Parser.Choice
import Descent.Parser.Separated

/-!
# Grammars

A grammar is a parser written down: a tree of terminals and combinators in which rules stand for
their names, so that rules may refer to one another and to themselves, and in which actions stand
for whatever an effect makes of them. One grammar can be run in any effect.

`Grammar.parser` gives the parser of a grammar, once it is known what the rules and the actions do.
`Bodies.call` runs a rule whose rules are in turn run, to a bounded depth of open calls;
`Rules.parser` takes a depth that no parse which ends can exceed.
-/

namespace Descent

/-- What a grammar may refer to: rules, each with the type of its values, and actions. -/
structure Vocabulary where
  /-- The names of rules. -/
  Rule : Type
  /-- The type of the values that a rule reads. -/
  Result : Rule → Type
  /-- What can be asked of an effect. -/
  Action : Type
  /-- The type of the values with which an effect answers. -/
  Answer : Action → Type

/-- A parser as data, by the type of its values. -/
inductive Grammar (V : Vocabulary) : Type → Type 1 where
  /-- A ready-made parser. -/
  | terminal {α : Type} (t : Terminal α) : Grammar V α
  /-- A look at the text. -/
  | scan {α : Type} (look : Cursor → Reply α) : Grammar V α
  /-- A rule, by name. -/
  | rule (r : V.Rule) : Grammar V (V.Result r)
  /-- An action of the effect. -/
  | perform (action : V.Action) : Grammar V (V.Answer action)
  /-- A value that the effect yields. -/
  | lift {α : Type} (a : α) : Grammar V α
  | pure {α : Type} (a : α) : Grammar V α
  | fail {α : Type} (message : String) : Grammar V α
  | empty {α : Type} : Grammar V α
  | bind {α β : Type} (g : Grammar V α) (next : α → Grammar V β) : Grammar V β
  | map {α β : Type} (f : α → β) (g : Grammar V α) : Grammar V β
  | applyTo {α β : Type} (function : Grammar V (α → β)) (argument : Grammar V α) : Grammar V β
  | pair {α β : Type} (g : Grammar V α) (h : Grammar V β) : Grammar V (α × β)
  | keepLeft {α β : Type} (g : Grammar V α) (h : Grammar V β) : Grammar V α
  | keepRight {α β : Type} (g : Grammar V α) (h : Grammar V β) : Grammar V β
  | between {α β γ : Type} (opening : Grammar V α) (g : Grammar V β) (closing : Grammar V γ) :
      Grammar V β
  | discard {α : Type} (g : Grammar V α) : Grammar V Unit
  | lexeme {α : Type} (g : Grammar V α) : Grammar V α
  | orElse {α : Type} (g h : Grammar V α) : Grammar V α
  | orDefault {α : Type} (default : α) (g : Grammar V α) : Grammar V α
  | optional {α : Type} (g : Grammar V α) : Grammar V (Option α)
  | notAhead {α : Type} (g : Grammar V α) : Grammar V Unit
  | many {α : Type} (g : Grammar V α) : Grammar V (List α)
  | many1 {α : Type} (g : Grammar V α) : Grammar V (List α)
  | count {α : Type} (times : Nat) (g : Grammar V α) : Grammar V (List α)
  | sepBy {α β : Type} (item : Grammar V α) (separator : Grammar V β) : Grammar V (List α)
  | sepBy1 {α β : Type} (item : Grammar V α) (separator : Grammar V β) : Grammar V (List α)
  | chainLeft1 {α : Type} (operand : Grammar V α) (operator : Grammar V (α → α → α)) : Grammar V α
  | chainRight1 {α : Type} (operand : Grammar V α) (operator : Grammar V (α → α → α)) : Grammar V α
  | label {α : Type} (message : String) (g : Grammar V α) : Grammar V α
  | withSpan {α : Type} (g : Grammar V α) : Grammar V (α × Span)
  | traced {α : Type} (name : String) (g : Grammar V α) : Grammar V α

namespace Grammar

variable {V : Vocabulary} {α : Type}

/-- A grammar between round brackets. -/
def parens (g : Grammar V α) : Grammar V α :=
  between (terminal (.token "(")) g (terminal (.token ")"))

/-- A list with commas between its items, which may be empty. -/
def commaSep (item : Grammar V α) : Grammar V (List α) :=
  sepBy item (terminal (.skipChar ','))

/-- A list of at least one item with commas between its items. -/
def commaSep1 (item : Grammar V α) : Grammar V (List α) :=
  sepBy1 item (terminal (.skipChar ','))

/-- A counted repetition whose values, of `slot` bytes each, have room in a list beforehand. -/
def countInRoom (slot times : Nat) (g : Grammar V α) : Grammar V (List α) :=
  if Parser.HasRoom slot times then count times g else scan fun _ => .unfinished

variable {m : Type → Type} [Effect m]

/-- The parser that a grammar describes, where `perform` carries out actions, `call` runs rules and
every repetition is given `spare` further runs. -/
def parser (spare : Nat) (perform : (action : V.Action) → Parser m (V.Answer action))
    (call : (r : V.Rule) → Cursor → m (Reply (V.Result r))) : {α : Type} → Grammar V α → Parser m α
  | _, terminal t => t.parser
  | _, scan look => .scan look
  | _, rule r => ⟨call r⟩
  | _, .perform action => perform action
  | _, lift a => .lift (Pure.pure a)
  | _, pure a => .pure a
  | _, fail message => .fail message
  | _, empty => .empty
  | _, bind g next =>
    (g.parser spare perform call).bind fun a => (next a).parser spare perform call
  | _, map f g => (g.parser spare perform call).map f
  | _, applyTo function argument =>
    .applyTo (function.parser spare perform call) (argument.parser spare perform call)
  | _, pair g h => .pair (g.parser spare perform call) (h.parser spare perform call)
  | _, keepLeft g h => .keepLeft (g.parser spare perform call) (h.parser spare perform call)
  | _, keepRight g h => .keepRight (g.parser spare perform call) (h.parser spare perform call)
  | _, between opening g closing =>
    .between (opening.parser spare perform call) (g.parser spare perform call)
      (closing.parser spare perform call)
  | _, discard g => (g.parser spare perform call).discard
  | _, lexeme g => .lexeme (g.parser spare perform call)
  | _, orElse g h => .orElse (g.parser spare perform call) (h.parser spare perform call)
  | _, orDefault default g => .orDefault default (g.parser spare perform call)
  | _, optional g => .optional (g.parser spare perform call)
  | _, notAhead g => .notAhead (g.parser spare perform call)
  | _, many g => .many (g.parser spare perform call) spare
  | _, many1 g => .many1 (g.parser spare perform call) spare
  | _, count times g => .count times (g.parser spare perform call)
  | _, sepBy item separator =>
    .sepBy (item.parser spare perform call) (separator.parser spare perform call) spare
  | _, sepBy1 item separator =>
    .sepBy1 (item.parser spare perform call) (separator.parser spare perform call) spare
  | _, chainLeft1 operand operator =>
    .chainLeft1 (operand.parser spare perform call) (operator.parser spare perform call) spare
  | _, chainRight1 operand operator =>
    .chainRight1 (operand.parser spare perform call) (operator.parser spare perform call) spare
  | _, label message g => .label message (g.parser spare perform call)
  | _, withSpan g => .withSpan (g.parser spare perform call)
  | _, traced name g => .traced name (g.parser spare perform call)

theorem parser_countInRoom (spare : Nat)
    (perform : (action : V.Action) → Parser m (V.Answer action))
    (call : (r : V.Rule) → Cursor → m (Reply (V.Result r))) (slot times : Nat) (g : Grammar V α) :
    (countInRoom slot times g).parser spare perform call =
      .countInRoom slot times (g.parser spare perform call) := by
  unfold countInRoom Parser.countInRoom
  split <;> rfl

end Grammar

/-- What every rule stands for. -/
abbrev Bodies (V : Vocabulary) : Type 1 := (r : V.Rule) → Grammar V (V.Result r)

namespace Bodies

variable {V : Vocabulary} {m : Type → Type} [Effect m] {α : Type}

/-- Runs a rule with at most `depth` calls of rules open at any time, itself included. -/
def call (bodies : Bodies V) (spare : Nat)
    (perform : (action : V.Action) → Parser m (V.Answer action)) :
    (depth : Nat) → (r : V.Rule) → Cursor → m (Reply (V.Result r))
  | 0, _, _ => pure .unfinished
  | depth + 1, r, c => ((bodies r).parser spare perform (call bodies spare perform depth)).run c

/-- The parser of a grammar whose rules may have `depth` calls open at any time and whose
repetitions are given `spare` further runs. -/
def parserAt (bodies : Bodies V) (spare : Nat)
    (perform : (action : V.Action) → Parser m (V.Answer action)) (depth : Nat) (g : Grammar V α) :
    Parser m α :=
  g.parser spare perform (call bodies spare perform depth)

end Bodies

/-- Finitely many rules, and what they stand for. -/
structure Rules (V : Vocabulary) where
  /-- All rules. -/
  names : List V.Rule
  /-- What a rule stands for. -/
  body : Bodies V
  /-- No rule is left out of the list. -/
  mem_names : (r : V.Rule) → r ∈ names

namespace Rules

variable {V : Vocabulary} {m : Type → Type} [Effect m] {α : Type}

/-- As many open calls as there are pairs of a rule and a place in the text. A parse that needs more
has two open calls of one rule at one place, and goes on in the same way for ever. -/
def depthFor (rules : Rules V) (c : Cursor) : Nat := rules.names.length * (c.limit + 1)

/-- The parser of a grammar with the given rules. -/
def parser (rules : Rules V) (perform : (action : V.Action) → Parser m (V.Answer action))
    (g : Grammar V α) : Parser m α where
  run c := (rules.body.parserAt 0 perform (rules.depthFor c) g).run c

end Rules

end Descent
