import Descent.Parser

/-!
# Repeated parsers

A repeated parser runs again from where it stopped, as often as it succeeds. What its last, failing
run read is not consumed.

A parser that reads something whenever it succeeds succeeds at most as often as there are characters
left, so its repetition ends within one run more. One that succeeds without reading would succeed in
the same way for ever, and its repetition is unfinished. Only the host of an effect could make such
a repetition end, by answering otherwise at the same place; how many further runs it is given is the
last argument of each repetition.

How many values a counted repetition lists is known beforehand, and the list is given the room for
all of them before the first run. No list can have more bytes than `Parser.largestRoom`: where its
values would take more, there is no first run, and no answer.
-/

namespace Descent.Parser

variable {m : Type → Type} [Effect m] {α β : Type}

/-- One run of a repeated parser: a value joins those before it, a failure ends the repetition. -/
def foldStep (join : β → α → β) (p : Parser m α) (state : β × Cursor) :
    m (Flow (β × Cursor) (Reply β)) :=
  (fun
    | .success a rest => .again (join state.1 a, rest)
    | .failure _ => .done (.success state.1 state.2)
    | .unfinished => .done .unfinished) <$> p.run state.2

/-- Repeats the parser and joins each value to the values before it. -/
def foldMany (join : β → α → β) (init : β) (p : Parser m α) (spare : Nat := 0) : Parser m β where
  run c :=
    (·.getD .unfinished) <$> Effect.iterate (foldStep join p) (c.remaining + 1 + spare) (init, c)

/-- Repeats the parser and lists its values after those given, which stand last one first. -/
def manyAfter (earlier : List α) (p : Parser m α) (spare : Nat := 0) : Parser m (List α) :=
  (foldMany (fun items a => a :: items) earlier p spare).map List.reverse

/-- Lists the values of the longest run of the parser, which may be empty. -/
def many (p : Parser m α) (spare : Nat := 0) : Parser m (List α) := manyAfter [] p spare

/-- Lists the values of the longest run of the parser, which has at least one. -/
def many1 (p : Parser m α) (spare : Nat := 0) : Parser m (List α) :=
  p.bind fun first => manyAfter [first] p spare

/-- One run of a counted parser, with the number of runs to go and the values so far. -/
def countStep (p : Parser m α) (state : Nat × List α × Cursor) :
    m (Flow (Nat × List α × Cursor) (Reply (List α))) :=
  match state with
  | (0, items, c) => pure (.done (.success items.reverse c))
  | (left + 1, items, c) =>
    (fun
      | .success a rest => .again (left, a :: items, rest)
      | .failure e => .done (.failure e)
      | .unfinished => .done .unfinished) <$> p.run c

/-- Lists the values of exactly `times` runs of the parser, for which there is room; a failing run
is the failure of all. -/
def count (times : Nat) (p : Parser m α) : Parser m (List α) where
  run c := (·.getD .unfinished) <$> Effect.iterate (countStep p) (times + 1) (times, [], c)

/-- The most bytes that a list can have room for. -/
def largestRoom : Nat := 0x7FFFFFFFFFFFFFFF

/-- Can a list have room for so many values of `slot` bytes each? Values may take no bytes at
all. -/
def HasRoom (slot times : Nat) : Prop := slot * times ≤ largestRoom

instance (slot times : Nat) : Decidable (HasRoom slot times) :=
  inferInstanceAs (Decidable (slot * times ≤ largestRoom))

/-- Lists the values of exactly `times` runs of the parser, of `slot` bytes each, in a list that has
room for them beforehand. -/
def countInRoom (slot times : Nat) (p : Parser m α) : Parser m (List α) where
  run c := if HasRoom slot times then (count times p).run c else pure .unfinished

end Descent.Parser
