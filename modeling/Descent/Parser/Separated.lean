import Descent.Parser.Character
import Descent.Parser.Repeat
import Descent.Parser.Sequence

/-!
# Separated lists

Items with a separator between any two of them. A separator after which no item follows is not part
of the list and is left unread.
-/

namespace Descent.Parser

variable {m : Type → Type} [Effect m] {α β γ : Type}

/-- One run of a separator and of an item behind it: their values join those before them. If either
fails, the repetition ends in front of the separator. -/
def behindStep (join : γ → β → α → γ) (separator : Parser m β) (item : Parser m α)
    (state : γ × Cursor) : m (Flow (γ × Cursor) (Reply γ)) := do
  match ← separator.run state.2 with
  | .success b behind =>
    (fun
      | .success a rest => .again (join state.1 b a, rest)
      | .failure _ => .done (.success state.1 state.2)
      | .unfinished => .done .unfinished) <$> item.run behind
  | .failure _ => pure (.done (.success state.1 state.2))
  | .unfinished => pure (.done .unfinished)

/-- Repeats a separator and an item behind it, and joins the values of both to the values before
them. -/
def foldBehind (join : γ → β → α → γ) (init : γ) (separator : Parser m β) (item : Parser m α)
    (spare : Nat := 0) : Parser m γ where
  run c :=
    (·.getD .unfinished) <$>
      Effect.iterate (behindStep join separator item) (c.remaining + 1 + spare) (init, c)

/-- The items after the first, each behind a separator. -/
def itemsAfter (first : α) (item : Parser m α) (separator : Parser m β) (spare : Nat := 0) :
    Parser m (List α) :=
  (foldBehind (fun items _ a => a :: items) [first] separator item spare).map List.reverse

/-- A list with at least one item. -/
def sepBy1 (item : Parser m α) (separator : Parser m β) (spare : Nat := 0) : Parser m (List α) :=
  item.bind fun first => itemsAfter first item separator spare

/-- A list of items, empty where no first item stands. -/
def sepBy (item : Parser m α) (separator : Parser m β) (spare : Nat := 0) :
    Parser m (List α) where
  run c := do
    match ← item.run c with
    | .success first rest => (itemsAfter first item separator spare).run rest
    | .failure _ => pure (.success [] c)
    | .unfinished => pure .unfinished

/-- A list of items with commas between them, which may be empty. -/
def commaSep (item : Parser m α) : Parser m (List α) := sepBy item (skipChar ',')

/-- A list of at least one item with commas between them. -/
def commaSep1 (item : Parser m α) : Parser m (List α) := sepBy1 item (skipChar ',')

end Descent.Parser
