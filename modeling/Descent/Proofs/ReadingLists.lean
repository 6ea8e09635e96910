import Descent.Parser.Separated
import Descent.Proofs.Reading

/-!
# Reading separated lists

A list is written item by item, with a separator before each but the first (`Text.Items`). Such a
text is read as its items (`Parser.ReadsItem.sepBy`) if every item is read in front of whatever may
come behind it, which is a separator or what follows the list (`Parser.ReadsItem`).
-/

namespace Descent

variable {m : Type → Type} [Effect m] {α : Type}

namespace Text

variable (written : α → List Char → Prop) (separator : String)

/-- The text is the items in a written form, each behind a separator. -/
inductive ItemsAfter : List α → List Char → Prop where
  | none : ItemsAfter [] []
  | more {a : α} {as : List α} {s t u : List Char} (before : Spelled separator s)
      (item : written a t) (others : ItemsAfter as u) : ItemsAfter (a :: as) (s ++ t ++ u)

/-- The text is the items in a written form, with a separator between any two of them. -/
inductive Items : List α → List Char → Prop where
  | none : Items [] []
  | some {a : α} {as : List α} {s t : List Char} (first : written a s)
      (others : ItemsAfter written separator as t) : Items (a :: as) (s ++ t)

variable {written separator}

/-- Behind an item comes a separator, or what follows the list. -/
theorem ItemsAfter.next {as : List α} {text : List Char} {x : Char}
    (h : ItemsAfter written separator as text) (begins : separator.toList.head? = Option.some x)
    (rest : List Char) : (text ++ rest).head? = Option.some x ∨ text ++ rest = rest := by
  cases h with
  | none => exact .inr rfl
  | more before item others =>
    rw [List.append_assoc, List.append_assoc]
    exact .inl (before.head? begins _)

end Text

namespace Parser

open Text (Items ItemsAfter)

/-- Written items begin with no blank, and are read in front of the given separator and in front of
the given rest. -/
structure ReadsItem (item : Parser m α) (written : α → List Char → Prop) (x : Char)
    (rest : List Char) : Prop where
  starts {a : α} {s : List Char} (h : written a s) (behind : List Char) :
    Text.Stops Text.isBlank (s ++ behind)
  reads {a : α} {s behind : List Char} (h : written a s)
    (next : behind.head? = some x ∨ behind = rest) : item.Reads s a behind

variable {item : Parser m α} {written : α → List Char → Prop} {separator : String} {x : Char}
  {text rest : List Char} {as : List α}

theorem ReadsItem.list_starts (reader : item.ReadsItem written x rest)
    (h : Items written separator as text) (stop : Text.Stops Text.isBlank rest) :
    Text.Stops Text.isBlank (text ++ rest) := by
  cases h with
  | none => exact stop
  | some first others =>
    rw [List.append_assoc]
    exact reader.starts first _

variable [LawfulEffect m]

/-- The items behind the first are read one by one. Induction on the written list. -/
theorem ReadsItem.each (reader : item.ReadsItem written x rest)
    (begins : separator.toList.head? = some x) (h : ItemsAfter written separator as text) :
    ((token separator).keepRight item).ReadsEach text as rest := by
  induction h with
  | none => exact .nil rest
  | @more a as s t u before form others ih =>
    -- No item begins with a blank, so the separator ends where the item begins.
    have separated : (token separator : Parser m Unit).Reads s () (t ++ (u ++ rest)) :=
      .spelled before (reader.starts form _)
    have read : item.Reads t a (u ++ rest) := reader.reads form (others.next begins rest)
    have nonempty : s ++ t ≠ [] :=
      List.append_ne_nil_of_left_ne_nil (List.length_pos_iff.mp (before.length_pos begins)) t
    exact .cons (separated.keepRight read) nonempty ih

/-- A written list is read to its end, where neither an item nor a separator comes next. -/
theorem ReadsItem.sepBy (reader : item.ReadsItem written x rest)
    (begins : separator.toList.head? = some x) (h : Items written separator as text)
    (noItem : item.Refuses rest) (noSeparator : rest.head? ≠ some x) :
    (Parser.sepBy item (token separator)).Reads text as rest := by
  intro c there
  cases h with
  | none =>
    -- The list is empty, and its first item is missed where the rest begins.
    obtain ⟨_, run⟩ := noItem.run_bind _ there
    rw [List.length_nil, Cursor.advance_zero]
    exact run
  | @some a as s t first others =>
    have read : item.Reads s a (t ++ rest) := reader.reads first (others.next begins rest)
    -- Behind the last item no separator comes next, which ends the row.
    have stop : ((token separator).keepRight item : Parser m α).Refuses rest :=
      (Refuses.token_of_head? begins noSeparator).both _
    have after : (itemsAfter a item (token separator)).Reads t (a :: as) rest := by
      rw [itemsAfter_eq_manyAfter]
      exact (reader.each begins others).manyAfter [a] stop 0
    rw [List.append_assoc] at there
    rw [← advance_append]
    exact (read.run_bind there).trans (after _ (rest_after there))

end Parser

end Descent
