import Descent.Parser.Passage

/-!
# Reading with bounds checks

Stored texts are read by index and by slice, and distances between places are differences of
positions. Each of these has a precondition, and a reader that does not meet it stops with a
`Fault`. The readers of this module are written with these partial operations only; none of them
hides a missing character behind a default value or a negative difference behind zero.

`Cursor.ReadsInRange` says that no reader ever faults at a cursor, and that each answers as the
cursor operation or the parser that it stands for. It holds at every cursor (`Cursor.readsInRange`).
-/

namespace Descent

namespace Checked

/-- Why a reader stopped. -/
inductive Fault where
  | outOfRange
  | underflow
deriving DecidableEq, Repr

/-- The character at an index that lies inside the text. -/
def index (text : List Char) (i : Nat) : Except Fault Char :=
  match text[i]? with
  | some c => .ok c
  | none => .error .outOfRange

/-- The characters between two positions of the text, the first of which is no later. -/
def slice (text : List Char) (start stop : Nat) : Except Fault (List Char) :=
  if start ≤ stop ∧ stop ≤ text.length then .ok ((text.take stop).drop start)
  else .error .outOfRange

/-- A difference that is not negative. -/
def subtract (a b : Nat) : Except Fault Nat :=
  if b ≤ a then .ok (a - b) else .error .underflow

/-- The text left to read, as a slice of the whole. -/
def rest (c : Cursor) : Except Fault (List Char) :=
  slice c.source.toList c.position c.source.size

/-- The next character, by its index. -/
def peek? (c : Cursor) : Except Fault (Option Char) :=
  if c.position < c.limit then some <$> index c.source.toList c.position else .ok none

/-- Counts accepted characters and cuts them off the text left, unless there are none and there has
to be one. -/
def takeWhile (accepts : Char → Bool) (nonEmpty : Bool) (c : Cursor) :
    Except Fault (Reply String) := do
  let left ← rest c
  let taken := (left.takeWhile accepts).length
  if taken = 0 ∧ nonEmpty then
    return .failure (c.failure "satisfy")
  let text ← slice left 0 taken
  return .success (String.ofList text) (c.advance taken)

/-- Looks for the given text from `cursor` on, one place after the other, and cuts off everything
from `start` to where it stands. -/
def takeUntil (stop : String) (start cursor : Cursor) : Except Fault (Reply String) := do
  let left ← rest cursor
  if stop.toList.isPrefixOf left then
    let taken ← subtract cursor.position start.position
    let text ← slice (← rest start) 0 taken
    return .success (String.ofList text) (cursor.advance stop.length)
  if _h : cursor.atEnd then
    return .failure (cursor.failure ("end of string reached - " ++ stop ++ " not found"))
  takeUntil stop start (cursor.advance 1)
termination_by cursor.remaining
decreasing_by
  simp only [Cursor.atEnd, decide_eq_true_eq, Nat.not_le] at _h
  simp only [Cursor.remaining, Cursor.limit_advance, Cursor.position_advance]
  omega

/-! ## No reader faults

A slice of the whole text from a position inside it is in range, and so is a slice of the text left
that is no longer than a run in it. The difference of positions in `takeUntil` is taken between the
start and a place that was reached from it by advancing. -/

theorem rest_eq (c : Cursor) : rest c = .ok c.rest := by
  have hrange : c.position ≤ c.source.size ∧ c.source.size ≤ c.source.toList.length :=
    ⟨c.position_le, by simp⟩
  rw [rest, slice, if_pos hrange, Cursor.rest, List.take_of_length_le (by simp)]

theorem peek?_eq (c : Cursor) : peek? c = .ok c.peek? := by
  rw [peek?, Cursor.peek?, ← Array.getElem?_toList]
  by_cases h : c.position < c.limit
  · have hsome : c.source.toList[c.position]? = some c.source.toList[c.position] :=
      List.getElem?_eq_getElem h
    rw [if_pos h, index, hsome]
    rfl
  · have hnone : c.source.toList[c.position]? = none :=
      List.getElem?_eq_none (by simpa [Cursor.limit] using h)
    rw [if_neg h, hnone]

/-- Cutting off as many characters of the text left as it has. -/
theorem slice_rest (c : Cursor) {taken : Nat} (h : taken ≤ c.rest.length) :
    slice c.rest 0 taken = .ok (c.rest.take taken) := by
  rw [slice, if_pos ⟨Nat.zero_le _, h⟩, List.drop_zero]

theorem takeWhile_eq (accepts : Char → Bool) (nonEmpty : Bool) (c : Cursor) :
    takeWhile accepts nonEmpty c =
      .ok (if (c.skipWhile accepts).position = c.position ∧ nonEmpty then
          .failure (c.failure "satisfy")
        else .success (c.textUntil (c.skipWhile accepts)) (c.skipWhile accepts)) := by
  have hrun : (c.rest.takeWhile accepts).length ≤ c.rest.length :=
    (List.takeWhile_sublist accepts).length_le
  have hempty : (c.skipWhile accepts).position = c.position ↔
      (c.rest.takeWhile accepts).length = 0 := by
    rw [Cursor.position_skipWhile_eq_iff, List.length_eq_zero_iff]
  have hskip := Cursor.skipWhile_eq_advance accepts c
  have htext := Cursor.textUntil_advance c (c.rest.takeWhile accepts).length
  rw [takeWhile, rest_eq]
  simp only [bind, Except.bind, pure, Except.pure, slice_rest c hrun, hempty]
  rw [hskip, htext]
  split <;> rfl

/-- The text before the stop is cut off without a fault when the stop stands at the cursor. -/
theorem takeUntil_eq_of_startsWith (stop : String) {start cursor : Cursor}
    (source_eq : start.source = cursor.source) (le : start.position ≤ cursor.position)
    (h : cursor.startsWith stop.toList = true) :
    takeUntil stop start cursor =
      .ok (.success (start.textUntil cursor) (cursor.advance stop.length)) := by
  have hprefix : stop.toList.isPrefixOf cursor.rest = true :=
    List.isPrefixOf_iff_prefix.mpr (Cursor.startsWith_iff.mp h)
  have hsubtract : subtract cursor.position start.position =
      .ok (cursor.position - start.position) := if_pos le
  -- The stop lies as far from the start as positions say, and inside the text.
  have hlength : cursor.position - start.position ≤ start.rest.length := by
    have hlimit := cursor.position_le_limit
    rw [Cursor.length_rest, Cursor.remaining, Cursor.limit, source_eq, ← Cursor.limit]
    omega
  have htext := start.textUntil_advance (cursor.position - start.position)
  rw [← Cursor.eq_advance_of_le source_eq le] at htext
  rw [takeUntil, rest_eq, rest_eq, htext]
  simp only [bind, Except.bind, pure, Except.pure, hprefix, hsubtract, slice_rest start hlength,
    if_true]

/-- The search ends at the end of the text, and goes on from any other place. -/
theorem takeUntil_eq_of_not_startsWith (stop : String) {start cursor : Cursor}
    (h : cursor.startsWith stop.toList = false) :
    takeUntil stop start cursor =
      if cursor.remaining = 0 then
        .ok (.failure
          (cursor.failure ("end of string reached - " ++ stop ++ " not found")))
      else takeUntil stop start (cursor.advance 1) := by
  have hprefix : stop.toList.isPrefixOf cursor.rest = false := by
    rw [Bool.eq_false_iff, ne_eq, List.isPrefixOf_iff_prefix, ← Cursor.startsWith_iff, h]
    exact Bool.false_ne_true
  have hend : cursor.atEnd = true ↔ cursor.remaining = 0 := by
    rw [Cursor.atEnd_iff, ← List.length_eq_zero_iff, Cursor.length_rest]
  rw [takeUntil, rest_eq]
  simp only [bind, Except.bind, pure, Except.pure, hprefix, hend, Bool.false_eq_true, if_false]
  split <;> rfl

/-- The search finds what `Cursor.findUpTo` finds. Induction on the number of characters left: the
places passed over are those that the search bounded by that number visits. -/
theorem takeUntil_eq (stop : String) {start : Cursor} {count : Nat} {cursor : Cursor}
    (source_eq : start.source = cursor.source) (le : start.position ≤ cursor.position)
    (hcount : cursor.remaining = count) :
    takeUntil stop start cursor =
      .ok (match Cursor.findUpTo stop.toList count cursor with
        | some found => .success (start.textUntil found) (found.advance stop.length)
        | none =>
          .failure
            (cursor.toEnd.failure ("end of string reached - " ++ stop ++ " not found"))) := by
  induction count generalizing cursor with
  | zero =>
    -- No character is left; a stop without characters stands here nevertheless.
    cases h : cursor.startsWith stop.toList with
    | true => rw [takeUntil_eq_of_startsWith stop source_eq le h, Cursor.findUpTo, if_pos h]
    | false =>
      have hend : cursor.toEnd = cursor := by
        rw [Cursor.toEnd_eq_advance, hcount, Cursor.advance_zero]
      rw [takeUntil_eq_of_not_startsWith stop h, if_pos hcount, Cursor.findUpTo,
        if_neg (by rw [h]; exact Bool.false_ne_true), hend]
  | succ count ih =>
    cases h : cursor.startsWith stop.toList with
    | true => rw [takeUntil_eq_of_startsWith stop source_eq le h, Cursor.findUpTo, if_pos h]
    | false =>
      -- A character is passed over, and there is one less for the search.
      have hposition : (cursor.advance 1).position = cursor.position + 1 := by
        rw [Cursor.remaining] at hcount
        rw [Cursor.position_advance]
        omega
      have hnext : (cursor.advance 1).remaining = count := by
        rw [Cursor.remaining] at hcount ⊢
        rw [hposition, Cursor.limit_advance]
        omega
      have hsource : start.source = (cursor.advance 1).source := source_eq
      have hle : start.position ≤ (cursor.advance 1).position := by omega
      have hend : (cursor.advance 1).toEnd = cursor.toEnd := rfl
      rw [takeUntil_eq_of_not_startsWith stop h, if_neg (by omega), ih hsource hle hnext, hend,
        Cursor.findUpTo, if_neg (by rw [h]; exact Bool.false_ne_true)]

end Checked

/-! ## Reading in range

What the readers answer at a cursor, all of them together. -/

/-- At this cursor no reader faults, and each answers as the operation or the parser that it
checks. -/
structure Cursor.ReadsInRange (c : Cursor) : Prop where
  rest : Checked.rest c = .ok c.rest
  peek? : Checked.peek? c = .ok c.peek?
  takeWhile {m : Type → Type} [Effect m] (accepts : Char → Bool) :
    ∃ reply, Checked.takeWhile accepts false c = .ok reply ∧
      (Parser.takeWhile accepts : Parser m String).run c = pure reply
  takeWhile1 {m : Type → Type} [Effect m] (accepts : Char → Bool) :
    ∃ reply, Checked.takeWhile accepts true c = .ok reply ∧
      (Parser.takeWhile1 accepts : Parser m String).run c = pure reply
  takeUntil {m : Type → Type} [Effect m] (stop : String) :
    ∃ reply, Checked.takeUntil stop c c = .ok reply ∧
      (Parser.takeUntil stop : Parser m String).run c = pure reply

theorem Cursor.readsInRange (c : Cursor) : c.ReadsInRange where
  rest := Checked.rest_eq c
  peek? := Checked.peek?_eq c
  takeWhile accepts := by
    refine ⟨_, Checked.takeWhile_eq accepts false c, ?_⟩
    rw [if_neg (by simp)]
    rfl
  takeWhile1 accepts := by
    refine ⟨_, Checked.takeWhile_eq accepts true c, ?_⟩
    simp only [and_true]
    rfl
  takeUntil stop := ⟨_, Checked.takeUntil_eq stop rfl (Nat.le_refl _) rfl, rfl⟩

end Descent
