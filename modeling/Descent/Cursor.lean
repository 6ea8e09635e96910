import Descent.Text.Quoted
import Descent.Text.Record

/-!
# Cursors

A cursor is a place between two characters of a text, or at one of its ends. Places are counted in
characters. A cursor never leaves its text: moving past the end stops there.

The text left to read, `Cursor.rest`, is the view through which every operation is described:
`rest_advance`, `peek?_eq_head?`, `atEnd_iff`, `startsWith_iff` and `textUntil_advance`.
-/

namespace Descent

/-- A place in a text. -/
structure Cursor where
  /-- The whole text, character by character. -/
  source : Array Char
  /-- How many characters lie before the place. -/
  position : Nat
  /-- The place is inside the text or at its end. -/
  position_le : position ≤ source.size := by simp
deriving DecidableEq

namespace Cursor

/-- The start of a text. -/
def ofString (text : String) : Cursor where
  source := text.toList.toArray
  position := 0

/-- The position of the end of the text, which is the number of its characters. -/
def limit (c : Cursor) : Nat := c.source.size

/-- How many characters are left to read. -/
def remaining (c : Cursor) : Nat := c.limit - c.position

/-- The characters left to read. -/
def rest (c : Cursor) : List Char := c.source.toList.drop c.position

/-- The next character, if there is one. -/
def peek? (c : Cursor) : Option Char := c.source[c.position]?

/-- Is nothing left to read? -/
def atEnd (c : Cursor) : Bool := c.limit ≤ c.position

/-- The place `count` characters further on, or the end of the text if that comes first. -/
def advance (c : Cursor) (count : Nat) : Cursor where
  source := c.source
  position := min (c.position + count) c.limit
  position_le := Nat.min_le_right _ _

/-- The end of the text. -/
def toEnd (c : Cursor) : Cursor where
  source := c.source
  position := c.limit
  position_le := Nat.le_refl _

/-- Do the given characters stand at the cursor? -/
def startsWith (c : Cursor) : List Char → Bool
  | [] => true
  | expected :: others => c.peek? == some expected && (c.advance 1).startsWith others

/-- The text from the cursor to a later one. -/
def textUntil (c stop : Cursor) : String :=
  String.ofList (c.source.extract c.position stop.position).toList

/-! ### Showing a cursor -/

/-- The cursor as a record of its whole text, its position and its limit. -/
def shown (c : Cursor) : Text.Shown :=
  .ofFields "State"
    [("input", .text (Text.Quoted.encode (String.ofList c.source.toList))),
      ("pos", .text (toString c.position)), ("max_pos", .text (toString c.limit))]

/-! ### Places -/

@[ext]
theorem ext {c d : Cursor} (source_eq : c.source = d.source)
    (position_eq : c.position = d.position) :
    c = d := by
  cases c
  cases d
  simp_all

@[simp] theorem source_advance (c : Cursor) (n : Nat) : (c.advance n).source = c.source := rfl

@[simp] theorem limit_advance (c : Cursor) (n : Nat) : (c.advance n).limit = c.limit := rfl

@[simp] theorem position_advance (c : Cursor) (n : Nat) :
    (c.advance n).position = min (c.position + n) c.limit := rfl

theorem position_le_limit (c : Cursor) : c.position ≤ c.limit := c.position_le

/-- Two steps forward are one step by their sum. -/
theorem advance_advance (c : Cursor) (m n : Nat) : (c.advance m).advance n = c.advance (m + n) := by
  apply ext
  · rfl
  · simp only [position_advance, limit_advance]
    omega

@[simp] theorem advance_zero (c : Cursor) : c.advance 0 = c := by
  apply ext
  · rfl
  · have := c.position_le_limit
    simp only [position_advance, Nat.add_zero]
    omega

/-- The end of the text is as far away as there are characters left. -/
theorem toEnd_eq_advance (c : Cursor) : c.toEnd = c.advance c.remaining := by
  apply ext
  · rfl
  · have := c.position_le_limit
    simp only [toEnd, position_advance, remaining]
    omega

/-- Where enough characters are left, the end of the text does not come first. -/
theorem position_advance_of_le {c : Cursor} {n : Nat} (there : n ≤ c.remaining) :
    (c.advance n).position = c.position + n := by
  have := c.position_le_limit
  rw [remaining] at there
  rw [position_advance]
  omega

/-- A place further on in a text is reached by advancing. -/
theorem eq_advance_of_le {c d : Cursor} (source_eq : c.source = d.source)
    (le : c.position ≤ d.position) : d = c.advance (d.position - c.position) := by
  have := d.position_le_limit
  apply ext
  · exact source_eq.symm
  · rw [position_advance, limit, source_eq, ← limit]
    omega

/-! ### The text left to read -/

@[simp] theorem length_rest (c : Cursor) : c.rest.length = c.remaining := by
  simp [rest, remaining, limit]

@[simp] theorem rest_ofString (text : String) : (ofString text).rest = text.toList := by
  simp [rest, ofString]

/-- Advancing drops characters from what is left. -/
@[simp] theorem rest_advance (c : Cursor) (n : Nat) : (c.advance n).rest = c.rest.drop n := by
  simp only [rest, source_advance, position_advance, List.drop_drop, limit]
  by_cases h : c.position + n ≤ c.source.size
  · rw [Nat.min_eq_left h]
  · rw [Nat.min_eq_right (by omega)]
    rw [List.drop_eq_nil_of_le (by simp), List.drop_eq_nil_of_le (by simp; omega)]

/-- The next character is the head of what is left. -/
theorem peek?_eq_head? (c : Cursor) : c.peek? = c.rest.head? := by
  simp [peek?, rest]

theorem remaining_pos {c : Cursor} {x : Char} (next : c.peek? = some x) : 0 < c.remaining := by
  rw [peek?_eq_head?] at next
  obtain ⟨others, hrest⟩ := List.head?_eq_some_iff.mp next
  rw [← length_rest, hrest]
  exact Nat.zero_lt_succ _

theorem atEnd_iff {c : Cursor} : c.atEnd = true ↔ c.rest = [] := by
  rw [atEnd, decide_eq_true_eq, rest, List.drop_eq_nil_iff, Array.length_toList, limit]

/-- The given characters stand at the cursor exactly when what is left begins with them. -/
theorem startsWith_iff {c : Cursor} {expected : List Char} :
    c.startsWith expected = true ↔ expected <+: c.rest := by
  induction expected generalizing c with
  | nil => simp [startsWith]
  | cons x xs ih =>
    rw [startsWith, Bool.and_eq_true, ih, rest_advance, peek?_eq_head?]
    cases c.rest with
    | nil => simp
    | cons y ys =>
      rw [List.head?_cons, List.drop_one, List.tail_cons, List.cons_prefix_cons, beq_iff_eq,
        Option.some.injEq, eq_comm]

/-- The text up to a place further on is the beginning of what is left. -/
theorem textUntil_advance (c : Cursor) (n : Nat) :
    c.textUntil (c.advance n) = String.ofList (c.rest.take n) := by
  have := c.position_le
  simp only [textUntil, rest, position_advance, limit, Array.toList_extract,
    List.extract_eq_take_drop]
  congr 1
  by_cases h : c.position + n ≤ c.source.size
  · rw [Nat.min_eq_left h]
    congr 1
    omega
  · rw [Nat.min_eq_right (by omega), List.take_of_length_le (by simp),
      List.take_of_length_le (by simp; omega)]

end Cursor

end Descent
