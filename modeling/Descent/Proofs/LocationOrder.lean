import Descent.Proofs.Locating
import Mathlib.Data.Prod.Lex

/-!
# Locations are in the order of positions

Places are told to a person as locations and compared as positions. Main statement: a location keeps
all that is known of its position, and locations are in order, line by line and along a line, where
positions are (`Location.ofPosition_keeps_order`).

A line has a number, which is counted from the line feeds in front of a position, and a beginning,
which depends on that number alone (`Excerpt.lineStart`). So of two positions the later one is on a
later line if there is a line feed between them; and if there is none, both are on one line, and
their offsets are counted from the same place.
-/

namespace Descent

namespace Excerpt

variable {text before behind : List Char} {earlier later : List (List Char)} {position : Nat}

/-! ## Where lines begin -/

/-- The position at which the line with the given number begins, counted from 1: behind the lines in
front of it, each of which ends with a line feed. -/
def lineStart (text : List Char) (number : Nat) : Nat :=
  (((text.splitOn '\n').take (number - 1)).flatMap (· ++ ['\n'])).length

/-- Every line feed begins one more line. -/
theorem length_lines (text : List Char) : (lines text).length = text.count '\n' + 1 := by
  induction text with
  | nil => rfl
  | cons x rest ih =>
    by_cases hx : x = '\n'
    · subst hx
      rw [lines, List.length_cons, ih, List.count_cons_self]
    · obtain ⟨first, others, hlines⟩ := List.exists_cons_of_ne_nil (lines_ne_nil rest)
      rw [hlines] at ih
      rw [lines_cons_of_ne hx hlines, List.count_cons_of_ne hx, ← ih, List.length_cons,
        List.length_cons]

namespace CutAt

variable (cut : CutAt text position earlier before behind later)
include cut

/-- The line of a position comes behind the whole lines in front of the position. -/
theorem line_eq : (Location.ofPosition text position).line = earlier.length + 1 := by
  rw [cut.ofPosition_eq]

/-- As many line feeds stand in front of a position as whole lines. -/
theorem count_take : (text.take position).count '\n' = earlier.length := by
  have hlength := length_lines (text.take position)
  -- The lines of the text up to the position are the whole ones and the one that it is on.
  rw [cut.front, List.length_append, List.length_singleton] at hlength
  omega

/-- The line of a position begins where the whole lines in front of the position end. -/
theorem lineStart_eq :
    lineStart text (earlier.length + 1) = (earlier.flatMap (· ++ ['\n'])).length := by
  rw [lineStart, ← lines_eq_splitOn, Nat.add_sub_cancel, cut.take_lines]

theorem drop_lineStart :
    text.drop (lineStart text (earlier.length + 1)) =
      (before ++ behind) ++ later.flatMap ('\n' :: ·) := by
  have htext : text = earlier.flatMap (· ++ ['\n']) ++
      ((before ++ behind) ++ later.flatMap ('\n' :: ·)) := by
    -- The position is in the middle of the line, which is put together again.
    calc text = text.take position ++ text.drop position := (List.take_append_drop _ _).symm
      _ = _ := by rw [cut.take_eq, cut.drop_eq]; simp only [List.append_assoc]
  rw [cut.lineStart_eq, htext, List.drop_left]

end CutAt

end Excerpt

namespace Location

open Excerpt (lineStart exists_cutAt)

variable {p q : Nat}

/-! ## Lines and offsets -/

/-- The order in which locations are read: line by line, and on a line by the offset. -/
def key (location : Location) : ℕ ×ₗ ℕ := toLex (location.line, location.offset)

/-- The line of a position is one more than the line feeds in front of it. -/
theorem line_ofPosition (text : List Char) (position : Nat) :
    (ofPosition text position).line = 1 + (text.take position).count '\n' := by
  obtain ⟨earlier, before, behind, later, cut⟩ := exists_cutAt text position
  rw [cut.line_eq, cut.count_take, Nat.add_comm]

/-- A position is as far behind the beginning of its line as its offset says, which depends on the
number of the line alone. -/
theorem lineStart_add_offset (text : List Char) (position : Nat) :
    lineStart text (ofPosition text position).line + (ofPosition text position).offset =
      position := by
  obtain ⟨earlier, before, behind, later, cut⟩ := exists_cutAt text position
  rw [cut.line_eq, cut.lineStart_eq]
  exact cut.length_add_offset

/-- The reader's line has begun where it begins in the whole text. -/
theorem lineStart_foldl_pass (text : List Char) (position : Nat) :
    ((text.take position).foldl Reader.pass {}).lineStart =
      lineStart text (ofPosition text position).line := by
  obtain ⟨earlier, before, behind, later, cut⟩ := exists_cutAt text position
  rw [cut.line_eq, cut.lineStart_eq, foldl_pass cut.front]
  rfl

/-- The text has the line of a position, and the line stands at its beginning. -/
theorem exists_line (text : List Char) (position : Nat) :
    ∃ line, (text.splitOn '\n')[(ofPosition text position).line - 1]? = some line ∧
      line <+: text.drop (lineStart text (ofPosition text position).line) := by
  obtain ⟨earlier, before, behind, later, cut⟩ := exists_cutAt text position
  refine ⟨before ++ behind, ?_, ?_⟩
  · rw [cut.line_eq, Nat.add_sub_cancel, ← Excerpt.lines_eq_splitOn, cut.lines_eq,
      List.getElem?_append_right (Nat.le_refl _), Nat.sub_self, List.getElem?_cons_zero]
  · rw [cut.line_eq, cut.drop_lineStart]
    exact List.prefix_append _ _

/-! ## Order -/

/-- The later position has no fewer line feeds in front of it. -/
theorem line_mono (text : List Char) (h : p ≤ q) :
    (ofPosition text p).line ≤ (ofPosition text q).line := by
  -- The text up to the earlier position is the beginning of the text up to the later one.
  have hprefix : text.take p <+: text.take q := List.take_prefix_take_left h
  have hcount := hprefix.sublist.count_le '\n'
  rw [line_ofPosition, line_ofPosition]
  omega

/-- The later position is on a later line, or further along on the same one. -/
theorem key_lt_key (text : List Char) (h : p < q) :
    (ofPosition text p).key < (ofPosition text q).key := by
  rw [key, key, Prod.Lex.toLex_lt_toLex]
  rcases Nat.lt_or_eq_of_le (line_mono text (Nat.le_of_lt h)) with hline | hline
  · -- A line feed stands between the positions, so the lines differ.
    exact .inl hline
  · -- On the same line both offsets are counted from its beginning.
    have hp := lineStart_add_offset text p
    have hq := lineStart_add_offset text q
    rw [← hline] at hq
    refine .inr ⟨hline, ?_⟩
    show (ofPosition text p).offset < (ofPosition text q).offset
    omega

/-- The location of a position tells its line and how far behind the beginning of that line it is,
also beyond the end of the text. The line is one of the lines of the text, one more than the line
feeds in front of the position; a reader of the text up to the position remembers where it begins,
which is never behind the position. Of two positions the later one has the later location, so that
no two positions have the same one. -/
theorem ofPosition_keeps_order (text : List Char) :
    (∀ position,
      let reader := (text.take position).foldl Reader.pass {}
      let location := ofPosition text position
      let start := lineStart text location.line
      (reader.lineStart = start ∧ reader.lineStart ≤ position) ∧
        location.line = 1 + (text.take position).count '\n' ∧
        (∃ line, (text.splitOn '\n')[location.line - 1]? = some line ∧ line <+: text.drop start) ∧
        start + location.offset = position) ∧
      (∀ p q, p < q → (ofPosition text p).key < (ofPosition text q).key) ∧
      Function.Injective (ofPosition text) := by
  refine ⟨fun position => ?_, fun p q => key_lt_key text, fun p q same => ?_⟩
  · intro reader location start
    have hstart : reader.lineStart = start := lineStart_foldl_pass text position
    have hposition : start + location.offset = position := lineStart_add_offset text position
    refine ⟨⟨hstart, ?_⟩, line_ofPosition text position, exists_line text position, hposition⟩
    omega
  · -- Equal locations are equally far behind the beginning of one line.
    have hp := lineStart_add_offset text p
    have hq := lineStart_add_offset text q
    rw [same] at hp
    exact hp.symm.trans hq

/-- On, behind and beyond line feeds, in a text with an empty line. -/
theorem ofPosition_keeps_order_lineFeeds :
    let text := "a\n\nbc".toList
    (1 < 2 ∧ 2 < 3 ∧ 5 < 9) ∧
      (toLex (1, 1) : ℕ ×ₗ ℕ) < toLex (2, 0) ∧
      (toLex (2, 0) : ℕ ×ₗ ℕ) < toLex (3, 0) ∧
      (toLex (3, 2) : ℕ ×ₗ ℕ) < toLex (3, 6) ∧
      lineStart text 3 + 6 = 9 := by
  intro text
  obtain ⟨hplace, hordered, _⟩ := ofPosition_keeps_order text
  exact ⟨by decide, hordered 1 2 (by decide), hordered 2 3 (by decide), hordered 5 9 (by decide),
    (hplace 9).2.2.2⟩

end Location

end Descent
