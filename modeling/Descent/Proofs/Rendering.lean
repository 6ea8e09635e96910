import Descent.Proofs.Locating
import Mathlib.Data.List.Intervals

/-!
# What an excerpt shows

An excerpt is printed by going through the lines of the text with their numbers. Main statement:
what comes out are the rows of a few consecutive lines and a pointer below one of them, which stands
under the character at which the parse failed (`Failure.render_points_at_failure`).

The lines are told by their numbers, of which there are three stretches: the lines that are shown,
and those that are not, in front of them and behind (`Excerpt.rows_eq`). The failing line is one of
them wherever the parse failed, also beyond the end of the text, since it is found by counting the
lines of a part of the text.
-/

namespace Descent

namespace Excerpt

variable {lines : List (List Char)} {location : Location} {number : Nat}

/-! ## Rows -/

/-- What stands in front of a line with the given number. -/
def heading (mark : String) (number : Nat) : List Char :=
  mark.toList ++ (toString number).toList ++ " | ".toList

/-- The line with the given number, counted from 1, behind its heading. -/
def numbered (lines : List (List Char)) (mark : String) (number : Nat) : List Char :=
  heading mark number ++ lines.getD (number - 1) []

/-- A pointer to the given column of the row above. -/
def pointer (column : Nat) : List Char := List.replicate column ' ' ++ "^--- here".toList

theorem row_of_ne (h : number ≠ location.line) :
    row location number (lines.getD (number - 1) []) = numbered lines "    " number ++ ['\n'] := by
  simp [row, margin, numbered, heading, h]

/-- Below the failing line is the pointer, at the offset behind the heading of the line. -/
theorem row_of_eq :
    row location location.line (lines.getD (location.line - 1) []) =
      numbered lines "  > " location.line ++ ['\n'] ++
        (pointer ((heading "  > " location.line).length + location.offset) ++ ['\n']) := by
  simp [row, margin, numbered, heading, pointer]

/-- Rows are printed for the numbers that are near. Induction on the lines, whose numbers go on. -/
theorem rows_eq_flatMap (location : Location) (number : Nat) (lines : List (List Char)) :
    rows location number lines =
      (List.Ico number (number + lines.length)).flatMap fun k =>
        if isNear location.line k then row location k (lines.getD (k - number) []) else [] := by
  induction lines generalizing number with
  | nil => simp [rows]
  | cons line others ih =>
    have hnumbers : List.Ico number (number + (line :: others).length) =
        number :: List.Ico (number + 1) (number + 1 + others.length) := by
      rw [List.Ico.eq_cons (by simp), List.length_cons]
      congr 2
      omega
    rw [hnumbers, List.flatMap_cons, rows, ih, Nat.sub_self, List.getD_cons_zero]
    congr 1
    refine List.flatMap_congr fun k hk => ?_
    -- Behind the first line the numbers are larger by one than for the other lines alone.
    obtain ⟨hlow, _⟩ := List.Ico.mem.mp hk
    have hk' : k - number = (k - (number + 1)) + 1 := by omega
    rw [hk', List.getD_cons_succ]

/-- The numbers from 1 on in three stretches, with the failing line in the middle one. -/
theorem numbers_split {failing count : Nat} (hpos : 1 ≤ failing) (hle : failing ≤ count) :
    List.Ico 1 (1 + count) =
      List.Ico 1 (max 1 (failing - 2)) ++
        (List.Ico (max 1 (failing - 2)) failing ++ failing ::
          List.Ico (failing + 1) (min count (failing + 2) + 1)) ++
        List.Ico (min count (failing + 2) + 1) (1 + count) := by
  rw [← List.Ico.eq_cons (by omega), List.Ico.append_consecutive (by omega) (by omega),
    List.Ico.append_consecutive (by omega) (by omega),
    List.Ico.append_consecutive (by omega) (by omega)]

/-- No row is printed for the stretches that are far from the failing line. -/
theorem flatMap_eq_nil_of_far (print : Nat → List Char) {low high failing : Nat}
    (far : ∀ k, low ≤ k → k < high → k + 2 < failing ∨ failing + 2 < k) :
    ((List.Ico low high).flatMap fun k => if isNear failing k then print k else []) = [] := by
  refine List.flatMap_eq_nil_iff.mpr fun k hk => ?_
  obtain ⟨hlow, hhigh⟩ := List.Ico.mem.mp hk
  have := far k hlow hhigh
  exact if_neg (by simp [isNear]; omega)

/-- Near the failing line every other one has its row. -/
theorem flatMap_eq_map_of_near {low high : Nat}
    (near : ∀ k, low ≤ k → k < high →
      k ≠ location.line ∧ location.line ≤ k + 2 ∧ k ≤ location.line + 2) :
    ((List.Ico low high).flatMap fun k =>
      if isNear location.line k then row location k (lines.getD (k - 1) []) else []) =
      ((List.Ico low high).map (numbered lines "    ")).flatMap (· ++ ['\n']) := by
  rw [List.flatMap_map]
  refine List.flatMap_congr fun k hk => ?_
  obtain ⟨hlow, hhigh⟩ := List.Ico.mem.mp hk
  obtain ⟨hne, hbefore, hbehind⟩ := near k hlow hhigh
  rw [if_pos (by simp [isNear, hbefore, hbehind]), row_of_ne hne]

/-- The rows of an excerpt: up to two lines in front of the failing one, that line with a mark, the
pointer, and up to two lines behind it. -/
def rowsAround (lines : List (List Char)) (failing column : Nat) : List (List Char) :=
  (List.Ico (max 1 (failing - 2)) failing).map (numbered lines "    ") ++
    [numbered lines "  > " failing, pointer column] ++
    (List.Ico (failing + 1) (min lines.length (failing + 2) + 1)).map (numbered lines "    ")

theorem rows_eq (hpos : 1 ≤ location.line) (hle : location.line ≤ lines.length) :
    rows location 1 lines =
      (rowsAround lines location.line
        ((heading "  > " location.line).length + location.offset)).flatMap (· ++ ['\n']) := by
  -- The numbers from 1 on in five stretches: far in front, just before, the failing line itself,
  -- just after, and far behind.
  let print (k : Nat) : List Char :=
    if isNear location.line k then row location k (lines.getD (k - 1) []) else []
  have hfront : (List.Ico 1 (max 1 (location.line - 2))).flatMap print = [] :=
    flatMap_eq_nil_of_far _ (by omega)
  have hbefore : (List.Ico (max 1 (location.line - 2)) location.line).flatMap print =
      ((List.Ico (max 1 (location.line - 2)) location.line).map
        (numbered lines "    ")).flatMap (· ++ ['\n']) :=
    flatMap_eq_map_of_near (by omega)
  have hfailing :
      print location.line = row location location.line (lines.getD (location.line - 1) []) :=
    if_pos (by simp [isNear])
  have hafter :
      (List.Ico (location.line + 1) (min lines.length (location.line + 2) + 1)).flatMap print =
      ((List.Ico (location.line + 1) (min lines.length (location.line + 2) + 1)).map
        (numbered lines "    ")).flatMap (· ++ ['\n']) :=
    flatMap_eq_map_of_near (by omega)
  have hbehind : (List.Ico (min lines.length (location.line + 2) + 1)
      (1 + lines.length)).flatMap print = [] :=
    flatMap_eq_nil_of_far _ (by omega)
  have hrows : rows location 1 lines = (List.Ico 1 (1 + lines.length)).flatMap print :=
    rows_eq_flatMap location 1 lines
  rw [hrows, numbers_split hpos hle]
  simp only [List.flatMap_append, List.flatMap_cons]
  rw [hfront, hbefore, hfailing, row_of_eq, hafter, hbehind]
  simp [rowsAround]

/-! ## The column of the pointer -/

section Column

variable {text before behind : List Char} {earlier later : List (List Char)} {position : Nat}
  (cut : CutAt text position earlier before behind later) (mark : String) (number : Nat)
include cut

/-- What stands behind a position is as far behind the heading of its line as the offset says. -/
theorem CutAt.getElem?_column (inside : position ≤ text.length) {x : Char}
    (next : text[position]? = some x) (hx : x ≠ '\n') :
    (heading mark number ++ (before ++ behind))[
      (heading mark number).length + (Location.ofPosition text position).offset]? = some x := by
  rw [cut.offset_eq inside, List.getElem?_append_right (Nat.le_add_right _ _),
    Nat.add_sub_cancel_left, List.getElem?_append_right (Nat.le_refl _), Nat.sub_self,
    ← List.head?_eq_getElem?]
  exact cut.head?_behind next hx

theorem CutAt.column_eq_length (inside : position ≤ text.length)
    (ends : text[position]? = some '\n' ∨ position = text.length) :
    (heading mark number).length + (Location.ofPosition text position).offset =
      (heading mark number ++ (before ++ behind)).length := by
  rw [cut.offset_eq inside, cut.behind_eq_nil ends, List.append_nil, List.length_append]

end Column

/-! ## Reading the rows back -/

theorem lineFeed_not_mem_heading {mark : String} (h : '\n' ∉ mark.toList) (number : Nat) :
    '\n' ∉ heading mark number := by
  have hdigits : '\n' ∉ Nat.toDigits 10 number := by
    intro hmem
    have hdigit := Nat.isDigit_of_mem_toDigits (by decide) (by decide) hmem
    exact absurd hdigit (by decide)
  simp [heading, h, hdigits]

/-- A row of a line of a text is one line, too. -/
theorem lineFeed_not_mem_numbered {mark : String} (h : '\n' ∉ mark.toList) (text : List Char)
    (number : Nat) : '\n' ∉ numbered (Excerpt.lines text) mark number := by
  have hline : '\n' ∉ (Excerpt.lines text)[number - 1]?.getD [] := by
    cases hget : (Excerpt.lines text)[number - 1]? with
    | none => simp
    | some line => exact lineFeed_not_mem (List.mem_of_getElem? hget)
  simp [numbered, lineFeed_not_mem_heading h number, hline]

theorem lineFeed_not_mem_rowsAround {text : List Char} {failing column : Nat} {r : List Char}
    (h : r ∈ rowsAround (Excerpt.lines text) failing column) : '\n' ∉ r := by
  simp only [rowsAround, List.mem_append, List.mem_map, List.mem_cons, List.not_mem_nil,
    or_false] at h
  obtain (⟨number, _, rfl⟩ | rfl | rfl) | ⟨number, _, rfl⟩ := h
  · exact lineFeed_not_mem_numbered (by decide) text number
  · exact lineFeed_not_mem_numbered (by decide) text failing
  · simp [pointer]
  · exact lineFeed_not_mem_numbered (by decide) text number

/-- Rows that are printed one below the other are the lines of what is printed, the last of which is
empty. -/
theorem splitOn_flatMap {rows : List (List Char)} (whole : ∀ r ∈ rows, '\n' ∉ r) :
    (rows.flatMap (· ++ ['\n'])).splitOn '\n' = rows ++ [[]] := by
  unfold List.splitOn
  induction rows with
  | nil => simp
  | cons r rows ih =>
    obtain ⟨hr, hrows⟩ := List.forall_mem_cons.mp whole
    -- A row has no line feed of its own, so it ends at the one that is printed behind it.
    have hsingle : List.splitOnP (· == '\n') r = [r] := by
      refine List.splitOnP_eq_singleton fun x hx => beq_eq_false_iff_ne.mpr ?_
      rintro rfl
      exact hr hx
    rw [List.flatMap_cons, List.append_assoc, List.singleton_append,
      List.splitOnP_append_cons _ _ (by rfl), hsingle, ih hrows]
    rfl

end Excerpt

open Excerpt (heading numbered rowsAround)

/-- Below its first line, a rendered failure is printed row by row. -/
theorem Failure.render_eq_rows (e : Failure) (text : String) {location : Location}
    (located : location = Location.ofPosition text.toList e.position) (hpos : 1 ≤ location.line)
    (hle : location.line ≤ (Excerpt.lines text.toList).length) :
    let rows := rowsAround (Excerpt.lines text.toList) location.line
      ((heading "  > " location.line).length + location.offset)
    ∃ excerpt, excerpt.splitOn '\n' = rows ++ [[]] ∧
      e.render text = e.summary ++ " (line " ++ toString location.line ++ ", offset " ++
        toString location.offset ++ ")\n\n" ++ String.ofList excerpt := by
  intro rows
  refine ⟨rows.flatMap (· ++ ['\n']), Excerpt.splitOn_flatMap fun r hr => ?_, ?_⟩
  · exact Excerpt.lineFeed_not_mem_rowsAround hr
  · rw [← Excerpt.rows_eq hpos hle, located]
    rfl

/-- A rendered failure is its summary with a location, which is one of the lines of the text, and
below it the rows around that line. Nothing else is printed: the rows are the lines of what is.

The lines before the failing one and the offset make up the position of the failure, also where that
lies beyond the end of the text. Inside of the text, the offset is on the line, and the pointer
stands below the character at the position, or behind the end of the line if that is a line feed or
there is none. -/
theorem Failure.render_points_at_failure (e : Failure) (text : String) :
    let lines := text.toList.splitOn '\n'
    let location := Location.ofPosition text.toList e.position
    let failing := numbered lines "  > " location.line
    let column := (heading "  > " location.line).length + location.offset
    let rows := rowsAround lines location.line column
    let line := lines.getD (location.line - 1) []
    let before := (lines.take (location.line - 1)).flatMap (· ++ ['\n'])
    (1 ≤ location.line ∧ location.line ≤ lines.length) ∧
      (∃ excerpt, excerpt.splitOn '\n' = rows ++ [[]] ∧
        e.render text = e.summary ++ " (line " ++ toString location.line ++ ", offset " ++
          toString location.offset ++ ")\n\n" ++ String.ofList excerpt) ∧
      before.length + location.offset = e.position ∧
      (e.position ≤ text.length →
        location.offset ≤ line.length ∧
        text.toList.take e.position = before ++ line.take location.offset ∧
        (∀ x, text.toList[e.position]? = some x → x ≠ '\n' → failing[column]? = some x) ∧
        (text.toList[e.position]? = some '\n' ∨ e.position = text.length →
          column = failing.length)) := by
  intro lines location failing column rows line before
  -- All that is said of the location is read off the lines around the position.
  obtain ⟨earlier, passed, behind, later, cut⟩ := Excerpt.exists_cutAt text.toList e.position
  have hsplit : lines = Excerpt.lines text.toList := (Excerpt.lines_eq_splitOn text.toList).symm
  have hnumber : location.line - 1 = earlier.length :=
    congrArg (Location.line · - 1) cut.ofPosition_eq
  have hline : line = passed ++ behind := by
    show lines.getD (location.line - 1) [] = _
    rw [hsplit, hnumber, cut.getD_lines]
  have hbefore : before = earlier.flatMap (· ++ ['\n']) := by
    show (lines.take (location.line - 1)).flatMap _ = _
    rw [hsplit, hnumber, cut.take_lines]
  have hwithin : 1 ≤ location.line ∧ location.line ≤ lines.length := by
    have hline' : location.line = earlier.length + 1 := congrArg Location.line cut.ofPosition_eq
    rw [hsplit, hline']
    exact ⟨Nat.le_add_left _ _, cut.earlier_lt_length⟩
  refine ⟨hwithin, ?_, ?_, fun inside => ?_⟩
  · have hrows := Failure.render_eq_rows e text (rfl : location = _) hwithin.1 (hsplit ▸ hwithin.2)
    rwa [← hsplit] at hrows
  · rw [hbefore]
    exact cut.length_add_offset
  · have hinside : e.position ≤ text.toList.length := by rwa [String.length_toList]
    have hoffset : location.offset = passed.length := cut.offset_eq hinside
    have hfailing : failing = heading "  > " location.line ++ (passed ++ behind) :=
      congrArg (_ ++ ·) hline
    refine ⟨by rw [hline, hoffset]; simp, ?_, fun x next hx => ?_, fun ends => ?_⟩
    · rw [hbefore, hline, hoffset, List.take_left]
      exact cut.take_eq
    · rw [hfailing]
      exact cut.getElem?_column "  > " location.line hinside next hx
    · rw [hfailing]
      rw [← String.length_toList] at ends
      exact cut.column_eq_length "  > " location.line hinside ends

/-- A failure on the third of six lines behind an empty one, and one on the line feed of the empty
line. -/
theorem Failure.render_points_at_failure_number :
    let text := "let\n\nx = ?\nin\nx\nend"
    let e : Failure := ⟨9, "not a digit"⟩
    let atLineFeed : Failure := ⟨4, "satisfy"⟩
    let lines := text.toList.splitOn '\n'
    (e.position ≤ text.length ∧ atLineFeed.position ≤ text.length) ∧
      e.render text = "Parse failed at position 9: not a digit (line 3, offset 4)\n\n" ++
        "    1 | let\n    2 | \n  > 3 | x = ?\n            ^--- here\n    4 | in\n    5 | x\n" ∧
      (numbered lines "  > " 3)[12]? = some '?' ∧
      8 = (numbered lines "  > " 2).length := by
  intro text e atLineFeed lines
  have hinside : e.position ≤ text.length := by decide +kernel
  have hinside' : atLineFeed.position ≤ text.length := by decide +kernel
  have hlocation : Location.ofPosition text.toList e.position = ⟨3, 4⟩ := by decide +kernel
  have hlocation' : Location.ofPosition text.toList atLineFeed.position = ⟨2, 0⟩ := by
    decide +kernel
  obtain ⟨_, _, _, hplace⟩ := Failure.render_points_at_failure e text
  obtain ⟨_, _, hbelow, _⟩ := hplace hinside
  obtain ⟨_, _, _, hplace'⟩ := Failure.render_points_at_failure atLineFeed text
  obtain ⟨_, _, _, hbehind⟩ := hplace' hinside'
  rw [hlocation] at hbelow
  rw [hlocation'] at hbehind
  refine ⟨⟨hinside, hinside'⟩, by decide +kernel, ?_, ?_⟩
  · exact hbelow '?' (by decide +kernel) (by decide)
  · exact hbehind (.inl (by decide +kernel))

end Descent
