import Descent.Excerpt
import Mathlib.Data.List.Induction

/-!
# Positions among the lines of a text

A position cuts a text in two, and with it a line of the text: in front of the position stand whole
lines and the beginning of that line, behind it the rest of the line and whole lines
(`Excerpt.CutAt`). The two sides put together again are the lines of the whole text
(`Excerpt.CutAt.lines_eq`).

A reader who counts lines only ever knows the text in front. Step by step, the reader stands on the
line that has not ended yet, and remembers how many characters the lines before it have
(`Location.Reader.pass_past`). So what is counted from the front alone is where the position is
among the lines of the whole text (`Excerpt.CutAt.ofPosition_eq`).
-/

namespace Descent

namespace Excerpt

variable {text s t before behind : List Char} {earlier later : List (List Char)} {position : Nat}

/-! ## Lines -/

theorem lines_ne_nil (text : List Char) : lines text ≠ [] := by
  unfold lines
  split
  · exact List.cons_ne_nil _ _
  · exact List.cons_ne_nil _ _
  · split <;> exact List.cons_ne_nil _ _

theorem lines_cons_of_ne {x : Char} (hx : x ≠ '\n') (h : lines t = behind :: later) :
    lines (x :: t) = (x :: behind) :: later := by
  rw [lines]
  · simp only [h]
  · exact hx

/-- Lines are what stands between line feeds. -/
theorem lines_eq_splitOn (text : List Char) : lines text = text.splitOn '\n' := by
  unfold List.splitOn
  induction text with
  | nil => simp [lines]
  | cons x rest ih =>
    rw [List.splitOnP_cons_eq_if_modifyHead, ← ih]
    by_cases hx : x = '\n'
    · subst hx
      simp [lines]
    · obtain ⟨first, others, hlines⟩ := List.exists_cons_of_ne_nil (lines_ne_nil rest)
      rw [lines_cons_of_ne hx hlines, hlines]
      simp [hx]

/-- A line feed would have ended the line. -/
theorem lineFeed_not_mem {line : List Char} (h : line ∈ lines text) : '\n' ∉ line := by
  induction text generalizing line with
  | nil => simp_all [lines]
  | cons x rest ih =>
    by_cases hx : x = '\n'
    · subst hx
      simp only [lines, List.mem_cons] at h
      obtain rfl | h := h
      · exact List.not_mem_nil
      · exact ih h
    · obtain ⟨first, others, hlines⟩ := List.exists_cons_of_ne_nil (lines_ne_nil rest)
      rw [lines_cons_of_ne hx hlines] at h
      rw [hlines] at ih
      obtain rfl | h := List.mem_cons.mp h
      · simp [Ne.symm hx, ih List.mem_cons_self]
      · exact ih (List.mem_cons_of_mem _ h)

/-- Between two texts put together no line ends: the last line of the first goes on with the first
line of the second. Induction on the first text. -/
theorem lines_append (hs : lines s = earlier ++ [before]) (ht : lines t = behind :: later) :
    lines (s ++ t) = earlier ++ (before ++ behind) :: later := by
  induction s generalizing earlier before with
  | nil =>
    obtain ⟨rfl, rfl⟩ : earlier = [] ∧ before = [] := by
      cases earlier <;> simp_all [lines]
    simpa using ht
  | cons x s ih =>
    by_cases hx : x = '\n'
    · subst hx
      rw [lines] at hs
      -- The empty line is not the last one: at least one line follows it.
      cases earlier with
      | nil => simp [lines_ne_nil] at hs
      | cons first earlier =>
        obtain ⟨rfl, hothers⟩ := List.cons.inj hs
        exact congrArg ([] :: ·) (ih hothers)
    · obtain ⟨first, others, hlines⟩ := List.exists_cons_of_ne_nil (lines_ne_nil s)
      rw [lines_cons_of_ne hx hlines] at hs
      cases earlier with
      | nil =>
        obtain ⟨rfl, rfl⟩ := List.cons.inj hs
        have hjoined : lines (s ++ t) = [] ++ (first ++ behind) :: later := ih hlines
        exact lines_cons_of_ne hx hjoined
      | cons line earlier =>
        obtain ⟨rfl, rfl⟩ := List.cons.inj hs
        have hjoined : lines (s ++ t) = (first :: earlier) ++ (before ++ behind) :: later :=
          ih hlines
        exact lines_cons_of_ne hx hjoined

/-- A text is its first line and the others, each behind a line feed. -/
theorem eq_of_lines_eq_cons (h : lines t = behind :: later) :
    t = behind ++ later.flatMap ('\n' :: ·) := by
  have hjoined : ['\n'].intercalate (t.splitOn '\n') = t := List.intercalate_splitOn '\n'
  rw [← lines_eq_splitOn, h] at hjoined
  rw [← hjoined]
  clear hjoined h
  induction later generalizing behind with
  | nil => simp [List.intercalate]
  | cons line later ih => simp [List.intercalate_cons_cons, ih]

/-- A text is its last line behind the others, each with a line feed. -/
theorem eq_of_lines_eq_concat (h : lines s = earlier ++ [before]) :
    s = earlier.flatMap (· ++ ['\n']) ++ before := by
  have hjoined : ['\n'].intercalate (s.splitOn '\n') = s := List.intercalate_splitOn '\n'
  rw [← lines_eq_splitOn, h] at hjoined
  rw [← hjoined]
  clear hjoined h
  induction earlier with
  | nil => simp [List.intercalate]
  | cons line earlier ih => simp [List.intercalate_cons_of_ne_nil, ih]

/-! ## A position among them -/

/-- The lines of a text around a position: in front of it `earlier` ones and the beginning of a
line, and behind it what remains of that line and `later` ones. -/
structure CutAt (text : List Char) (position : Nat) (earlier : List (List Char))
    (before behind : List Char) (later : List (List Char)) : Prop where
  front : lines (text.take position) = earlier ++ [before]
  back : lines (text.drop position) = behind :: later

theorem exists_lines_eq_concat (text : List Char) :
    ∃ earlier before, lines text = earlier ++ [before] := by
  obtain hnone | ⟨earlier, before, hlines⟩ := List.eq_nil_or_concat (lines text)
  · exact absurd hnone (lines_ne_nil text)
  · exact ⟨earlier, before, by rw [hlines, List.concat_eq_append]⟩

theorem exists_cutAt (text : List Char) (position : Nat) :
    ∃ earlier before behind later, CutAt text position earlier before behind later := by
  obtain ⟨earlier, before, hfront⟩ := exists_lines_eq_concat (text.take position)
  obtain ⟨behind, later, hback⟩ := List.exists_cons_of_ne_nil (lines_ne_nil (text.drop position))
  exact ⟨earlier, before, behind, later, hfront, hback⟩

namespace CutAt

variable (cut : CutAt text position earlier before behind later)
include cut

theorem lines_eq : lines text = earlier ++ (before ++ behind) :: later := by
  have hlines := lines_append cut.front cut.back
  rwa [List.take_append_drop] at hlines

theorem take_lines : (lines text).take earlier.length = earlier := by
  rw [cut.lines_eq, List.take_left]

theorem getD_lines : (lines text).getD earlier.length [] = before ++ behind := by
  simp [cut.lines_eq]

/-- The whole lines in front of the position are not all there are: its own line comes behind. -/
theorem earlier_lt_length : earlier.length < (lines text).length := by
  rw [cut.lines_eq, List.length_append, List.length_cons]
  omega

theorem take_eq : text.take position = earlier.flatMap (· ++ ['\n']) ++ before :=
  eq_of_lines_eq_concat cut.front

theorem drop_eq : text.drop position = behind ++ later.flatMap ('\n' :: ·) :=
  eq_of_lines_eq_cons cut.back

theorem getElem?_position : text[position]? = (behind ++ later.flatMap ('\n' :: ·)).head? := by
  rw [← cut.drop_eq, List.head?_drop]

/-- What stands at the position is next on the line, unless the line ends there. -/
theorem head?_behind {x : Char} (next : text[position]? = some x) (hx : x ≠ '\n') :
    behind.head? = some x := by
  rw [cut.getElem?_position] at next
  cases behind with
  | nil =>
    cases later with
    | nil => cases next
    | cons line later => exact absurd (Option.some.inj next).symm hx
  | cons y behind => exact next

/-- In front of a line feed and at the end of the text, nothing of the line is left. -/
theorem behind_eq_nil (ends : text[position]? = some '\n' ∨ position = text.length) :
    behind = [] := by
  cases behind with
  | nil => rfl
  | cons y behind =>
    -- A character left of the line would stand at the position. No line has a line feed in it, and
    -- at the end of the text no character stands.
    have next : text[position]? = some y := cut.getElem?_position
    obtain hfeed | rfl := ends
    · obtain rfl := Option.some.inj (next.symm.trans hfeed)
      have hline : '\n' :: behind ∈ lines (text.drop position) := cut.back ▸ List.mem_cons_self
      exact absurd List.mem_cons_self (lineFeed_not_mem hline)
    · simp at next

end CutAt

end Excerpt

/-! ## The reader of a text -/

namespace Location

open Excerpt (lines CutAt)

variable {passed text before behind : List Char} {earlier later : List (List Char)} {position : Nat}

/-- The reader who has passed whole lines and the beginning of another. -/
def Reader.past (earlier : List (List Char)) (before : List Char) : Reader where
  line := earlier.length + 1
  lineStart := (earlier.flatMap (· ++ ['\n'])).length
  position := (earlier.flatMap (· ++ ['\n'])).length + before.length

/-- A line feed makes a whole line of what has been passed of one; any other character goes on with
it. -/
theorem Reader.pass_past (earlier : List (List Char)) (before : List Char) (x : Char) :
    (Reader.past earlier before).pass x =
      if x = '\n' then Reader.past (earlier ++ [before]) []
      else Reader.past earlier (before ++ [x]) := by
  by_cases hx : x = '\n'
  · simp [Reader.pass, Reader.past, hx, Nat.add_assoc]
  · simp [Reader.pass, Reader.past, hx, Nat.add_assoc]

/-- Induction on the text that has been passed, from its beginning on. -/
theorem foldl_pass (h : lines passed = earlier ++ [before]) :
    passed.foldl Reader.pass {} = Reader.past earlier before := by
  induction passed using List.reverseRecOn generalizing earlier before with
  | nil =>
    obtain ⟨rfl, rfl⟩ : earlier = [] ∧ before = [] := by
      cases earlier <;> simp_all [lines]
    rfl
  | append_singleton passed x ih =>
    obtain ⟨earlier', before', hpassed⟩ := Excerpt.exists_lines_eq_concat passed
    rw [List.foldl_append, ih hpassed, List.foldl_cons, List.foldl_nil, Reader.pass_past]
    by_cases hx : x = '\n'
    · -- The line goes to the whole ones, and the next one begins empty.
      subst hx
      have hlines : lines (passed ++ ['\n']) = (earlier' ++ [before']) ++ [[]] := by
        simpa [lines] using Excerpt.lines_append hpassed (rfl : lines ['\n'] = [[], []])
      obtain ⟨rfl, hbefore⟩ := List.append_inj' (h.symm.trans hlines) rfl
      obtain rfl := List.singleton_inj.mp hbefore
      rw [if_pos rfl]
    · -- Any other character goes on with the last line.
      have hlines : lines (passed ++ [x]) = earlier' ++ [before' ++ [x]] :=
        Excerpt.lines_append hpassed (Excerpt.lines_cons_of_ne hx rfl)
      obtain ⟨rfl, hbefore⟩ := List.append_inj' (h.symm.trans hlines) rfl
      obtain rfl := List.singleton_inj.mp hbefore
      rw [if_neg hx]

end Location

/-! ## What is counted -/

namespace Excerpt.CutAt

variable {text before behind : List Char} {earlier later : List (List Char)} {position : Nat}
  (cut : CutAt text position earlier before behind later)
include cut

/-- The line of a position is behind the whole ones, and its offset goes on from where that line
begins, also beyond the end of the text. -/
theorem ofPosition_eq :
    Location.ofPosition text position =
      ⟨earlier.length + 1, position - (earlier.flatMap (· ++ ['\n'])).length⟩ := by
  rw [Location.ofPosition, Location.foldl_pass cut.front]
  rfl

/-- A position is reached by the whole lines in front of it and its offset. -/
theorem length_add_offset :
    (earlier.flatMap (· ++ ['\n'])).length + (Location.ofPosition text position).offset =
      position := by
  have hlength := congrArg List.length cut.take_eq
  rw [List.length_take, List.length_append] at hlength
  rw [cut.ofPosition_eq]
  show _ + (position - _) = position
  omega

/-- In the text, the offset is what has been passed of the line. -/
theorem offset_eq (inside : position ≤ text.length) :
    (Location.ofPosition text position).offset = before.length := by
  have hlength := congrArg List.length cut.take_eq
  rw [List.length_take_of_le inside, List.length_append] at hlength
  have := cut.length_add_offset
  omega

end Excerpt.CutAt

end Descent
