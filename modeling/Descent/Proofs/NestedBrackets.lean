import Descent.Effect.Logged
import Descent.Proofs.Reading
import Descent.Sample.Nesting

/-!
# Brackets that close, and brackets that do not

The rule of the nesting sample stands inside itself, and every level of it either reads its pair of
brackets or gives up what it has read. Main statement: opening brackets in front of closing ones are
read as their depth if all of them close, and otherwise nothing is read at all
(`Sample.Nesting.depth_reads_closed_brackets`).

One level is described for whatever stands inside (`bracketed`): it closes behind what the inner
level has read, or undoes it. The induction over the levels then needs to know where each of them
stops. A level that lacks its closing bracket stops where it began, which is an opening bracket; so
the level around it lacks its closing bracket as well.
-/

namespace Descent.Sample.Nesting

open Descent.Parser (Reads Refuses)

variable {m : Type → Type} [Effect m]

/-! ## One level -/

/-- A pair of brackets around what the inner parser reads, or nothing. -/
def bracketed (inner : Parser m Nat) : Parser m Nat :=
  .orElse (.map (· + 1) (.keepLeft (.keepRight (.skipChar '(') inner) (.skipChar ')'))) (.pure 0)

section Level

variable [LawfulEffect m] {inner : Parser m Nat} {n : Nat} {text rest : List Char}

theorem bracketed_reads_closed (h : inner.Reads text n (')' :: rest)) :
    (bracketed inner).Reads (['('] ++ text ++ [')']) (n + 1) rest := by
  have hopening : (Parser.skipChar '(' : Parser m Unit).Reads ['('] () (text ++ ')' :: rest) :=
    .skipChar '('
  have hclosing : (Parser.skipChar ')' : Parser m Unit).Reads [')'] () rest := .skipChar ')'
  have hpair := (hopening.keepRight h).keepLeft hclosing
  exact (hpair.map (· + 1)).orElse

/-- What does not begin with an opening bracket is not looked at further. -/
theorem bracketed_reads_unopened (unopened : rest.head? ≠ some '(') :
    (bracketed inner).Reads [] 0 rest := by
  have hopening : (Parser.skipChar '(' : Parser m Unit).Refuses rest := .skipChar unopened
  have hpair : (Parser.keepLeft (.keepRight (.skipChar '(') inner) (.skipChar ')')).Refuses rest :=
    (hopening.both _).both _
  exact (hpair.map (· + 1)).orElse (.pure 0 rest)

/-- Without a closing bracket, what the inner level has read is undone. -/
theorem bracketed_reads_unclosed (h : inner.Reads text n rest) (unclosed : rest.head? ≠ some ')') :
    (bracketed inner).Reads [] 0 ('(' :: (text ++ rest)) := by
  have hopening : (Parser.skipChar '(' : Parser m Unit).Reads ['('] () (text ++ rest) :=
    .skipChar '('
  have hclosing : (Parser.skipChar ')' : Parser m Unit).Refuses rest := .skipChar unclosed
  have hpair : (Parser.keepLeft (.keepRight (.skipChar '(') inner) (.skipChar ')')).Refuses
      ([] ++ '(' :: (text ++ rest)) := (hopening.keepRight h).both_refuses _ hclosing
  exact (hpair.map (· + 1)).orElse (.pure 0 _)

end Level

/-! ## All levels -/

/-- The rule with at most `calls` calls of it open at any time. -/
def nestingWithin (calls : Nat) : Parser m Nat :=
  ⟨rules.body.call 0 (fun action => nomatch action) calls .nesting⟩

theorem nestingWithin_succ (calls : Nat) :
    (nestingWithin (calls + 1) : Parser m Nat) = bracketed (nestingWithin calls) := rfl

/-- One call for every character of the text, one for its end and one for the rule itself. -/
theorem run_depth (c : Cursor) :
    (depth : Parser m Nat).run c = (nestingWithin (c.limit + 2)).run c := by
  have hcalls : rules.depthFor c + 1 = c.limit + 2 := by
    rw [Rules.depthFor, show rules.names.length = 1 from rfl, Nat.one_mul]
  rw [← hcalls]
  rfl

/-- As many opening brackets and as many closing ones. -/
def brackets (k : Nat) : List Char := List.replicate k '(' ++ List.replicate k ')'

theorem brackets_succ (k : Nat) : brackets (k + 1) = ['('] ++ brackets k ++ [')'] := by
  rw [brackets, List.replicate_succ, List.replicate_succ', ← List.append_assoc]
  rfl

theorem length_brackets (k : Nat) : (brackets k).length = 2 * k := by
  rw [brackets, List.length_append, List.length_replicate, List.length_replicate, Nat.two_mul]

variable [LawfulEffect m]

/-- Brackets that close are read as their depth. Induction on the depth. -/
theorem nestingWithin_reads_brackets {k calls : Nat} (enough : k < calls) {rest : List Char}
    (outermost : k = 0 → rest.head? ≠ some '(') :
    (nestingWithin calls : Parser m Nat).Reads (brackets k) k rest := by
  obtain ⟨calls, rfl⟩ : ∃ n, calls = n + 1 := ⟨calls - 1, by omega⟩
  rw [nestingWithin_succ]
  induction k generalizing calls rest with
  | zero => exact bracketed_reads_unopened (outermost rfl)
  | succ k ih =>
    -- Around each inner level stands a closing bracket, which is no opening one.
    obtain ⟨calls, rfl⟩ : ∃ n, calls = n + 1 := ⟨calls - 1, by omega⟩
    have hclosing : k = 0 → (')' :: rest).head? ≠ some '(' := fun _ => by simp
    rw [brackets_succ, nestingWithin_succ]
    exact bracketed_reads_closed (ih hclosing calls (by omega))

/-- Where a closing bracket is missing, no level reads anything. Induction on the opening
brackets. -/
theorem nestingWithin_reads_unclosed {k j calls : Nat} (fewer : j < k) (enough : k < calls)
    {rest : List Char} (unclosed : rest.head? ≠ some ')')
    (innermost : j = 0 → rest.head? ≠ some '(') :
    (nestingWithin calls : Parser m Nat).Reads [] 0
      (List.replicate k '(' ++ (List.replicate j ')' ++ rest)) := by
  induction k generalizing calls with
  | zero => exact absurd fewer (Nat.not_lt_zero j)
  | succ k ih =>
    obtain ⟨calls, rfl⟩ : ∃ n, calls = n + 1 := ⟨calls - 1, by omega⟩
    rw [nestingWithin_succ, List.replicate_succ]
    rcases Nat.lt_succ_iff_lt_or_eq.mp fewer with hfewer | rfl
    · -- The inner level has stopped in front of its own opening bracket.
      have hinner := ih hfewer (show k < calls by omega)
      have hopening :
          (List.replicate k '(' ++ (List.replicate j ')' ++ rest)).head? ≠ some ')' := by
        obtain ⟨k, rfl⟩ : ∃ n, k = n + 1 := ⟨k - 1, by omega⟩
        simp [List.replicate_succ]
      have hlevel := bracketed_reads_unclosed hinner hopening
      exact hlevel
    · -- The inner levels have read all closing brackets.
      have henough : j < calls := by omega
      have hinner := nestingWithin_reads_brackets (m := m) henough innermost
      have hlevel := bracketed_reads_unclosed hinner unclosed
      rwa [brackets, List.append_assoc] at hlevel

/-- The rule always succeeds. Where all opening brackets close, it stops behind the closing bracket
of the first one, however many more of them follow; where one does not, it stops where it began. -/
theorem depth_reads_closed_brackets (k j : Nat) (rest : List Char)
    (unclosed : rest.head? ≠ some ')') (innermost : j = 0 → rest.head? ≠ some '(') (c : Cursor)
    (there : c.rest = List.replicate k '(' ++ (List.replicate j ')' ++ rest)) :
    let stop := c.advance (2 * k)
    (depth : Parser m Nat).run c = pure (if k ≤ j then .success k stop else .success 0 c) ∧
      (k ≤ j →
        stop.position = c.position + 2 * k ∧ stop.rest = List.replicate (j - k) ')' ++ rest) := by
  intro stop
  have hlength := c.length_rest
  rw [there, List.length_append, List.length_replicate, Cursor.remaining] at hlength
  have henough : k < c.limit + 2 := by omega
  rw [run_depth]
  by_cases closed : k ≤ j
  · -- The closing brackets to spare belong to what comes behind.
    obtain ⟨spare, rfl⟩ := Nat.exists_eq_add_of_le closed
    have hsplit : c.rest = brackets k ++ (List.replicate spare ')' ++ rest) := by
      rw [there, brackets, List.replicate_add]
      simp only [List.append_assoc]
    have houtermost : k = 0 → (List.replicate spare ')' ++ rest).head? ≠ some '(' := by
      rintro rfl
      cases spare with
      | zero => exact innermost rfl
      | succ spare => simp [List.replicate_succ]
    have hread := nestingWithin_reads_brackets (m := m) henough houtermost c hsplit
    have hrest := Parser.rest_after hsplit
    have hposition := Parser.position_after hsplit
    rw [length_brackets] at hread hrest hposition
    rw [if_pos closed, Nat.add_sub_cancel_left]
    exact ⟨hread, fun _ => ⟨hposition, hrest⟩⟩
  · have hread := nestingWithin_reads_unclosed (m := m) (Nat.lt_of_not_le closed) henough unclosed
      innermost
    have hundone := hread c there
    rw [List.length_nil, Cursor.advance_zero] at hundone
    rw [if_neg closed]
    exact ⟨hundone, fun all => absurd all closed⟩

/-- Brackets with closing ones to spare, and brackets of which the outermost does not close. -/
theorem depth_reads_closed_brackets_pairs :
    let closed := Cursor.ofString "x((()))))("
    let unclosed := Cursor.ofString "((()) )"
    (depth : Parser (Logged String) Nat).run (closed.advance 1) =
        pure (.success 3 (closed.advance 7)) ∧
      (depth : Parser (Logged String) Nat).run unclosed = pure (.success 0 unclosed) := by
  intro closed unclosed
  have hclosed := depth_reads_closed_brackets (m := Logged String) 3 5 ['('] (by decide) (by decide)
    (closed.advance 1) (by decide +kernel)
  have hunclosed := depth_reads_closed_brackets (m := Logged String) 3 2 [' ', ')'] (by decide)
    (by decide) unclosed (by decide +kernel)
  exact ⟨hclosed.1, hunclosed.1⟩

end Descent.Sample.Nesting
