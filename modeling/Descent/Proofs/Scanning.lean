import Descent.Effect.Abortable
import Descent.Effect.Plain
import Descent.Effect.Tallied
import Descent.Proofs.Occurrence

/-!
# Scans are repetitions

A scan takes a whole stretch of text at once. A repetition takes the same stretch character by
character, with a run of a parser for each and one more run that fails, and in the loop of its
effect. Main statement: in every lawful effect the two are the same parser, so that a scan may stand
for the repetition that it replaces, down to the place and the message of a failure.

Both sides are told by what is left to read. For a run of accepted characters that is its longest
accepted beginning (`Parser.run_many_satisfy`); for a scan up to a stop it is what lies in front of
the first occurrence of the stop (`Parser.ReadsEach.outside`).
-/

namespace Descent.Parser

variable {m : Type → Type} [Effect m] {α : Type}

/-! ## What stands next -/

theorem run_satisfy_of_stops {accepts : Char → Bool} {c : Cursor}
    (stop : Text.Stops accepts c.rest) :
    (satisfy accepts : Parser m Char).run c = pure (.failure (c.failure "satisfy")) := by
  unfold satisfy scan
  simp only [Cursor.peek?_eq_head?]
  cases hnext : c.rest.head? with
  | none => rfl
  | some x =>
    have hrefused : ¬ accepts x = true := Bool.eq_false_iff.mp (stop x hnext)
    simp only [if_neg hrefused]

theorem run_literal (text : String) (c : Cursor) :
    (literal text : Parser m String).run c = pure
      (if text.toList <+: c.rest then .success text (c.advance text.length)
      else .failure (c.failure ("string " ++ Text.Quoted.encode text))) := by
  unfold literal scan
  simp only [Cursor.startsWith_iff]

/-! ## Runs of accepted characters -/

theorem run_takeWhile (accepts : Char → Bool) (c : Cursor) :
    (takeWhile accepts : Parser m String).run c =
      pure (.success (String.ofList (c.rest.takeWhile accepts)) (c.skipWhile accepts)) := by
  rw [← Cursor.textUntil_skipWhile]
  rfl

theorem run_takeWhile1 (accepts : Char → Bool) (c : Cursor) :
    (takeWhile1 accepts : Parser m String).run c = pure
      (if c.rest.takeWhile accepts = [] then .failure (c.failure "satisfy")
      else .success (String.ofList (c.rest.takeWhile accepts)) (c.skipWhile accepts)) := by
  unfold takeWhile1 scan
  simp only [Cursor.position_skipWhile_eq_iff, Cursor.textUntil_skipWhile]

section Repetitions

variable [LawfulEffect m]

/-- One by one, a repetition reads the characters of the longest accepted run, and no more. -/
theorem run_many_satisfy (accepts : Char → Bool) (spare : Nat) (c : Cursor) :
    (many (satisfy accepts) spare : Parser m (List Char)).run c =
      pure (.success (c.rest.takeWhile accepts) (c.skipWhile accepts)) := by
  have hsplit : c.rest = c.rest.takeWhile accepts ++ c.rest.dropWhile accepts :=
    List.takeWhile_append_dropWhile.symm
  have haccepted : ∀ x ∈ c.rest.takeWhile accepts, accepts x = true :=
    List.all_eq_true.mp List.all_takeWhile
  have hstop := Text.stops_dropWhile accepts c.rest
  rw [Cursor.skipWhile_eq_advance]
  exact (ReadsEach.satisfy haccepted).many (.satisfy hstop) spare c hsplit

theorem run_many1_satisfy (accepts : Char → Bool) (spare : Nat) (c : Cursor) :
    (many1 (satisfy accepts) spare : Parser m (List Char)).run c = pure
      (if c.rest.takeWhile accepts = [] then .failure (c.failure "satisfy")
      else .success (c.rest.takeWhile accepts) (c.skipWhile accepts)) := by
  have hsplit : c.rest = c.rest.takeWhile accepts ++ c.rest.dropWhile accepts :=
    List.takeWhile_append_dropWhile.symm
  have haccepted : ∀ x ∈ c.rest.takeWhile accepts, accepts x = true :=
    List.all_eq_true.mp List.all_takeWhile
  have hstop := Text.stops_dropWhile accepts c.rest
  rw [Cursor.skipWhile_eq_advance]
  cases hrun : c.rest.takeWhile accepts with
  | nil =>
    -- Without an accepted character, the text is what is behind the empty run.
    rw [hrun, List.nil_append] at hsplit
    rw [← hsplit] at hstop
    show ((satisfy accepts : Parser m Char).run c >>= _) = _
    rw [run_satisfy_of_stops hstop, pure_bind]
    rfl
  | cons x xs =>
    rw [hrun] at hsplit haccepted
    obtain ⟨hfirst, hothers⟩ := List.forall_mem_cons.mp haccepted
    rw [if_neg (List.cons_ne_nil x xs)]
    exact ReadsEach.many1 (.satisfy hfirst) (.satisfy hothers) (.satisfy hstop) spare c hsplit

end Repetitions

/-! ## Looking ahead -/

section Lookahead

variable [LawfulEffect m] {p : Parser m α} {s text rest : List Char} {a : α}

/-- Where a parser is refused it is not ahead, and nothing is read to find that out. -/
theorem Refuses.notAhead (h : p.Refuses rest) : p.notAhead.Reads [] () rest := by
  intro c there
  obtain ⟨e, hrun⟩ := h c there
  show Reply.refuse c _ <$> p.run c = _
  rw [hrun, map_pure, List.length_nil, Cursor.advance_zero]
  rfl

theorem Reads.notAhead (h : p.Reads s a rest) : p.notAhead.Refuses (s ++ rest) := by
  intro c there
  refine ⟨c.failure "negative lookahead failed: unexpected match", ?_⟩
  show Reply.refuse c _ <$> p.run c = _
  rw [h c there, map_pure]
  rfl

/-- Characters in front of which a text does not stand are read one by one. -/
theorem ReadsEach.outside {stop : String}
    (h : ∀ j < text.length, ¬ stop.toList <+: (text ++ rest).drop j) :
    ((literal stop).notAhead.keepRight anyChar : Parser m Char).ReadsEach text text rest := by
  induction text with
  | nil => exact .nil rest
  | cons x xs ih =>
    have hahead : (literal stop : Parser m String).Refuses ([x] ++ (xs ++ rest)) :=
      .literal (h 0 (Nat.zero_lt_succ _))
    have hfirst : ((literal stop).notAhead.keepRight anyChar : Parser m Char).Reads [x] x
        (xs ++ rest) := hahead.notAhead.keepRight (.satisfy rfl)
    refine .cons hfirst (List.cons_ne_nil x []) (ih fun j hj => ?_)
    exact h (j + 1) (Nat.succ_lt_succ hj)

end Lookahead

/-! ## Scans up to a stop -/

section Stop

variable [LawfulEffect m] {stop : String} {c : Cursor} {k : Nat}

/-- Up to its first occurrence the stop is not ahead, and there it is. -/
theorem run_many_outside_of_firstAt (h : Text.FirstAt stop.toList c.rest k) (spare : Nat) :
    (many ((literal stop).notAhead.keepRight anyChar) spare : Parser m (List Char)).run c =
      pure (.success (c.rest.take k) (c.advance k)) := by
  -- The row has `k` characters: the stop is ahead of none of them, and it is behind the last.
  obtain ⟨rest, hthere⟩ := h.1
  have hlength : (c.rest.take k).length = k := by
    have := h.length_le
    rw [List.length_take]
    omega
  have hbefore : ∀ j < (c.rest.take k).length,
      ¬ stop.toList <+: (c.rest.take k ++ c.rest.drop k).drop j := by
    rw [hlength, List.take_append_drop]
    exact h.2
  have hends : ((literal stop).notAhead.keepRight anyChar : Parser m Char).Refuses
      (c.rest.drop k) := by
    rw [← hthere]
    exact (Reads.literal stop).notAhead.both _
  have hread := (ReadsEach.outside (m := m) hbefore).many hends spare c
    (List.take_append_drop k c.rest).symm
  rwa [hlength] at hread

/-- Where the stop stands nowhere, it is not ahead even at the end, but nothing else is. -/
theorem run_many_outside_of_absent (h : ¬ stop.toList <:+: c.rest) (spare : Nat) :
    (many ((literal stop).notAhead.keepRight anyChar) spare : Parser m (List Char)).run c =
      pure (.success c.rest c.toEnd) := by
  -- The end of the text is such a place, too, so the stop has characters.
  have hnowhere : ∀ j, ¬ stop.toList <+: c.rest.drop j := fun j hstands =>
    h (Text.infix_iff_exists_prefix_drop.mpr ⟨j, hstands⟩)
  have hend : ¬ stop.toList <+: ([] : List Char) := by
    have := hnowhere c.rest.length
    rwa [List.drop_length] at this
  have hends : ((literal stop).notAhead.keepRight anyChar : Parser m Char).Refuses [] :=
    Reads.both_refuses _ (Refuses.literal hend).notAhead (.satisfy (Text.stops_nil _))
  have heach : ((literal stop).notAhead.keepRight anyChar : Parser m Char).ReadsEach
      c.rest c.rest [] := by
    refine .outside fun j _ => ?_
    rw [List.append_nil]
    exact hnowhere j
  rw [Cursor.toEnd_eq_advance, ← Cursor.length_rest]
  exact heach.many hends spare c (List.append_nil _).symm

/-- A scan up to a stop reads what does not begin with the stop, and then the stop. -/
theorem takeUntil_eq_map (stop : String) (spare : Nat) :
    (takeUntil stop : Parser m String) =
      (label ("end of string reached - " ++ stop ++ " not found")
        ((many ((literal stop).notAhead.keepRight anyChar) spare).keepLeft
          (literal stop))).map String.ofList := by
  refine Parser.ext fun c => ?_
  show _ = Reply.map _ <$> Reply.relabel _ <$> ((many _ spare).run c >>= _)
  by_cases hoccurs : stop.toList <:+: c.rest
  · -- The repetition ends where the search finds the stop, and the stop is read there.
    obtain ⟨k, hfirst⟩ := Text.exists_firstAt hoccurs
    have hhere : stop.toList <+: (c.advance k).rest := by
      rw [Cursor.rest_advance]
      exact hfirst.1
    rw [run_takeUntil_of_firstAt hfirst, run_many_outside_of_firstAt hfirst, pure_bind]
    show _ = Reply.map _ <$> Reply.relabel _ <$> Reply.map _ <$> (literal stop).run (c.advance k)
    rw [run_literal, if_pos hhere, map_pure, map_pure, map_pure, Cursor.advance_advance]
    rfl
  · -- The repetition ends with the text, where the stop is missing; the label makes that the
    -- message of the search.
    have hend : ¬ stop.toList <+: c.toEnd.rest := by
      rw [Cursor.toEnd_eq_advance, Cursor.rest_advance]
      exact fun hthere => hoccurs (Text.infix_iff_exists_prefix_drop.mpr ⟨_, hthere⟩)
    have hscan := run_takeUntil_of_not_infix (m := m) hoccurs
    rw [hscan, run_many_outside_of_absent hoccurs, pure_bind]
    show _ = Reply.map _ <$> Reply.relabel _ <$> Reply.map _ <$> (literal stop).run c.toEnd
    rw [run_literal, if_neg hend, map_pure, map_pure, map_pure]
    rfl

end Stop

/-! ## Scans as repetitions -/

/-- In every lawful effect a scan is the repetition of a parser for single characters, its values
put together to a text. A scan over accepted characters repeats their parser, with at least one run
where there has to be one. A scan up to a stop repeats, as long as the stop is not ahead, the parser
of any character, and reads the stop behind them; its failure is that of the missing stop, with
another message. -/
theorem scans_are_repetitions (m : Type → Type) [Effect m] [LawfulEffect m] (spare : Nat) :
    (∀ accepts : Char → Bool,
      (takeWhile accepts : Parser m String) =
        (many (satisfy accepts) spare).map String.ofList) ∧
    (∀ accepts : Char → Bool,
      (takeWhile1 accepts : Parser m String) =
        (many1 (satisfy accepts) spare).map String.ofList) ∧
    ∀ stop : String,
      (takeUntil stop : Parser m String) =
        (label ("end of string reached - " ++ stop ++ " not found")
          ((many ((literal stop).notAhead.keepRight anyChar) spare).keepLeft
            (literal stop))).map String.ofList := by
  refine ⟨fun accepts => Parser.ext fun c => ?_, fun accepts => Parser.ext fun c => ?_,
    fun stop => takeUntil_eq_map stop spare⟩
  · show _ = Reply.map _ <$> (many _ spare).run c
    rw [run_takeWhile, run_many_satisfy, map_pure]
    rfl
  · show _ = Reply.map _ <$> (many1 _ spare).run c
    rw [run_takeWhile1, run_many1_satisfy, map_pure]
    split <;> rfl

/-- A comment whose end overlaps with itself, one that is not closed, and a missing number, each
with something in front. -/
theorem scans_are_repetitions_comment :
    let comment {m : Type → Type} [Effect m] : Parser m String :=
      (label ("end of string reached - " ++ "**/" ++ " not found")
        ((many ((literal "**/").notAhead.keepRight anyChar)).keepLeft
          (literal "**/"))).map String.ofList
    let number {m : Type → Type} [Effect m] : Parser m String :=
      (many1 (satisfy Char.isDigit)).map String.ofList
    let closed := (Cursor.ofString "x=/*a***/1").advance 4
    let dangling := (Cursor.ofString "x=/*a**").advance 4
    (takeUntil "**/" : Parser (Logged String) String) = comment ∧
      (takeUntil "**/" : Parser (Abortable String) String) = comment ∧
      (takeUntil "**/" : Parser Tallied String) = comment ∧
      (takeWhile1 Char.isDigit : Parser Plain String) = number ∧
      (comment : Parser (Logged String) String).run closed =
        pure (.success "a*" (closed.advance 5)) ∧
      (comment : Parser (Logged String) String).run dangling =
        pure (.failure ⟨7, "end of string reached - **/ not found"⟩) ∧
      (number : Parser Plain String).run closed = pure (.failure ⟨4, "satisfy"⟩) := by
  intro comment number closed dangling
  obtain ⟨-, -, hlogged⟩ := scans_are_repetitions (Logged String) 0
  obtain ⟨-, -, habortable⟩ := scans_are_repetitions (Abortable String) 0
  obtain ⟨-, -, htallied⟩ := scans_are_repetitions Tallied 0
  obtain ⟨-, hplain, -⟩ := scans_are_repetitions Plain 0
  have hcomment : (takeUntil "**/" : Parser (Logged String) String) = comment := hlogged "**/"
  have hnumber : (takeWhile1 Char.isDigit : Parser Plain String) = number := hplain Char.isDigit
  refine ⟨hcomment, habortable "**/", htallied "**/", hnumber, ?_, ?_, ?_⟩
  · rw [← hcomment]
    rfl
  · rw [← hcomment]
    rfl
  · rw [← hnumber]
    rfl

end Descent.Parser
