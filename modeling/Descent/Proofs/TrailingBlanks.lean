import Descent.Proofs.Scanning
import Descent.Proofs.Sequencing

/-!
# Blanks behind tokens

A lexeme does what its parser does and passes over the blanks behind what it has read: it only
changes the reply (`Parser.run_lexeme`). So nothing is read of a text that the parser refuses, no
blank comes next after a success, and there is nothing left to pass over for a second time. A token
is a lexeme of known text, whose label is that of a missing text, since blanks are never missing.
-/

namespace Descent

/-! ## Places behind blanks -/

namespace Cursor

theorem rest_skipWhile (accepts : Char → Bool) (c : Cursor) :
    (c.skipWhile accepts).rest = c.rest.dropWhile accepts := by
  rw [skipWhile_eq_advance]
  exact Parser.rest_after List.takeWhile_append_dropWhile.symm

/-- Behind the longest accepted run there is nothing to pass over. -/
theorem skipWhile_skipWhile (accepts : Char → Bool) (c : Cursor) :
    (c.skipWhile accepts).skipWhile accepts = c.skipWhile accepts := by
  have hstop := Text.takeWhile_append_of_stops (List.forall_mem_nil _)
    (Text.stops_dropWhile accepts c.rest)
  rw [List.nil_append] at hstop
  rw [skipWhile_eq_advance accepts (c.skipWhile accepts), rest_skipWhile, hstop, List.length_nil,
    advance_zero]

end Cursor

namespace Reply

variable {α : Type}

/-- The same answer, except that a success stops behind the blanks that come next. -/
def pastBlanks : Reply α → Reply α
  | success a next => success a (next.advance (next.rest.takeWhile Text.isBlank).length)
  | failure e => failure e
  | unfinished => unfinished

/-- No blank comes next after the answer, if it is a success. -/
def BlankFree : Reply α → Prop
  | success _ next => ∀ x, next.peek? = some x → Text.isBlank x = false
  | failure _ => True
  | unfinished => True

theorem pastBlanks_success (a : α) (next : Cursor) :
    (success a next).pastBlanks = success a (next.skipWhile Text.isBlank) := by
  rw [Cursor.skipWhile_eq_advance]
  rfl

theorem pastBlanks_pastBlanks (reply : Reply α) :
    reply.pastBlanks.pastBlanks = reply.pastBlanks := by
  cases reply with
  | success a next => rw [pastBlanks_success, pastBlanks_success, Cursor.skipWhile_skipWhile]
  | failure e => rfl
  | unfinished => rfl

theorem pastBlanks_blankFree (reply : Reply α) : reply.pastBlanks.BlankFree := by
  cases reply with
  | success a next =>
    intro x hnext
    -- What comes next is what is left of the text when its blanks are dropped.
    rw [← Cursor.skipWhile_eq_advance, Cursor.peek?_eq_head?, Cursor.rest_skipWhile] at hnext
    exact Text.stops_dropWhile Text.isBlank next.rest x hnext
  | failure e => trivial
  | unfinished => trivial

end Reply

namespace Parser

variable {m : Type → Type} [Effect m] [LawfulEffect m] {α : Type}

/-! ## What is passed over -/

theorem run_spaces (c : Cursor) :
    (spaces : Parser m Unit).run c = pure (Reply.success () c).pastBlanks := by
  show Reply.relabel _ <$> Reply.map _ <$> (many (satisfy Text.isBlank)).run c = _
  rw [run_many_satisfy, map_pure, map_pure, Reply.pastBlanks_success]
  rfl

theorem run_spaces1 (c : Cursor) :
    (spaces1 : Parser m Unit).run c = pure
      (if c.rest.takeWhile Text.isBlank = [] then .failure (c.failure "whitespaces")
      else (Reply.success () c).pastBlanks) := by
  show Reply.relabel _ <$> Reply.map _ <$> (many1 (satisfy Text.isBlank)).run c = _
  rw [run_many1_satisfy, map_pure, map_pure, Reply.pastBlanks_success]
  split <;> rfl

/-- A lexeme does what its parser does, and changes nothing but the place after a success. -/
theorem run_lexeme (p : Parser m α) (c : Cursor) :
    p.lexeme.run c = Reply.pastBlanks <$> p.run c := by
  -- To skip blanks is to look at the text, so it only changes the reply of the parser.
  have hspaces : (spaces : Parser m Unit) = scan fun rest => (Reply.success () rest).pastBlanks :=
    Parser.ext run_spaces
  have hpast : thenLook (fun a _ => a) (fun rest => (Reply.success () rest).pastBlanks) =
      (Reply.pastBlanks : Reply α → Reply α) := by
    funext reply
    cases reply <;> rfl
  rw [lexeme, keepLeft, hspaces, run_both_scan, hpast]

theorem lexeme_lexeme (p : Parser m α) : p.lexeme.lexeme = p.lexeme := by
  refine Parser.ext fun c => ?_
  rw [run_lexeme, run_lexeme, Functor.map_map]
  exact congrArg (· <$> p.run c) (funext Reply.pastBlanks_pastBlanks)

theorem spaces_keepRight_spaces : (spaces.keepRight spaces : Parser m Unit) = spaces := by
  -- Both parsers yield nothing but the unit, so it does not matter which value is kept.
  have hlexeme : (spaces.keepRight spaces : Parser m Unit) = spaces.lexeme := rfl
  refine Parser.ext fun c => ?_
  rw [hlexeme, run_lexeme, run_spaces, map_pure, Reply.pastBlanks_pastBlanks]

theorem run_token (s : String) (c : Cursor) :
    (token s : Parser m Unit).run c = pure
      (if s.toList <+: c.rest then (Reply.success () (c.advance s.length)).pastBlanks
      else .failure ⟨c.position, "token " ++ Text.Quoted.encode s⟩) := by
  show Reply.relabel _ <$> ((literal s).discard).lexeme.run c = _
  rw [run_lexeme]
  show Reply.relabel _ <$> Reply.pastBlanks <$> Reply.map _ <$> (literal s).run c = _
  rw [run_literal, map_pure, map_pure, map_pure]
  split <;> rfl

/-- A text and the blanks behind it are left as far as they go. -/
theorem position_advance_blanks {s : String} {c : Cursor} (hthere : s.toList <+: c.rest) :
    (c.advance (s.length + ((c.rest.drop s.length).takeWhile Text.isBlank).length)).position =
      c.position + s.length + ((c.rest.drop s.length).takeWhile Text.isBlank).length := by
  -- The text is there as a whole, and so are the blanks that are found behind it.
  have hliteral : s.length ≤ c.remaining := by
    rw [← String.length_toList, ← Cursor.length_rest]
    exact hthere.length_le
  have hblanks := (List.takeWhile_sublist Text.isBlank (l := c.rest.drop s.length)).length_le
  rw [List.length_drop, Cursor.length_rest] at hblanks
  rw [Cursor.position_advance_of_le (by omega), Nat.add_assoc]

/-! ## The laws together -/

/-- How the parsers of `m` that skip white space treat it. -/
structure BlankLaws (m : Type → Type) [Effect m] : Prop where
  /-- A token is its text with all blanks that come behind, and it is missed where it should
  begin. -/
  token_run (s : String) (c : Cursor) :
    let blanks := (c.rest.drop s.length).takeWhile Text.isBlank
    let stop := c.advance (s.length + blanks.length)
    (s.toList <+: c.rest → (token s : Parser m Unit).run c = pure (.success () stop) ∧
      stop.position = c.position + s.length + blanks.length) ∧
    (¬ s.toList <+: c.rest →
      (token s : Parser m Unit).run c =
        pure (.failure ⟨c.position, "token " ++ Text.Quoted.encode s⟩))
  lexeme_run {α : Type} (p : Parser m α) (c : Cursor) :
    p.lexeme.run c = Reply.pastBlanks <$> p.run c
  /-- Whatever the reply may be, no blank comes next behind a success. -/
  blankFree_lexeme (O : Outcomes m) {α : Type} (p : Parser m α) (c : Cursor) :
    O.Always Reply.BlankFree (p.lexeme.run c)
  blankFree_token (O : Outcomes m) (s : String) (c : Cursor) :
    O.Always Reply.BlankFree ((token s).run c)
  blankFree_spaces (O : Outcomes m) (c : Cursor) : O.Always Reply.BlankFree (spaces.run c)
  blankFree_spaces1 (O : Outcomes m) (c : Cursor) : O.Always Reply.BlankFree (spaces1.run c)
  lexeme_lexeme {α : Type} (p : Parser m α) : p.lexeme.lexeme = p.lexeme
  spaces_spaces : (spaces.keepRight spaces : Parser m Unit) = spaces

/-- In every lawful effect, tokens and lexemes leave no blanks behind, and to skip blanks twice is
to skip them once. -/
theorem tokens_leave_no_blanks (m : Type → Type) [Effect m] [LawfulEffect m] : BlankLaws m where
  token_run s c := by
    -- Either the text stands there or it does not; `run_token` decides by that.
    refine ⟨fun hthere => ⟨?_, position_advance_blanks hthere⟩, fun hmissing => ?_⟩
    · rw [run_token, if_pos hthere, Reply.pastBlanks, Cursor.rest_advance, Cursor.advance_advance]
    · rw [run_token, if_neg hmissing]
  lexeme_run := run_lexeme
  blankFree_lexeme O _ p c := by
    rw [run_lexeme]
    exact O.map (O.any _) fun reply _ => reply.pastBlanks_blankFree
  blankFree_token O s c := by
    rw [run_token]
    refine O.pure ?_
    split
    · exact Reply.pastBlanks_blankFree _
    · trivial
  blankFree_spaces O c := by
    rw [run_spaces]
    exact O.pure (Reply.pastBlanks_blankFree _)
  blankFree_spaces1 O c := by
    rw [run_spaces1]
    refine O.pure ?_
    split
    · trivial
    · exact Reply.pastBlanks_blankFree _
  lexeme_lexeme := lexeme_lexeme
  spaces_spaces := spaces_keepRight_spaces

/-- A token whose text ends in a blank, and a digit that is told, with blanks behind both. -/
theorem tokens_leave_no_blanks_let :
    let told : Parser (Logged String) Nat := (Parser.lift (Logged.tell "digit")).keepRight digit
    let c := (Cursor.ofString ";let \t\n7 \r\n\x0c=").advance 1
    "let ".toList <+: c.rest ∧
      (token "let " : Parser (Logged String) Unit).run c = pure (.success () (c.advance 6)) ∧
      (c.advance 6).peek? = some '7' ∧
      ¬ "let  ".toList <+: c.rest ∧
      (token "let  " : Parser (Logged String) Unit).run c =
        pure (.failure ⟨1, "token \"let  \""⟩) ∧
      told.lexeme.lexeme.run (c.advance 6) = ⟨.success 7 (c.advance 11), ["digit"], []⟩ ∧
      (∀ d, (told.lexeme.run d).value.BlankFree) ∧
      BlankLaws Plain ∧ BlankLaws (Abortable String) ∧ BlankLaws Tallied := by
  intro told c
  have laws := tokens_leave_no_blanks (Logged String)
  have hthere : "let ".toList <+: c.rest := by decide +kernel
  have hmissing : ¬ "let  ".toList <+: c.rest := by decide +kernel
  obtain ⟨hread, -⟩ := (laws.token_run "let " c).1 hthere
  have hmissed := (laws.token_run "let  " c).2 hmissing
  have hfree (d : Cursor) : (told.lexeme.run d).value.BlankFree :=
    Logged.always_iff.mp (laws.blankFree_lexeme Outcomes.lawful told d)
  have htwice :
      told.lexeme.lexeme.run (c.advance 6) = ⟨.success 7 (c.advance 11), ["digit"], []⟩ := by
    rw [laws.lexeme_lexeme, laws.lexeme_run]
    rfl
  exact ⟨hthere, hread, rfl, hmissing, hmissed, htwice, hfree, tokens_leave_no_blanks Plain,
    tokens_leave_no_blanks (Abortable String), tokens_leave_no_blanks Tallied⟩

end Parser

end Descent
