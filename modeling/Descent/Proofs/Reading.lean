import Descent.Parse
import Descent.Parser.Blank
import Descent.Parser.Choice
import Descent.Proofs.Behind
import Descent.Proofs.Onward

/-!
# Reading a text

A parser reads a text as a value when, wherever the text stands and the given rest behind it, it
yields the value, stops at the rest and has no effect (`Parser.Reads`). It refuses a text when it
fails wherever the text is what is left, and again has no effect (`Parser.Refuses`).

Both are statements about texts, not about places: texts are put together as parsers are. What comes
behind matters, since a parser may read on into it. So the first of two parsers has to read its text
in front of the text of the second, and a repetition has to be refused by what follows it.
-/

namespace Descent

namespace Text

/-- The text does not go on with an accepted character. -/
def Stops (accepts : Char → Bool) (text : List Char) : Prop :=
  ∀ x ∈ text.head?, accepts x = false

/-- The text is the token, perhaps with blanks behind it. -/
def Spelled (token : String) (text : List Char) : Prop :=
  ∃ blanks, (∀ x ∈ blanks, isBlank x = true) ∧ text = token.toList ++ blanks

variable {accepts : Char → Bool} {x : Char} {s : List Char} {token : String}

theorem stops_nil (accepts : Char → Bool) : Stops accepts [] :=
  fun _ impossible => nomatch impossible

theorem stops_of_head? (next : s.head? = some x) (h : accepts x = false) : Stops accepts s := by
  intro y head
  rw [next] at head
  obtain rfl := Option.some.inj head
  exact h

theorem stops_cons (h : accepts x = false) (s : List Char) : Stops accepts (x :: s) :=
  stops_of_head? rfl h

/-- What no blank is accepted as does not go on with blanks, nor behind them. -/
theorem stops_append {blanks : List Char} (apart : ∀ x, isBlank x = true → accepts x = false)
    (blank : ∀ x ∈ blanks, isBlank x = true) (stop : Stops accepts s) :
    Stops accepts (blanks ++ s) := by
  cases blanks with
  | nil => exact stop
  | cons x blanks => exact stops_cons (apart x (blank x List.mem_cons_self)) _

/-- Behind the longest accepted run comes no accepted character. -/
theorem stops_dropWhile (accepts : Char → Bool) (text : List Char) :
    Stops accepts (text.dropWhile accepts) := by
  have next := List.head?_dropWhile_not accepts text
  intro x first
  rw [Option.mem_def.mp first] at next
  exact next

/-- An accepted text is the longest accepted run if nothing goes on with it. -/
theorem takeWhile_append_of_stops {text : List Char} (accepted : ∀ x ∈ text, accepts x = true)
    (stop : Stops accepts s) : (text ++ s).takeWhile accepts = text := by
  -- The run ends with the text, since what is behind begins with no accepted character.
  have none : s.takeWhile accepts = [] := by
    cases s with
    | nil => rfl
    | cons x xs => exact List.takeWhile_cons_of_neg (Bool.eq_false_iff.mp (stop x rfl))
  rw [List.takeWhile_append_of_pos accepted, none, List.append_nil]

theorem Spelled.head? (h : Spelled token s) (begins : token.toList.head? = some x)
    (rest : List Char) : (s ++ rest).head? = some x := by
  obtain ⟨blanks, _, rfl⟩ := h
  obtain ⟨xs, eq⟩ := List.head?_eq_some_iff.mp begins
  rw [eq]
  rfl

theorem Spelled.length_pos (h : Spelled token s) (begins : token.toList.head? = some x) :
    0 < s.length := by
  refine List.length_pos_iff.mpr ?_
  rintro rfl
  cases h.head? begins []

/-- A token stops whatever would not go on with its first character. -/
theorem Spelled.stops (h : Spelled token s) (begins : token.toList.head? = some x)
    (refused : accepts x = false) (rest : List Char) : Stops accepts (s ++ rest) :=
  stops_of_head? (h.head? begins rest) refused

end Text

namespace Parser

variable {m : Type → Type} [Effect m] {α β γ : Type}

/-- In front of the given rest, the parser reads the text as the value. -/
def Reads (p : Parser m α) (text : List Char) (a : α) (rest : List Char) : Prop :=
  ∀ c : Cursor, c.rest = text ++ rest → p.run c = pure (.success a (c.advance text.length))

/-- Where the text is what is left, the parser fails. -/
def Refuses (p : Parser m α) (text : List Char) : Prop :=
  ∀ c : Cursor, c.rest = text → ∃ e, p.run c = pure (.failure e)

/-- The place behind a text that has been read. -/
theorem rest_after {c : Cursor} {text rest : List Char} (h : c.rest = text ++ rest) :
    (c.advance text.length).rest = rest := by
  rw [Cursor.rest_advance, h, List.drop_left]

theorem advance_append (c : Cursor) (s t : List Char) :
    (c.advance s.length).advance t.length = c.advance (s ++ t).length := by
  rw [Cursor.advance_advance, List.length_append]

/-- A text is left as far as it goes. -/
theorem length_le_remaining {c : Cursor} {text rest : List Char} (h : c.rest = text ++ rest) :
    text.length ≤ c.remaining := by
  rw [← Cursor.length_rest, h, List.length_append]
  exact Nat.le_add_right _ _

theorem position_after {c : Cursor} {text rest : List Char} (h : c.rest = text ++ rest) :
    (c.advance text.length).position = c.position + text.length :=
  Cursor.position_advance_of_le (length_le_remaining h)

/-! ## Looking at the text -/

theorem Reads.scan {look : Cursor → Reply α} {text rest : List Char} {a : α}
    (h : ∀ c, c.rest = text ++ rest → look c = .success a (c.advance text.length)) :
    (Parser.scan look : Parser m α).Reads text a rest :=
  fun c there => congrArg Pure.pure (h c there)

theorem Refuses.scan {look : Cursor → Reply α} {text : List Char}
    (h : ∀ c, c.rest = text → ∃ e, look c = .failure e) :
    (Parser.scan look : Parser m α).Refuses text := by
  intro c there
  obtain ⟨e, answer⟩ := h c there
  exact ⟨e, congrArg Pure.pure answer⟩

theorem Reads.pure (a : α) (rest : List Char) : (Parser.pure a : Parser m α).Reads [] a rest := by
  intro c _
  rw [List.length_nil, Cursor.advance_zero]
  rfl

section Scans

variable {rest text : List Char} {x : Char} {accepts : Char → Bool}

theorem Reads.satisfy (h : accepts x = true) :
    (Parser.satisfy accepts : Parser m Char).Reads [x] x rest := by
  refine .scan fun c there => ?_
  rw [Cursor.peek?_eq_head?, there]
  exact if_pos h

theorem Refuses.satisfy (h : Text.Stops accepts text) :
    (Parser.satisfy accepts : Parser m Char).Refuses text := by
  refine .scan fun c there => ⟨c.failure "satisfy", ?_⟩
  rw [Cursor.peek?_eq_head?, there]
  cases text with
  | nil => rfl
  | cons x xs => exact if_neg (Bool.eq_false_iff.mp (h x rfl))

theorem Reads.skipChar (x : Char) : (Parser.skipChar x : Parser m Unit).Reads [x] () rest := by
  refine .scan fun c there => ?_
  rw [Cursor.peek?_eq_head?, there]
  exact if_pos rfl

theorem Refuses.skipChar (h : text.head? ≠ some x) :
    (Parser.skipChar x : Parser m Unit).Refuses text := by
  refine .scan fun c there => ⟨c.failure "satisfy", ?_⟩
  rw [Cursor.peek?_eq_head?, there]
  exact if_neg h

theorem Reads.literal (s : String) :
    (Parser.literal s : Parser m String).Reads s.toList s rest := by
  refine .scan fun c there => ?_
  have starts : c.startsWith s.toList = true := by
    rw [Cursor.startsWith_iff, there]
    exact List.prefix_append _ _
  rw [String.length_toList]
  exact if_pos starts

theorem Refuses.literal {s : String} (h : ¬ s.toList <+: text) :
    (Parser.literal s : Parser m String).Refuses text := by
  refine .scan fun c there => ⟨c.failure ("string " ++ Text.Quoted.encode s), ?_⟩
  have starts : ¬ c.startsWith s.toList = true := by
    rwa [Cursor.startsWith_iff, there]
  exact if_neg starts

theorem Reads.takeWhile1 (accepted : ∀ x ∈ text, accepts x = true) (nonempty : text ≠ [])
    (stop : Text.Stops accepts rest) :
    (Parser.takeWhile1 accepts : Parser m String).Reads text (String.ofList text) rest := by
  refine .scan fun c there => ?_
  have run : c.rest.takeWhile accepts = text := by
    rw [there]
    exact Text.takeWhile_append_of_stops accepted stop
  -- The run is not empty, so the cursor has moved.
  have moves : ¬ (c.skipWhile accepts).position = c.position := by
    rwa [Cursor.position_skipWhile_eq_iff, run]
  show (if (c.skipWhile accepts).position = c.position then _ else _) = _
  rw [if_neg moves, Cursor.skipWhile_eq_advance, run, Cursor.textUntil_advance, there,
    List.take_left]

theorem Refuses.takeWhile1 (h : Text.Stops accepts text) :
    (Parser.takeWhile1 accepts : Parser m String).Refuses text := by
  refine .scan fun c there => ⟨c.failure "satisfy", ?_⟩
  have none : c.rest.takeWhile accepts = [] := by
    have run : ([] ++ text).takeWhile accepts = [] :=
      Text.takeWhile_append_of_stops (List.forall_mem_nil _) h
    rwa [there]
  exact if_pos ((Cursor.position_skipWhile_eq_iff accepts c).mpr none)

theorem Reads.eof : (Parser.eof : Parser m Unit).Reads [] () [] := by
  refine .scan fun c there => ?_
  have atEnd : c.atEnd = true := Cursor.atEnd_iff.mpr there
  rw [if_pos atEnd, List.length_nil, Cursor.advance_zero]

end Scans

/-! ## Reading piece by piece -/

section Pieces

variable {p : Parser m α} {s t text rest : List Char} {a : α}

/-- In front of the given rest, runs of the parser read the text piece by piece, none of them empty,
as the listed values. -/
inductive ReadsEach (p : Parser m α) : List Char → List α → List Char → Prop where
  | nil (rest : List Char) : ReadsEach p [] [] rest
  | cons {s t rest : List Char} {a : α} {as : List α} (first : p.Reads s a (t ++ rest))
      (nonempty : s ≠ []) (others : ReadsEach p t as rest) : ReadsEach p (s ++ t) (a :: as) rest

namespace ReadsEach

variable {as bs : List α}

theorem append (h : p.ReadsEach s as (t ++ rest)) (h' : p.ReadsEach t bs rest) :
    p.ReadsEach (s ++ t) (as ++ bs) rest := by
  induction as generalizing s with
  | nil => cases h; exact h'
  | cons a as ih =>
    cases h with
    | cons first nonempty others =>
      rw [List.append_assoc]
      rw [← List.append_assoc] at first
      exact .cons first nonempty (ih others)

theorem single (h : p.Reads s a rest) (nonempty : s ≠ []) : p.ReadsEach s [a] rest := by
  have := ReadsEach.cons (t := []) (p := p) (a := a) h nonempty (.nil rest)
  rwa [List.append_nil] at this

/-- No piece is empty. -/
theorem length_le (h : p.ReadsEach text as rest) : as.length ≤ text.length := by
  induction h with
  | nil => exact Nat.le_refl _
  | cons first nonempty others ih =>
    have := List.length_pos_iff.mpr nonempty
    rw [List.length_append, List.length_cons]
    omega

/-- Accepted characters are read one by one. -/
theorem satisfy {accepts : Char → Bool} (h : ∀ x ∈ text, accepts x = true) :
    (Parser.satisfy accepts : Parser m Char).ReadsEach text text rest := by
  induction text with
  | nil => exact .nil rest
  | cons x xs ih =>
    have first : (Parser.satisfy accepts : Parser m Char).Reads [x] x (xs ++ rest) :=
      .satisfy (h x List.mem_cons_self)
    exact .cons first (List.cons_ne_nil x []) (ih fun y hy => h y (List.mem_cons_of_mem x hy))

end ReadsEach

end Pieces

/-! ## Putting texts together -/

variable [LawfulEffect m] {p : Parser m α} {q : Parser m β} {s t text rest : List Char} {a : α}
  {b : β}

/-- What is done to every reply of a parser is done to what it reads. -/
theorem Reads.reply {f : Cursor → Reply α → Reply β} (h : p.Reads text a rest)
    (value : ∀ c next, f c (.success a next) = .success b next) :
    (⟨fun c => f c <$> p.run c⟩ : Parser m β).Reads text b rest := by
  intro c there
  show f c <$> p.run c = _
  rw [h c there, map_pure, value]

theorem Refuses.reply {f : Cursor → Reply α → Reply β} (h : p.Refuses text)
    (failure : ∀ c e, ∃ e', f c (.failure e) = .failure e') :
    (⟨fun c => f c <$> p.run c⟩ : Parser m β).Refuses text := by
  intro c there
  obtain ⟨e, run⟩ := h c there
  obtain ⟨e', eq⟩ := failure c e
  refine ⟨e', ?_⟩
  show f c <$> p.run c = _
  rw [run, map_pure, eq]

theorem Reads.map (f : α → β) (h : p.Reads text a rest) : (p.map f).Reads text (f a) rest :=
  h.reply (f := fun _ => Reply.map f) fun _ _ => rfl

theorem Refuses.map (f : α → β) (h : p.Refuses text) : (p.map f).Refuses text :=
  h.reply (f := fun _ => Reply.map f) fun _ e => ⟨e, rfl⟩

theorem Reads.label (message : String) (h : p.Reads text a rest) :
    (Parser.label message p).Reads text a rest :=
  h.reply (f := fun _ => Reply.relabel message) fun _ _ => rfl

theorem Refuses.label (message : String) (h : p.Refuses text) :
    (Parser.label message p).Refuses text :=
  h.reply (f := fun _ => Reply.relabel message) fun _ _ => ⟨_, rfl⟩

theorem Reads.optional (h : p.Reads text a rest) : p.optional.Reads text (some a) rest :=
  h.reply (f := fun c reply => (reply.map some).recover c none) fun _ _ => rfl

/-- A refused option is read as nothing. -/
theorem Refuses.optional (h : p.Refuses rest) : p.optional.Reads [] none rest := by
  intro c there
  obtain ⟨e, run⟩ := h c there
  show (fun reply => (reply.map some).recover c none) <$> p.run c = _
  rw [run, map_pure, List.length_nil, Cursor.advance_zero]
  rfl

theorem Reads.refine {judge : α → Except String β} (h : p.Reads text a rest)
    (verdict : judge a = .ok b) : (p.refine judge).Reads text b rest :=
  h.reply (f := fun c => Reply.refine c judge) fun c next => by rw [Reply.refine, verdict]

theorem Refuses.refine (judge : α → Except String β) (h : p.Refuses text) :
    (p.refine judge).Refuses text :=
  h.reply (f := fun c => Reply.refine c judge) fun _ e => ⟨e, rfl⟩

/-- Whatever goes on from a reply goes on from a success where the text is read. -/
theorem Reads.run_bind {f : Reply α → m (Reply β)} (h : p.Reads text a rest) {c : Cursor}
    (there : c.rest = text ++ rest) :
    (p.run c >>= f) = f (.success a (c.advance text.length)) := by
  rw [h c there, pure_bind]

/-- Whatever goes on from a reply goes on from a failure where the text is refused. -/
theorem Refuses.run_bind (f : Reply α → m (Reply β)) (h : p.Refuses text) {c : Cursor}
    (there : c.rest = text) : ∃ e, (p.run c >>= f) = f (.failure e) := by
  obtain ⟨e, run⟩ := h c there
  exact ⟨e, by rw [run, pure_bind]⟩

/-- Two texts are read one after the other, the first in front of the second. -/
theorem Reads.bind {next : α → Parser m β} (h : p.Reads s a (t ++ rest))
    (h' : (next a).Reads t b rest) : (p.bind next).Reads (s ++ t) b rest := by
  intro c there
  rw [List.append_assoc] at there
  rw [← advance_append]
  exact (h.run_bind there).trans (h' _ (rest_after there))

theorem Refuses.bind {next : α → Parser m β} (h : p.Refuses text) :
    (p.bind next).Refuses text :=
  fun _ there => h.run_bind _ there

theorem Reads.both (f : α → β → γ) (h : p.Reads s a (t ++ rest)) (h' : q.Reads t b rest) :
    (Parser.both f p q).Reads (s ++ t) (f a b) rest := by
  intro c there
  rw [List.append_assoc] at there
  rw [← advance_append]
  exact (h.run_bind there).trans (h'.map (f a) _ (rest_after there))

theorem Reads.pair (h : p.Reads s a (t ++ rest)) (h' : q.Reads t b rest) :
    (p.pair q).Reads (s ++ t) (a, b) rest :=
  h.both Prod.mk h'

theorem Reads.keepLeft (h : p.Reads s a (t ++ rest)) (h' : q.Reads t b rest) :
    (p.keepLeft q).Reads (s ++ t) a rest :=
  h.both (fun a _ => a) h'

theorem Reads.keepRight (h : p.Reads s a (t ++ rest)) (h' : q.Reads t b rest) :
    (p.keepRight q).Reads (s ++ t) b rest :=
  h.both (fun _ b => b) h'

theorem Reads.between {r : Parser m γ} {u : List Char} {x : γ} (h : p.Reads s a (t ++ (u ++ rest)))
    (h' : q.Reads t b (u ++ rest)) (h'' : r.Reads u x rest) :
    (Parser.between p q r).Reads (s ++ (t ++ u)) b rest := by
  rw [between_eq_keepLeft, ← List.append_assoc]
  exact (h.keepRight h').keepLeft h''

theorem Refuses.both (f : α → β → γ) (h : p.Refuses text) :
    (Parser.both f p q).Refuses text :=
  fun _ there => h.run_bind _ there

/-- What is refused behind a text that was read is refused as a whole. -/
theorem Reads.both_refuses (f : α → β → γ) (h : p.Reads s a t) (h' : q.Refuses t) :
    (Parser.both f p q).Refuses (s ++ t) := by
  intro c there
  obtain ⟨e, run⟩ := h'.map (f a) _ (rest_after there)
  exact ⟨e, (h.run_bind there).trans run⟩

theorem Reads.orElse {q : Parser m α} (h : p.Reads text a rest) :
    (p.orElse q).Reads text a rest :=
  fun _ there => h.run_bind there

/-- What the first of two choices refuses is left to the second. -/
theorem Refuses.orElse {q : Parser m α} (h : p.Refuses (text ++ rest)) (h' : q.Reads text a rest) :
    (p.orElse q).Reads text a rest := by
  intro c there
  obtain ⟨_, run⟩ := h.run_bind _ there
  exact run.trans (h' c there)

theorem Refuses.orElse_refuses {q : Parser m α} (h : p.Refuses text) (h' : q.Refuses text) :
    (p.orElse q).Refuses text := by
  intro c there
  obtain ⟨_, run⟩ := h.run_bind _ there
  obtain ⟨e, run'⟩ := h' c there
  exact ⟨e, run.trans run'⟩

/-! ## Repetitions -/

namespace ReadsEach

variable {as : List α}

/-- A repetition reads piece by piece until what is left is refused. Induction on the pieces. -/
theorem unroll {join : β → α → β} {init : β} (h : p.ReadsEach text as rest) (stop : p.Refuses rest)
    {bound : Nat} (enough : as.length < bound) {c : Cursor} (there : c.rest = text ++ rest) :
    Flow.unroll (Parser.foldStep join p) bound (init, c) =
      pure (some (.success (as.foldl join init) (c.advance text.length))) := by
  induction h generalizing init bound c with
  | nil rest =>
    obtain _ | bound := bound
    · exact absurd enough (Nat.not_lt_zero _)
    -- No piece is left, and the run in front of the rest ends the repetition.
    obtain ⟨e, run⟩ := stop c there
    rw [Flow.unroll, Parser.foldStep, run, map_pure, pure_bind, List.length_nil,
      Cursor.advance_zero]
    rfl
  | cons first nonempty others ih =>
    obtain _ | bound := bound
    · exact absurd enough (Nat.not_lt_zero _)
    rw [List.append_assoc] at there
    rw [Flow.unroll, Parser.foldStep, first c there, map_pure, pure_bind, ← advance_append]
    exact ih stop (Nat.lt_of_succ_lt_succ enough) (rest_after there)

theorem foldMany {join : β → α → β} {init : β} (h : p.ReadsEach text as rest)
    (stop : p.Refuses rest) (spare : Nat) :
    (Parser.foldMany join init p spare).Reads text (as.foldl join init) rest := by
  intro c there
  -- No piece is empty, so there are no more of them than characters.
  have enough : as.length < c.remaining + 1 + spare := by
    have := h.length_le
    have := length_le_remaining there
    omega
  show (fun result : Option (Reply β) => result.getD .unfinished) <$> Effect.iterate _ _ _ = _
  rw [LawfulEffect.iterate_eq, h.unroll stop enough there, map_pure]
  rfl

theorem manyAfter (earlier : List α) (h : p.ReadsEach text as rest) (stop : p.Refuses rest)
    (spare : Nat) :
    (Parser.manyAfter earlier p spare).Reads text (earlier.reverse ++ as) rest := by
  have folded : (Parser.foldMany (fun items a => a :: items) earlier p spare).Reads text
      (as.foldl (fun items a => a :: items) earlier) rest := h.foldMany stop spare
  have reversed := folded.map List.reverse
  rwa [List.foldl_flip_cons_eq_append', List.reverse_append, List.reverse_reverse] at reversed

theorem many (h : p.ReadsEach text as rest) (stop : p.Refuses rest) (spare : Nat) :
    (Parser.many p spare).Reads text as rest :=
  h.manyAfter [] stop spare

theorem many1 (first : p.Reads s a (t ++ rest)) (h : p.ReadsEach t as rest) (stop : p.Refuses rest)
    (spare : Nat) : (Parser.many1 p spare).Reads (s ++ t) (a :: as) rest :=
  first.bind (h.manyAfter [a] stop spare)

end ReadsEach

theorem Refuses.many1 (h : p.Refuses text) (spare : Nat) : (Parser.many1 p spare).Refuses text :=
  h.bind

/-! ## Chains of operands -/

/-- In front of the given rest, the text is read operand by operand, with an operator before each
but the first, as the value combined from the left. -/
inductive ReadsChain (p : Parser m α) (op : Parser m (α → α → α)) :
    List Char → α → List Char → Prop where
  | first {s rest : List Char} {a : α} (operand : p.Reads s a rest) : ReadsChain p op s a rest
  | step {s t u rest : List Char} {a b : α} {f : α → α → α}
      (left : ReadsChain p op s a (t ++ u ++ rest)) (operator : op.Reads t f (u ++ rest))
      (nonempty : t ≠ []) (right : p.Reads u b rest) : ReadsChain p op (s ++ (t ++ u)) (f a b) rest

/-- Behind the first operand, a chain is read in steps of an operator and an operand. -/
theorem ReadsChain.steps {op : Parser m (α → α → α)} (h : ReadsChain p op text a rest) :
    ∃ s t first steps, text = s ++ t ∧ p.Reads s first (t ++ rest) ∧
      (op.pair p).ReadsEach t steps rest ∧
        steps.foldl (fun left step => step.1 left step.2) first = a := by
  induction h with
  | @first s rest a operand => exact ⟨s, [], a, [], by simp, operand, .nil rest, rfl⟩
  | @step _ t u rest _ b f _ operator nonempty right ih =>
    obtain ⟨s, before, first, steps, rfl, operand, each, rfl⟩ := ih
    -- The last operator and operand are one more step behind those of the left side.
    have last : (op.pair p).ReadsEach (t ++ u) [(f, b)] rest :=
      .single (operator.pair right) (by simp [nonempty])
    refine ⟨s, before ++ (t ++ u), first, steps ++ [(f, b)], by simp, ?_, each.append last, by simp⟩
    rwa [List.append_assoc]

/-- A chain is read as its value if no further step can be read. -/
theorem ReadsChain.chainLeft1 {op : Parser m (α → α → α)} (h : ReadsChain p op text a rest)
    (stop : op.Refuses rest) (spare : Nat) : (Parser.chainLeft1 p op spare).Reads text a rest := by
  obtain ⟨s, t, first, steps, rfl, operand, each, rfl⟩ := h.steps
  refine operand.bind ?_
  rw [foldBehind_eq_foldMany]
  exact each.foldMany (stop.both Prod.mk) spare

/-! ## White space and tokens -/

section Blanks

variable {blanks : List Char} (blank : ∀ x ∈ blanks, Text.isBlank x = true)
  (stop : Text.Stops Text.isBlank rest)
include blank stop

theorem Reads.spaces : (Parser.spaces : Parser m Unit).Reads blanks () rest :=
  (((ReadsEach.satisfy blank).many (.satisfy stop) 0).map fun _ => ()).label _

/-- A lexeme reads the blanks behind it. -/
theorem Reads.lexeme (h : p.Reads text a (blanks ++ rest)) :
    p.lexeme.Reads (text ++ blanks) a rest :=
  h.keepLeft (Reads.spaces blank stop)

theorem Reads.token (s : String) :
    (Parser.token s : Parser m Unit).Reads (s.toList ++ blanks) () rest :=
  (((Reads.literal s).map fun _ => ()).lexeme blank stop).label _

end Blanks

theorem Reads.spelled {token : String} (h : Text.Spelled token s)
    (stop : Text.Stops Text.isBlank rest) :
    (Parser.token token : Parser m Unit).Reads s () rest := by
  obtain ⟨blanks, blank, rfl⟩ := h
  exact .token blank stop token

theorem Refuses.token {s : String} (h : ¬ s.toList <+: text) :
    (Parser.token s : Parser m Unit).Refuses text :=
  (((Refuses.literal h).map fun _ => ()).both fun _ _ => ()).label _

/-- A token is refused where its first character does not come next. -/
theorem Refuses.token_of_head? {token : String} {x : Char} (begins : token.toList.head? = some x)
    (h : text.head? ≠ some x) : (Parser.token token : Parser m Unit).Refuses text := by
  refine .token fun present => h ?_
  obtain ⟨xs, eq⟩ := List.head?_eq_some_iff.mp begins
  obtain ⟨t, rfl⟩ := present
  rw [eq]
  rfl

/-! ## Whole parses -/

/-- A text that is read to its end is parsed as its value, whether or not that is required. -/
theorem Reads.parseWith {text : String} (h : p.Reads text.toList a []) (config : Config) :
    p.parseWith config text = (do
      Effect.emit (.opened text.length)
      Effect.emit (.succeeded text.length)
      return .success a (Cursor.ofString text).toEnd) := by
  have there : (Cursor.ofString text).rest = text.toList ++ [] := by simp
  have stop : (Cursor.ofString text).advance text.toList.length = (Cursor.ofString text).toEnd := by
    rw [Cursor.toEnd_eq_advance, ← Cursor.length_rest, Cursor.rest_ofString]
  have judged : config.judge (.success a (Cursor.ofString text).toEnd) =
      .success a (Cursor.ofString text).toEnd := by
    -- Where the end is required, it has been reached.
    have atEnd : (Cursor.ofString text).toEnd.atEnd = true := decide_eq_true (Nat.le_refl _)
    rw [Config.judge]
    split
    · exact if_pos atEnd
    · rfl
  have run := h _ there
  rw [stop] at run
  have position_eq : (Cursor.ofString text).toEnd.position = text.length :=
    Cursor.limit_ofString text
  show (Effect.emit _ >>= fun _ => config.judge <$> p.run _ >>= fun reply => _) = _
  rw [run, map_pure, pure_bind, judged, Cursor.limit_ofString, ← position_eq]
  rfl

end Parser

end Descent
