import Descent.Grammar.Terminal
import Descent.Parser.Chain
import Descent.Parser.Choice
import Descent.Parser.Separated
import Descent.Proofs.Comparison
import Descent.Proofs.View

/-!
# Agreeing parsers

Two parsers agree when, from places that correspond, their runs agree with replies that agree. What
a combinator makes of agreeing parsers agrees again, whatever the view of the texts and the
comparison of the effects are: no combinator looks at more of a text than what is left of it, treats
a place as anything but a place, or does more with an effect than the operations of effects do.

Only traced parsers report anything. All lemmas but the one on these therefore need no more than an
`Accord` of the two effects (`Parser.Alike`), which leaves reports out.

The lemmas go through the library module by module. Each opens the reply of the part that runs first
and has one case for each kind of reply.
-/

namespace Descent.Parser

variable {m n : Type → Type} [Effect m] [Effect n] {v : View} {α β γ δ ε ζ : Type}

/-- The two parsers agree, and so do the values that they read. -/
def Agree (C : Comparison m n v.Seen) (R : α → β → Prop) (p : Parser m α) (q : Parser n β) : Prop :=
  ∀ ⦃c d⦄, v.Place c d → C.Agree (Reply.Agree v R) (p.run c) (q.run d)

/-- The two parsers agree apart from what they report, and so do the values that they read. -/
def Alike (A : Accord m n) (v : View) (R : α → β → Prop) (p : Parser m α) (q : Parser n β) : Prop :=
  ∀ ⦃c d⦄, v.Place c d → A.Agree (Reply.Agree v R) (p.run c) (q.run d)

namespace Alike

variable {A : Accord m n} {R : α → β → Prop} {S : γ → δ → Prop} {T : ε → ζ → Prop}
  {p : Parser m α} {q : Parser n β} {p' : Parser m γ} {q' : Parser n δ}

theorem mono {R' : α → β → Prop} (h : p.Alike A v R q) (weaker : ∀ a b, R a b → R' a b) :
    p.Alike A v R' q :=
  fun _ _ place => A.mono (h place) fun _ _ reply => reply.mono weaker

/-! ## Looking, failing, lifting and chaining -/

theorem scan {look : Cursor → Reply α} {look' : Cursor → Reply β}
    (h : ∀ c d, v.Place c d → Reply.Agree v R (look c) (look' d)) :
    (Parser.scan look).Alike A v R (Parser.scan look') :=
  fun c d place => A.pure (h c d place)

theorem pure {a : α} {b : β} (h : R a b) : (Parser.pure a).Alike A v R (Parser.pure b) :=
  fun _ _ place => A.pure (.success h place)

theorem fail (message : String) : (Parser.fail message).Alike A v R (Parser.fail message) :=
  fun _ _ place => A.pure (.failure (v.failure place message))

theorem lift {x : m α} {y : n β} (h : A.Agree R x y) :
    (Parser.lift x).Alike A v R (Parser.lift y) :=
  fun _ _ place => A.map h fun _ _ value => .success value place

theorem bind {f : α → Parser m γ} {g : β → Parser n δ} (h : p.Alike A v R q)
    (next : ∀ a b, R a b → (f a).Alike A v S (g b)) : (p.bind f).Alike A v S (q.bind g) := by
  intro c d place
  refine A.bind (h place) fun r s reply => ?_
  -- Only a success is followed by the second parser, on either side.
  cases reply with
  | success value rest => exact next _ _ value rest
  | failure reason => exact A.pure (.failure reason)
  | unfinished => exact A.pure .unfinished

theorem map {f : α → γ} {g : β → δ} (h : p.Alike A v R q) (values : ∀ a b, R a b → S (f a) (g b)) :
    (p.map f).Alike A v S (q.map g) :=
  fun _ _ place => A.map (h place) fun _ _ reply => reply.map values

/-! ## One parser after another -/

theorem both {f : α → γ → ε} {g : β → δ → ζ} (h : p.Alike A v R q) (h' : p'.Alike A v S q')
    (values : ∀ a b, R a b → ∀ a' b', S a' b' → T (f a a') (g b b')) :
    (Parser.both f p p').Alike A v T (Parser.both g q q') := by
  intro c d place
  refine A.bind (h place) fun r s reply => ?_
  cases reply with
  | success value rest => exact A.map (h' rest) fun _ _ reply' => reply'.map (values _ _ value)
  | failure reason => exact A.pure (.failure reason)
  | unfinished => exact A.pure .unfinished

theorem pair (h : p.Alike A v R q) (h' : p'.Alike A v S q') :
    (p.pair p').Alike A v (Both R S) (q.pair q') :=
  both h h' fun _ _ value _ _ value' => ⟨value, value'⟩

theorem keepLeft (h : p.Alike A v R q) (h' : p'.Alike A v S q') :
    (p.keepLeft p').Alike A v R (q.keepLeft q') :=
  both h h' fun _ _ value _ _ _ => value

theorem keepRight (h : p.Alike A v R q) (h' : p'.Alike A v S q') :
    (p.keepRight p').Alike A v S (q.keepRight q') :=
  both h h' fun _ _ _ _ _ value' => value'

theorem applyTo {f : Parser m (α → γ)} {g : Parser n (β → δ)}
    (function : f.Alike A v (fun f g => ∀ a b, R a b → S (f a) (g b)) g)
    (argument : p.Alike A v R q) : (Parser.applyTo f p).Alike A v S (Parser.applyTo g q) :=
  both argument function fun _ _ value _ _ values => values _ _ value

theorem between {opening : Parser m ε} {opening' : Parser n ζ} (ho : opening.Alike A v T opening')
    (h : p.Alike A v R q) (hc : p'.Alike A v S q') :
    (Parser.between opening p p').Alike A v R (Parser.between opening' q q') := by
  intro c d place
  refine A.bind (ho place) fun r s reply => ?_
  cases reply with
  | success _ inside =>
    refine A.bind (h inside) fun r s reply => ?_
    -- The closing may not change the value that has been read, on either side.
    cases reply with
    | success value rest => exact A.map (hc rest) fun _ _ reply' => reply'.map fun _ _ _ => value
    | failure reason => exact A.pure (.failure reason)
    | unfinished => exact A.pure .unfinished
  | failure reason => exact A.pure (.failure reason)
  | unfinished => exact A.pure .unfinished

theorem discard (h : p.Alike A v R q) : p.discard.Alike A v Eq q.discard :=
  h.map fun _ _ _ => rfl

theorem refine {judge : α → Except String γ} {judge' : β → Except String γ} (h : p.Alike A v R q)
    (judges : ∀ a b, R a b → judge a = judge' b) :
    (p.refine judge).Alike A v Eq (q.refine judge') :=
  fun _ _ place => A.map (h place) fun _ _ reply => reply.refine place judges

/-! ## Choosing between parsers -/

theorem orElse {p' : Parser m α} {q' : Parser n β} (h : p.Alike A v R q) (h' : p'.Alike A v R q') :
    (p.orElse p').Alike A v R (q.orElse q') := by
  intro c d place
  refine A.bind (h place) fun r s reply => ?_
  -- After a failure the second parser starts where the first one did, not where it failed.
  cases reply with
  | success value rest => exact A.pure (.success value rest)
  | failure _ => exact h' place
  | unfinished => exact A.pure .unfinished

theorem empty : (Parser.empty : Parser m α).Alike A v R (Parser.empty : Parser n β) := fail _

theorem orDefault {a : α} {b : β} (default : R a b) (h : p.Alike A v R q) :
    (p.orDefault a).Alike A v R (q.orDefault b) :=
  fun _ _ place => A.map (h place) fun _ _ reply => reply.recover place default

theorem optional (h : p.Alike A v R q) : p.optional.Alike A v (Option.Rel R) q.optional :=
  fun _ _ place => A.map (h place) fun _ _ reply =>
    (reply.map fun _ _ value => Option.Rel.some value).recover place Option.Rel.none

theorem notAhead (h : p.Alike A v R q) : p.notAhead.Alike A v Eq q.notAhead :=
  fun _ _ place => A.map (h place) fun _ _ reply => reply.refuse place _

/-! ## Repeating

The two loops go from place to corresponding place, with values joined so far that agree, and stop
at the same step. They have the same number of steps to take because the same text is left. -/

theorem foldStep {f : γ → α → γ} {g : δ → β → δ} (h : p.Alike A v R q)
    (joins : ∀ a b, S a b → ∀ a' b', R a' b' → S (f a a') (g b b')) {s : γ × Cursor}
    {t : δ × Cursor} (state : Both S v.Place s t) :
    A.Agree (Flow.Agree (Both S v.Place) (Reply.Agree v S)) (Parser.foldStep f p s)
      (Parser.foldStep g q t) := by
  refine A.map (h state.2) fun r s reply => ?_
  -- A failed run ends the loop at the place from which it was started.
  cases reply with
  | success value next => exact .again ⟨joins _ _ state.1 _ _ value, next⟩
  | failure _ => exact .done (.success state.1 state.2)
  | unfinished => exact .done .unfinished

/-- Loops whose steps agree, from places that correspond. -/
theorem loop {f : γ × Cursor → m (Flow (γ × Cursor) (Reply γ))}
    {g : δ × Cursor → n (Flow (δ × Cursor) (Reply δ))}
    (step : ∀ s t, Both S v.Place s t →
      A.Agree (Flow.Agree (Both S v.Place) (Reply.Agree v S)) (f s) (g t))
    {a : γ} {b : δ} (init : S a b) {c d : Cursor} (place : v.Place c d) (spare : Nat) :
    A.Agree (Reply.Agree v S)
      ((·.getD .unfinished) <$> Effect.iterate f (c.remaining + 1 + spare) (a, c))
      ((·.getD .unfinished) <$> Effect.iterate g (d.remaining + 1 + spare) (b, d)) := by
  -- The same text is left, so both loops may take as many steps.
  rw [View.remaining_eq place]
  have loops := A.iterate step (d.remaining + 1 + spare)
    (show Both S v.Place (a, c) (b, d) from ⟨init, place⟩)
  refine A.map loops fun r s ended => ?_
  cases ended with
  | some reply => exact reply
  | none => exact .unfinished

theorem foldMany {f : γ → α → γ} {g : δ → β → δ} {a : γ} {b : δ} (h : p.Alike A v R q)
    (joins : ∀ a b, S a b → ∀ a' b', R a' b' → S (f a a') (g b b')) (init : S a b) (spare : Nat) :
    (Parser.foldMany f a p spare).Alike A v S (Parser.foldMany g b q spare) :=
  fun _ _ place => loop (fun _ _ state => h.foldStep joins state) init place spare

theorem manyAfter {as : List α} {bs : List β} (earlier : List.Forall₂ R as bs)
    (h : p.Alike A v R q) (spare : Nat) :
    (Parser.manyAfter as p spare).Alike A v (List.Forall₂ R) (Parser.manyAfter bs q spare) :=
  (foldMany h (fun _ _ items _ _ value => .cons value items) earlier spare).map
    fun _ _ items => List.rel_reverse items

theorem many (h : p.Alike A v R q) (spare : Nat) :
    (p.many spare).Alike A v (List.Forall₂ R) (q.many spare) :=
  manyAfter .nil h spare

theorem many1 (h : p.Alike A v R q) (spare : Nat) :
    (p.many1 spare).Alike A v (List.Forall₂ R) (q.many1 spare) :=
  h.bind fun _ _ value => manyAfter (.cons value .nil) h spare

/-- What two counted repetitions have in common: as many runs to go, values that agree, and places
that correspond. -/
def CountState (v : View) (R : α → β → Prop) (s : Nat × List α × Cursor)
    (t : Nat × List β × Cursor) : Prop :=
  s.1 = t.1 ∧ Both (List.Forall₂ R) v.Place s.2 t.2

theorem countStep (h : p.Alike A v R q) {s : Nat × List α × Cursor} {t : Nat × List β × Cursor}
    (state : CountState v R s t) :
    A.Agree (Flow.Agree (CountState v R) (Reply.Agree v (List.Forall₂ R))) (Parser.countStep p s)
      (Parser.countStep q t) := by
  obtain ⟨left, items, c⟩ := s
  obtain ⟨left', items', d⟩ := t
  obtain ⟨rfl, hitems, place⟩ := state
  cases left with
  | zero => exact A.pure (.done (.success (List.rel_reverse hitems) place))
  | succ left =>
    refine A.map (h place) fun r s reply => ?_
    cases reply with
    | success value next => exact .again ⟨rfl, .cons value hitems, next⟩
    | failure reason => exact .done (.failure reason)
    | unfinished => exact .done .unfinished

theorem count (times : Nat) (h : p.Alike A v R q) :
    (p.count times).Alike A v (List.Forall₂ R) (q.count times) := by
  intro c d place
  have loops := A.iterate (fun s t state => h.countStep state) (times + 1)
    (show CountState v R (times, [], c) (times, [], d) from ⟨rfl, .nil, place⟩)
  refine A.map loops fun r s ended => ?_
  cases ended with
  | some reply => exact reply
  | none => exact .unfinished

/-! ## Separated lists -/

/-- Either both loops go on behind an item, or both end in front of the separator. -/
theorem behindStep {f : ε → γ → α → ε} {g : ζ → δ → β → ζ} (separator : p'.Alike A v S q')
    (item : p.Alike A v R q)
    (joins : ∀ a b, T a b → ∀ a' b', S a' b' → ∀ a'' b'', R a'' b'' → T (f a a' a'') (g b b' b''))
    {s : ε × Cursor} {t : ζ × Cursor} (state : Both T v.Place s t) :
    A.Agree (Flow.Agree (Both T v.Place) (Reply.Agree v T)) (Parser.behindStep f p' p s)
      (Parser.behindStep g q' q t) := by
  refine A.bind (separator state.2) fun r s reply => ?_
  cases reply with
  | success value behind =>
    refine A.map (item behind) fun r s reply => ?_
    cases reply with
    | success value' next => exact .again ⟨joins _ _ state.1 _ _ value _ _ value', next⟩
    | failure _ => exact .done (.success state.1 state.2)
    | unfinished => exact .done .unfinished
  | failure _ => exact A.pure (.done (.success state.1 state.2))
  | unfinished => exact A.pure (.done .unfinished)

theorem foldBehind {f : ε → γ → α → ε} {g : ζ → δ → β → ζ} {a : ε} {b : ζ}
    (separator : p'.Alike A v S q') (item : p.Alike A v R q)
    (joins : ∀ a b, T a b → ∀ a' b', S a' b' → ∀ a'' b'', R a'' b'' → T (f a a' a'') (g b b' b''))
    (init : T a b) (spare : Nat) :
    (Parser.foldBehind f a p' p spare).Alike A v T (Parser.foldBehind g b q' q spare) :=
  fun _ _ place => loop (fun _ _ state => separator.behindStep item joins state) init place spare

theorem itemsAfter {a : α} {b : β} (first : R a b) (item : p.Alike A v R q)
    (separator : p'.Alike A v S q') (spare : Nat) :
    (Parser.itemsAfter a p p' spare).Alike A v (List.Forall₂ R) (Parser.itemsAfter b q q' spare) :=
  (foldBehind separator item (fun _ _ items _ _ _ _ _ value => .cons value items)
    (.cons first .nil) spare).map fun _ _ items => List.rel_reverse items

theorem sepBy1 (item : p.Alike A v R q) (separator : p'.Alike A v S q') (spare : Nat) :
    (p.sepBy1 p' spare).Alike A v (List.Forall₂ R) (q.sepBy1 q' spare) :=
  item.bind fun _ _ first => itemsAfter first item separator spare

theorem sepBy (item : p.Alike A v R q) (separator : p'.Alike A v S q') (spare : Nat) :
    (p.sepBy p' spare).Alike A v (List.Forall₂ R) (q.sepBy q' spare) := by
  intro c d place
  refine A.bind (item place) fun r s reply => ?_
  cases reply with
  | success first rest => exact itemsAfter first item separator spare rest
  | failure _ => exact A.pure (.success .nil place)
  | unfinished => exact A.pure .unfinished

/-! ## Chains of operands -/

theorem chainLeft1 {op : Parser m (α → α → α)} {op' : Parser n (β → β → β)}
    (operand : p.Alike A v R q)
    (operator : op.Alike A v (Operators R) op') (spare : Nat) :
    (p.chainLeft1 op spare).Alike A v R (q.chainLeft1 op' spare) :=
  operand.bind fun _ _ first =>
    foldBehind (T := R) operator operand (fun _ _ left _ _ combine _ _ right => combine left right)
      first spare

/-- Combining from the right respects agreement. Induction on the steps still to be placed. -/
theorem combineRight {a : α} {b : β} (first : R a b) {f : α → α → α} {g : β → β → β}
    (operator : Operators R f g) {x : α} {y : β} (value : R x y) {steps : List ((α → α → α) × α)}
    {steps' : List ((β → β → β) × β)} (h : List.Forall₂ (Both (Operators R) R) steps steps') :
    R (Parser.combineRight a f x steps) (Parser.combineRight b g y steps') := by
  induction h generalizing f g x y with
  | nil => exact operator first value
  | cons step _ ih => exact ih step.1 (operator step.2 value)

theorem foldRight {a : α} {b : β} (first : R a b) {steps : List ((α → α → α) × α)}
    {steps' : List ((β → β → β) × β)} (h : List.Forall₂ (Both (Operators R) R) steps steps') :
    R (Parser.foldRight a steps) (Parser.foldRight b steps') := by
  cases h with
  | nil => exact first
  | cons step rest => exact combineRight first step.1 step.2 rest

theorem chainRight1 {op : Parser m (α → α → α)} {op' : Parser n (β → β → β)}
    (operand : p.Alike A v R q) (operator : op.Alike A v (Operators R) op') (spare : Nat) :
    (p.chainRight1 op spare).Alike A v R (q.chainRight1 op' spare) :=
  operand.bind fun _ _ first =>
    (foldBehind operator operand
      (fun _ _ steps _ _ combine _ _ right => .cons ⟨combine, right⟩ steps) .nil spare).map
        fun _ _ steps => foldRight first steps

/-! ## Saying more about a parser -/

theorem label (message : String) (h : p.Alike A v R q) :
    (Parser.label message p).Alike A v R (Parser.label message q) :=
  fun _ _ place => A.map (h place) fun _ _ reply => reply.relabel message

theorem withSpan (h : p.Alike A v R q) : p.withSpan.Alike A v (Both R v.Stretch) q.withSpan :=
  fun _ _ place => A.map (h place) fun _ _ reply => reply.withSpan place

theorem traced
    (reports : ∀ {e f}, v.Seen e f → A.Agree (fun _ _ => True) (Effect.emit e) (Effect.emit f))
    (name : String) (h : p.Alike A v R q) :
    (Parser.traced name p).Alike A v R (Parser.traced name q) := by
  intro c d place
  refine A.bind (reports (v.entered place name)) fun _ _ _ => ?_
  refine A.bind (h place) fun r s reply => ?_
  cases reply with
  | success value next =>
    exact A.bind (reports (v.matched place next name)) fun _ _ _ => A.pure (.success value next)
  | failure reason =>
    exact A.bind (reports (v.failed reason name)) fun _ _ _ => A.pure (.failure reason)
  | unfinished => exact A.pure .unfinished

/-! ## Terminals

A terminal looks at the text left and moves by a number of characters that depends on nothing
else. -/

theorem satisfy (accepts : Char → Bool) :
    (Parser.satisfy accepts).Alike A v Eq (Parser.satisfy accepts) := by
  refine scan fun c d place => ?_
  rw [View.peek?_eq place]
  cases d.peek? with
  | none => exact .failure (v.failure place _)
  | some next =>
    dsimp only
    split
    · exact .success rfl (v.advance place 1)
    · exact .failure (v.failure place _)

theorem skipChar (expected : Char) :
    (Parser.skipChar expected).Alike A v Eq (Parser.skipChar expected) := by
  refine scan fun c d place => ?_
  rw [View.peek?_eq place]
  split
  · exact .success rfl (v.advance place 1)
  · exact .failure (v.failure place _)

theorem peek : (Parser.peek : Parser m Char).Alike A v Eq (Parser.peek : Parser n Char) := by
  refine scan fun c d place => ?_
  rw [View.peek?_eq place]
  cases d.peek? with
  | none => exact .failure (v.failure place _)
  | some next => exact .success rfl place

theorem eof : (Parser.eof : Parser m Unit).Alike A v Eq (Parser.eof : Parser n Unit) := by
  refine scan fun c d place => ?_
  rw [View.atEnd_eq place]
  split
  · exact .success rfl place
  · exact .failure (v.failure place _)

theorem digit : (Parser.digit : Parser m Nat).Alike A v Eq (Parser.digit : Parser n Nat) := by
  refine scan fun c d place => ?_
  rw [View.peek?_eq place]
  cases d.peek?.bind Text.digitValue? with
  | none => exact .failure (v.failure place _)
  | some value => exact .success rfl (v.advance place 1)

theorem literal (text : String) : (Parser.literal text).Alike A v Eq (Parser.literal text) := by
  refine scan fun c d place => ?_
  rw [View.startsWith_eq place]
  split
  · exact .success rfl (v.advance place _)
  · exact .failure (v.failure place _)

theorem takeWhile (accepts : Char → Bool) :
    (Parser.takeWhile accepts).Alike A v Eq (Parser.takeWhile accepts) := by
  refine scan fun c d place => ?_
  rw [Cursor.skipWhile_eq_advance, Cursor.skipWhile_eq_advance, Cursor.textUntil_advance,
    Cursor.textUntil_advance, v.rest_eq place]
  exact .success rfl (v.advance place _)

theorem takeWhile1 (accepts : Char → Bool) :
    (Parser.takeWhile1 accepts).Alike A v Eq (Parser.takeWhile1 accepts) := by
  refine scan fun c d place => ?_
  -- Whether the run is empty is a matter of the text left, not of the two positions compared.
  simp only [Cursor.position_skipWhile_eq_iff]
  rw [Cursor.skipWhile_eq_advance, Cursor.skipWhile_eq_advance, Cursor.textUntil_advance,
    Cursor.textUntil_advance, v.rest_eq place]
  split
  · exact .failure (v.failure place _)
  · exact .success rfl (v.advance place _)

theorem takeUntil (stop : String) :
    (Parser.takeUntil stop).Alike A v Eq (Parser.takeUntil stop) := by
  refine scan fun c d place => ?_
  -- The stop stands nowhere, and both fail at the end, or it stands equally far away.
  obtain ⟨hc, hd⟩ | ⟨k, hc, hd⟩ := Cursor.find?_congr (v.rest_eq place) stop.toList
  · rw [hc, hd, Cursor.toEnd_eq_advance, Cursor.toEnd_eq_advance, View.remaining_eq place]
    exact .failure (v.failure (v.advance place _) _)
  · rw [hc, hd]
    dsimp only
    rw [Cursor.textUntil_advance, Cursor.textUntil_advance, v.rest_eq place]
    exact .success rfl (v.advance (v.advance place _) _)

theorem space : (Parser.space : Parser m Char).Alike A v Eq (Parser.space : Parser n Char) :=
  satisfy _

theorem spaces : (Parser.spaces : Parser m Unit).Alike A v Eq (Parser.spaces : Parser n Unit) :=
  label _ (discard (many space 0))

theorem spaces1 : (Parser.spaces1 : Parser m Unit).Alike A v Eq (Parser.spaces1 : Parser n Unit) :=
  label _ (discard (many1 space 0))

theorem lexeme (h : p.Alike A v R q) : p.lexeme.Alike A v R q.lexeme := keepLeft h spaces

theorem token (text : String) : (Parser.token text).Alike A v Eq (Parser.token text) :=
  label _ (lexeme (discard (literal text)))

theorem natural :
    (Parser.natural : Parser m UInt64).Alike A v Eq (Parser.natural : Parser n UInt64) :=
  refine (many1 digit 0) fun _ _ digits => by rw [List.forall₂_eq_eq_eq] at digits; rw [digits]

theorem integer :
    (Parser.integer : Parser m Int64).Alike A v Eq (Parser.integer : Parser n Int64) := by
  refine refine ((optional (skipChar '-')).pair (many1 digit 0)) ?_
  rintro ⟨sign, digits⟩ ⟨sign', digits'⟩ ⟨hsign, hdigits⟩
  -- The digits are the same, and so is the number, whatever stands for the sign.
  rw [List.forall₂_eq_eq_eq] at hdigits
  cases hsign with
  | some h => rw [show digits = digits' from hdigits]
  | none => rw [show digits = digits' from hdigits]

theorem terminal (t : Terminal α) :
    (t.parser : Parser m α).Alike A v Eq (t.parser : Parser n α) := by
  cases t with
  | satisfy accepts => exact satisfy accepts
  | skipChar expected => exact skipChar expected
  | anyChar => exact satisfy _
  | letter => exact label _ (satisfy _)
  | alphanumeric => exact label _ (satisfy _)
  | space => exact space
  | peek => exact peek
  | eof => exact eof
  | spaces => exact spaces
  | spaces1 => exact spaces1
  | literal text => exact literal text
  | token text => exact token text
  | takeWhile accepts => exact takeWhile accepts
  | takeWhile1 accepts => exact takeWhile1 accepts
  | takeUntil stop => exact takeUntil stop
  | digit => exact digit
  | natural => exact natural
  | integer => exact integer

end Alike

theorem Agree.lift {C : Comparison m n v.Seen} {R : α → β → Prop} {x : m α} {y : n β}
    (h : C.Agree R x y) : (Parser.lift x).Agree C R (Parser.lift y) :=
  Alike.lift (A := C.accord) h

end Descent.Parser
