import Descent.Proofs.Similar

/-!
# Other wrappers

Labels and traces are wrappers: they read what the wrapped parser reads. `Grammar.rewrap` takes them
off a grammar, or puts others in their place, at every depth, in the grammars that values choose as
well, and words failures anew. All else stays.

`Grammar.rewrap_alike` is the fundamental theorem: if an accord of effects cannot tell the old
wrappers from the new ones, it cannot tell the grammars apart.
-/

namespace Descent

namespace Grammar

variable {V : Vocabulary} {α : Type}

/-- What takes the place of each wrapper and of the message of each failure. -/
structure Wrapping (V : Vocabulary) where
  fail : String → String
  label : {β : Type} → String → Grammar V β → Grammar V β
  traced : {β : Type} → String → Grammar V β → Grammar V β

/-- The same grammar in other wrappers. -/
def rewrap (w : Wrapping V) : {α : Type} → Grammar V α → Grammar V α
  | _, terminal t => terminal t
  | _, scan look => scan look
  | _, rule r => rule r
  | _, .perform action => .perform action
  | _, lift a => lift a
  | _, pure a => pure a
  | _, fail message => fail (w.fail message)
  | _, empty => empty
  | _, bind g next => bind (g.rewrap w) fun a => (next a).rewrap w
  | _, map f g => map f (g.rewrap w)
  | _, applyTo function argument => applyTo (function.rewrap w) (argument.rewrap w)
  | _, pair g h => pair (g.rewrap w) (h.rewrap w)
  | _, keepLeft g h => keepLeft (g.rewrap w) (h.rewrap w)
  | _, keepRight g h => keepRight (g.rewrap w) (h.rewrap w)
  | _, between opening g closing => between (opening.rewrap w) (g.rewrap w) (closing.rewrap w)
  | _, discard g => discard (g.rewrap w)
  | _, lexeme g => lexeme (g.rewrap w)
  | _, orElse g h => orElse (g.rewrap w) (h.rewrap w)
  | _, orDefault default g => orDefault default (g.rewrap w)
  | _, optional g => optional (g.rewrap w)
  | _, notAhead g => notAhead (g.rewrap w)
  | _, many g => many (g.rewrap w)
  | _, many1 g => many1 (g.rewrap w)
  | _, count times g => count times (g.rewrap w)
  | _, sepBy item separator => sepBy (item.rewrap w) (separator.rewrap w)
  | _, sepBy1 item separator => sepBy1 (item.rewrap w) (separator.rewrap w)
  | _, chainLeft1 operand operator => chainLeft1 (operand.rewrap w) (operator.rewrap w)
  | _, chainRight1 operand operator => chainRight1 (operand.rewrap w) (operator.rewrap w)
  | _, label message g => w.label message (g.rewrap w)
  | _, withSpan g => withSpan (g.rewrap w)
  | _, traced name g => w.traced name (g.rewrap w)

end Grammar

/-! ## The fundamental theorem -/

variable {V : Vocabulary} {m n : Type → Type} [Effect m] [Effect n]

/-- An accord, between places that correspond, that cannot tell wrappers from those in their place.
-/
structure Grammar.Wrapping.Inert (w : Wrapping V) (A : Accord m n) (v : View) (spare : Nat)
    (perform : (action : V.Action) → Parser n (V.Answer action))
    (call : (r : V.Rule) → Cursor → n (Reply (V.Result r))) : Prop where
  look {β : Type} (look : Cursor → Reply β) {c d : Cursor} :
    v.Place c d → Reply.Agree v Eq (look c) (look d)
  stretch {s t : Span} : v.Stretch s t → s = t
  fail {β : Type} (message : String) :
    (Parser.fail message : Parser m β).Alike A v Eq (Parser.fail (w.fail message))
  label {β : Type} (message : String) {p : Parser m β} {g : Grammar V β} :
    p.Alike A v Eq (g.parser spare perform call) →
      (Parser.label message p).Alike A v Eq ((w.label message g).parser spare perform call)
  traced {β : Type} (name : String) {p : Parser m β} {g : Grammar V β} :
    p.Alike A v Eq (g.parser spare perform call) →
      (Parser.traced name p).Alike A v Eq ((w.traced name g).parser spare perform call)

variable {A : Accord m n} {v : View}

/-- A grammar in other wrappers describes a parser that is alike. Induction on the grammar: wrappers
apart, both parsers are made by one combinator. -/
theorem Grammar.rewrap_alike {w : Wrapping V} {spare : Nat}
    {perform : (action : V.Action) → Parser m (V.Answer action)}
    {perform' : (action : V.Action) → Parser n (V.Answer action)}
    {call : (r : V.Rule) → Cursor → m (Reply (V.Result r))}
    {call' : (r : V.Rule) → Cursor → n (Reply (V.Result r))}
    (inert : w.Inert A v spare perform' call')
    (performs : ∀ action, (perform action).Alike A v Eq (perform' action))
    (calls : ∀ r, (Parser.mk (call r)).Alike A v Eq (Parser.mk (call' r)))
    {α : Type} (g : Grammar V α) :
    (g.parser spare perform call).Alike A v Eq ((g.rewrap w).parser spare perform' call') := by
  induction g with
  | terminal t => exact .terminal t
  | scan look => exact .scan fun _ _ => inert.look look
  | rule r => exact calls r
  | perform action => exact performs action
  | lift a => exact .lift (A.pure rfl)
  | pure a => exact .pure rfl
  | fail message => exact inert.fail message
  | empty => exact .empty
  | bind g next ih ihnext => exact ih.bind fun a _ same => same ▸ ihnext a
  | map f g ih => exact ih.map fun _ _ same => congrArg f same
  | applyTo function argument ihf iha =>
    exact (ihf.mono fun _ _ same _ _ value => congr same value).applyTo iha
  | pair g h ihg ihh => exact (ihg.pair ihh).mono fun _ _ => Both.eq
  | keepLeft g h ihg ihh => exact ihg.keepLeft ihh
  | keepRight g h ihg ihh => exact ihg.keepRight ihh
  | between opening g closing iho ihg ihc => exact .between iho ihg ihc
  | discard g ih => exact ih.discard
  | lexeme g ih => exact ih.lexeme
  | orElse g h ihg ihh => exact ihg.orElse ihh
  | orDefault default g ih => exact .orDefault rfl ih
  | optional g ih => exact ih.optional.mono fun _ _ => eq_of_rel_eq
  | notAhead g ih => exact ih.notAhead
  | many g ih => exact (ih.many spare).mono fun _ _ => eq_of_forall₂_eq
  | many1 g ih => exact (ih.many1 spare).mono fun _ _ => eq_of_forall₂_eq
  | count times g ih => exact (Parser.Alike.count times ih).mono fun _ _ => eq_of_forall₂_eq
  | sepBy item separator ih ih' => exact (ih.sepBy ih' spare).mono fun _ _ => eq_of_forall₂_eq
  | sepBy1 item separator ih ih' => exact (ih.sepBy1 ih' spare).mono fun _ _ => eq_of_forall₂_eq
  | chainLeft1 operand operator ih ih' =>
    exact ih.chainLeft1 (ih'.mono fun _ _ => Operators.of_eq) spare
  | chainRight1 operand operator ih ih' =>
    exact ih.chainRight1 (ih'.mono fun _ _ => Operators.of_eq) spare
  | label message g ih => exact inert.label message ih
  | withSpan g ih =>
    exact ih.withSpan.mono fun _ _ both => Prod.ext both.1 (inert.stretch both.2)
  | traced name g ih => exact inert.traced name ih

/-- Rules in other wrappers. -/
def Bodies.rewrap (w : Grammar.Wrapping V) (bodies : Bodies V) : Bodies V :=
  fun r => (bodies r).rewrap w

/-- Grammars in other wrappers, over rules in the same wrappers, describe parsers that are alike.
Induction on the depth of open calls. -/
theorem Bodies.rewrap_alike {w : Grammar.Wrapping V} {spare : Nat}
    {perform : (action : V.Action) → Parser m (V.Answer action)}
    {perform' : (action : V.Action) → Parser n (V.Answer action)}
    (inert : ∀ call, w.Inert A v spare perform' call)
    (performs : ∀ action, (perform action).Alike A v Eq (perform' action)) (bodies : Bodies V)
    (depth : Nat) {α : Type} (g : Grammar V α) :
    (bodies.parserAt spare perform depth g).Alike A v Eq
      ((bodies.rewrap w).parserAt spare perform' depth (g.rewrap w)) := by
  -- What is open at one depth calls what may be open at the depth below.
  have calls : ∀ r, (Parser.mk (bodies.call spare perform depth r)).Alike A v Eq
      (Parser.mk ((bodies.rewrap w).call spare perform' depth r)) := by
    induction depth with
    -- Calls that are not allowed any more are unfinished in all wrappers.
    | zero => exact fun _ _ _ _ => A.pure .unfinished
    | succ depth ih => exact fun r _ _ place => (bodies r).rewrap_alike (inert _) performs ih place
  exact g.rewrap_alike (inert _) performs calls

end Descent
