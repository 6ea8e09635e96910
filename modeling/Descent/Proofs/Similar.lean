import Descent.Grammar
import Descent.Proofs.Agreement
import Descent.Sample.Nesting

/-!
# Similar grammars

Two grammars are similar under a view when they are built in the same way from functions that take
values that agree to values that agree, and from looks at the text whose replies agree. A grammar
that is similar to itself under a view cannot tell corresponding texts apart.

`Similar.agree` is the fundamental theorem: similar grammars describe agreeing parsers, in any two
effects that can be compared. `Bodies.agree` carries it through rules that refer to one another, for
any depth of open calls. Everything that is said of all grammars by comparing two runs follows from
these two.
-/

namespace Descent

/-- When the values of each rule, and the answers to each action, agree. -/
structure Vocabulary.Likeness (V : Vocabulary) where
  Result : (r : V.Rule) → V.Result r → V.Result r → Prop
  Answer : (action : V.Action) → V.Answer action → V.Answer action → Prop

/-- Values and answers agree with themselves only. -/
def Vocabulary.equality (V : Vocabulary) : V.Likeness := ⟨fun _ => Eq, fun _ => Eq⟩

namespace Grammar

variable {V : Vocabulary}

/-- The two grammars are built alike, and the values that they read agree by the given relation. -/
inductive Similar (v : View) (k : V.Likeness) :
    {α : Type} → (α → α → Prop) → Grammar V α → Grammar V α → Prop where
  | weaken {α : Type} {R S : α → α → Prop} {g h : Grammar V α} (similar : Similar v k R g h)
      (weaker : ∀ a b, R a b → S a b) : Similar v k S g h
  | terminal {α : Type} (t : Terminal α) : Similar v k Eq (terminal t) (terminal t)
  | scan {α : Type} {R : α → α → Prop} {look look' : Cursor → Reply α}
      (looks : ∀ c d, v.Place c d → Reply.Agree v R (look c) (look' d)) :
      Similar v k R (scan look) (scan look')
  | rule (r : V.Rule) : Similar v k (k.Result r) (rule r) (rule r)
  | perform (action : V.Action) : Similar v k (k.Answer action) (perform action) (perform action)
  | lift {α : Type} {R : α → α → Prop} {a b : α} (value : R a b) : Similar v k R (lift a) (lift b)
  | pure {α : Type} {R : α → α → Prop} {a b : α} (value : R a b) : Similar v k R (pure a) (pure b)
  | fail {α : Type} {R : α → α → Prop} (message : String) :
      Similar v k R (fail message) (fail message)
  | empty {α : Type} {R : α → α → Prop} : Similar v k R empty empty
  | bind {α β : Type} {R : α → α → Prop} {S : β → β → Prop} {g h : Grammar V α}
      {next next' : α → Grammar V β} (similar : Similar v k R g h)
      (nexts : ∀ a b, R a b → Similar v k S (next a) (next' b)) :
      Similar v k S (bind g next) (bind h next')
  | map {α β : Type} {R : α → α → Prop} {S : β → β → Prop} {g h : Grammar V α} {f f' : α → β}
      (values : ∀ a b, R a b → S (f a) (f' b)) (similar : Similar v k R g h) :
      Similar v k S (map f g) (map f' h)
  | applyTo {α β : Type} {R : α → α → Prop} {S : β → β → Prop} {g h : Grammar V (α → β)}
      {g' h' : Grammar V α} (function : Similar v k (fun f f' => ∀ a b, R a b → S (f a) (f' b)) g h)
      (argument : Similar v k R g' h') : Similar v k S (applyTo g g') (applyTo h h')
  | pair {α β : Type} {R : α → α → Prop} {S : β → β → Prop} {g h : Grammar V α}
      {g' h' : Grammar V β} (first : Similar v k R g h) (second : Similar v k S g' h') :
      Similar v k (Both R S) (pair g g') (pair h h')
  | keepLeft {α β : Type} {R : α → α → Prop} {S : β → β → Prop} {g h : Grammar V α}
      {g' h' : Grammar V β} (first : Similar v k R g h) (second : Similar v k S g' h') :
      Similar v k R (keepLeft g g') (keepLeft h h')
  | keepRight {α β : Type} {R : α → α → Prop} {S : β → β → Prop} {g h : Grammar V α}
      {g' h' : Grammar V β} (first : Similar v k R g h) (second : Similar v k S g' h') :
      Similar v k S (keepRight g g') (keepRight h h')
  | between {α β γ : Type} {Q : α → α → Prop} {R : β → β → Prop} {S : γ → γ → Prop}
      {g h : Grammar V α} {g' h' : Grammar V β} {g'' h'' : Grammar V γ}
      (opening : Similar v k Q g h) (similar : Similar v k R g' h')
      (closing : Similar v k S g'' h'') :
      Similar v k R (between g g' g'') (between h h' h'')
  | discard {α : Type} {R : α → α → Prop} {g h : Grammar V α} (similar : Similar v k R g h) :
      Similar v k Eq (discard g) (discard h)
  | lexeme {α : Type} {R : α → α → Prop} {g h : Grammar V α} (similar : Similar v k R g h) :
      Similar v k R (lexeme g) (lexeme h)
  | orElse {α : Type} {R : α → α → Prop} {g h g' h' : Grammar V α} (first : Similar v k R g h)
      (second : Similar v k R g' h') : Similar v k R (orElse g g') (orElse h h')
  | orDefault {α : Type} {R : α → α → Prop} {a b : α} {g h : Grammar V α} (default : R a b)
      (similar : Similar v k R g h) : Similar v k R (orDefault a g) (orDefault b h)
  | optional {α : Type} {R : α → α → Prop} {g h : Grammar V α} (similar : Similar v k R g h) :
      Similar v k (Option.Rel R) (optional g) (optional h)
  | notAhead {α : Type} {R : α → α → Prop} {g h : Grammar V α} (similar : Similar v k R g h) :
      Similar v k Eq (notAhead g) (notAhead h)
  | many {α : Type} {R : α → α → Prop} {g h : Grammar V α} (similar : Similar v k R g h) :
      Similar v k (List.Forall₂ R) (many g) (many h)
  | many1 {α : Type} {R : α → α → Prop} {g h : Grammar V α} (similar : Similar v k R g h) :
      Similar v k (List.Forall₂ R) (many1 g) (many1 h)
  | count {α : Type} {R : α → α → Prop} {g h : Grammar V α} (times : Nat)
      (similar : Similar v k R g h) : Similar v k (List.Forall₂ R) (count times g) (count times h)
  | sepBy {α β : Type} {R : α → α → Prop} {S : β → β → Prop} {g h : Grammar V α}
      {g' h' : Grammar V β} (item : Similar v k R g h) (separator : Similar v k S g' h') :
      Similar v k (List.Forall₂ R) (sepBy g g') (sepBy h h')
  | sepBy1 {α β : Type} {R : α → α → Prop} {S : β → β → Prop} {g h : Grammar V α}
      {g' h' : Grammar V β} (item : Similar v k R g h) (separator : Similar v k S g' h') :
      Similar v k (List.Forall₂ R) (sepBy1 g g') (sepBy1 h h')
  | chainLeft1 {α : Type} {R : α → α → Prop} {g h : Grammar V α} {g' h' : Grammar V (α → α → α)}
      (operand : Similar v k R g h) (operator : Similar v k (Operators R) g' h') :
      Similar v k R (chainLeft1 g g') (chainLeft1 h h')
  | chainRight1 {α : Type} {R : α → α → Prop} {g h : Grammar V α} {g' h' : Grammar V (α → α → α)}
      (operand : Similar v k R g h) (operator : Similar v k (Operators R) g' h') :
      Similar v k R (chainRight1 g g') (chainRight1 h h')
  | label {α : Type} {R : α → α → Prop} {g h : Grammar V α} (message : String)
      (similar : Similar v k R g h) : Similar v k R (label message g) (label message h)
  | withSpan {α : Type} {R : α → α → Prop} {g h : Grammar V α} (similar : Similar v k R g h) :
      Similar v k (Both R v.Stretch) (withSpan g) (withSpan h)
  | traced {α : Type} {R : α → α → Prop} {g h : Grammar V α} (name : String)
      (similar : Similar v k R g h) : Similar v k R (traced name g) (traced name h)

end Grammar

/-! ## The fundamental theorem -/

variable {V : Vocabulary} {v : View} {k : V.Likeness} {m n : Type → Type} [Effect m] [Effect n]
  {C : Comparison m n v.Seen}

/-- Similar grammars describe parsers that are alike, as long as the effects report alike. Induction
on how the grammars are built. -/
theorem Grammar.Similar.alike {A : Accord m n}
    (reports : ∀ {e f}, v.Seen e f → A.Agree (fun _ _ => True) (Effect.emit e) (Effect.emit f))
    {perform : (action : V.Action) → Parser m (V.Answer action)}
    {perform' : (action : V.Action) → Parser n (V.Answer action)}
    (performs : ∀ action, (perform action).Alike A v (k.Answer action) (perform' action))
    {call : (r : V.Rule) → Cursor → m (Reply (V.Result r))}
    {call' : (r : V.Rule) → Cursor → n (Reply (V.Result r))}
    (calls : ∀ r, (Parser.mk (call r)).Alike A v (k.Result r) (Parser.mk (call' r))) (spare : Nat)
    {α : Type} {R : α → α → Prop} {g h : Grammar V α} (similar : Similar v k R g h) :
    (g.parser spare perform call).Alike A v R (h.parser spare perform' call') := by
  induction similar with
  | weaken _ weaker ih => exact ih.mono weaker
  | terminal t => exact .terminal t
  | scan looks => exact .scan looks
  | rule r => exact calls r
  | perform action => exact performs action
  | lift value => exact .lift (A.pure value)
  | pure value => exact .pure value
  | fail message => exact .fail message
  | empty => exact .empty
  | bind _ _ ih ihnext => exact ih.bind ihnext
  | map values _ ih => exact ih.map values
  | applyTo _ _ ihf iha => exact ihf.applyTo iha
  | pair _ _ ih ih' => exact ih.pair ih'
  | keepLeft _ _ ih ih' => exact ih.keepLeft ih'
  | keepRight _ _ ih ih' => exact ih.keepRight ih'
  | between _ _ _ iho ih ihc => exact .between iho ih ihc
  | discard _ ih => exact ih.discard
  | lexeme _ ih => exact ih.lexeme
  | orElse _ _ ih ih' => exact ih.orElse ih'
  | orDefault default _ ih => exact .orDefault default ih
  | optional _ ih => exact ih.optional
  | notAhead _ ih => exact ih.notAhead
  | many _ ih => exact ih.many spare
  | many1 _ ih => exact ih.many1 spare
  | count times _ ih => exact .count times ih
  | sepBy _ _ ih ih' => exact ih.sepBy ih' spare
  | sepBy1 _ _ ih ih' => exact ih.sepBy1 ih' spare
  | chainLeft1 _ _ ih ih' => exact ih.chainLeft1 ih' spare
  | chainRight1 _ _ ih ih' => exact ih.chainRight1 ih' spare
  | label message _ ih => exact .label message ih
  | withSpan _ ih => exact ih.withSpan
  | traced name _ ih => exact .traced reports name ih

/-- Similar grammars describe agreeing parsers. -/
theorem Grammar.Similar.agree {perform : (action : V.Action) → Parser m (V.Answer action)}
    {perform' : (action : V.Action) → Parser n (V.Answer action)}
    (performs : ∀ action, (perform action).Agree C (k.Answer action) (perform' action))
    {call : (r : V.Rule) → Cursor → m (Reply (V.Result r))}
    {call' : (r : V.Rule) → Cursor → n (Reply (V.Result r))}
    (calls : ∀ r, (Parser.mk (call r)).Agree C (k.Result r) (Parser.mk (call' r))) (spare : Nat)
    {α : Type} {R : α → α → Prop} {g h : Grammar V α} (similar : Similar v k R g h) :
    (g.parser spare perform call).Agree C R (h.parser spare perform' call') :=
  similar.alike (A := C.accord) C.emit performs calls spare

/-- Rules with similar bodies are called alike. Induction on the depth of open calls: at no depth
are both calls unfinished. -/
theorem Bodies.call_agree {bodies bodies' : Bodies V}
    {perform : (action : V.Action) → Parser m (V.Answer action)}
    {perform' : (action : V.Action) → Parser n (V.Answer action)}
    (performs : ∀ action, (perform action).Agree C (k.Answer action) (perform' action))
    (similar : ∀ r, Grammar.Similar v k (k.Result r) (bodies r) (bodies' r)) (spare depth : Nat)
    (r : V.Rule) :
    (Parser.mk (bodies.call spare perform depth r)).Agree C (k.Result r)
      (Parser.mk (bodies'.call spare perform' depth r)) := by
  induction depth generalizing r with
  -- Without a call to spare, neither side gives an answer.
  | zero => exact fun _ _ _ => C.pure .unfinished
  | succ depth ih => exact fun _ _ place => (similar r).agree performs ih spare place

/-- Similar grammars over rules with similar bodies describe agreeing parsers. -/
theorem Bodies.agree {bodies bodies' : Bodies V}
    {perform : (action : V.Action) → Parser m (V.Answer action)}
    {perform' : (action : V.Action) → Parser n (V.Answer action)}
    (performs : ∀ action, (perform action).Agree C (k.Answer action) (perform' action))
    (similar : ∀ r, Grammar.Similar v k (k.Result r) (bodies r) (bodies' r)) (spare depth : Nat)
    {α : Type} {R : α → α → Prop} {g h : Grammar V α} (sim : Grammar.Similar v k R g h) :
    (bodies.parserAt spare perform depth g).Agree C R (bodies'.parserAt spare perform' depth h) :=
  sim.agree performs (call_agree performs similar spare depth) spare

/-! ## Grammars similar to themselves

Every grammar is similar to itself with values that agree by equality, as far as its looks at the
text are, when it reads no spans or when only equal spans correspond. -/

namespace Grammar

/-- Every look at the text in a grammar has the property `look`, and spans are read only if `span`
holds, whatever values choose the grammars that are run. -/
def Every (look : ∀ {β : Type}, (Cursor → Reply β) → Prop) (span : Prop) :
    {α : Type} → Grammar V α → Prop
  | _, scan f => look f
  | _, terminal _ | _, rule _ | _, .perform _ | _, lift _ | _, pure _ | _, fail _ | _, empty => True
  | _, bind g next => g.Every look span ∧ ∀ a, (next a).Every look span
  | _, map _ g | _, discard g | _, lexeme g | _, orDefault _ g | _, optional g | _, notAhead g
  | _, many g | _, many1 g | _, count _ g | _, label _ g | _, traced _ g => g.Every look span
  | _, applyTo g h | _, pair g h | _, keepLeft g h | _, keepRight g h | _, orElse g h
  | _, sepBy g h | _, sepBy1 g h | _, chainLeft1 g h | _, chainRight1 g h =>
    g.Every look span ∧ h.Every look span
  | _, between opening g closing =>
    opening.Every look span ∧ g.Every look span ∧ closing.Every look span
  | _, withSpan g => span ∧ g.Every look span

/-- Every grammar has the property that asks for nothing. -/
theorem every_true : {α : Type} → (g : Grammar V α) → g.Every (fun _ => True) True
  | _, scan _ | _, terminal _ | _, rule _ | _, .perform _ | _, lift _ | _, pure _ | _, fail _
  | _, empty => trivial
  | _, bind g next => ⟨g.every_true, fun a => (next a).every_true⟩
  | _, map _ g | _, discard g | _, lexeme g | _, orDefault _ g | _, optional g | _, notAhead g
  | _, many g | _, many1 g | _, count _ g | _, label _ g | _, traced _ g => g.every_true
  | _, applyTo g h | _, pair g h | _, keepLeft g h | _, keepRight g h | _, orElse g h
  | _, sepBy g h | _, sepBy1 g h | _, chainLeft1 g h | _, chainRight1 g h =>
    ⟨g.every_true, h.every_true⟩
  | _, between opening g closing => ⟨opening.every_true, g.every_true, closing.every_true⟩
  | _, withSpan g => ⟨trivial, g.every_true⟩

/-- The rule of announced brackets has no look at the text of its own and reads no spans. -/
theorem every_announced {look : ∀ {β : Type}, (Cursor → Reply β) → Prop} {span : Prop}
    {Action : Type} (opening : Action) (r : Sample.Nesting.Rule) :
    (Sample.Nesting.announced opening r).Every look span := by
  cases r
  exact ⟨⟨⟨⟨trivial, trivial⟩, trivial⟩, trivial⟩, trivial⟩

theorem Similar.refl {v : View} {look : ∀ {β : Type}, (Cursor → Reply β) → Prop} {span : Prop}
    (looks : ∀ {β : Type} (f : Cursor → Reply β), look f →
      ∀ c d, v.Place c d → Reply.Agree v Eq (f c) (f d))
    (spans : span → ∀ s t, v.Stretch s t → s = t) {α : Type} {g : Grammar V α}
    (hg : g.Every look span) : Similar v V.equality Eq g g := by
  induction g with
  | terminal t => exact .terminal t
  | scan look => exact .scan (looks look hg)
  | rule r => exact .rule r
  | perform action => exact .perform action
  | lift a => exact .lift rfl
  | pure a => exact .pure rfl
  | fail message => exact .fail message
  | empty => exact .empty
  | bind g next ih ihnext => exact .bind (ih hg.1) fun a _ h => h ▸ ihnext a (hg.2 a)
  | map f g ih => exact .map (fun _ _ h => congrArg f h) (ih hg)
  | applyTo g h ihg ihh =>
    -- Equal functions of equal arguments have equal values.
    refine .applyTo ((ihg hg.1).weaken fun f f' same a b value => ?_) (ihh hg.2)
    rw [same, show a = b from value]
  | pair g h ihg ihh =>
    exact (Similar.pair (ihg hg.1) (ihh hg.2)).weaken fun _ _ => Both.eq
  | keepLeft g h ihg ihh => exact .keepLeft (ihg hg.1) (ihh hg.2)
  | keepRight g h ihg ihh => exact .keepRight (ihg hg.1) (ihh hg.2)
  | between opening g closing iho ihg ihc =>
    exact .between (iho hg.1) (ihg hg.2.1) (ihc hg.2.2)
  | discard g ih => exact .discard (ih hg)
  | lexeme g ih => exact .lexeme (ih hg)
  | orElse g h ihg ihh => exact .orElse (ihg hg.1) (ihh hg.2)
  | orDefault default g ih => exact .orDefault rfl (ih hg)
  | optional g ih => exact (Similar.optional (ih hg)).weaken fun _ _ => eq_of_rel_eq
  | notAhead g ih => exact .notAhead (ih hg)
  | many g ih => exact (Similar.many (ih hg)).weaken fun _ _ => eq_of_forall₂_eq
  | many1 g ih => exact (Similar.many1 (ih hg)).weaken fun _ _ => eq_of_forall₂_eq
  | count times g ih => exact (Similar.count times (ih hg)).weaken fun _ _ => eq_of_forall₂_eq
  | sepBy item separator ih ih' =>
    exact (Similar.sepBy (ih hg.1) (ih' hg.2)).weaken fun _ _ => eq_of_forall₂_eq
  | sepBy1 item separator ih ih' =>
    exact (Similar.sepBy1 (ih hg.1) (ih' hg.2)).weaken fun _ _ => eq_of_forall₂_eq
  | chainLeft1 operand operator ih ih' =>
    exact .chainLeft1 (ih hg.1) ((ih' hg.2).weaken fun _ _ => Operators.of_eq)
  | chainRight1 operand operator ih ih' =>
    exact .chainRight1 (ih hg.1) ((ih' hg.2).weaken fun _ _ => Operators.of_eq)
  | label message g ih => exact .label message (ih hg)
  | withSpan g ih =>
    -- Spans agree by equality only under the assumption on stretches.
    refine (Similar.withSpan (ih hg.2)).weaken fun x y both => ?_
    exact Prod.ext both.1 (spans hg.1 _ _ both.2)
  | traced name g ih => exact .traced name (ih hg)

end Grammar

end Descent
