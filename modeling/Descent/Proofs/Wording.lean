import Descent.Proofs.Observation
import Descent.Proofs.Wrappers

/-!
# Messages have no influence on a parse

Two grammars differ in wording only when they are the same once their labels are taken off and the
messages of their failures are made empty (`Grammar.wordless`). Their runs are then the same up to
the messages of failures, in replies and in reports: both are the run of the one grammar without
words.

What a label says about a failure is therefore all that is said: whatever labels and messages stand
inside a labelled grammar, the reply is the same, and its message is the label's.
-/

namespace Descent

/-! ## Taking words off -/

/-- The same report without its message. -/
def Event.wordless : Event → Event
  | failed name reason => failed name (reason.withMessage "")
  | rejected reason => rejected (reason.withMessage "")
  | e => e

/-- The same answer without its message. -/
def Reply.wordless {α : Type} (r : Reply α) : Reply α := r.relabel ""

/-- Events that differ in their messages only are seen alike. -/
def Observation.IgnoresMessages {m n : Type → Type} [Effect m] [Monad n] (O : Observation m n) :
    Prop :=
  ∀ e f : Event, e.wordless = f.wordless → O.of (Effect.emit e) = O.of (Effect.emit f)

/-- A text compared with itself, where failures correspond that have one place. -/
def View.wording : View where
  Place := Eq
  Reason e f := e.position = f.position
  Stretch := Eq
  Seen e f := e.wordless = f.wordless
  rest_eq := same.rest_eq
  advance := same.advance
  failure := by rintro c _ rfl _; rfl
  relabel := fun same _ => same
  stretch := same.stretch
  entered := by rintro c _ rfl _; rfl
  matched := by rintro c _ c' _ rfl rfl _; rfl
  failed := by
    rintro ⟨position, _⟩ ⟨_, _⟩ rfl name
    rfl

namespace Reply

variable {α : Type} {r s : Reply α}

theorem relabel_wordless (message : String) (r : Reply α) :
    r.wordless.relabel message = r.relabel message := by
  cases r <;> rfl

/-- A reply has the same place as itself. -/
theorem agree_wording (r : Reply α) : Agree View.wording Eq r r := by
  cases r with
  | success a next => exact .success rfl rfl
  | failure e => exact .failure rfl
  | unfinished => exact .unfinished

theorem Agree.wordless_eq (h : Agree View.wording Eq r s) : r.wordless = s.wordless := by
  cases h with
  | success value next => rw [value, show _ = _ from next]
  | @failure e f reason =>
    obtain ⟨position, message⟩ := e
    obtain ⟨_, message'⟩ := f
    obtain rfl : position = _ := reason
    rfl
  | unfinished => rfl

/-- A label on one side only is not noticed. -/
theorem Agree.relabel_left (h : Agree View.wording Eq r s) (message : String) :
    Agree View.wording Eq (r.relabel message) s := by
  cases h with
  | success value next => exact .success value next
  | failure reason => exact .failure reason
  | unfinished => exact .unfinished

/-- The end of the text is required of both replies or of none. -/
theorem Agree.judge (h : Agree View.wording Eq r s) (config : Config) :
    Agree View.wording Eq (config.judge r) (config.judge s) := by
  rw [Config.judge, Config.judge]
  cases config.consumeAll with
  | false => exact h
  | true =>
    cases h with
    | success value next =>
      obtain rfl : _ = _ := next
      rw [if_pos rfl, if_pos rfl, requireEnd, requireEnd]
      split
      · exact .success value rfl
      · exact .failure rfl
    | failure reason => exact .failure reason
    | unfinished => exact .unfinished

end Reply

/-! ## Grammars without words -/

variable {V : Vocabulary} {α : Type}

/-- No labels, and no message in any failure. -/
def Grammar.Wrapping.wordless : Wrapping V where
  fail _ := ""
  label _ g := g
  traced := .traced

/-- The grammar without its labels and without the messages of its failures. -/
def Grammar.wordless (g : Grammar V α) : Grammar V α := g.rewrap .wordless

variable {m n : Type → Type} [Effect m] [LawfulEffect m] [Monad n] [LawfulMonad n]
  {O : Observation m n}

/-- Without events told apart by their messages, labels and messages make no difference. -/
theorem Grammar.Wrapping.wordless_inert (ignores : O.IgnoresMessages) (spare : Nat)
    (perform : (action : V.Action) → Parser m (V.Answer action))
    (call : (r : V.Rule) → Cursor → m (Reply (V.Result r))) :
    Wrapping.wordless.Inert O.accord View.wording spare perform call where
  look := by
    rintro β look c _ rfl
    exact (look c).agree_wording
  stretch same := same
  fail message := fun _ _ place => O.accord.pure (.failure (congrArg Cursor.position place))
  label message _ _ h := fun _ _ place =>
    O.accord.map_left (h place) fun _ _ agree => agree.relabel_left message
  traced name _ _ h :=
    .traced (fun {e f} same => Observation.accord_of_eq (fun _ => trivial) (ignores e f same))
      name h

/-- A whole parse judges, and reports, replies that differ in wording alike. -/
theorem Parser.parseWith_wording {p q : Parser m α} (ignores : O.IgnoresMessages)
    (h : p.Alike O.accord View.wording Eq q) (config : Config) (text : String) :
    O.accord.Agree (Reply.Agree View.wording Eq) (p.parseWith config text)
      (q.parseWith config text) := by
  have reports {e f : Event} (same : e.wordless = f.wordless) :
      O.accord.Agree (fun _ _ => True) (Effect.emit e) (Effect.emit f) :=
    Observation.accord_of_eq (fun _ => trivial) (ignores e f same)
  refine O.accord.bind (reports rfl) fun _ _ _ => ?_
  refine O.accord.bind (O.accord.map (h (show View.wording.Place _ _ from rfl))
    fun _ _ reply => reply.judge config) fun r s reply => ?_
  cases reply with
  | success value next =>
    obtain rfl : _ = _ := next
    exact O.accord.bind (reports rfl) fun _ _ _ => O.accord.pure (.success value rfl)
  | @failure e f reason =>
    obtain ⟨position, message⟩ := e
    obtain ⟨_, message'⟩ := f
    obtain rfl : position = _ := reason
    exact O.accord.bind (reports rfl) fun _ _ _ => O.accord.pure (.failure rfl)
  | unfinished => exact O.accord.pure .unfinished

variable {bodies bodies' : Bodies V} {g h : Grammar V α}

/-- A grammar is run as the grammar without words is. -/
theorem Bodies.wordless_alike (ignores : O.IgnoresMessages) (bodies : Bodies V) (spare depth : Nat)
    (perform : (action : V.Action) → Parser m (V.Answer action)) (g : Grammar V α) :
    (bodies.parserAt spare perform depth g).Alike O.accord View.wording Eq
      (Bodies.parserAt (fun r => (bodies r).wordless) spare perform depth g.wordless) := by
  have inert := Grammar.Wrapping.wordless_inert ignores spare perform (V := V)
  refine Bodies.rewrap_alike inert ?_ bodies depth g
  -- An action is carried out at one place, so it replies in one way.
  rintro action c _ rfl
  exact Observation.accord_of_eq Reply.agree_wording rfl

/-- Messages have no influence. Over rules that differ in wording only, two grammars that differ in
wording only are run alike from every place, and parsed alike on every text, by all that is observed
without the messages of failures: they succeed or fail together, with the same value, the same place
and the same output of the effect. Under a label, the reply to either of them is the reply to the
other with the label's message. -/
theorem Bodies.wording_changes_messages_only (ignores : O.IgnoresMessages)
    (rules : ∀ r, (bodies r).wordless = (bodies' r).wordless) (words : g.wordless = h.wordless)
    (spare depth : Nat) (perform : (action : V.Action) → Parser m (V.Answer action)) :
    let parser (bodies : Bodies V) (g : Grammar V α) : Parser m α :=
      bodies.parserAt spare perform depth g
    (∀ c, Reply.wordless <$> O.of ((parser bodies g).run c) =
      Reply.wordless <$> O.of ((parser bodies' h).run c)) ∧
    (∀ config text, Reply.wordless <$> O.of ((parser bodies g).parseWith config text) =
      Reply.wordless <$> O.of ((parser bodies' h).parseWith config text)) ∧
    ∀ message c, O.of ((parser bodies (.label message g)).run c) =
      Reply.relabel message <$> O.of ((parser bodies' h).run c) := by
  intro parser
  have first := Bodies.wordless_alike ignores bodies spare depth perform g
  have second := Bodies.wordless_alike ignores bodies' spare depth perform h
  -- Without words there is one grammar over one set of rules.
  rw [← words, ← funext rules] at second
  have runs : ∀ c, Reply.wordless <$> O.of ((parser bodies g).run c) =
      Reply.wordless <$> O.of ((parser bodies' h).run c) := fun c =>
    (Observation.map_of_eq (first (show View.wording.Place c c from rfl))
      fun _ _ => Reply.Agree.wordless_eq).trans
    (Observation.map_of_eq (second (show View.wording.Place c c from rfl))
      fun _ _ => Reply.Agree.wordless_eq).symm
  refine ⟨runs, fun config text => ?_, fun message c => ?_⟩
  · exact (Observation.map_of_eq (Parser.parseWith_wording ignores first config text)
      fun _ _ => Reply.Agree.wordless_eq).trans
      (Observation.map_of_eq (Parser.parseWith_wording ignores second config text)
        fun _ _ => Reply.Agree.wordless_eq).symm
  · -- A label hides whatever message there is.
    have hidden (x : n (Reply α)) :
        Reply.relabel message <$> x = Reply.relabel message <$> Reply.wordless <$> x := by
      rw [Functor.map_map]
      congr 1
      funext r
      exact (Reply.relabel_wordless message r).symm
    calc O.of (Reply.relabel message <$> (parser bodies g).run c)
        = Reply.relabel message <$> O.of ((parser bodies g).run c) := O.of_map _ _
      _ = Reply.relabel message <$> O.of ((parser bodies' h).run c) := by
        rw [hidden, runs c, ← hidden]

/-- The brackets of two wordings: labelled inside and out, and not labelled at all. -/
theorem Bodies.wording_changes_messages_only_announced :
    let O := Logged.editing (fun e => [e.wordless]) String
    let perform : String → Parser (Logged String) Unit := fun entry => .lift (Logged.tell entry)
    let bodies : Bodies (Sample.Nesting.announcing String) := Sample.Nesting.announced "bracket"
    let labelled : Bodies (Sample.Nesting.announcing String) :=
      fun r => .label "a nesting" (bodies r)
    let g : Grammar (Sample.Nesting.announcing String) Unit :=
      .keepRight (.label "brackets" (bodies .nesting)) (.fail "too deep")
    let h : Grammar (Sample.Nesting.announcing String) Unit :=
      .keepRight (bodies .nesting) (.label "the end" (.fail "too much"))
    let run (bodies) (g : Grammar (Sample.Nesting.announcing String) Unit) :=
      (Bodies.parserAt bodies 0 perform 4 g).run (Cursor.ofString "(()")
    O.IgnoresMessages ∧ (∀ r, (labelled r).wordless = (bodies r).wordless) ∧
      g.wordless = h.wordless ∧
      (run labelled (.label "no" g)).value = (run bodies h).value.relabel "no" ∧
      (run labelled (.label "no" g)).log = (run bodies h).log ∧
      (run bodies h).value = .failure ⟨0, "the end"⟩ := by
  intro O perform bodies labelled g h run
  have ignores : O.IgnoresMessages := by
    intro e f same
    show (⟨(), [], [e.wordless] ++ []⟩ : Logged String Unit) = ⟨(), [], [f.wordless] ++ []⟩
    rw [same]
  have same : ∀ r, (labelled r).wordless = (bodies r).wordless := fun _ => rfl
  have same' : g.wordless = h.wordless := rfl
  have labels := (Bodies.wording_changes_messages_only ignores same same' 0 4 perform).2.2 "no"
    (Cursor.ofString "(()")
  have values := congrArg Logged.value labels
  have logs := congrArg Logged.log labels
  refine ⟨ignores, same, same', values, logs, ?_⟩
  decide +kernel

end Descent
