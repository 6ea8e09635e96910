import Descent.Proofs.Erasure
import Descent.Proofs.Tracing
import Descent.Proofs.Transparency

/-!
# What a parse reports

Main statement: traces change nothing for whoever does not see reports, every parse that comes to an
end reports in well-formed brackets between its beginning and its outcome, and a parse that a host
aborts reports what a parse that is not aborted reports up to there, and nothing more.

For the last part a grammar is run twice: with actions for which a host may stop, and with actions
that leave a mark among the reports where the host would have stopped, and go on
(`Abortable.CutAt`).
-/

namespace Descent

/-- An abortable computation yields what a plain one does and reports the same, or it stops, having
reported what the plain one does up to the mark of the reason to stop. -/
inductive Abortable.CutAt {ε α β : Type} (mark : ε → String) (R : α → β → Prop) :
    Plain α → Abortable ε β → Prop where
  | finished {a : α} {b : β} {events : List Event} (value : R a b) :
      CutAt mark R ⟨a, events⟩ ⟨.ok b, events⟩
  | stopped {a : α} {reason : ε} {position : Nat} {events later : List Event} :
      CutAt mark R ⟨a, events ++ .entered (mark reason) position :: later⟩ ⟨.error reason, events⟩

namespace Abortable.CutAt

variable {ε α β γ δ : Type} {mark : ε → String} {R : α → β → Prop} {S : γ → δ → Prop}
  {x : Plain α} {y : Abortable ε β}

theorem mono {T : α → β → Prop} (h : CutAt mark R x y) (weaker : ∀ a b, R a b → T a b) :
    CutAt mark T x y := by
  cases h with
  | finished value => exact .finished (weaker _ _ value)
  | stopped => exact .stopped

/-- Once a computation has stopped, so has every chain that begins with it. -/
theorem bind {f : α → Plain γ} {g : β → Abortable ε δ} (h : CutAt mark R x y)
    (next : ∀ a b, R a b → CutAt mark S (f a) (g b)) : CutAt mark S (x >>= f) (y >>= g) := by
  cases h with
  | @finished a b events value =>
    have second := next a b value
    rw [ok_bind]
    show CutAt mark S ⟨(f a).value, events ++ (f a).events⟩ _
    generalize f a = x' at second ⊢
    generalize g b = y' at second ⊢
    cases second with
    | finished value' => exact .finished value'
    | stopped =>
      rw [← List.append_assoc]
      exact .stopped
  | @stopped a reason position events later =>
    rw [error_bind]
    show CutAt mark S
      ⟨(f a).value, events ++ .entered (mark reason) position :: later ++ (f a).events⟩ _
    rw [List.append_assoc, List.cons_append]
    exact .stopped

end Abortable.CutAt

/-- A plain computation and one that stops where the plain one leaves the mark of a reason. -/
def Plain.cutting (ε : Type) (mark : ε → String) : Comparison Plain (Abortable ε) View.same.Seen :=
  .ofLawful {
    Agree := Abortable.CutAt mark
    mono := .mono
    pure := .finished
    bind := .bind
    emit := by
      rintro e _ rfl
      exact .finished trivial }

/-! ## Actions of a host that may stop -/

variable {V : Vocabulary} {ε α : Type}

/-- What a host answers to an action asked for at a place, or why it stops there. -/
abbrev Vocabulary.Host (V : Vocabulary) (ε : Type) : Type :=
  (action : V.Action) → Cursor → Except ε (Reply (V.Answer action))

namespace Vocabulary.Host

/-- The host stops the parse. -/
def stopping (host : V.Host ε) (action : V.Action) : Parser (Abortable ε) (V.Answer action) where
  run c :=
    match host action c with
    | .ok reply => pure reply
    | .error reason => Abortable.abort reason

/-- Where the host would stop, the parse enters what is named by the mark of the reason, and goes on
with some other answer. -/
def marking (host : V.Host ε) (mark : ε → String)
    (otherwise : (action : V.Action) → Cursor → Reply (V.Answer action)) (action : V.Action) :
    Parser Plain (V.Answer action) where
  run c :=
    match host action c with
    | .ok reply => pure reply
    | .error reason => (Parser.traced (mark reason) (.scan (otherwise action))).run c

theorem stopping_agree (host : V.Host ε) (mark : ε → String)
    (otherwise : (action : V.Action) → Cursor → Reply (V.Answer action)) (action : V.Action) :
    (host.marking mark otherwise action).Agree (Plain.cutting ε mark) Eq
      (host.stopping action) := by
  rintro c _ rfl
  rw [stopping, marking]
  dsimp only
  cases host action c with
  | ok reply => exact .finished reply.agree_same
  | error reason =>
    -- The mark is the first thing that is reported.
    show Abortable.CutAt mark _ ⟨_, [] ++ .entered (mark reason) c.position :: _⟩ _
    exact .stopped

variable {host : V.Host ε} (answers : ∀ action c reply, host action c = .ok reply → reply.Within c)
include answers

theorem stopping_sound (action : V.Action) :
    (host.stopping action).Sound (Abortable.transcripts ε) := by
  intro c
  rw [stopping]
  dsimp only
  cases h : host action c with
  | ok reply => exact .pure (answers action c reply h)
  | error reason =>
    rintro _ _ ⟨rfl, rfl⟩
    exact ⟨Event.Nested.nil.broken, fun _ impossible => nomatch impossible⟩

theorem marking_sound (mark : ε → String)
    {otherwise : (action : V.Action) → Cursor → Reply (V.Answer action)}
    (others : ∀ action c, (otherwise action c).Within c) (action : V.Action) :
    (host.marking mark otherwise action).Sound Plain.transcripts := by
  intro c
  rw [marking]
  dsimp only
  cases h : host action c with
  | ok reply => exact .pure (answers action c reply h)
  | error reason =>
    have scanned : (Parser.scan (otherwise action)).Sound Plain.transcripts :=
      fun d => .pure (others action d)
    exact scanned.traced _ c

end Vocabulary.Host

/-! ## Whole parses -/

/-- Whole parses by parsers that are alike are alike if the reports of their beginning and of their
outcome are. -/
theorem Parser.Alike.parseWith {m n : Type → Type} [Effect m] [Effect n] {A : Accord m n}
    {p : Parser m α} {q : Parser n α} (h : p.Alike A View.same Eq q)
    (opened : ∀ characters, A.Agree (fun _ _ => True) (Effect.emit (.opened characters))
      (Effect.emit (.opened characters)))
    (closed : ∀ (reply : Reply α) (closing : Event), reply.closingEvent? = some closing →
      A.Agree (fun _ _ => True) (Effect.emit closing) (Effect.emit closing))
    (config : Config) (text : String) :
    A.Agree Eq (p.parseWith config text) (q.parseWith config text) := by
  refine A.bind (opened _) fun _ _ _ => ?_
  have start : View.same.Place (Cursor.ofString text) (Cursor.ofString text) := rfl
  refine A.bind (A.map (h start) fun _ _ agree => congrArg config.judge agree.eq_of_same) ?_
  rintro reply _ rfl
  cases ending : reply.closingEvent? with
  | none => exact A.pure rfl
  | some closing => exact A.bind (closed reply closing ending) fun _ _ _ => A.pure rfl

/-- Whole parses by agreeing parsers agree. -/
theorem Parser.parseWith_agree {m n : Type → Type} [Effect m] [Effect n]
    {C : Comparison m n View.same.Seen} {p : Parser m α} {q : Parser n α} (h : p.Agree C Eq q)
    (config : Config) (text : String) :
    C.Agree Eq (p.parseWith config text) (q.parseWith config text) := by
  have alike : p.Alike C.accord View.same Eq q := h
  exact alike.parseWith (fun _ => C.emit rfl) (fun _ _ _ => C.emit rfl) config text

/-- Traces are transparent, and reports are well bracketed.

To whoever sees no reports, a run is the run of the grammar without its traces. A parse of any text,
in any effect, reports its beginning, the nested reports of its traced parsers and its outcome; or
it is aborted or would go on for ever, and its reports are broken off. Where a host stops a parse,
the reports are those of a parse in which the host does not stop, up to the place in it that is
marked by the reason to stop; and where no host stops, the marks are not seen. -/
theorem Bodies.reports_in_brackets (bodies : Bodies V) (spare depth : Nat) (g : Grammar V α) :
    (∀ {m n : Type → Type} [Effect m] [LawfulEffect m] [Monad n] [LawfulMonad n]
      (O : Observation m n), O.IgnoresEvents →
      ∀ (perform : (action : V.Action) → Parser m (V.Answer action)) (c : Cursor),
        O.of ((bodies.parserAt spare perform depth g).run c) =
          O.of ((Bodies.parserAt (fun r => (bodies r).untraced) spare perform depth
            g.untraced).run c)) ∧
      ((∀ r, (bodies r).LooksWithin) → g.LooksWithin → ∀ (config : Config) (text : String),
        (∀ {m : Type → Type} [Effect m] [LawfulEffect m] (T : Transcripts m)
          (perform : (action : V.Action) → Parser m (V.Answer action)),
          (∀ action, (perform action).Sound T) → ∀ events result,
            T.Runs ((bodies.parserAt spare perform depth g).parseWith config text) events result →
              Event.Reported text.length result events) ∧
        ∀ {ε : Type} (host : V.Host ε) (mark : ε → String)
          (otherwise : (action : V.Action) → Cursor → Reply (V.Answer action)),
          (∀ action c reply, host action c = .ok reply → reply.Within c) →
          (∀ action c, (otherwise action c).Within c) →
            let stopping := (bodies.parserAt spare host.stopping depth g).parseWith config text
            let marking :=
              (bodies.parserAt spare (host.marking mark otherwise) depth g).parseWith config text
            Event.Reported text.length stopping.result.toOption stopping.events ∧
              Event.Reported text.length (some marking.value) marking.events ∧
                Abortable.CutAt mark Eq marking stopping) := by
  refine ⟨fun O ignores perform c => bodies.run_untraced ignores spare depth perform g c,
    fun looks hg config text => ?_⟩
  have reported {m : Type → Type} [Effect m] [LawfulEffect m] (T : Transcripts m)
      (perform : (action : V.Action) → Parser m (V.Answer action))
      (performs : ∀ action, (perform action).Sound T) (events : List Event)
      (result : Option (Reply α))
      (run : T.Runs ((bodies.parserAt spare perform depth g).parseWith config text) events result) :
      Event.Reported text.length result events :=
    Parser.parseWith_reported (Bodies.sound performs looks spare depth hg) config text run
  refine ⟨reported, fun host mark otherwise answers others => ⟨?_, ?_, ?_⟩⟩
  · have stops := Vocabulary.Host.stopping_sound answers
    exact reported (Abortable.transcripts _) _ stops _ _ ⟨rfl, rfl⟩
  · have marks := Vocabulary.Host.marking_sound answers mark others
    exact reported Plain.transcripts _ marks _ _ ⟨rfl, rfl⟩
  · -- The two parses agree action by action, and so as a whole.
    have agree := Bodies.agree (host.stopping_agree mark otherwise) (fun r => .same (bodies r))
      spare depth (.same g)
    exact Parser.parseWith_agree agree config text

theorem Bodies.reports_in_brackets_announced :
    let bodies : Bodies (Sample.Nesting.announcing String) :=
      fun r => .traced "nesting" (Sample.Nesting.announced "bracket" r)
    let unseen := Logged.editing (fun _ => []) String
    let tell : String → Parser (Logged String) Unit := fun entry => .lift (Logged.tell entry)
    let c := Cursor.ofString "(()"
    let told := (bodies.parserAt 0 tell 4 (bodies .nesting)).parseWith {} "(()"
    let host : (Sample.Nesting.announcing String).Host String := fun entry c =>
      if c.position < 2 then .ok (.success () c) else .error entry
    let stopping := (bodies.parserAt 0 host.stopping 4 (bodies .nesting)).parseWith {} "(())"
    unseen.IgnoresEvents ∧ (∀ r, (bodies r).LooksWithin) ∧
      (∀ entry, (tell entry).Sound (Logged.transcripts String)) ∧
      (∀ action c reply, host action c = .ok reply → reply.Within c) ∧
      unseen.of ((bodies.parserAt 0 tell 4 (bodies .nesting)).run c) =
        unseen.of ((Bodies.parserAt (fun r => (bodies r).untraced) 0 tell 4
          (bodies .nesting).untraced).run c) ∧
      Event.Reported 3 (some told.value) told.events ∧
      stopping.events = [.opened 4, .entered "nesting" 0, .entered "nesting" 1] ∧
      Event.Reported 4 stopping.result.toOption stopping.events := by
  intro bodies unseen tell c told host stopping
  have looks : ∀ r, (bodies r).LooksWithin := fun r => Grammar.every_announced "bracket" r
  have tells : ∀ entry, (tell entry).Sound (Logged.transcripts String) := by
    rintro entry c _ _ ⟨rfl, rfl⟩
    refine ⟨Event.Nested.nil.broken, ?_⟩
    rintro _ ⟨rfl⟩
    exact .inl ⟨.nil, Reply.within_success (.refl c)⟩
  have answers : ∀ action c reply, host action c = .ok reply → reply.Within c := by
    intro action c reply answer
    simp only [host] at answer
    split at answer
    · cases answer
      exact Reply.within_success (.refl c)
    · cases answer
  have brackets := Bodies.reports_in_brackets bodies 0 4 (bodies .nesting)
  have transparent := brackets.1 unseen (fun _ => rfl) tell c
  have telling := (brackets.2 looks (looks _) {} "(()").1 (Logged.transcripts String) tell tells _ _
    ⟨rfl, rfl⟩
  have stopped := (brackets.2 looks (looks _) {} "(())").2 host id (fun _ c => .success () c)
    answers fun _ c => Reply.within_success (.refl c)
  exact ⟨fun _ => rfl, looks, tells, answers, transparent, telling, by decide +kernel, stopped.1⟩

end Descent
