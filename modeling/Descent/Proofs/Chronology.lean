import Descent.Proofs.Reports

/-!
# The log is kept in order of execution

The log of a parse is put together from the logs of its parts. Main statement: its entries
nevertheless stand in the order in which they were told. A grammar that traces whatever it tells,
under the name of the entry, and nothing else (`Grammar.TracesTellings`), logs the entries whose
names are entered, and the entries whose names are matched, in the order of these reports.

That reports are in order is no matter of definition either, since they are put together in the same
way. So the same grammar is also run in an effect that has one record of all that has happened and
adds to it on the spot (`Timed`): the log and the reports of a parse are two readings of this
record, for all grammars.
-/

namespace Descent

variable {Rule : Type} {Result : Rule → Type} {ω α β : Type}

/-! ## One record of all that happens -/

/-- Something that happens while a parse runs. -/
inductive Happening (ω : Type) where
  | told (entry : ω)
  | reported (event : Event)

namespace Happening

def entry? : Happening ω → Option ω
  | told entry => some entry
  | reported _ => none

def event? : Happening ω → Option Event
  | told _ => none
  | reported event => some event

end Happening

/-- A computation that is handed the record of what has happened before it and hands it on, with
what has happened in it. -/
structure Timed (ω α : Type) where
  run : List (Happening ω) → α × List (Happening ω)

namespace Timed

/-- The telling of an entry happens when it is run. -/
def tell (entry : ω) : Timed ω Unit := ⟨fun record => ((), record ++ [.told entry])⟩

instance : Effect (Timed ω) where
  pure a := ⟨fun record => (a, record)⟩
  bind x f := ⟨fun record => (f (x.run record).1).run (x.run record).2⟩
  emit event := ⟨fun record => ((), record ++ [.reported event])⟩

instance : LawfulMonad (Timed ω) :=
  LawfulMonad.mk' (Timed ω) (fun _ => rfl) (fun _ _ => rfl) (fun _ _ _ => rfl)

instance : LawfulEffect (Timed ω) where
  iterate_eq _ _ _ := rfl

end Timed

/-- What a timed computation adds to the record, a logged one writes and reports. -/
def Logged.timing (ω : Type) : Comparison (Timed ω) (Logged ω) View.same.Seen :=
  .ofLawful {
    Agree := fun R x y => ∀ record, R (x.run record).1 y.value ∧
      ∃ added, (x.run record).2 = record ++ added ∧ added.filterMap Happening.entry? = y.log ∧
        added.filterMap Happening.event? = y.events
    mono := fun agree h record => ⟨h _ _ (agree record).1, (agree record).2⟩
    pure := fun h record => ⟨h, [], (List.append_nil record).symm, rfl, rfl⟩
    bind := by
      intro α β γ δ R S f g x y agree h record
      obtain ⟨value, added, recorded, entries, events⟩ := agree record
      -- The second computation is handed the record of the first one.
      obtain ⟨value', added', recorded', entries', events'⟩ := h _ _ value (x.run record).2
      refine ⟨value', added ++ added', ?_, ?_, ?_⟩
      · rw [← List.append_assoc, ← recorded]
        exact recorded'
      · rw [List.filterMap_append, entries, entries', log_bind]
      · rw [List.filterMap_append, events, events', events_bind]
    emit := by
      rintro e _ rfl record
      exact ⟨trivial, [.reported e], rfl, rfl, rfl⟩ }

/-- The log and the reports of a parse, by any grammar, are what is told and what is reported in the
record of the parse. -/
theorem Bodies.parseWith_timed (bodies : Bodies (.telling Rule Result ω)) (spare depth : Nat)
    (g : Grammar (.telling Rule Result ω) α) (config : Config) (text : String) :
    let told : Logged ω (Reply α) :=
      (bodies.parserAt spare (fun entry => .lift (Logged.tell entry)) depth g).parseWith config text
    let timed :=
      ((bodies.parserAt spare (fun entry => .lift (Timed.tell entry)) depth g).parseWith config
        text).run []
    timed.1 = told.value ∧ timed.2.filterMap Happening.entry? = told.log ∧
      timed.2.filterMap Happening.event? = told.events := by
  intro told timed
  have performs : ∀ entry : ω, (Parser.lift (Timed.tell entry)).Agree (Logged.timing ω) Eq
      (Parser.lift (Logged.tell entry)) :=
    fun entry => .lift fun record => ⟨rfl, [.told entry], rfl, rfl, rfl⟩
  have agree := Bodies.agree performs (fun r => .same (bodies r)) spare depth (.same g)
  obtain ⟨value, added, recorded, entries, events⟩ :=
    Parser.parseWith_agree agree config text []
  -- The record is empty at the beginning, so all of it has been added by the parse.
  rw [show timed.2 = added from recorded]
  exact ⟨value, entries, events⟩

/-! ## Names in the order of reports -/

namespace Event

/-- The name of what is entered. -/
def enteredName? : Event → Option String
  | entered name _ => some name
  | _ => none

/-- The name of what has matched. -/
def matchedName? : Event → Option String
  | matched name _ _ => some name
  | _ => none

end Event

/-- What is entered, and what is matched, is called as the entries of the log are, one by one. -/
def Logged.Recorded (naming : ω → String) (x : Logged ω α) : Prop :=
  x.events.filterMap Event.enteredName? = x.log.map naming ∧
    x.events.filterMap Event.matchedName? = x.log.map naming

/-- Recorded computations. Chains of them are recorded: what follows is logged and reported last. -/
def Logged.recording (naming : ω → String) : Accord (Logged ω) (Logged ω) :=
  .ofLawful {
    Agree := fun R x y => R x.value y.value ∧ x.Recorded naming
    mono := fun agree h => ⟨h _ _ agree.1, agree.2⟩
    pure := fun h => ⟨h, rfl, rfl⟩
    bind := by
      intro α β γ δ R S f g x y agree h
      obtain ⟨value, entered, matched⟩ := agree
      obtain ⟨value', entered', matched'⟩ := h _ _ value
      refine ⟨value', ?_, ?_⟩
      · rw [events_bind, log_bind, List.filterMap_append, List.map_append, entered, entered']
      · rw [events_bind, log_bind, List.filterMap_append, List.map_append, matched, matched'] }

/-- The runs of the parser, from every place, are recorded. -/
def Parser.Recorded (naming : ω → String) (p : Parser (Logged ω) α) : Prop :=
  p.Alike (Logged.recording naming) View.same Eq p

theorem Parser.recorded_iff {naming : ω → String} {p : Parser (Logged ω) α} :
    p.Recorded naming ↔ ∀ c, (p.run c).Recorded naming := by
  constructor
  · intro h c
    exact (h (show View.same.Place c c from rfl)).2
  · rintro h c _ rfl
    exact ⟨(p.run c).value.agree_same, h c⟩

/-! ## Traced tellings -/

namespace Grammar

/-- The grammar tells one entry, which is called by the name, and does nothing else. -/
def Tells (naming : ω → String) (name : String) :
    {α : Type} → Grammar (.telling Rule Result ω) α → Prop
  | _, .perform entry => name = naming entry
  | _, _ => False

/-- Each telling of an entry is traced under the name of the entry, and nothing else is traced,
whatever values choose the grammars that are run. -/
def TracesTellings (naming : ω → String) :
    {α : Type} → Grammar (.telling Rule Result ω) α → Prop
  | _, traced name g => g.Tells naming name
  | _, .perform _ => False
  | _, terminal _ | _, scan _ | _, rule _ | _, lift _ | _, pure _ | _, fail _ | _, empty => True
  | _, bind g next => g.TracesTellings naming ∧ ∀ a, (next a).TracesTellings naming
  | _, map _ g | _, discard g | _, lexeme g | _, orDefault _ g | _, optional g | _, notAhead g
  | _, many g | _, many1 g | _, count _ g | _, label _ g | _, withSpan g =>
    g.TracesTellings naming
  | _, applyTo g h | _, pair g h | _, keepLeft g h | _, keepRight g h | _, orElse g h
  | _, sepBy g h | _, sepBy1 g h | _, chainLeft1 g h | _, chainRight1 g h =>
    g.TracesTellings naming ∧ h.TracesTellings naming
  | _, between opening g closing =>
    opening.TracesTellings naming ∧ g.TracesTellings naming ∧ closing.TracesTellings naming

variable {naming : ω → String} {spare : Nat}
  {call : (r : Rule) → Cursor → Logged ω (Reply (Result r))}

/-- A traced telling is entered, logged and matched, in one place. -/
theorem Tells.recorded {name : String} {g : Grammar (.telling Rule Result ω) α}
    (h : g.Tells naming name) :
    ((traced name g).parser spare (fun entry => .lift (Logged.tell entry)) call).Recorded
      naming := by
  rw [Parser.recorded_iff]
  intro c
  cases g with
  | perform entry =>
    rw [show name = naming entry from h]
    exact ⟨rfl, rfl⟩
  | _ => exact h.elim

/-- A grammar that traces what it tells is recorded if its rules are. Induction on the grammar: no
combinator adds to the log or reports anything, so all but the traced tellings pass on what their
parts have. -/
theorem TracesTellings.recorded (calls : ∀ r, (Parser.mk (call r)).Recorded naming)
    {g : Grammar (.telling Rule Result ω) α} (hg : g.TracesTellings naming) :
    (g.parser spare (fun entry => .lift (Logged.tell entry)) call).Recorded naming := by
  induction g with
  | terminal t => exact .terminal t
  | scan look =>
    refine .scan ?_
    rintro c _ rfl
    exact (look c).agree_same
  | rule r => exact calls r
  | perform entry => exact hg.elim
  | lift a => exact .lift ⟨rfl, rfl, rfl⟩
  | pure a => exact .pure rfl
  | fail message => exact .fail message
  | empty => exact .empty
  | bind g next ih ihnext => exact (ih hg.1).bind fun a _ same => same ▸ ihnext a (hg.2 a)
  | map f g ih => exact (ih hg).map fun _ _ same => congrArg f same
  | applyTo function argument ihf iha =>
    exact ((ihf hg.1).mono fun _ _ same _ _ value => congr same value).applyTo (iha hg.2)
  | pair g h ihg ihh => exact ((ihg hg.1).pair (ihh hg.2)).mono fun _ _ => Both.eq
  | keepLeft g h ihg ihh => exact (ihg hg.1).keepLeft (ihh hg.2)
  | keepRight g h ihg ihh => exact (ihg hg.1).keepRight (ihh hg.2)
  | between opening g closing iho ihg ihc => exact .between (iho hg.1) (ihg hg.2.1) (ihc hg.2.2)
  | discard g ih => exact (ih hg).discard
  | lexeme g ih => exact (ih hg).lexeme
  | orElse g h ihg ihh => exact (ihg hg.1).orElse (ihh hg.2)
  | orDefault default g ih => exact .orDefault rfl (ih hg)
  | optional g ih => exact (ih hg).optional.mono fun _ _ => eq_of_rel_eq
  | notAhead g ih => exact (ih hg).notAhead
  | many g ih => exact ((ih hg).many spare).mono fun _ _ => eq_of_forall₂_eq
  | many1 g ih => exact ((ih hg).many1 spare).mono fun _ _ => eq_of_forall₂_eq
  | count times g ih => exact (Parser.Alike.count times (ih hg)).mono fun _ _ => eq_of_forall₂_eq
  | sepBy item separator ih ih' =>
    exact ((ih hg.1).sepBy (ih' hg.2) spare).mono fun _ _ => eq_of_forall₂_eq
  | sepBy1 item separator ih ih' =>
    exact ((ih hg.1).sepBy1 (ih' hg.2) spare).mono fun _ _ => eq_of_forall₂_eq
  | chainLeft1 operand operator ih ih' =>
    exact (ih hg.1).chainLeft1 ((ih' hg.2).mono fun _ _ => Operators.of_eq) spare
  | chainRight1 operand operator ih ih' =>
    exact (ih hg.1).chainRight1 ((ih' hg.2).mono fun _ _ => Operators.of_eq) spare
  | label message g ih => exact .label message (ih hg)
  | withSpan g ih => exact (ih hg).withSpan.mono fun _ _ both => Prod.ext both.1 both.2
  | traced name g _ => exact Tells.recorded hg

end Grammar

/-- Grammars over rules that trace what they tell, and nothing else, are recorded. Induction on the
depth of open calls. -/
theorem Bodies.recorded {naming : ω → String} {bodies : Bodies (.telling Rule Result ω)}
    (traces : ∀ r, (bodies r).TracesTellings naming) (spare depth : Nat)
    {g : Grammar (.telling Rule Result ω) α} (hg : g.TracesTellings naming) :
    (bodies.parserAt spare (fun entry => .lift (Logged.tell entry)) depth g).Recorded naming := by
  have calls : ∀ r, (Parser.mk
      (bodies.call spare (fun entry => .lift (Logged.tell entry)) depth r)).Recorded naming := by
    induction depth with
    -- A call that is not allowed neither tells nor reports anything.
    | zero => exact fun r => Parser.recorded_iff.2 fun c => ⟨rfl, rfl⟩
    | succ depth ih => exact fun r => (traces r).recorded ih
  exact hg.recorded calls

/-- The reports of the beginning and of the outcome of a parse name nothing. -/
theorem Parser.Recorded.parseWith {naming : ω → String} {p : Parser (Logged ω) α}
    (h : p.Recorded naming) (config : Config) (text : String) :
    (p.parseWith config text).Recorded naming := by
  refine (Alike.parseWith h (fun _ => ⟨trivial, rfl, rfl⟩) ?_ config text).2
  -- An unfinished reply has no outcome to report.
  rintro (_ | _ | _) closing ⟨⟩
  · exact ⟨trivial, rfl, rfl⟩
  · exact ⟨trivial, rfl, rfl⟩

/-- The log of a parse is kept in order of execution.

Where each telling is traced under the name of its entry and nothing else is, the names of the
entries of the log are, one by one and in order, the names of what was entered and the names of what
matched. The log and the reports are both read off the record of the parse to which each telling and
each report was added when it happened. -/
theorem Bodies.log_in_order {naming : ω → String} {bodies : Bodies (.telling Rule Result ω)}
    (traces : ∀ r, (bodies r).TracesTellings naming) {g : Grammar (.telling Rule Result ω) α}
    (hg : g.TracesTellings naming) (spare depth : Nat) (config : Config) (text : String) :
    let told : Logged ω (Reply α) :=
      (bodies.parserAt spare (fun entry => .lift (Logged.tell entry)) depth g).parseWith config text
    let timed :=
      ((bodies.parserAt spare (fun entry => .lift (Timed.tell entry)) depth g).parseWith config
        text).run []
    told.events.filterMap Event.enteredName? = told.log.map naming ∧
      told.events.filterMap Event.matchedName? = told.log.map naming ∧
      timed.1 = told.value ∧ timed.2.filterMap Happening.entry? = told.log ∧
      timed.2.filterMap Happening.event? = told.events := by
  intro told timed
  have recorded : told.Recorded naming :=
    (Bodies.recorded traces spare depth hg).parseWith config text
  exact ⟨recorded.1, recorded.2, bodies.parseWith_timed spare depth g config text⟩

/-- Nested brackets, of which each opening one is told under a trace of the same name. -/
def Sample.Nesting.heard (opening : String) : Bodies (announcing String)
  | .nesting =>
    .orElse
      (.map (· + 1)
        (.keepLeft
          (.keepRight
            (.keepRight (.terminal (.skipChar '('))
              (.traced opening (.perform (V := announcing String) opening)))
            (.rule (V := announcing String) Sample.Nesting.Rule.nesting))
          (.terminal (.skipChar ')'))))
      (.pure 0)

/-- Brackets that are given up are heard, and an argument is heard before its function. -/
theorem Bodies.log_in_order_nesting :
    let bodies := Sample.Nesting.heard "bracket"
    let g : Grammar (Sample.Nesting.announcing String) Nat :=
      .applyTo
        (.map (fun _ depth => depth)
          (.traced "function" (.perform (V := Sample.Nesting.announcing String) "function")))
        (bodies .nesting)
    let told : Logged String (Reply Nat) :=
      (bodies.parserAt 0 (fun entry => .lift (Logged.tell entry)) 4 g).parseWith {} "(()"
    (∀ r, (bodies r).TracesTellings id) ∧ g.TracesTellings id ∧
      told.log = ["bracket", "bracket", "function"] ∧
      told.events.filterMap Event.enteredName? = ["bracket", "bracket", "function"] ∧
      told.events.filterMap Event.matchedName? = ["bracket", "bracket", "function"] := by
  intro bodies g told
  have traces : ∀ r, (bodies r).TracesTellings id := by
    rintro ⟨⟩
    exact ⟨⟨⟨⟨trivial, rfl⟩, trivial⟩, trivial⟩, trivial⟩
  have hg : g.TracesTellings id := ⟨rfl, traces .nesting⟩
  have hlog : told.log = ["bracket", "bracket", "function"] := by decide +kernel
  obtain ⟨entered, matched, -⟩ := Bodies.log_in_order traces hg 0 4 {} "(()"
  rw [List.map_id] at entered matched
  exact ⟨traces, hg, hlog, entered.trans hlog, matched.trans hlog⟩

end Descent
