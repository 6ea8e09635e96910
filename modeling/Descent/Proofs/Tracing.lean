import Descent.Proofs.Behind
import Descent.Proofs.Bracketing
import Descent.Proofs.TerminalReply

/-!
# Traced parsers report in brackets

Every run of a grammar takes its course: when it succeeds or fails, inside the text, its reports are
nested, and when it is unfinished or interrupted they are broken off (`Bodies.sound`). A whole parse
encloses them between its own two reports (`Parser.parseWith_reported`).

Combinators report nothing of their own, traced parsers apart, and run their parts one after the
other, none after an unfinished one. So all but the last lemma on combinators only say which part is
run from which place.
-/

namespace Descent

variable {m : Type → Type} [Effect m] {T : Transcripts m} {α β γ : Type}

/-- A computation with a reply from the given place takes its course inside the text. It is stuck
when the reply is unfinished. -/
def Transcripts.Sound (T : Transcripts m) (c : Cursor) (x : m (Reply α)) : Prop :=
  T.Course c.limit (Reply.Within c) (· = .unfinished) x

namespace Transcripts.Sound

variable {c d : Cursor} {x : m (Reply α)}

theorem pure {reply : Reply α} (h : reply.Within c) : T.Sound c (Pure.pure reply) :=
  Course.pure (.inl h)

/-- What is sound from a later place is sound from an earlier one. -/
theorem of_onward (place : c.Onward d) (h : T.Sound d x) : T.Sound c x := by
  rw [Sound, ← place.limit_eq]
  exact h.mono (fun _ within => within.of_onward place) fun _ stuck => stuck

/-- To go on from a reply is sound if it is after a success and after a failure, and if nothing is
done after an unfinished one. -/
theorem bind {f : Reply α → m (Reply β)} (h : T.Sound c x)
    (success : ∀ a next, c.Onward next → T.Sound c (f (.success a next)))
    (failure : ∀ e : Failure, (.failure e : Reply β).Within c → T.Sound c (f (.failure e)))
    (unfinished : f .unfinished = Pure.pure .unfinished) : T.Sound c (x >>= f) := by
  refine Course.bind h (fun reply within => ?_) ?_
  · cases reply with
    | success a next => exact success a next within.onward
    | failure e => exact failure e within
    | unfinished =>
      rw [unfinished]
      exact pure trivial
  · rintro _ rfl
    exact ⟨.unfinished, unfinished, rfl⟩

/-- How a run that yields a reply has gone. -/
theorem outcome {events : List Event} {reply : Reply α} (h : T.Sound c x)
    (run : T.Runs x events (some reply)) : Event.Broken c.limit events ∧
      (reply = .unfinished ∨
        reply ≠ .unfinished ∧ Event.Nested c.limit events ∧ reply.Within c) := by
  obtain ⟨broken, outcome⟩ := h events (some reply) run
  refine ⟨broken, ?_⟩
  by_cases finished : reply = .unfinished
  · exact .inl finished
  · exact .inr ⟨finished, (outcome reply rfl).resolve_right finished⟩

theorem map [LawfulEffect m] {f : Reply α → Reply β} (h : T.Sound c x)
    (within : ∀ reply, reply.Within c → (f reply).Within c)
    (unfinished : f .unfinished = .unfinished) : T.Sound c (f <$> x) :=
  Course.map h (fun reply inside => .inl (within reply inside)) (by rintro _ rfl; exact unfinished)

/-- A loop over replies is sound if its steps are, each of which may itself be stuck in an
unfinished reply. A loop that is given too few steps is unfinished as well. -/
theorem loop [LawfulEffect m] {σ : Type} {I : σ → Prop} {step : σ → m (Flow σ (Reply α))}
    (steps : ∀ s, I s → T.Course c.limit (Flow.Always I (Reply.Within c))
      (fun flow => ∃ reply, flow = .done reply ∧ reply = .unfinished) (step s))
    (bound : Nat) {s : σ} (h : I s) :
    T.Sound c ((fun result => result.getD .unfinished) <$> Effect.iterate step bound s) := by
  refine (Course.iterate steps bound h).map ?_ ?_
  · rintro (_ | reply) within
    · exact .inr rfl
    · exact .inl (within reply rfl)
  · -- A loop that is stuck has given an unfinished reply, and keeps it.
    rintro _ ⟨_, rfl, rfl⟩
    rfl

end Transcripts.Sound

/-! ## Combinators -/

namespace Parser

/-- From every place, the parser takes its course. -/
def Sound (T : Transcripts m) (p : Parser m α) : Prop := ∀ c, T.Sound c (p.run c)

namespace Sound

variable {p : Parser m α} {q : Parser m β}

theorem pure (a : α) : (Parser.pure a : Parser m α).Sound T :=
  fun c => .pure (Reply.within_success (.refl c))

theorem fail (message : String) : (Parser.fail message : Parser m α).Sound T :=
  fun c => .pure (Reply.within_failure c message)

theorem bind {next : α → Parser m β} (h : p.Sound T) (h' : ∀ a, (next a).Sound T) :
    (p.bind next).Sound T :=
  fun c =>
    (h c).bind (fun a d place => .of_onward place (h' a d)) (fun _ within => .pure within) rfl

theorem orElse {q : Parser m α} (h : p.Sound T) (h' : q.Sound T) : (p.orElse q).Sound T :=
  fun c => (h c).bind (fun _ _ place => .pure (Reply.within_success place)) (fun _ _ => h' c) rfl

/-- A traced parser is entered, runs, and reports how it ended. -/
theorem traced (name : String) (h : p.Sound T) : (Parser.traced name p).Sound T := by
  intro c events result run
  have inside : c.position ≤ c.limit := c.position_le_limit
  obtain ⟨during, rfl, entered⟩ := T.emit_bind run
  obtain ⟨rfl, cut⟩ | ⟨reply, body, after, rfl, ran, ending⟩ := T.bind entered
  · -- It was interrupted before it could end.
    exact ⟨(h c during none cut).1.entered name inside, fun _ impossible => nomatch impossible⟩
  obtain ⟨rfl, rfl⟩ := T.report (reply.traceEvent? name c) reply ending
  obtain ⟨broken, rfl | ⟨finished, nested, within⟩⟩ := (h c).outcome ran
  · exact ⟨(body.append_nil.symm ▸ broken).entered name inside, by rintro _ ⟨rfl⟩; exact .inr rfl⟩
  -- The event at the end fits the reply, and closes what was opened on entry.
  have closed : Event.Nested c.limit
      (.entered name c.position :: (body ++ (reply.traceEvent? name c).toList)) := by
    cases reply with
    | success a next =>
      have place : c.Onward next := within.onward
      exact .matched place.2 (place.limit_eq ▸ next.position_le_limit) nested .nil
    | failure e => exact .failed within.1 within.2 nested .nil
    | unfinished => exact absurd rfl finished
  exact ⟨closed.broken, by rintro _ ⟨rfl⟩; exact .inl ⟨closed, within⟩⟩

variable [LawfulEffect m]

theorem terminal (t : Terminal α) : (t.parser : Parser m α).Sound T := by
  intro c
  rw [t.run_eq]
  exact .pure (t.reply_within c)

theorem lift (a : α) : (Parser.lift (Pure.pure a : m α)).Sound T := by
  intro c
  show T.Sound c ((fun a => Reply.success a c) <$> Pure.pure a)
  rw [map_pure]
  exact .pure (Reply.within_success (.refl c))

theorem map (f : α → β) (h : p.Sound T) : (p.map f).Sound T :=
  fun c => (h c).map (fun _ within => within.map f) rfl

theorem both (combine : α → β → γ) (h : p.Sound T) (h' : q.Sound T) :
    (Parser.both combine p q).Sound T :=
  fun c => (h c).bind
    (fun a d place => .of_onward place ((h' d).map (fun _ within => within.map (combine a)) rfl))
    (fun _ within => .pure within) rfl

theorem between {r : Parser m γ} (h : p.Sound T) (h' : q.Sound T) (h'' : r.Sound T) :
    (Parser.between p q r).Sound T := by
  rw [between_eq_keepLeft]
  exact (h.both _ h').both _ h''

theorem orDefault (default : α) (h : p.Sound T) : (p.orDefault default).Sound T :=
  fun c => (h c).map (fun _ within => within.recover default) rfl

theorem optional (h : p.Sound T) : p.optional.Sound T :=
  fun c => (h c).map (fun _ within => (within.map some).recover none) rfl

theorem notAhead (h : p.Sound T) : p.notAhead.Sound T :=
  fun c => (h c).map (fun _ within => within.refuse _) rfl

theorem label (message : String) (h : p.Sound T) : (Parser.label message p).Sound T :=
  fun c => (h c).map (fun _ within => within.relabel message) rfl

theorem withSpan (h : p.Sound T) : p.withSpan.Sound T :=
  fun c => (h c).map (fun _ within => within.withSpan) rfl

/-- The runs of a repeated parser start onward from where the repetition did. -/
theorem foldMany (join : β → α → β) (init : β) (h : p.Sound T) (spare : Nat) :
    (Parser.foldMany join init p spare).Sound T := by
  intro c
  have steps : ∀ s : β × Cursor, c.Onward s.2 →
      T.Course c.limit (Flow.Always (fun s => c.Onward s.2) (Reply.Within c))
        (fun flow => ∃ reply, flow = .done reply ∧ reply = .unfinished)
        (Parser.foldStep join p s) := by
    rintro ⟨b, d⟩ place
    refine Transcripts.Course.map (.of_onward place (h d) : T.Sound c (p.run d)) ?_ ?_
    · -- A failing run ends the repetition where it began, which is inside of the text.
      rintro (⟨a, next⟩ | e | _) within
      · exact .inl (.again within.onward)
      · exact .inl (.done (Reply.within_success place))
      · exact .inl (.done trivial)
    · rintro _ rfl
      exact ⟨.unfinished, rfl, rfl⟩
  exact Transcripts.Sound.loop steps (c.remaining + 1 + spare) (.refl c)

theorem manyAfter (earlier : List α) (h : p.Sound T) (spare : Nat) :
    (Parser.manyAfter earlier p spare).Sound T :=
  map _ (foldMany _ earlier h spare)

theorem count (times : Nat) (h : p.Sound T) : (p.count times).Sound T := by
  intro c
  have steps : ∀ s : Nat × List α × Cursor, c.Onward s.2.2 →
      T.Course c.limit (Flow.Always (fun s => c.Onward s.2.2) (Reply.Within c))
        (fun flow => ∃ reply, flow = .done reply ∧ reply = .unfinished) (Parser.countStep p s) := by
    rintro ⟨_ | left, items, d⟩ place
    · exact .pure (.inl (.done (Reply.within_success place)))
    refine Transcripts.Course.map (.of_onward place (h d) : T.Sound c (p.run d)) ?_ ?_
    · rintro (⟨a, next⟩ | e | _) within
      · exact .inl (.again within.onward)
      · exact .inl (.done within)
      · exact .inl (.done trivial)
    · rintro _ rfl
      exact ⟨.unfinished, rfl, rfl⟩
  exact Transcripts.Sound.loop steps (times + 1) (.refl c)

theorem foldBehind (join : γ → β → α → γ) (init : γ) (h' : q.Sound T) (h : p.Sound T)
    (spare : Nat) : (Parser.foldBehind join init q p spare).Sound T := by
  rw [foldBehind_eq_foldMany]
  exact foldMany _ _ (both _ h' h) spare

theorem itemsAfter (a : α) (h : p.Sound T) (h' : q.Sound T) (spare : Nat) :
    (Parser.itemsAfter a p q spare).Sound T :=
  map _ (foldBehind _ _ h' h spare)

theorem sepBy (h : p.Sound T) (h' : q.Sound T) (spare : Nat) : (p.sepBy q spare).Sound T :=
  fun c => (h c).bind
    (fun a d place => .of_onward place (itemsAfter a h h' spare d))
    (fun _ _ => .pure (Reply.within_success (.refl c))) rfl

end Sound

end Parser

/-! ## Grammars -/

variable {V : Vocabulary} [LawfulEffect m]

/-- A grammar takes its course if its actions and its rules do. Induction on the grammar. -/
theorem Grammar.sound {perform : (action : V.Action) → Parser m (V.Answer action)}
    {call : (r : V.Rule) → Cursor → m (Reply (V.Result r))}
    (performs : ∀ action, (perform action).Sound T) (calls : ∀ r, (Parser.mk (call r)).Sound T)
    (spare : Nat) {α : Type} {g : Grammar V α} (looks : g.LooksWithin) :
    (g.parser spare perform call).Sound T := by
  induction g with
  | terminal t => exact .terminal t
  | scan look => exact fun c => .pure (looks c)
  | rule r => exact calls r
  | perform action => exact performs action
  | lift a => exact .lift a
  | pure a => exact .pure a
  | fail message => exact .fail message
  | empty => exact .fail _
  | bind g next ih ihnext => exact (ih looks.1).bind fun a => ihnext a (looks.2 a)
  | map f g ih => exact (ih looks).map f
  | applyTo g h ihg ihh => exact .both _ (ihh looks.2) (ihg looks.1)
  | pair g h ihg ihh => exact .both _ (ihg looks.1) (ihh looks.2)
  | keepLeft g h ihg ihh => exact .both _ (ihg looks.1) (ihh looks.2)
  | keepRight g h ihg ihh => exact .both _ (ihg looks.1) (ihh looks.2)
  | between opening g closing iho ihg ihc =>
    exact .between (iho looks.1) (ihg looks.2.1) (ihc looks.2.2)
  | discard g ih => exact (ih looks).map _
  | lexeme g ih => exact .both _ (ih looks) (.terminal .spaces)
  | orElse g h ihg ihh => exact (ihg looks.1).orElse (ihh looks.2)
  | orDefault default g ih => exact (ih looks).orDefault default
  | optional g ih => exact (ih looks).optional
  | notAhead g ih => exact (ih looks).notAhead
  | many g ih => exact .manyAfter [] (ih looks) spare
  | many1 g ih => exact (ih looks).bind fun a => .manyAfter [a] (ih looks) spare
  | count times g ih => exact .count times (ih looks)
  | sepBy g h ihg ihh => exact (ihg looks.1).sepBy (ihh looks.2) spare
  | sepBy1 g h ihg ihh =>
    exact (ihg looks.1).bind fun a => .itemsAfter a (ihg looks.1) (ihh looks.2) spare
  | chainLeft1 g h ihg ihh =>
    exact (ihg looks.1).bind fun a => .foldBehind _ a (ihh looks.2) (ihg looks.1) spare
  | chainRight1 g h ihg ihh =>
    exact (ihg looks.1).bind fun a =>
      .map _ (.foldBehind _ [] (ihh looks.2) (ihg looks.1) spare)
  | label message g ih => exact (ih looks).label message
  | withSpan g ih => exact (ih looks.2).withSpan
  | traced name g ih => exact (ih looks).traced name

/-- A grammar takes its course over any rules. Induction on the depth of open calls. -/
theorem Bodies.sound {bodies : Bodies V}
    {perform : (action : V.Action) → Parser m (V.Answer action)}
    (performs : ∀ action, (perform action).Sound T) (looks : ∀ r, (bodies r).LooksWithin)
    (spare depth : Nat) {g : Grammar V α} (hg : g.LooksWithin) :
    (bodies.parserAt spare perform depth g).Sound T := by
  have calls : ∀ r, (Parser.mk (bodies.call spare perform depth r)).Sound T := by
    induction depth with
    | zero => exact fun _ _ => .pure trivial
    | succ depth ih => exact fun r => Grammar.sound performs ih spare (looks r)
  exact Grammar.sound performs calls spare hg

/-! ## Whole parses -/

/-- What a whole parse of so many characters has reported, by its result: first its beginning, then
the reports of traced parsers, which are nested if the parse came to an end, and then its outcome. A
parse that is interrupted or would go on for ever is broken off among these. -/
inductive Event.Reported (limit : Nat) : Option (Reply α) → List Event → Prop where
  | ended {reply : Reply α} {closing : Event} {body : List Event}
      (outcome : reply.closingEvent? = some closing) (nested : Nested limit body) :
      Reported limit (some reply) (.opened limit :: (body ++ [closing]))
  | unfinished {body : List Event} (broken : Broken limit body) :
      Reported limit (some .unfinished) (.opened limit :: body)
  | interrupted {body : List Event} (broken : Broken limit body) :
      Reported limit none (.opened limit :: body)

theorem Parser.parseWith_reported {p : Parser m α} (h : p.Sound T) (config : Config) (text : String)
    {events : List Event} {result : Option (Reply α)}
    (run : T.Runs (p.parseWith config text) events result) :
    Event.Reported text.length result events := by
  have judged : T.Sound (Cursor.ofString text)
      (config.judge <$> p.run (Cursor.ofString text)) := by
    refine (h _).map (fun reply within => ?_) ?_
    · rw [Config.judge]
      split
      · exact within.requireEnd _
      · exact within
    · rw [Config.judge]
      split <;> rfl
  rw [← Cursor.limit_ofString]
  obtain ⟨during, rfl, began⟩ := T.emit_bind run
  obtain ⟨rfl, cut⟩ | ⟨reply, body, after, rfl, ran, ending⟩ := T.bind began
  · -- The parse was interrupted, so no outcome is reported.
    exact .interrupted (judged during none cut).1
  obtain ⟨rfl, rfl⟩ := T.report reply.closingEvent? reply ending
  obtain ⟨broken, rfl | ⟨finished, nested, _⟩⟩ := judged.outcome ran
  · exact .unfinished (body.append_nil.symm ▸ broken)
  cases reply with
  -- What is reported at the end is the outcome of the reply, whichever it is.
  | success a next => exact .ended rfl nested
  | failure e => exact .ended rfl nested
  | unfinished => exact absurd rfl finished

end Descent
