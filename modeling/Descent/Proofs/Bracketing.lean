import Descent.Proofs.Onward

/-!
# Well-bracketed reports

The reports of traced parsers are brackets: one is opened where a parser is entered and closed by
how it ended (`Event.Nested`). A run that is cut off leaves brackets open that would have been
closed (`Event.Broken`).

`Transcripts` says what the runs of a computation may report and yield, and which of them are
interrupted. A computation takes its `Course` when its reports are nested and its value is good, or
when it is stuck or interrupted and its reports are broken off. The course of a chain follows from
the courses of its links.
-/

namespace Descent

namespace Event

/-- The reports of traced parsers, one after the other or inside one another. Each that is entered
ends once and under its own name: by what it matched, from where it was entered to a later place
inside the text, or by a failure no earlier than where it was entered. -/
inductive Nested (limit : Nat) : List Event → Prop where
  | nil : Nested limit []
  | matched {name : String} {start stop : Nat} {inner rest : List Event} (forward : start ≤ stop)
      (inside : stop ≤ limit) (within : Nested limit inner) (after : Nested limit rest) :
      Nested limit (entered name start :: (inner ++ Event.matched name start stop :: rest))
  | failed {name : String} {start : Nat} {reason : Failure} {inner rest : List Event}
      (forward : start ≤ reason.position) (inside : reason.position ≤ limit)
      (within : Nested limit inner) (after : Nested limit rest) :
      Nested limit (entered name start :: (inner ++ Event.failed name reason :: rest))

/-- The beginning of nested reports, broken off at any place. -/
def Broken (limit : Nat) (events : List Event) : Prop :=
  ∃ later, Nested limit (events ++ later)

variable {limit : Nat} {first second : List Event}

/-- Nested reports follow one another. Induction on the first. -/
theorem Nested.append (h : Nested limit first) (h' : Nested limit second) :
    Nested limit (first ++ second) := by
  induction h with
  | nil => exact h'
  | matched forward inside within _ _ ih =>
    rw [List.cons_append, List.append_assoc]
    exact .matched forward inside within ih
  | failed forward inside within _ _ ih =>
    rw [List.cons_append, List.append_assoc]
    exact .failed forward inside within ih

theorem Nested.broken (h : Nested limit first) : Broken limit first :=
  ⟨[], by rwa [List.append_nil]⟩

theorem Broken.append (h : Nested limit first) (h' : Broken limit second) :
    Broken limit (first ++ second) := by
  obtain ⟨later, nested⟩ := h'
  exact ⟨later, by rw [List.append_assoc]; exact h.append nested⟩

/-- What is broken off inside a traced parser is broken off after the parser was entered, too. -/
theorem Broken.entered (name : String) {start : Nat} (inside : start ≤ limit)
    (h : Broken limit first) : Broken limit (entered name start :: first) := by
  obtain ⟨later, nested⟩ := h
  -- It could still have matched nothing.
  refine ⟨later ++ [.matched name start start], ?_⟩
  rw [List.cons_append, ← List.append_assoc]
  exact .matched (Nat.le_refl _) inside nested .nil

end Event

/-! ## Transcripts -/

/-- What the runs of a computation may report, and what they yield; an interrupted run yields
nothing. A chain is interrupted in its first link or runs both, and reports what its links report.
-/
structure Transcripts (m : Type → Type) [Effect m] where
  /-- A run of the computation may report the events and end with the value, or be interrupted. -/
  Runs : {α : Type} → m α → List Event → Option α → Prop
  pure {α : Type} {a : α} {events : List Event} {result : Option α} :
    Runs (pure a) events result → events = [] ∧ result = some a
  emit {e : Event} {events : List Event} {result : Option Unit} :
    Runs (Effect.emit e) events result → events = [e] ∧ result = some ()
  bind {α β : Type} {x : m α} {f : α → m β} {events : List Event} {result : Option β} :
    Runs (x >>= f) events result → result = none ∧ Runs x events none ∨
      ∃ a first second, events = first ++ second ∧ Runs x first (some a) ∧ Runs (f a) second result

/-- The one run of every computation, where each reports its events and yields its value. -/
def Transcripts.single {m : Type → Type} [Effect m] (eventsOf : ∀ {α : Type}, m α → List Event)
    (valueOf : ∀ {α : Type}, m α → α)
    (pure : ∀ {α : Type} (a : α),
      eventsOf (Pure.pure a : m α) = [] ∧ valueOf (Pure.pure a : m α) = a)
    (emit : ∀ e, eventsOf (Effect.emit e : m Unit) = [e])
    (bind : ∀ {α β : Type} (x : m α) (f : α → m β),
      eventsOf (x >>= f) = eventsOf x ++ eventsOf (f (valueOf x)) ∧
        valueOf (x >>= f) = valueOf (f (valueOf x))) : Transcripts m where
  Runs x events result := events = eventsOf x ∧ result = some (valueOf x)
  pure := by
    rintro α a _ _ ⟨rfl, rfl⟩
    exact ⟨(pure a).1, congrArg some (pure a).2⟩
  emit := by
    rintro e _ _ ⟨rfl, rfl⟩
    exact ⟨emit e, rfl⟩
  bind := by
    rintro α β x f _ _ ⟨rfl, rfl⟩
    obtain ⟨events, value⟩ := bind x f
    exact .inr ⟨valueOf x, eventsOf x, eventsOf (f (valueOf x)), events, ⟨rfl, rfl⟩, rfl,
      congrArg some value⟩

/-- The one run of a plain computation. -/
def Plain.transcripts : Transcripts Plain :=
  .single Plain.events Plain.value (fun _ => ⟨rfl, rfl⟩) (fun _ => rfl) fun _ _ => ⟨rfl, rfl⟩

/-- The one run of a logged computation. -/
def Logged.transcripts (ω : Type) : Transcripts (Logged ω) :=
  .single Logged.events Logged.value (fun _ => ⟨rfl, rfl⟩) (fun _ => rfl) fun _ _ => ⟨rfl, rfl⟩

/-- The one run of a tallied computation. -/
def Tally.transcripts (κ : Type) [Zero κ] [Add κ] : Transcripts (Tally κ) :=
  .single Tally.events Tally.value (fun _ => ⟨rfl, rfl⟩) (fun _ => rfl) fun _ _ => ⟨rfl, rfl⟩

/-- The one run of an abortable computation, which an abort interrupts. -/
def Abortable.transcripts (ε : Type) : Transcripts (Abortable ε) where
  Runs x events result := events = x.events ∧ result = x.result.toOption
  pure h := h
  emit h := h
  bind := by
    rintro α β ⟨_ | a, events⟩ f _ _ ⟨rfl, rfl⟩
    · exact .inl ⟨rfl, rfl, rfl⟩
    · exact .inr ⟨a, events, _, rfl, ⟨rfl, rfl⟩, ⟨rfl, rfl⟩⟩

namespace Transcripts

variable {m : Type → Type} [Effect m] {α β σ : Type}

/-- What reports an event and goes on reports the event first. -/
theorem emit_bind {T : Transcripts m} {e : Event} {f : Unit → m α} {events : List Event}
    {result : Option α} (run : T.Runs (Effect.emit e >>= f) events result) :
    ∃ later, events = e :: later ∧ T.Runs (f ()) later result := by
  obtain ⟨rfl, cut⟩ | ⟨_, first, later, rfl, report, following⟩ := T.bind run
  · cases (T.emit cut).2
  · obtain ⟨rfl, -⟩ := T.emit report
    exact ⟨later, rfl, following⟩

/-- What reports an event, if there is one, and yields a value. -/
theorem report {T : Transcripts m} (event? : Option Event) (a : α) {events : List Event}
    {result : Option α}
    (run : T.Runs (match event? with
      | some event => Effect.emit event >>= fun _ => Pure.pure a
      | none => Pure.pure a) events result) : events = event?.toList ∧ result = some a := by
  cases event? with
  | none => exact T.pure run
  | some event =>
    obtain ⟨_, rfl, yielded⟩ := T.emit_bind run
    obtain ⟨rfl, rfl⟩ := T.pure yielded
    exact ⟨rfl, rfl⟩

/-! ## Courses -/

/-- Whatever a run reports could be completed to nested reports, and if it yields a value, the
reports are nested and the value is good, or the computation is stuck with that value. -/
def Course (T : Transcripts m) (limit : Nat) (Good Stuck : α → Prop) (x : m α) : Prop :=
  ∀ events result, T.Runs x events result → Event.Broken limit events ∧
    ∀ a, result = some a → Event.Nested limit events ∧ Good a ∨ Stuck a

namespace Course

variable {T : Transcripts m} {limit : Nat} {Good Stuck : α → Prop} {Good' Stuck' : β → Prop}

theorem mono {x : m α} {Better Worse : α → Prop} (h : T.Course limit Good Stuck x)
    (good : ∀ a, Good a → Better a) (stuck : ∀ a, Stuck a → Worse a) :
    T.Course limit Better Worse x := by
  intro events result run
  obtain ⟨broken, outcome⟩ := h events result run
  refine ⟨broken, fun a ha => (outcome a ha).imp ?_ (stuck a)⟩
  rintro ⟨nested, value⟩
  exact ⟨nested, good a value⟩

theorem pure {a : α} (h : Good a ∨ Stuck a) : T.Course limit Good Stuck (Pure.pure a) := by
  intro events result run
  obtain ⟨rfl, rfl⟩ := T.pure run
  refine ⟨Event.Nested.nil.broken, ?_⟩
  rintro _ ⟨rfl⟩
  exact h.imp_left fun good => ⟨.nil, good⟩

/-- A chain takes its course if it goes on well from every good value, and if it is stuck at once
with every value with which its first link is stuck. -/
theorem bind {x : m α} {f : α → m β} (h : T.Course limit Good Stuck x)
    (good : ∀ a, Good a → T.Course limit Good' Stuck' (f a))
    (stuck : ∀ a, Stuck a → ∃ b, f a = Pure.pure b ∧ Stuck' b) :
    T.Course limit Good' Stuck' (x >>= f) := by
  intro events result run
  obtain ⟨rfl, cut⟩ | ⟨a, first, second, rfl, run, run'⟩ := T.bind run
  · exact ⟨(h events none cut).1, fun _ impossible => nomatch impossible⟩
  obtain ⟨broken, outcome⟩ := h first (some a) run
  obtain ⟨nested, value⟩ | value := outcome a rfl
  · obtain ⟨broken', outcome'⟩ := good a value second result run'
    exact ⟨broken'.append nested, fun b hb =>
      (outcome' b hb).imp_left fun ⟨nested', value'⟩ => ⟨nested.append nested', value'⟩⟩
  · -- The second link reports nothing.
    obtain ⟨b, eq, value'⟩ := stuck a value
    rw [eq] at run'
    obtain ⟨rfl, rfl⟩ := T.pure run'
    rw [List.append_nil]
    refine ⟨broken, ?_⟩
    rintro _ ⟨rfl⟩
    exact .inr value'

variable [LawfulEffect m]

theorem map {x : m α} {f : α → β} (h : T.Course limit Good Stuck x)
    (good : ∀ a, Good a → Good' (f a) ∨ Stuck' (f a)) (stuck : ∀ a, Stuck a → Stuck' (f a)) :
    T.Course limit Good' Stuck' (f <$> x) := by
  rw [← bind_pure_comp]
  exact h.bind (fun a value => .pure (good a value)) fun a value => ⟨f a, rfl, stuck a value⟩

/-- A loop takes its course if its steps do, from every state with the invariant. Only its result
can be stuck. Induction on the number of steps allowed. -/
theorem iterate {I : σ → Prop} {step : σ → m (Flow σ α)}
    (steps : ∀ s, I s →
      T.Course limit (Flow.Always I Good) (fun flow => ∃ a, flow = .done a ∧ Stuck a) (step s))
    (bound : Nat) {s : σ} (h : I s) :
    T.Course limit (fun result => ∀ a, result = some a → Good a)
      (fun result => ∃ a, result = some a ∧ Stuck a) (Effect.iterate step bound s) := by
  rw [LawfulEffect.iterate_eq]
  induction bound generalizing s with
  | zero => exact .pure (.inl fun _ impossible => nomatch impossible)
  | succ bound ih =>
    rw [Flow.unroll]
    refine (steps s h).bind ?_ ?_
    · rintro _ (next | value)
      · exact ih next
      · exact .pure (.inl fun _ eq => Option.some.inj eq ▸ value)
    · rintro _ ⟨a, rfl, value⟩
      exact ⟨some a, rfl, a, rfl, value⟩

end Course

end Transcripts

end Descent
