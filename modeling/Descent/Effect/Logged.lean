import Descent.Effect

/-!
# The logging effect

A logged computation may write entries to a log. The log of a chain is the log of its first link
followed by the logs of the others, so entries stand in the order in which they were written.
-/

namespace Descent

/-- A value, the entries written and the events reported on the way to it. -/
@[ext]
structure Logged (ω α : Type) where
  value : α
  log : List ω := []
  events : List Event := []

namespace Logged

variable {ω σ α β : Type}

/-- Writes one entry. -/
def tell (entry : ω) : Logged ω Unit := ⟨(), [entry], []⟩

/-- Entries and events of the second computation follow those of the first. -/
def andThen (first : Logged ω α) (next : α → Logged ω β) : Logged ω β :=
  let second := next first.value
  ⟨second.value, first.log ++ second.log, first.events ++ second.events⟩

/-- Repeats a step. Entries and events so far are held last one first. -/
def loop (step : σ → Logged ω (Flow σ α)) :
    (bound : Nat) → (log : List ω) → (events : List Event) → σ → Logged ω (Option α)
  | 0, log, events, _ => ⟨none, log.reverse, events.reverse⟩
  | bound + 1, log, events, state =>
    let result := step state
    let log := result.log.reverseAux log
    let events := result.events.reverseAux events
    match result.value with
    | .again next => loop step bound log events next
    | .done value => ⟨some value, log.reverse, events.reverse⟩

instance : Effect (Logged ω) where
  pure a := ⟨a, [], []⟩
  map f x := ⟨f x.value, x.log, x.events⟩
  bind := andThen
  emit event := ⟨(), [], [event]⟩
  iterate step bound start := loop step bound [] [] start

/-! ### What each operation yields, writes and reports -/

@[simp] theorem value_pure (a : α) : (pure a : Logged ω α).value = a := rfl

@[simp] theorem log_pure (a : α) : (pure a : Logged ω α).log = [] := rfl

@[simp] theorem events_pure (a : α) : (pure a : Logged ω α).events = [] := rfl

@[simp] theorem value_bind (x : Logged ω α) (f : α → Logged ω β) :
    (x >>= f).value = (f x.value).value := rfl

@[simp] theorem log_bind (x : Logged ω α) (f : α → Logged ω β) :
    (x >>= f).log = x.log ++ (f x.value).log := rfl

@[simp] theorem events_bind (x : Logged ω α) (f : α → Logged ω β) :
    (x >>= f).events = x.events ++ (f x.value).events := rfl

@[simp] theorem value_map (f : α → β) (x : Logged ω α) : (f <$> x).value = f x.value := rfl

@[simp] theorem log_map (f : α → β) (x : Logged ω α) : (f <$> x).log = x.log := rfl

@[simp] theorem events_map (f : α → β) (x : Logged ω α) : (f <$> x).events = x.events := rfl

instance : LawfulMonad (Logged ω) :=
  LawfulMonad.mk' (Logged ω) (fun _ => rfl)
    (by intro α β a f; apply Logged.ext <;> simp)
    (by intro α β γ x f g; apply Logged.ext <;> simp)
    (fun _ _ => rfl) (fun _ _ => rfl) (fun _ _ => rfl)
    (by intro α β f x; apply Logged.ext <;> simp)

/-- A loop writes and reports what was held at its start, then what its steps write and report. -/
theorem loop_eq_unroll (step : σ → Logged ω (Flow σ α)) (bound : Nat) (log : List ω)
    (events : List Event) (start : σ) :
    loop step bound log events start =
      ⟨(Flow.unroll step bound start).value,
        log.reverse ++ (Flow.unroll step bound start).log,
        events.reverse ++ (Flow.unroll step bound start).events⟩ := by
  induction bound generalizing log events start with
  | zero => simp [loop, Flow.unroll]
  | succ bound ih =>
    rw [loop, Flow.unroll]
    cases h : (step start).value with
    | again next => simp [h, ih, List.reverseAux_eq]
    | done value => simp [h, List.reverseAux_eq]

instance : LawfulEffect (Logged ω) where
  iterate_eq step bound start := by
    show loop step bound [] [] start = _
    rw [loop_eq_unroll]
    rfl

end Logged

end Descent
