import Descent.Effect

/-!
# The plain effect

A plain computation does nothing but yield its value and report events.
-/

namespace Descent

/-- A value, and the events reported on the way to it. -/
@[ext]
structure Plain (α : Type) where
  value : α
  events : List Event := []

namespace Plain

variable {σ α β : Type}

/-- Events of the second computation follow those of the first. -/
def andThen (first : Plain α) (next : α → Plain β) : Plain β :=
  let second := next first.value
  ⟨second.value, first.events ++ second.events⟩

/-- Repeats a step. The events so far are held last one first. -/
def loop (step : σ → Plain (Flow σ α)) :
    (bound : Nat) → (events : List Event) → σ → Plain (Option α)
  | 0, events, _ => ⟨none, events.reverse⟩
  | bound + 1, events, state =>
    let result := step state
    let events := result.events.reverseAux events
    match result.value with
    | .again next => loop step bound events next
    | .done value => ⟨some value, events.reverse⟩

instance : Effect Plain where
  pure a := ⟨a, []⟩
  map f x := ⟨f x.value, x.events⟩
  bind := andThen
  emit event := ⟨(), [event]⟩
  iterate step bound start := loop step bound [] start

/-! ### What each operation yields and reports -/

@[simp] theorem value_pure (a : α) : (pure a : Plain α).value = a := rfl

@[simp] theorem events_pure (a : α) : (pure a : Plain α).events = [] := rfl

@[simp] theorem value_bind (x : Plain α) (f : α → Plain β) :
    (x >>= f).value = (f x.value).value := rfl

@[simp] theorem events_bind (x : Plain α) (f : α → Plain β) :
    (x >>= f).events = x.events ++ (f x.value).events := rfl

@[simp] theorem value_map (f : α → β) (x : Plain α) : (f <$> x).value = f x.value := rfl

@[simp] theorem events_map (f : α → β) (x : Plain α) : (f <$> x).events = x.events := rfl

instance : LawfulMonad Plain :=
  LawfulMonad.mk' Plain (fun _ => rfl)
    (by intro α β a f; apply Plain.ext <;> simp)
    (by intro α β γ x f g; apply Plain.ext <;> simp)
    (fun _ _ => rfl) (fun _ _ => rfl) (fun _ _ => rfl)
    (by intro α β f x; apply Plain.ext <;> simp)

/-- A loop reports what was held at its start, then what its steps report. -/
theorem loop_eq_unroll (step : σ → Plain (Flow σ α)) (bound : Nat) (events : List Event)
    (start : σ) :
    loop step bound events start =
      ⟨(Flow.unroll step bound start).value,
        events.reverse ++ (Flow.unroll step bound start).events⟩ := by
  induction bound generalizing events start with
  | zero => simp [loop, Flow.unroll]
  | succ bound ih =>
    rw [loop, Flow.unroll]
    cases h : (step start).value with
    | again next => simp [h, ih, List.reverseAux_eq]
    | done value => simp [h, List.reverseAux_eq]

instance : LawfulEffect Plain where
  iterate_eq step bound start := by
    show loop step bound [] start = _
    rw [loop_eq_unroll]
    rfl

end Plain

end Descent
