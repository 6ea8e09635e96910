import Descent.Effect

/-!
# The aborting effect

An abortable computation may stop the whole parse for a reason of its host. Nothing that would come
later is run, so the reason of the first abort is the outcome, and no event is reported after it.
-/

namespace Descent

/-- A value or the reason why the host stopped, and the events reported up to then. -/
@[ext]
structure Abortable (ε α : Type) where
  result : Except ε α
  events : List Event := []

namespace Abortable

variable {ε σ α β : Type}

/-- Stops everything. -/
def abort (reason : ε) : Abortable ε α := ⟨.error reason, []⟩

/-- The second computation runs only if the first has a value. -/
def andThen (first : Abortable ε α) (next : α → Abortable ε β) : Abortable ε β :=
  match first.result with
  | .ok a =>
    let second := next a
    ⟨second.result, first.events ++ second.events⟩
  | .error reason => ⟨.error reason, first.events⟩

/-- Repeats a step until it ends or aborts. The events so far are held last one first. -/
def loop (step : σ → Abortable ε (Flow σ α)) :
    (bound : Nat) → (events : List Event) → σ → Abortable ε (Option α)
  | 0, events, _ => ⟨.ok none, events.reverse⟩
  | bound + 1, events, state =>
    let result := step state
    let events := result.events.reverseAux events
    match result.result with
    | .ok (.again next) => loop step bound events next
    | .ok (.done value) => ⟨.ok (some value), events.reverse⟩
    | .error reason => ⟨.error reason, events.reverse⟩

instance : Effect (Abortable ε) where
  pure a := ⟨.ok a, []⟩
  map f x := ⟨x.result.map f, x.events⟩
  bind := andThen
  emit event := ⟨.ok (), [event]⟩
  iterate step bound start := loop step bound [] start

/-! ### Chains, by the result of their first link -/

theorem pure_eq (a : α) : (pure a : Abortable ε α) = ⟨.ok a, []⟩ := rfl

theorem map_eq (f : α → β) (x : Abortable ε α) : f <$> x = ⟨x.result.map f, x.events⟩ := rfl

theorem ok_bind (a : α) (events : List Event) (f : α → Abortable ε β) :
    (⟨.ok a, events⟩ : Abortable ε α) >>= f = ⟨(f a).result, events ++ (f a).events⟩ := rfl

theorem error_bind (reason : ε) (events : List Event) (f : α → Abortable ε β) :
    (⟨.error reason, events⟩ : Abortable ε α) >>= f = ⟨.error reason, events⟩ := rfl

/-- Chains group to either side: the first abort of a chain is the same in both groupings. -/
theorem bind_assoc {γ : Type} (x : Abortable ε α) (f : α → Abortable ε β)
    (g : β → Abortable ε γ) : x >>= f >>= g = x >>= fun a => f a >>= g := by
  rcases x with ⟨_ | a, events⟩
  · rfl
  · rw [ok_bind, ok_bind]
    rcases h : f a with ⟨_ | b, more⟩
    · rfl
    · simp [ok_bind]

instance : LawfulMonad (Abortable ε) :=
  LawfulMonad.mk' (Abortable ε)
    (by rintro α ⟨_ | _, _⟩ <;> rfl)
    (by intro α β a f; rw [pure_eq, ok_bind]; rfl)
    bind_assoc
    (fun _ _ => rfl) (fun _ _ => rfl) (fun _ _ => rfl)
    (by
      rintro α β f ⟨_ | _, _⟩
      · rfl
      · simp [ok_bind, pure_eq, map_eq, Except.map])

/-- A loop reports what was held at its start, then what its steps report. -/
theorem loop_eq_unroll (step : σ → Abortable ε (Flow σ α)) (bound : Nat) (events : List Event)
    (start : σ) :
    loop step bound events start =
      ⟨(Flow.unroll step bound start).result,
        events.reverse ++ (Flow.unroll step bound start).events⟩ := by
  induction bound generalizing events start with
  | zero => simp [loop, Flow.unroll, pure_eq]
  | succ bound ih =>
    rw [loop, Flow.unroll]
    rcases h : step start with ⟨_ | flow, more⟩
    · simp [error_bind, List.reverseAux_eq]
    · cases flow with
      | again next => simp [ok_bind, ih, List.reverseAux_eq]
      | done value => simp [ok_bind, pure_eq, List.reverseAux_eq]

instance : LawfulEffect (Abortable ε) where
  iterate_eq step bound start := by
    show loop step bound [] start = _
    rw [loop_eq_unroll]
    rfl

end Abortable

end Descent
