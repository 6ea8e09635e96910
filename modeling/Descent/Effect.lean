import Descent.Event

/-!
# Effects

A parser runs inside an effect: a monad that can also report events and repeat a step. Repetition is
an operation of its own so that an effect may run long loops without nesting. Its meaning is fixed
by `Flow.unroll`, which only binds: in a lawful effect, `Effect.iterate` is `Flow.unroll`.
-/

namespace Descent

/-- What one step of a loop decides. -/
inductive Flow (σ α : Type) where
  /-- The loop goes on from a new state. -/
  | again (state : σ)
  /-- The loop ends with a result. -/
  | done (result : α)

/-- Takes at most `bound` steps, each bound to the one before it, and gives the result of the loop,
or nothing if it has not ended by then. -/
def Flow.unroll {m : Type → Type} [Monad m] {σ α : Type} (step : σ → m (Flow σ α)) :
    (bound : Nat) → σ → m (Option α)
  | 0, _ => pure none
  | bound + 1, state => do
    match ← step state with
    | .again next => Flow.unroll step bound next
    | .done result => pure (some result)

/-- A monad in which parsers run. -/
class Effect (m : Type → Type) extends Monad m where
  /-- Reports an event. -/
  emit : Event → m Unit
  /-- Repeats a step, at most `bound` times. -/
  iterate {σ α : Type} (step : σ → m (Flow σ α)) (bound : Nat) (start : σ) : m (Option α) :=
    Flow.unroll step bound start

/-- An effect that obeys the laws of monads, and whose loops are chains of bound steps. -/
class LawfulEffect (m : Type → Type) [Effect m] : Prop extends LawfulMonad m where
  iterate_eq {σ α : Type} (step : σ → m (Flow σ α)) (bound : Nat) (start : σ) :
    Effect.iterate step bound start = Flow.unroll step bound start

end Descent
