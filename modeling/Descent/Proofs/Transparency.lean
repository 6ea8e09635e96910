import Descent.Proofs.Observation
import Descent.Proofs.Wrappers

/-!
# Traces have no influence on a parse

Whoever sees nothing of reported events cannot tell a traced parser from the parser itself, and so
cannot tell a grammar from the grammar with all its traces taken off (`Grammar.untraced`).
-/

namespace Descent

variable {V : Vocabulary} {α : Type}

/-- No traces. -/
def Grammar.Wrapping.untraced : Wrapping V where
  fail message := message
  label := .label
  traced _ g := g

/-- The grammar without its traces. -/
def Grammar.untraced (g : Grammar V α) : Grammar V α := g.rewrap .untraced

variable {m n : Type → Type} [Effect m] [Monad n] [LawfulMonad n] {O : Observation m n}

/-- A traced parser looks like the parser where its reports are not seen. -/
theorem Parser.of_traced (ignores : O.IgnoresEvents) (name : String)
    (p : Parser m α) (c : Cursor) : O.of ((Parser.traced name p).run c) = O.of (p.run c) := by
  show O.of (Effect.emit (.entered name c.position) >>= fun _ => p.run c >>= fun reply => _) = _
  -- The report on entry is not seen, and neither is the one at the end, if there is any.
  rw [O.of_bind, ignores, pure_bind, O.of_bind]
  refine (bind_congr fun reply => ?_).trans (bind_pure _)
  cases reply.traceEvent? name c with
  | some event =>
    show O.of (Effect.emit event >>= fun _ => pure reply) = pure reply
    rw [O.of_bind, ignores, pure_bind, O.of_pure]
  | none => exact O.of_pure reply

variable [LawfulEffect m]

theorem Grammar.Wrapping.untraced_inert (ignores : O.IgnoresEvents)
    (spare : Nat) (perform : (action : V.Action) → Parser m (V.Answer action))
    (call : (r : V.Rule) → Cursor → m (Reply (V.Result r))) :
    Wrapping.untraced.Inert O.accord View.same spare perform call where
  look := by
    rintro β look c _ rfl
    exact (look c).agree_same
  stretch same := same
  fail message := .fail message
  label message _ _ h := .label message h
  traced name p _ h := fun c _ place =>
    Observation.accord_congr_left (h place) (Parser.of_traced ignores name p c)

/-- To whoever sees no reports, a run is the run without traces. -/
theorem Bodies.run_untraced (ignores : O.IgnoresEvents)
    (bodies : Bodies V) (spare depth : Nat)
    (perform : (action : V.Action) → Parser m (V.Answer action)) (g : Grammar V α) (c : Cursor) :
    O.of ((bodies.parserAt spare perform depth g).run c) =
      O.of ((Bodies.parserAt (fun r => (bodies r).untraced) spare perform depth
        g.untraced).run c) := by
  have performs : ∀ action, (perform action).Alike O.accord View.same Eq (perform action) := by
    rintro action c _ rfl
    exact Observation.accord_of_eq Reply.agree_same rfl
  have alike := Bodies.rewrap_alike (Grammar.Wrapping.untraced_inert ignores spare perform) performs
    bodies depth g (show View.same.Place c c from rfl)
  exact Observation.of_eq alike fun _ _ => Reply.Agree.eq_of_same

end Descent
