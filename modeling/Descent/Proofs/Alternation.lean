import Descent.Effect.Abortable
import Descent.Effect.Logged
import Descent.Effect.Plain
import Descent.Effect.Tallied
import Descent.Parser.Choice
import Descent.Parser.Number

/-!
# Alternation and recovery

A choice between parsers is associative, and `Parser.empty` is its unit but for the failure that is
reported: after `p`, the failure of `Parser.empty` takes the place of the one of `p`. To recover
from a failure with a value is a choice whose second part is pure.

What all of this rests on is `orElse_of_failures`: after a first alternative that does something and
fails, the second one runs from where the first one started, and nothing of what was done is undone
or done again.
-/

namespace Descent

variable {α β : Type}

/-- Any failure is one at `start` with the given message. -/
def Reply.failAt (start : Cursor) (message : String) : Reply α → Reply α
  | .success a next => .success a next
  | .failure _ => .failure (start.failure message)
  | .unfinished => .unfinished

namespace Parser

variable {m : Type → Type} [Effect m] [LawfulMonad m]

/-! ## After the first alternative -/

/-- A first alternative that only ever fails, whatever it does on the way. -/
theorem orElse_of_failures {p : Parser m α} {c : Cursor} {doings : m Failure}
    (fails : p.run c = Reply.failure <$> doings) (q : Parser m α) :
    (p.orElse q).run c = doings >>= fun _ => q.run c := by
  show (p.run c >>= _) = _
  rw [fails, bind_map_left]

/-- A first alternative that only ever succeeds. -/
theorem orElse_of_successes {p : Parser m α} {c : Cursor} {doings : m (α × Cursor)}
    (succeeds : p.run c = (fun s => .success s.1 s.2) <$> doings) (q : Parser m α) :
    (p.orElse q).run c = p.run c := by
  show (p.run c >>= _) = _
  rw [succeeds, bind_map_left]
  exact bind_pure_comp _ doings

/-! ## The monoid of alternatives -/

theorem orElse_orElse (p q r : Parser m α) : (p.orElse q).orElse r = p.orElse (q.orElse r) := by
  -- Both groupings run the first parser, and whatever comes next starts where it did.
  refine Parser.ext fun c => (bind_assoc (p.run c) _ _).trans (bind_congr fun reply => ?_)
  cases reply with
  | success a rest => exact pure_bind _ _
  | failure e => rfl
  | unfinished => exact pure_bind _ _

theorem empty_orElse (p : Parser m α) : Parser.empty.orElse p = p :=
  Parser.ext fun _ => pure_bind _ _

theorem pure_orElse (a : α) (p : Parser m α) : (Parser.pure a).orElse p = .pure a :=
  Parser.ext fun _ => pure_bind _ _

/-- A second alternative that does nothing only changes the reply of the first one. -/
theorem orElse_run_of_pure {p q : Parser m α} {c : Cursor} {f : Reply α → Reply α}
    (second : ∀ e, q.run c = pure (f (.failure e)))
    (success : ∀ a rest, f (.success a rest) = .success a rest)
    (unfinished : f .unfinished = .unfinished) : (p.orElse q).run c = f <$> p.run c := by
  refine Eq.trans (bind_congr fun reply => ?_) (bind_pure_comp f (p.run c))
  cases reply with
  | success a rest => exact congrArg pure (success a rest).symm
  -- Only here is the second alternative run at all.
  | failure e => exact second e
  | unfinished => exact congrArg pure unfinished.symm

theorem orElse_empty_run (p : Parser m α) (c : Cursor) :
    (p.orElse .empty).run c = Reply.failAt c "no alternative left" <$> p.run c :=
  orElse_run_of_pure (fun _ => rfl) (fun _ _ => rfl) rfl

theorem orDefault_eq_orElse (default : α) (p : Parser m α) :
    p.orDefault default = p.orElse (.pure default) :=
  Parser.ext fun _ => (orElse_run_of_pure (fun _ => rfl) (fun _ _ => rfl) rfl).symm

theorem optional_eq_orElse (p : Parser m α) :
    p.optional = (p.map some).orElse (.pure none) := by
  -- The value is wrapped and then made optional, which is one change of the reply.
  rw [← orDefault_eq_orElse]
  exact Parser.ext fun c => comp_map (Reply.map some) (Reply.recover c none) (p.run c)

/-! ## The laws together -/

/-- Alternatives in `m` are a monoid whose unit hides the failure before it, a failed alternative is
undone in the text and in nothing else, and recovery with a value is an alternative. -/
structure AlternationLaws (m : Type → Type) [Effect m] : Prop where
  orElse_assoc {α : Type} (p q r : Parser m α) : (p.orElse q).orElse r = p.orElse (q.orElse r)
  empty_orElse {α : Type} (p : Parser m α) : Parser.empty.orElse p = p
  pure_orElse {α : Type} (a : α) (p : Parser m α) : (Parser.pure a).orElse p = .pure a
  /-- Before the unit a parser does all that it does, and only the failure is another one. -/
  orElse_empty {α : Type} (p : Parser m α) (c : Cursor) :
    (p.orElse .empty).run c = Reply.failAt c "no alternative left" <$> p.run c
  orDefault_eq {α : Type} (default : α) (p : Parser m α) :
    p.orDefault default = p.orElse (.pure default)
  optional_eq {α : Type} (p : Parser m α) : p.optional = (p.map some).orElse (.pure none)
  /-- The second alternative begins in the same place, after all that the first one did. -/
  after_failures {α : Type} {p : Parser m α} {c : Cursor} {doings : m Failure}
    (fails : p.run c = Reply.failure <$> doings) (q : Parser m α) :
    (p.orElse q).run c = doings >>= fun _ => q.run c
  /-- The second alternative does nothing after a first one that succeeds. -/
  after_successes {α : Type} {p : Parser m α} {c : Cursor} {doings : m (α × Cursor)}
    (succeeds : p.run c = (fun s => .success s.1 s.2) <$> doings) (q : Parser m α) :
    (p.orElse q).run c = p.run c

/-- Whatever the effect, the laws of monads are all that the laws of alternatives rest on. -/
theorem alternation_laws (m : Type → Type) [Effect m] [LawfulMonad m] : AlternationLaws m where
  orElse_assoc := orElse_orElse
  empty_orElse := empty_orElse
  pure_orElse := pure_orElse
  orElse_empty := orElse_empty_run
  orDefault_eq := orDefault_eq_orElse
  optional_eq := optional_eq_orElse
  after_failures := orElse_of_failures
  after_successes := orElse_of_successes

/-- The first alternative writes to the log, reads a digit and fails. -/
theorem alternation_laws_told :
    AlternationLaws Plain ∧ AlternationLaws (Abortable String) ∧ AlternationLaws Tallied ∧
    let told (entry : String) (p : Parser (Logged String) Nat) :=
      (Parser.lift (Logged.tell entry)).keepRight p
    let first := told "first" (Parser.digit.keepRight .digit)
    let second := told "second" .digit
    let start := Cursor.ofString "7!"
    let doings := ⟨(start.advance 1).failure "not a digit", ["first"], []⟩
    first.run start = Reply.failure <$> doings ∧
    (first.orElse second).run start = ⟨.success 7 (start.advance 1), ["first", "second"], []⟩ ∧
    (first.orElse .empty).run start =
      ⟨.failure (start.failure "no alternative left"), ["first"], []⟩ := by
  refine ⟨alternation_laws Plain, alternation_laws (Abortable String), alternation_laws Tallied, ?_⟩
  intro told first second start doings
  have laws := alternation_laws (Logged String)
  have fails : first.run start = Reply.failure <$> doings := rfl
  exact ⟨fails, laws.after_failures fails second, laws.orElse_empty first start⟩

end Parser

end Descent
