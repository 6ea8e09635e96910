import Descent.Parser.Repeat
import Descent.Proofs.Deterministic
import Descent.Proofs.Sequencing

/-!
# Repetitions that go on from earlier values

A repetition joins its values to those that it is given at the beginning. Where joining commutes
with a function, so does the repetition (`Parser.foldMany_map`): step by step it holds the image of
what it would hold otherwise. So it does not matter whether a value read before the repetition is
given to it or put in front of the values that it lists (`Parser.many1_eq_bind_many`).

A failing run ends the repetition and is not its failure. So what begins with another parser and
goes on with a repetition fails with its first run only (`Parser.value?_bind_failure_iff`).
-/

namespace Descent

open Deterministic (value?)

variable {α β γ : Type}

/-- The reply is no failure. -/
def Reply.Lasting : Reply α → Prop
  | success _ _ | unfinished => True
  | failure _ => False

namespace Parser

variable {m : Type → Type} [Effect m] [LawfulEffect m]

/-! ## Earlier values -/

/-- Induction on the number of steps, with the same runs of the parser on both sides. -/
theorem unroll_foldStep_map {join : β → α → β} {join' : γ → α → γ} (g : β → γ)
    (commutes : ∀ b a, g (join b a) = join' (g b) a) (p : Parser m α) (bound : Nat) (b : β)
    (c : Cursor) :
    Flow.unroll (foldStep join' p) bound (g b, c) =
      Option.map (Reply.map g) <$> Flow.unroll (foldStep join p) bound (b, c) := by
  induction bound generalizing b c with
  | zero => simp [Flow.unroll]
  | succ bound ih =>
    simp only [Flow.unroll, foldStep, bind_map_left, map_bind]
    refine bind_congr fun reply => ?_
    cases reply with
    -- One more value is joined, on one side to what is held and on the other to its image.
    | success a rest =>
      have := ih (join b a) rest
      rwa [commutes] at this
    | failure e => simp [Reply.map]
    | unfinished => simp [Reply.map]

theorem foldMany_map {join : β → α → β} {join' : γ → α → γ} (g : β → γ)
    (commutes : ∀ b a, g (join b a) = join' (g b) a) (init : β) (p : Parser m α) (spare : Nat) :
    foldMany join' (g init) p spare = (foldMany join init p spare).map g := by
  refine Parser.ext fun c => ?_
  show (·.getD .unfinished) <$> Effect.iterate (foldStep join' p) _ (g init, c) =
    Reply.map g <$> (·.getD .unfinished) <$> Effect.iterate (foldStep join p) _ (init, c)
  rw [LawfulEffect.iterate_eq, LawfulEffect.iterate_eq, unroll_foldStep_map g commutes,
    Functor.map_map, Functor.map_map]
  -- A repetition that has not ended by then is unfinished on both sides.
  refine congrArg (· <$> _) (funext fun reply => ?_)
  cases reply <;> rfl

theorem manyAfter_eq_map_many (earlier : List α) (p : Parser m α) (spare : Nat) :
    manyAfter earlier p spare = (many p spare).map (earlier.reverse ++ ·) := by
  -- While the list is held last one first, earlier values stand at its end.
  have later : foldMany (fun items a => a :: items) earlier p spare =
      (foldMany (fun items a => a :: items) [] p spare).map (· ++ earlier) :=
    foldMany_map (· ++ earlier) (fun _ _ => rfl) [] p spare
  show (foldMany _ earlier p spare).map List.reverse = ((foldMany _ [] p spare).map _).map _
  rw [later]
  show List.reverse <$> (· ++ earlier) <$> foldMany _ [] p spare =
    (earlier.reverse ++ ·) <$> List.reverse <$> foldMany _ [] p spare
  rw [Functor.map_map, Functor.map_map]
  exact congrArg (· <$> _) (funext fun items => List.reverse_append)

/-- Values may be joined as they are read, or all of them when the last has been. -/
theorem foldMany_eq_map_many (join : β → α → β) (init : β) (p : Parser m α) (spare : Nat) :
    foldMany join init p spare = (many p spare).map fun items => items.foldl join init := by
  have folded : foldMany join init p spare =
      (foldMany (fun items a => a :: items) [] p spare).map
        fun items => items.reverse.foldl join init :=
    foldMany_map (fun items => items.reverse.foldl join init) (fun items a => by simp) [] p spare
  rw [folded]
  show _ <$> foldMany _ [] p spare = _ <$> List.reverse <$> foldMany _ [] p spare
  rw [Functor.map_map]

/-- At least one run is a run and any number of runs behind it. -/
theorem many1_eq_bind_many (p : Parser m α) (spare : Nat) :
    many1 p spare = p.bind fun a => (many p spare).map (a :: ·) :=
  congrArg p.bind (funext fun a => manyAfter_eq_map_many [a] p spare)

/-! ## Repetitions never fail -/

theorem foldMany_lasting (join : β → α → β) (init : β) (p : Parser m α) (spare : Nat) (c : Cursor) :
    Outcomes.lawful.Always Reply.Lasting ((foldMany join init p spare).run c) := by
  have steps : ∀ s : β × Cursor, True →
      Outcomes.lawful.Always (Flow.Always (fun _ => True) Reply.Lasting) (foldStep join p s) := by
    intro s _
    -- A failing run ends the repetition with a success.
    refine Outcomes.lawful.map (Outcomes.lawful.any _) fun reply _ => ?_
    cases reply with
    | success a rest => exact .again trivial
    | failure e => exact .done trivial
    | unfinished => exact .done trivial
  refine Outcomes.lawful.map (Outcomes.lawful.iterate steps _ trivial) fun result ended => ?_
  cases result with
  | some reply => exact ended reply rfl
  | none => trivial

theorem map_lasting {p : Parser m α} {c : Cursor}
    (h : Outcomes.lawful.Always Reply.Lasting (p.run c)) (f : α → β) :
    Outcomes.lawful.Always Reply.Lasting ((p.map f).run c) := by
  refine Outcomes.lawful.map h fun reply lasting => ?_
  cases reply with
  | failure e => exact lasting
  | success a rest => trivial
  | unfinished => trivial

theorem manyAfter_lasting (earlier : List α) (p : Parser m α) (spare : Nat) (c : Cursor) :
    Outcomes.lawful.Always Reply.Lasting ((manyAfter earlier p spare).run c) :=
  map_lasting (foldMany_lasting _ earlier p spare c) _

variable [Deterministic m]

theorem value?_ne_failure {x : m (Reply α)} (h : Outcomes.lawful.Always Reply.Lasting x)
    (e : Failure) : value? x ≠ some (.failure e) :=
  fun fails => Deterministic.of_always h fails

theorem value?_map_failure_iff (f : α → β) (p : Parser m α) (c : Cursor) (e : Failure) :
    value? ((p.map f).run c) = some (.failure e) ↔ value? (p.run c) = some (.failure e) := by
  show value? (Reply.map f <$> p.run c) = _ ↔ _
  rw [Deterministic.value?_map]
  cases value? (p.run c) with
  | none => simp
  | some reply => cases reply <;> simp [Reply.map]

/-- In front of what never fails, a failure is that of the first parser. -/
theorem value?_bind_failure_iff {p : Parser m α} {next : α → Parser m β}
    (h : ∀ a d, Outcomes.lawful.Always Reply.Lasting ((next a).run d)) (c : Cursor) (e : Failure) :
    value? ((p.bind next).run c) = some (.failure e) ↔ value? (p.run c) = some (.failure e) := by
  have chained : value? ((p.bind next).run c) = (value? (p.run c)).bind _ :=
    Deterministic.value?_bind (p.run c) _
  -- A success of the first parser is no failure of the whole, since what comes next never fails.
  cases answer : value? (p.run c) with
  | none => simp [chained, answer]
  | some reply =>
    cases reply with
    | success a d => simp [chained, answer, value?_ne_failure (h a d) e]
    | failure e' => simp [chained, answer, Deterministic.value?_pure]
    | unfinished => simp [chained, answer, Deterministic.value?_pure]

end Parser

end Descent
