import Descent.Proofs.Behind
import Descent.Proofs.LongestRow

/-!
# A first value and a row behind it

Separated lists and chains begin with a run of one parser and go on with a repetition. If the
repeated parser gets further whenever it succeeds, the whole does what the first run does, and then
what the longest row of runs behind it does (`Parser.pair_many_run`).

Where the repeated parser is a separator with an item behind it, a separator may stand alone. Then
the row ends in front of it, and what was done on the way to the missing item stays done
(`Parser.ended_of_dangling`).
-/

namespace Descent

open Deterministic (value?)

variable {α β γ δ : Type}

namespace Parser

variable {m : Type → Type} [Effect m] [LawfulEffect m] [Deterministic m]

omit [LawfulEffect m] in
/-- The second of two parsers is run where the first one has stopped. -/
theorem value?_both [LawfulMonad m] (f : α → β → γ) (p : Parser m α) (q : Parser m β) (c : Cursor) :
    value? ((Parser.both f p q).run c) = (value? (p.run c)).bind fun
      | .success a d => (value? (q.run d)).map (Reply.map (f a))
      | .failure e => some (.failure e)
      | .unfinished => some .unfinished := by
  -- The reply of the first parser decides what is run next, if anything.
  refine (Deterministic.value?_bind (p.run c) _).trans (congrArg _ (funext fun reply => ?_))
  cases reply with
  | success a d => exact Deterministic.value?_map _ _
  | failure e => exact Deterministic.value?_pure _
  | unfinished => exact Deterministic.value?_pure _

/-! ## The row behind the first value -/

/-- A repetition of a parser that gets further is given enough runs, whatever is added to them. -/
theorem Strides.many_eq {p : Parser m α} (strides : p.Strides) (spare spare' : Nat) :
    many p spare = many p spare' := by
  refine Parser.ext fun c => ?_
  -- Either number of runs is enough for the longest row, which both lists are read off.
  obtain ⟨steps, last, longest⟩ := strides.exists_longestRow c
  rw [longest.many strides, longest.many strides]

variable {first : Parser m α} {step : Parser m β} {c d last : Cursor} {a : α}
  {steps : List (Cursor × β)}

theorem pair_many_run (strides : step.Strides) (begins : first.Succeeds c a d)
    (longest : step.LongestRow d steps last) (spare : Nat) :
    (first.pair (many step spare)).run c =
      first.run c >>= fun _ => Flow.inTurn (steps.map fun s => step.run s.1)
        (Reply.ended (a, steps.map Prod.snd) last <$> step.run last) := by
  show (first.run c >>= _) = _
  -- The first parser has stopped at `d`, so the row is the one that starts there.
  rw [Deterministic.bind_of_value begins]
  refine bind_congr fun _ => ?_
  show Reply.map (Prod.mk a) <$> (many step spare).run d = _
  rw [longest.many strides, map_inTurn, ← comp_map, Reply.map_comp_ended]

theorem map_pair_many_run (f : α × List β → γ) (strides : step.Strides)
    (begins : first.Succeeds c a d) (longest : step.LongestRow d steps last) (spare : Nat) :
    ((first.pair (many step spare)).map f).run c =
      first.run c >>= fun _ => Flow.inTurn (steps.map fun s => step.run s.1)
        (Reply.ended (f (a, steps.map Prod.snd)) last <$> step.run last) := by
  show Reply.map f <$> (first.pair (many step spare)).run c = _
  rw [pair_many_run strides begins longest, map_bind]
  refine bind_congr fun _ => ?_
  rw [map_inTurn, ← comp_map, Reply.map_comp_ended]

/-! ## Separators that stand alone -/

section Dangling

variable {separator : Parser m β} {item : Parser m α} {b : β} {behind : Cursor} {e : Failure}
  (before : separator.Succeeds last b behind)
  (missing : value? (item.run behind) = some (.failure e))
include before missing

omit [LawfulEffect m] in
theorem value?_both_of_dangling [LawfulMonad m] (combine : β → α → γ) :
    value? ((Parser.both combine separator item).run last) = some (.failure e) := by
  rw [value?_both, before]
  exact congrArg (Option.map _) missing

/-- In front of a separator that stands alone a row ends. -/
theorem Row.longest_of_dangling {combine : β → α → γ} {steps : List (Cursor × γ)}
    (row : (Parser.both combine separator item).Row c steps last) :
    (Parser.both combine separator item).LongestRow c steps last :=
  ⟨row, fun a d succeeds => by
    have fails := value?_both_of_dangling before missing combine
    cases fails.symm.trans succeeds⟩

/-- The separator is read, and the item that is missing behind it is looked for, but neither is
consumed. -/
theorem ended_of_dangling (combine : β → α → γ) (v : δ) :
    Reply.ended v last <$> (Parser.both combine separator item).run last =
      separator.run last >>= fun _ => (fun _ => Reply.success v last) <$> item.run behind := by
  show _ <$> (separator.run last >>= _) = _
  rw [map_bind, Deterministic.bind_of_value before]
  refine bind_congr fun _ => ?_
  show Reply.ended v last <$> Reply.map (combine b) <$> item.run behind = _
  rw [Functor.map_map]
  -- The reply is the failure of the item, and its message is given up.
  refine Deterministic.map_congr_value fun reply answer => ?_
  obtain rfl := Option.some.inj (answer.symm.trans missing)
  rfl

end Dangling

end Parser

end Descent
