import Descent.Parser.Chain
import Descent.Proofs.Sequencing

/-!
# Items behind separators

The loop of separated lists and of chains runs a separator and then an item in every step, and its
step ends in two ways, as either of them may fail. In a lawful effect such a step is one run of the
pair of both (`Parser.behindStep_eq_foldStep`), so the loop is the repetition of the pair: what is
known of repetitions is known of it.
-/

namespace Descent.Parser

variable {m : Type → Type} [Effect m] [LawfulMonad m] {α β γ : Type}

/-! ## Two parsers as one -/

theorem both_eq_map_pair (combine : α → β → γ) (p : Parser m α) (q : Parser m β) :
    Parser.both combine p q = (p.pair q).map fun r => combine r.1 r.2 := by
  rw [pair, map_eq_bind, both_eq_bind, both_eq_bind, bind_bind]
  simp only [bind_bind, bind_pure_left]

theorem bind_map_eq_map_pair (f : α → β → γ) (p : Parser m α) (q : Parser m β) :
    (p.bind fun a => q.map (f a)) = (p.pair q).map fun r => f r.1 r.2 := by
  rw [← both_eq_map_pair, both_eq_bind]
  simp only [map_eq_bind]

/-! ## The loop of the pair -/

/-- Whichever of the two fails, the repetition of the pair ends where the run of the pair began,
which is in front of the separator. -/
theorem behindStep_eq_foldStep (join : γ → β → α → γ) (separator : Parser m β) (item : Parser m α)
    (state : γ × Cursor) :
    behindStep join separator item state =
      foldStep (fun c s => join c s.1 s.2) (separator.pair item) state := by
  obtain ⟨earlier, c⟩ := state
  show (separator.run c >>= _) = _ <$> (separator.run c >>= _)
  rw [map_bind]
  -- Both sides run the separator, and the item where that has stopped.
  refine bind_congr fun reply => ?_
  cases reply with
  | success b behind =>
    -- A missing item is no failure of the step on either side, but its end.
    show _ <$> item.run behind = _ <$> Reply.map (Prod.mk b) <$> item.run behind
    rw [Functor.map_map]
    refine congrArg (· <$> item.run behind) (funext fun reply => ?_)
    cases reply <;> rfl
  | failure e => simp
  | unfinished => simp

theorem foldBehind_eq_foldMany (join : γ → β → α → γ) (init : γ) (separator : Parser m β)
    (item : Parser m α) (spare : Nat) :
    foldBehind join init separator item spare =
      foldMany (fun c s => join c s.1 s.2) init (separator.pair item) spare := by
  have steps : behindStep join separator item =
      foldStep (fun c s => join c s.1 s.2) (separator.pair item) :=
    funext fun state => behindStep_eq_foldStep join separator item state
  unfold foldBehind foldMany
  rw [steps]

/-- A repetition may change its values one by one or when it joins them. -/
theorem foldMany_of_map (join : γ → β → γ) (init : γ) (f : α → β) (p : Parser m α) (spare : Nat) :
    foldMany join init (p.map f) spare = foldMany (fun c a => join c (f a)) init p spare := by
  have steps : foldStep join (p.map f) = foldStep (fun c a => join c (f a)) p := by
    funext state
    -- The value is changed first and joined then, in one step.
    show _ <$> Reply.map f <$> p.run state.2 = _ <$> p.run state.2
    rw [Functor.map_map]
    refine congrArg (· <$> p.run state.2) (funext fun reply => ?_)
    cases reply <;> rfl
  unfold foldMany
  rw [steps]

/-! ## Lists and chains -/

theorem itemsAfter_eq_manyAfter (first : α) (item : Parser m α) (separator : Parser m β)
    (spare : Nat) :
    itemsAfter first item separator spare = manyAfter [first] (separator.keepRight item) spare := by
  unfold itemsAfter manyAfter keepRight
  rw [both_eq_map_pair, foldMany_of_map, foldBehind_eq_foldMany]

end Descent.Parser
