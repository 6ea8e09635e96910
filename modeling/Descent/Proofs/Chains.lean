import Descent.Proofs.FirstAndRow

/-!
# Chains fold one reading

The two chains run loops of their own, one of which combines as it reads, while the other holds all
operators and operands back, last one first. Both read what an operand with a repetition behind it
reads, whose runs are an operator and an operand each, and differ only in how the values are
combined: from the left, or from the right (`Parser.nestRight`).

The right chain combines from the end of the list that it holds back, with one operator in hand
until its left operand is known. The induction on that list (`Parser.combineRight_eq`) takes it for
a chain that is read already, up to the operator in hand, whose last operand is the value so far.
-/

namespace Descent

open Deterministic (value?)

namespace Parser

variable {α : Type}

/-! ## Combining -/

/-- Combines a chain from the left. -/
def nestLeft (first : α) (steps : List ((α → α → α) × α)) : α :=
  steps.foldl (fun left step => step.1 left step.2) first

/-- Combines a chain from the right. -/
def nestRight (first : α) : List ((α → α → α) × α) → α
  | [] => first
  | (operator, operand) :: steps => operator first (nestRight operand steps)

/-- The last operand of a chain may be what another operator has made of two. -/
theorem nestRight_append_pair (first : α) (steps : List ((α → α → α) × α)) (f g : α → α → α)
    (x y : α) :
    nestRight first (steps ++ [(f, x), (g, y)]) = nestRight first (steps ++ [(f, g x y)]) := by
  induction steps generalizing first with
  | nil => rfl
  | cons step steps ih => exact congrArg (step.1 first) (ih step.2)

theorem combineRight_eq (first : α) (operator : α → α → α) (value : α)
    (steps : List ((α → α → α) × α)) :
    combineRight first operator value steps =
      nestRight first (steps.reverse ++ [(operator, value)]) := by
  induction steps generalizing operator value with
  | nil => rfl
  | cons step steps ih =>
    obtain ⟨earlier, operand⟩ := step
    rw [combineRight, ih, List.reverse_cons, List.append_assoc, List.singleton_append,
      nestRight_append_pair]

theorem foldRight_eq (first : α) (steps : List ((α → α → α) × α)) :
    foldRight first steps = nestRight first steps.reverse := by
  cases steps with
  | nil => rfl
  | cons step steps => rw [foldRight, combineRight_eq, List.reverse_cons]

/-- An associative operation makes the same of a chain from either side. -/
theorem nestLeft_eq_nestRight {star : α → α → α}
    (assoc : ∀ x y z, star (star x y) z = star x (star y z)) (first : α)
    {steps : List ((α → α → α) × α)} (same : ∀ s ∈ steps, s.1 = star) :
    nestLeft first steps = nestRight first steps := by
  -- What is combined with the first operand may be combined before.
  have inner (x y : α) {steps : List ((α → α → α) × α)} (same : ∀ s ∈ steps, s.1 = star) :
      nestRight (star x y) steps = star x (nestRight y steps) := by
    cases steps with
    | nil => rfl
    | cons step steps =>
      -- Associativity is used on the first step only; the other steps are as they were.
      have operator : step.1 = star := same step List.mem_cons_self
      rw [nestRight, nestRight, operator, assoc]
  induction steps generalizing first with
  | nil => rfl
  | cons step steps ih =>
    obtain ⟨operator, others⟩ := List.forall_mem_cons.mp same
    have left : nestLeft first (step :: steps) = nestLeft (star first step.2) steps := by
      rw [nestLeft, List.foldl_cons, operator, ← nestLeft]
    rw [left, ih _ others, inner _ _ others, nestRight, operator]

/-! ## The reading that both chains fold -/

variable {m : Type → Type} [Effect m] [LawfulEffect m]

theorem chainLeft1_eq_map (p : Parser m α) (op : Parser m (α → α → α)) (spare : Nat) :
    chainLeft1 p op spare =
      (p.pair (many (op.pair p) spare)).map fun r => nestLeft r.1 r.2 := by
  rw [← bind_map_eq_map_pair nestLeft, chainLeft1]
  refine congrArg p.bind (funext fun first => ?_)
  rw [foldBehind_eq_foldMany, foldMany_eq_map_many]
  rfl

theorem chainRight1_eq_map (p : Parser m α) (op : Parser m (α → α → α)) (spare : Nat) :
    chainRight1 p op spare =
      (p.pair (many (op.pair p) spare)).map fun r => nestRight r.1 r.2 := by
  rw [← bind_map_eq_map_pair nestRight, chainRight1]
  refine congrArg p.bind (funext fun first => ?_)
  rw [foldBehind_eq_foldMany]
  show foldRight first <$> foldMany (fun steps step => step :: steps) [] (op.pair p) spare =
    nestRight first <$> List.reverse <$> foldMany (fun steps step => step :: steps) [] _ spare
  rw [Functor.map_map]
  exact congrArg (· <$> _) (funext (foldRight_eq first))

/-- What both chains come to, told by a reading of operands and operators. -/
structure FoldOneReading [Deterministic m] (p : Parser m α) (op : Parser m (α → α → α))
    (spare : Nat) (reading : Parser m (α × List ((α → α → α) × α))) : Prop where
  left_eq : chainLeft1 p op spare = reading.map fun r => nestLeft r.1 r.2
  right_eq : chainRight1 p op spare = reading.map fun r => nestRight r.1 r.2
  left_failure_iff (c : Cursor) (e : Failure) :
    value? ((chainLeft1 p op spare).run c) = some (.failure e) ↔
      value? (reading.run c) = some (.failure e)
  right_failure_iff (c : Cursor) (e : Failure) :
    value? ((chainRight1 p op spare).run c) = some (.failure e) ↔
      value? (reading.run c) = some (.failure e)
  /-- The runs of operator and operand are a row, and the reading stops where the row does. -/
  along_row {c d last : Cursor} {first : α} {steps : List (Cursor × ((α → α → α) × α))} :
    p.Succeeds c first d → (op.pair p).LongestRow d steps last →
      reading.run c = p.run c >>= fun _ => Flow.inTurn (steps.map fun s => (op.pair p).run s.1)
        (Reply.ended (first, steps.map Prod.snd) last <$> (op.pair p).run last)
  /-- An operator without an operand is not part of the reading, which stops in front of it. -/
  dangling {c d last behind : Cursor} {first : α} {steps : List (Cursor × ((α → α → α) × α))}
    {f : α → α → α} {e : Failure} : p.Succeeds c first d → (op.pair p).Row d steps last →
      op.Succeeds last f behind → value? (p.run behind) = some (.failure e) →
        reading.run c = p.run c >>= fun _ => Flow.inTurn (steps.map fun s => (op.pair p).run s.1)
          (op.run last >>= fun _ =>
            (fun _ => .success (first, steps.map Prod.snd) last) <$> p.run behind)
  same_of_associative {c : Cursor} {star : α → α → α}
    (assoc : ∀ x y z, star (star x y) z = star x (star y z))
    (same : ∀ first steps last, value? (reading.run c) = some (.success (first, steps) last) →
      ∀ s ∈ steps, s.1 = star) : (chainLeft1 p op spare).run c = (chainRight1 p op spare).run c

/-- If an operator with an operand behind it gets further whenever it is read, both chains end where
the repetition of the two does, with all that it does on the way. -/
theorem chains_fold_one_reading [Deterministic m] {p : Parser m α} {op : Parser m (α → α → α)}
    (strides : (op.pair p).Strides) (spare spare' : Nat) :
    FoldOneReading p op spare (p.pair (many (op.pair p) spare')) := by
  have left := chainLeft1_eq_map p op spare
  have right := chainRight1_eq_map p op spare
  rw [strides.many_eq spare spare'] at left right
  refine {
    left_eq := left
    right_eq := right
    left_failure_iff := fun c e => by rw [left, value?_map_failure_iff]
    right_failure_iff := fun c e => by rw [right, value?_map_failure_iff]
    along_row := fun begins longest => pair_many_run strides begins longest spare'
    dangling := fun begins row before missing => ?_
    same_of_associative := fun {c star} assoc same => ?_ }
  · -- A row with a dangling operator behind it is a longest one.
    rw [pair_many_run strides begins (row.longest_of_dangling before missing), pair,
      ended_of_dangling before missing]
  · -- Both chains have the same effects, and only values of a success are folded.
    rw [left, right]
    refine Deterministic.map_congr_value fun reply answer => ?_
    cases reply with
    | success r last =>
      have folds := nestLeft_eq_nestRight assoc r.1 (same r.1 r.2 last answer)
      simp only [Reply.map, folds]
    | failure e => rfl
    | unfinished => rfl

/-- Subtraction, which is not associative, with an operator at the end that has no operand. -/
theorem chains_fold_one_reading_minus :
    let operand {m : Type → Type} [Effect m] (before : m Unit) : Parser m Int :=
      (Parser.lift before).keepRight (digit.map Int.ofNat)
    let minus {m : Type → Type} [Effect m] (before : m Unit) : Parser m (Int → Int → Int) :=
      (Parser.lift before).keepRight ((skipChar '-').map fun _ => (· - ·))
    let holds {m : Type → Type} [Effect m] [LawfulEffect m] [Deterministic m] (before : m Unit) :=
      Strides ((minus before).pair (operand before)) ∧
        FoldOneReading (operand before) (minus before) 0
          ((operand before).pair (many ((minus before).pair (operand before))))
    let told : Logged String Unit := Logged.tell "run"
    let c := Cursor.ofString "9-4-3-x"
    holds (pure () : Plain Unit) ∧ holds told ∧ holds (pure () : Abortable String Unit) ∧
      holds (Tally.count 1 : Tallied Unit) ∧
      (chainLeft1 (operand told) (minus told)).run c =
        ⟨.success 2 (c.advance 5), List.replicate 7 "run", []⟩ ∧
      (chainRight1 (operand told) (minus told)).run c =
        ⟨.success 8 (c.advance 5), List.replicate 7 "run", []⟩ := by
  intro operand minus holds told c
  have every {m : Type → Type} [Effect m] [LawfulEffect m] [Deterministic m] (before : m Unit) :
      holds before := by
    have operands (e : Cursor) : Headway (True ∧ False) e (operand before) _ :=
      (Headway.lift before).both fun e _ _ => Headway.digit.map _
    have signs (e : Cursor) : Headway (True ∧ False) e (minus before) _ :=
      (Headway.lift before).both fun e _ _ => (Headway.skipChar '-').map _
    have strides : Strides ((minus before).pair (operand before)) :=
      .of_headway fun d => ((signs d).both fun e _ _ => operands e).mono fun h => h.1.2
    exact ⟨strides, chains_fold_one_reading strides 0 0⟩
  refine ⟨every _, every told, every _, every _, ?_, ?_⟩
  · dsimp only [operand, minus, told, c]
    rfl
  · dsimp only [operand, minus, told, c]
    rfl

end Parser

end Descent
