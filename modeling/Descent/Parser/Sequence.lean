import Descent.Parser

/-!
# One parser after another

The second parser starts where the first one stopped, and a failure of either is the failure of
both.
-/

namespace Descent.Parser

variable {m : Type → Type} [Effect m] {α β γ : Type}

/-- Reads with both parsers and combines their values. -/
def both (combine : α → β → γ) (p : Parser m α) (q : Parser m β) : Parser m γ where
  run c := do
    match ← p.run c with
    | .success a rest => Reply.map (combine a) <$> q.run rest
    | .failure e => pure (.failure e)
    | .unfinished => pure .unfinished

/-- Reads with both parsers and keeps both values. -/
def pair (p : Parser m α) (q : Parser m β) : Parser m (α × β) := both Prod.mk p q

/-- Reads with both parsers and keeps the first value. -/
def keepLeft (p : Parser m α) (q : Parser m β) : Parser m α := both (fun a _ => a) p q

/-- Reads with both parsers and keeps the second value. -/
def keepRight (p : Parser m α) (q : Parser m β) : Parser m β := both (fun _ b => b) p q

/-- Reads an argument, then a function, and applies the function to the argument. -/
def applyTo (function : Parser m (α → β)) (argument : Parser m α) : Parser m β :=
  both (fun a f => f a) argument function

/-- Reads what stands between an opening and a closing. -/
def between (opening : Parser m α) (p : Parser m β) (closing : Parser m γ) : Parser m β where
  run c := do
    match ← opening.run c with
    | .success _ inside =>
      match ← p.run inside with
      | .success b rest => Reply.map (fun _ => b) <$> closing.run rest
      | .failure e => pure (.failure e)
      | .unfinished => pure .unfinished
    | .failure e => pure (.failure e)
    | .unfinished => pure .unfinished

/-- What stands between an opening and a closing is what is kept of the three. -/
theorem between_eq_keepLeft [LawfulMonad m] (opening : Parser m α) (p : Parser m β)
    (closing : Parser m γ) :
    between opening p closing = (opening.keepRight p).keepLeft closing := by
  refine Parser.ext fun c => ?_
  simp only [between, keepLeft, keepRight, both, bind_assoc]
  refine bind_congr fun reply => ?_
  cases reply with
  | success a inside =>
    rw [bind_map_left]
    refine bind_congr fun reply => ?_
    cases reply <;> rfl
  | failure e => rw [pure_bind]
  | unfinished => rw [pure_bind]

/-- Reads and forgets the value. -/
def discard (p : Parser m α) : Parser m Unit := p.map fun _ => ()

/-- Reads a value and judges it; a refused value is a failure where it began. -/
def refine (p : Parser m α) (judge : α → Except String β) : Parser m β where
  run c := Reply.refine c judge <$> p.run c

end Descent.Parser
