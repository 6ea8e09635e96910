import Descent.Effect

/-!
# Tallying effects

A tallied computation keeps a running total. It has no loop of its own: it repeats a step as
`Flow.unroll` does. Totals may be numbers of any kind that can be added.
-/

namespace Descent

/-- A value, what was counted and the events reported on the way to it. -/
@[ext]
structure Tally (κ α : Type) where
  value : α
  total : κ
  events : List Event := []

/-- Computations whose total is a natural number. -/
abbrev Tallied : Type → Type := Tally Nat

namespace Tally

variable {κ α β : Type} [Zero κ] [Add κ]

/-- Counts so many. -/
def count (weight : κ) : Tally κ Unit := ⟨(), weight, []⟩

/-- Totals are added, and the events of the second computation follow those of the first. -/
def andThen (first : Tally κ α) (next : α → Tally κ β) : Tally κ β :=
  let second := next first.value
  ⟨second.value, first.total + second.total, first.events ++ second.events⟩

instance : Effect (Tally κ) where
  pure a := ⟨a, 0, []⟩
  bind := andThen
  emit event := ⟨(), 0, [event]⟩

/-- Totals of natural numbers start from their own zero and are added by their own addition. -/
instance : Effect Tallied := @Tally.instEffect Nat ⟨0⟩ instAddNat

/-! ### What each operation yields, counts and reports -/

@[simp] theorem value_pure (a : α) : (pure a : Tally κ α).value = a := rfl

@[simp] theorem total_pure (a : α) : (pure a : Tally κ α).total = 0 := rfl

@[simp] theorem events_pure (a : α) : (pure a : Tally κ α).events = [] := rfl

@[simp] theorem value_bind (x : Tally κ α) (f : α → Tally κ β) :
    (x >>= f).value = (f x.value).value := rfl

@[simp] theorem total_bind (x : Tally κ α) (f : α → Tally κ β) :
    (x >>= f).total = x.total + (f x.value).total := rfl

@[simp] theorem events_bind (x : Tally κ α) (f : α → Tally κ β) :
    (x >>= f).events = x.events ++ (f x.value).events := rfl

/-! ### Laws

Chains of tallied computations group to either side as far as additions do. -/

variable [add : Std.Associative fun a b : κ => a + b]
  [zero : Std.LawfulIdentity (fun a b : κ => a + b) 0]

instance : LawfulMonad (Tally κ) :=
  LawfulMonad.mk' (Tally κ)
    (by intro α x; apply Tally.ext <;> simp [Functor.map, andThen, zero.right_id])
    (by intro α β a f; apply Tally.ext <;> simp [zero.left_id])
    (by intro α β γ x f g; apply Tally.ext <;> simp [add.assoc])

instance : LawfulEffect (Tally κ) where
  iterate_eq _ _ _ := rfl

end Tally

end Descent
