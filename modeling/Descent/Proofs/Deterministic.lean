import Descent.Proofs.Outcomes

/-!
# Deterministic effects

In a deterministic effect a computation yields one value, or none if its host has stopped it; a
report stops nothing. What follows a computation in a chain is then known as soon as its value is
(`Deterministic.bind_of_value`), whatever else the computation does.
-/

namespace Descent

/-- An effect in which every computation yields one value at most. -/
class Deterministic (m : Type → Type) [Effect m] where
  /-- The value that the computation yields, if it yields one. -/
  value? {α : Type} : m α → Option α
  value?_pure {α : Type} (a : α) : value? (pure a : m α) = some a
  value?_bind {α β : Type} (x : m α) (f : α → m β) :
    value? (x >>= f) = (value? x).bind fun a => value? (f a)
  value?_emit (event : Event) : value? (Effect.emit event : m Unit) = some ()
  /-- Chains are the same if they go on from the value in the same way. -/
  bind_congr_value {α β : Type} {x : m α} {f g : α → m β}
    (agree : ∀ a, value? x = some a → f a = g a) : x >>= f = x >>= g

namespace Deterministic

variable {m : Type → Type} [Effect m] [LawfulMonad m] [Deterministic m] {α β : Type}

@[simp] theorem value?_map (f : α → β) (x : m α) : value? (f <$> x) = (value? x).map f := by
  have mapped : (fun a => value? (pure (f a) : m β)) = some ∘ f :=
    funext fun a => value?_pure (f a)
  rw [← bind_pure_comp, value?_bind, mapped, Option.map_eq_bind]

theorem map_congr_value {x : m α} {f g : α → β} (agree : ∀ a, value? x = some a → f a = g a) :
    f <$> x = g <$> x := by
  rw [← bind_pure_comp, ← bind_pure_comp]
  exact bind_congr_value fun a yields => congrArg pure (agree a yields)

omit [LawfulMonad m] in
/-- A chain goes on from the value that its first link yields. -/
theorem bind_of_value {x : m α} {a : α} (h : value? x = some a) (f : α → m β) :
    x >>= f = x >>= fun _ => f a := by
  refine bind_congr_value fun b yields => ?_
  rw [Option.some.inj (yields.symm.trans h)]

omit [LawfulMonad m] in
theorem value?_bind_of_value {x : m α} {a : α} (h : value? x = some a) (f : α → m β) :
    value? (x >>= f) = value? (f a) := by
  rw [value?_bind, h, Option.bind_some]

end Deterministic

/-- What may be yielded in any case is yielded. -/
theorem Deterministic.of_always {m : Type → Type} [Effect m] [LawfulEffect m] [Deterministic m]
    {α : Type} {P : α → Prop} {x : m α} (always : Outcomes.lawful.Always P x) {a : α}
    (yields : value? x = some a) : P a := by
  obtain ⟨proved, rfl⟩ := always
  rw [value?_map, Option.map_eq_some_iff] at yields
  obtain ⟨b, _, rfl⟩ := yields
  exact b.property

/-- If the value that is yielded has a property, every value that may be yielded has it, at least
where there is one with the property. -/
theorem Deterministic.always_of_value? {m : Type → Type} [Effect m] [LawfulEffect m]
    [Deterministic m] {α : Type} {P : α → Prop} {x : m α} {other : α} (h : P other)
    (yields : ∀ a, value? x = some a → P a) : Outcomes.lawful.Always P x := by
  classical
  -- The proof stands beside the value; other values than this one do not matter.
  refine ⟨(fun a => if ha : P a then ⟨a, ha⟩ else ⟨other, h⟩) <$> x, ?_⟩
  rw [Functor.map_map]
  refine (map_congr_value fun a yield => ?_).trans (id_map x)
  rw [dif_pos (yields a yield), id_eq]

/-! ## The effects of the library -/

instance : Deterministic Plain where
  value? x := some x.value
  value?_pure _ := rfl
  value?_bind _ _ := rfl
  value?_emit _ := rfl
  bind_congr_value agree := by
    refine Outcomes.bind_congr_of_always (Plain.always_iff.2 rfl) fun a yields => ?_
    exact agree a (congrArg some yields)

instance {ω : Type} : Deterministic (Logged ω) where
  value? x := some x.value
  value?_pure _ := rfl
  value?_bind _ _ := rfl
  value?_emit _ := rfl
  bind_congr_value agree := by
    refine Outcomes.bind_congr_of_always (Logged.always_iff.2 rfl) fun a yields => ?_
    exact agree a (congrArg some yields)

/-- An aborted computation yields nothing. -/
instance {ε : Type} : Deterministic (Abortable ε) where
  value? x := x.result.toOption
  value?_pure _ := rfl
  value?_bind x f := by
    obtain ⟨_ | a, events⟩ := x <;> rfl
  value?_emit _ := rfl
  bind_congr_value agree := by
    refine Outcomes.bind_congr_of_always (Abortable.always_iff.2 fun a yields => ?_) agree
    rw [yields]
    rfl

instance {κ : Type} [Zero κ] [Add κ] [Std.Associative fun a b : κ => a + b]
    [Std.LawfulIdentity (fun a b : κ => a + b) 0] : Deterministic (Tally κ) where
  value? x := some x.value
  value?_pure _ := rfl
  value?_bind _ _ := rfl
  value?_emit _ := rfl
  bind_congr_value agree := by
    refine Outcomes.bind_congr_of_always (Tally.always_iff.2 rfl) fun a yields => ?_
    exact agree a (congrArg some yields)

end Descent
