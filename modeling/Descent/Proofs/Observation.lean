import Descent.Proofs.Comparison

/-!
# Observing computations

Whoever runs a parser sees its computation in some way of his own: its value, its log, its events,
or only a part of these. An `Observation` is such a way that goes along with pure values and with
chains. Two computations that look the same may differ in what is not observed.

An observation gives an accord of an effect with itself (`Observation.accord`): two computations
agree when they look like the halves of one observed computation, whose values are pairs that agree.
Under it a mapped computation, and a computation that reports what is not observed, agrees with
whatever the bare computation agrees with.
-/

namespace Descent

/-- A way to see computations of `m` as computations of `n`. -/
structure Observation (m n : Type → Type) [Effect m] [Monad n] where
  /-- What is seen of a computation. -/
  of {α : Type} : m α → n α
  of_pure {α : Type} (a : α) : of (pure a) = pure a
  of_bind {α β : Type} (x : m α) (f : α → m β) : of (x >>= f) = of x >>= fun a => of (f a)

namespace Observation

/-- Nothing is seen of the reporting of events. -/
def IgnoresEvents {m n : Type → Type} [Effect m] [Monad n] (O : Observation m n) : Prop :=
  ∀ e : Event, O.of (Effect.emit e) = pure ()

variable {m n : Type → Type} [Effect m] [LawfulEffect m] [Monad n] [LawfulMonad n]
  {α β γ : Type} {R : α → β → Prop}

theorem of_map (O : Observation m n) (f : α → β) (x : m α) : O.of (f <$> x) = f <$> O.of x := by
  rw [← bind_pure_comp, ← bind_pure_comp, O.of_bind]
  exact bind_congr fun a => O.of_pure (f a)

/-- Two computations agree when they look like the halves of one. -/
def accord (O : Observation m n) : Accord m m :=
  .ofLawful {
    Agree := fun R x y =>
      ∃ both : n { pair : _ × _ // R pair.1 pair.2 },
        (·.val.1) <$> both = O.of x ∧ (·.val.2) <$> both = O.of y
    mono := by
      rintro α β R S x y ⟨both, first, second⟩ h
      refine ⟨(fun pair => ⟨pair.val, h _ _ pair.property⟩) <$> both, ?_, ?_⟩
      · simpa using first
      · simpa using second
    pure := fun {α β R a b} h => ⟨pure ⟨(a, b), h⟩, by simp [O.of_pure], by simp [O.of_pure]⟩
    bind := by
      rintro α β γ δ R S f g x y ⟨both, first, second⟩ h
      -- Every pair of values that agree goes on as one computation.
      choose next nextFirst nextSecond using
        fun pair : { pair : α × β // R pair.1 pair.2 } => h _ _ pair.property
      refine ⟨both >>= next, ?_, ?_⟩
      · -- What is seen of a chain is the chain of what is seen of its links.
        rw [O.of_bind, ← first, map_bind, bind_map_left]
        exact bind_congr nextFirst
      · rw [O.of_bind, ← second, map_bind, bind_map_left]
        exact bind_congr nextSecond }

variable {O : Observation m n} {x : m α} {y : m β}

/-- Computations that look the same agree. -/
theorem accord_of_eq {R : α → α → Prop} (refl : ∀ a, R a a) {x y : m α} (h : O.of x = O.of y) :
    O.accord.Agree R x y :=
  ⟨(fun a => ⟨(a, a), refl a⟩) <$> O.of x, by simp, by simp [h]⟩

/-- Agreement is a matter of looks. -/
theorem accord_congr_left {x' : m α} (h : O.accord.Agree R x y) (looks : O.of x' = O.of x) :
    O.accord.Agree R x' y := by
  obtain ⟨both, first, second⟩ := h
  exact ⟨both, first.trans looks.symm, second⟩

/-- What agreeing values have in common is seen of both computations alike. -/
theorem map_of_eq {f : α → γ} {g : β → γ} (h : O.accord.Agree R x y)
    (common : ∀ a b, R a b → f a = g b) : f <$> O.of x = g <$> O.of y := by
  obtain ⟨both, first, second⟩ := h
  rw [← first, ← second, Functor.map_map, Functor.map_map]
  congr 1
  funext pair
  exact common _ _ pair.property

theorem of_eq {R : α → α → Prop} {x y : m α} (h : O.accord.Agree R x y)
    (eq : ∀ a b, R a b → a = b) : O.of x = O.of y := by
  have := map_of_eq (f := id) (g := id) h eq
  rwa [id_map, id_map] at this

end Observation

/-! ## The effects of the library

Everything is observed but the events, and of each event as much as an edition makes of it. -/

variable (edit : Event → List Event)

/-- A plain computation with edited events. -/
def Plain.editing : Observation Plain Plain where
  of x := ⟨x.value, x.events.flatMap edit⟩
  of_pure _ := rfl
  of_bind x f := by
    apply Plain.ext <;> simp [List.flatMap_append]

/-- A logged computation with edited events. -/
def Logged.editing (ω : Type) : Observation (Logged ω) (Logged ω) where
  of x := ⟨x.value, x.log, x.events.flatMap edit⟩
  of_pure _ := rfl
  of_bind x f := by
    apply Logged.ext <;> simp [List.flatMap_append]

/-- A tallied computation with edited events. -/
def Tally.editing (κ : Type) [Zero κ] [Add κ] : Observation (Tally κ) (Tally κ) where
  of x := ⟨x.value, x.total, x.events.flatMap edit⟩
  of_pure _ := rfl
  of_bind x f := by
    apply Tally.ext <;> simp [List.flatMap_append]

/-- An abortable computation with edited events. -/
def Abortable.editing (ε : Type) : Observation (Abortable ε) (Abortable ε) where
  of x := ⟨x.result, x.events.flatMap edit⟩
  of_pure _ := rfl
  of_bind := by
    rintro α β ⟨_ | a, events⟩ f
    · rfl
    · simp [ok_bind, List.flatMap_append]

end Descent
