import Descent.Effect.Abortable
import Descent.Effect.Logged
import Descent.Effect.Plain
import Descent.Effect.Tallied
import Mathlib.Data.List.Forall2

/-!
# Comparing computations

Many statements about parsers are statements about two runs: of one parser at two places, of two
parsers, or in two effects. A `Comparison` says when two computations agree, given when their values
do. It has to be kept by every operation of an effect, and nothing more is asked of the effects:
they need not be the same, and they need not obey any laws.

`Comparison.ofLawful` makes a comparison of two lawful effects from what is kept by pure values, by
chains and by events (`Comparison.Basis`), since everything else is made of these. Each effect of
the library is compared with itself by its `comparison`: two computations agree when they yield
values that agree, have the same output and report events that correspond.
-/

namespace Descent

/-- Two steps of loops decide alike. -/
inductive Flow.Agree {σ τ α β : Type} (S : σ → τ → Prop) (R : α → β → Prop) :
    Flow σ α → Flow τ β → Prop where
  | again {s : σ} {t : τ} (h : S s t) : Agree S R (.again s) (.again t)
  | done {a : α} {b : β} (h : R a b) : Agree S R (.done a) (.done b)

/-! ## Accords

An accord is a comparison that says nothing of reported events. -/

/-- When computations of two effects agree, for every relation between their values, as far as pure
values and chains tell. -/
structure Accord.Basis (m n : Type → Type) [Effect m] [Effect n] where
  /-- The two computations agree, and so do any values that they yield. -/
  Agree : {α β : Type} → (α → β → Prop) → m α → n β → Prop
  mono {α β : Type} {R S : α → β → Prop} {x : m α} {y : n β} :
    Agree R x y → (∀ a b, R a b → S a b) → Agree S x y
  pure {α β : Type} {R : α → β → Prop} {a : α} {b : β} : R a b → Agree R (pure a) (pure b)
  bind {α β γ δ : Type} {R : α → β → Prop} {S : γ → δ → Prop} {f : α → m γ} {g : β → n δ}
    {x : m α} {y : n β} : Agree R x y → (∀ a b, R a b → Agree S (f a) (g b)) →
    Agree S (x >>= f) (y >>= g)

/-- When computations of two effects agree, in a way that every operation of an effect keeps, the
reporting of events apart. -/
structure Accord (m n : Type → Type) [Effect m] [Effect n] extends Accord.Basis m n where
  map {α β γ δ : Type} {R : α → β → Prop} {S : γ → δ → Prop} {f : α → γ} {g : β → δ} {x : m α}
    {y : n β} : Agree R x y → (∀ a b, R a b → S (f a) (g b)) → Agree S (f <$> x) (g <$> y)
  iterate {σ τ α β : Type} {S : σ → τ → Prop} {R : α → β → Prop} {f : σ → m (Flow σ α)}
    {g : τ → n (Flow τ β)} : (∀ s t, S s t → Agree (Flow.Agree S R) (f s) (g t)) →
    ∀ (bound : Nat) {s : σ} {t : τ}, S s t →
      Agree (Option.Rel R) (Effect.iterate f bound s) (Effect.iterate g bound t)

namespace Accord

variable {m n : Type → Type} [Effect m] [Effect n]

/-- Unrolled loops agree as long as their steps do. Induction on the number of steps allowed. -/
theorem Basis.unroll (basis : Basis m n) {σ τ α β : Type} {S : σ → τ → Prop} {R : α → β → Prop}
    {f : σ → m (Flow σ α)} {g : τ → n (Flow τ β)}
    (step : ∀ s t, S s t → basis.Agree (Flow.Agree S R) (f s) (g t)) (bound : Nat) {s : σ} {t : τ}
    (h : S s t) : basis.Agree (Option.Rel R) (Flow.unroll f bound s) (Flow.unroll g bound t) := by
  induction bound generalizing s t with
  | zero => exact basis.pure Option.Rel.none
  | succ bound ih =>
    rw [Flow.unroll, Flow.unroll]
    -- Related states take steps that agree: both loops go on, or both have their results.
    refine basis.bind (step s t h) fun flow flow' agree => ?_
    cases agree with
    | again next => exact ih next
    | done result => exact basis.pure (Option.Rel.some result)

/-- An accord of lawful effects, in which mapped computations and loops are chains. -/
def ofLawful [LawfulEffect m] [LawfulEffect n] (basis : Basis m n) : Accord m n where
  toBasis := basis
  map agree h := by
    rw [← bind_pure_comp, ← bind_pure_comp]
    exact basis.bind agree fun a b hab => basis.pure (h a b hab)
  iterate step bound _ _ h := by
    rw [LawfulEffect.iterate_eq, LawfulEffect.iterate_eq]
    exact basis.unroll step bound h

/-- In a lawful effect a computation is the same computation mapped by the identity. -/
theorem map_left [LawfulEffect n] (A : Accord m n) {α β γ : Type} {R : α → β → Prop}
    {S : γ → β → Prop} {f : α → γ} {x : m α} {y : n β} (h : A.Agree R x y)
    (values : ∀ a b, R a b → S (f a) b) : A.Agree S (f <$> x) y := by
  rw [← id_map y]
  exact A.map h values

end Accord

/-! ## Comparisons -/

/-- When computations of two effects agree, for every relation between their values, as far as pure
values, chains and events tell. The relation `seen` says which reported events correspond. -/
structure Comparison.Basis (m n : Type → Type) [Effect m] [Effect n]
    (seen : Event → Event → Prop) where
  /-- The two computations agree, and so do any values that they yield. -/
  Agree : {α β : Type} → (α → β → Prop) → m α → n β → Prop
  mono {α β : Type} {R S : α → β → Prop} {x : m α} {y : n β} :
    Agree R x y → (∀ a b, R a b → S a b) → Agree S x y
  pure {α β : Type} {R : α → β → Prop} {a : α} {b : β} : R a b → Agree R (pure a) (pure b)
  bind {α β γ δ : Type} {R : α → β → Prop} {S : γ → δ → Prop} {f : α → m γ} {g : β → n δ}
    {x : m α} {y : n β} : Agree R x y → (∀ a b, R a b → Agree S (f a) (g b)) →
    Agree S (x >>= f) (y >>= g)
  emit {e f : Event} : seen e f → Agree (fun _ _ => True) (Effect.emit e) (Effect.emit f)

/-- When computations of two effects agree, in a way that every operation of an effect keeps. -/
structure Comparison (m n : Type → Type) [Effect m] [Effect n] (seen : Event → Event → Prop)
    extends Comparison.Basis m n seen where
  map {α β γ δ : Type} {R : α → β → Prop} {S : γ → δ → Prop} {f : α → γ} {g : β → δ} {x : m α}
    {y : n β} : Agree R x y → (∀ a b, R a b → S (f a) (g b)) → Agree S (f <$> x) (g <$> y)
  iterate {σ τ α β : Type} {S : σ → τ → Prop} {R : α → β → Prop} {f : σ → m (Flow σ α)}
    {g : τ → n (Flow τ β)} : (∀ s t, S s t → Agree (Flow.Agree S R) (f s) (g t)) →
    ∀ (bound : Nat) {s : σ} {t : τ}, S s t →
      Agree (Option.Rel R) (Effect.iterate f bound s) (Effect.iterate g bound t)

namespace Comparison

variable {m n : Type → Type} [Effect m] [Effect n] {seen : Event → Event → Prop}

/-- What a comparison says, reports left out. -/
def Basis.accord (basis : Basis m n seen) : Accord.Basis m n where
  Agree := basis.Agree
  mono := basis.mono
  pure := basis.pure
  bind := basis.bind

/-- A comparison is an accord. -/
def accord (C : Comparison m n seen) : Accord m n where
  toBasis := C.toBasis.accord
  map := C.map
  iterate := C.iterate

/-! ## Lawful effects

In a lawful effect a mapped computation is a chain that ends in a pure value, and a loop is a chain
of its steps. What pure values and chains keep is therefore kept by all operations. -/

/-- Unrolled loops agree as long as their steps do. -/
theorem Basis.unroll (basis : Basis m n seen) {σ τ α β : Type} {S : σ → τ → Prop}
    {R : α → β → Prop} {f : σ → m (Flow σ α)} {g : τ → n (Flow τ β)}
    (step : ∀ s t, S s t → basis.Agree (Flow.Agree S R) (f s) (g t)) (bound : Nat) {s : σ} {t : τ}
    (h : S s t) : basis.Agree (Option.Rel R) (Flow.unroll f bound s) (Flow.unroll g bound t) :=
  basis.accord.unroll step bound h

/-- A comparison of lawful effects. -/
def ofLawful [LawfulEffect m] [LawfulEffect n] (basis : Basis m n seen) : Comparison m n seen where
  toBasis := basis
  map agree h := by
    rw [← bind_pure_comp, ← bind_pure_comp]
    exact basis.bind agree fun a b hab => basis.pure (h a b hab)
  iterate step bound _ _ h := by
    rw [LawfulEffect.iterate_eq, LawfulEffect.iterate_eq]
    exact basis.unroll step bound h

/-- Effects that obey the laws and let no one see their events are compared by a joint run: one
computation that yields pairs of values which agree, of which either computation is a half. -/
def joint [LawfulEffect m] (silent : ∀ e f, seen e f → (Effect.emit e : m Unit) = Effect.emit f) :
    Comparison m m seen :=
  ofLawful {
    Agree := fun R x y =>
      ∃ both : m { pair : _ × _ // R pair.1 pair.2 },
        (·.val.1) <$> both = x ∧ (·.val.2) <$> both = y
    mono := by
      rintro α β R S x y ⟨both, rfl, rfl⟩ h
      refine ⟨(fun pair => ⟨pair.val, h _ _ pair.property⟩) <$> both, ?_, ?_⟩ <;> simp
    pure := fun {α β R a b} h => ⟨pure ⟨(a, b), h⟩, by simp, by simp⟩
    bind := by
      rintro α β γ δ R S f g x y ⟨both, rfl, rfl⟩ h
      -- Every pair of values that agree goes on with a joint run of its own.
      have joined : ∀ pair : { pair : α × β // R pair.1 pair.2 },
          ∃ next : m { pair : γ × δ // S pair.1 pair.2 },
            (·.val.1) <$> next = f pair.val.1 ∧ (·.val.2) <$> next = g pair.val.2 :=
        fun pair => h _ _ pair.property
      choose next first second using joined
      exact ⟨both >>= next, by simp [first], by simp [second]⟩
    emit := fun {e f} h => ⟨(fun _ => ⟨((), ()), trivial⟩) <$> Effect.emit e, by simp, by
      rw [← silent e f h]
      simp⟩ }

end Comparison

/-! ## The effects of the library

Each effect compared with itself. Values agree as asked for and outputs are the same, and events
correspond one by one. -/

variable (seen : Event → Event → Prop)

/-- Plain computations agree by their values and events. -/
def Plain.comparison : Comparison Plain Plain seen :=
  .ofLawful {
    Agree := fun R x y => R x.value y.value ∧ List.Forall₂ seen x.events y.events
    mono := fun agree h => ⟨h _ _ agree.1, agree.2⟩
    pure := fun h => ⟨h, .nil⟩
    bind := fun agree h => ⟨(h _ _ agree.1).1, List.rel_append agree.2 (h _ _ agree.1).2⟩
    emit := fun h => ⟨trivial, .cons h .nil⟩ }

/-- Logged computations agree by their values and events, and write the same log. -/
def Logged.comparison (ω : Type) : Comparison (Logged ω) (Logged ω) seen :=
  .ofLawful {
    Agree := fun R x y =>
      R x.value y.value ∧ x.log = y.log ∧ List.Forall₂ seen x.events y.events
    mono := fun agree h => ⟨h _ _ agree.1, agree.2⟩
    pure := fun h => ⟨h, rfl, .nil⟩
    bind := by
      intro α β γ δ R S f g x y agree h
      obtain ⟨hvalue, hlog, hevents⟩ := agree
      obtain ⟨hvalue', hlog', hevents'⟩ := h _ _ hvalue
      exact ⟨hvalue', by rw [log_bind, log_bind, hlog, hlog'], List.rel_append hevents hevents'⟩
    emit := fun h => ⟨trivial, rfl, .cons h .nil⟩ }

/-- Tallied computations agree by their values and events, and count the same total. -/
def Tally.comparison (κ : Type) [Zero κ] [Add κ] [Std.Associative fun a b : κ => a + b]
    [Std.LawfulIdentity (fun a b : κ => a + b) 0] : Comparison (Tally κ) (Tally κ) seen :=
  .ofLawful {
    Agree := fun R x y =>
      R x.value y.value ∧ x.total = y.total ∧ List.Forall₂ seen x.events y.events
    mono := fun agree h => ⟨h _ _ agree.1, agree.2⟩
    pure := fun h => ⟨h, rfl, .nil⟩
    bind := by
      intro α β γ δ R S f g x y agree h
      obtain ⟨hvalue, htotal, hevents⟩ := agree
      obtain ⟨hvalue', htotal', hevents'⟩ := h _ _ hvalue
      exact ⟨hvalue', by rw [total_bind, total_bind, htotal, htotal'],
        List.rel_append hevents hevents'⟩
    emit := fun h => ⟨trivial, rfl, .cons h .nil⟩ }

/-- Two outcomes are values that agree, or one and the same reason to stop. -/
inductive Abortable.SameResult {ε α β : Type} (R : α → β → Prop) :
    Except ε α → Except ε β → Prop where
  | ok {a : α} {b : β} (h : R a b) : SameResult R (.ok a) (.ok b)
  | error (reason : ε) : SameResult R (.error reason) (.error reason)

/-- Abortable computations agree by their values and events, or stop for the same reason. -/
def Abortable.comparison (ε : Type) : Comparison (Abortable ε) (Abortable ε) seen :=
  .ofLawful {
    Agree := fun R x y => SameResult R x.result y.result ∧ List.Forall₂ seen x.events y.events
    mono := by
      rintro α β R S ⟨_, _⟩ ⟨_, _⟩ ⟨⟨hvalue⟩ | ⟨reason⟩, hevents⟩ h
      · exact ⟨.ok (h _ _ hvalue), hevents⟩
      · exact ⟨.error reason, hevents⟩
    pure := fun h => ⟨.ok h, .nil⟩
    bind := by
      rintro α β γ δ R S f g ⟨_, _⟩ ⟨_, _⟩ ⟨⟨hvalue⟩ | ⟨reason⟩, hevents⟩ h
      · obtain ⟨hresult', hevents'⟩ := h _ _ hvalue
        exact ⟨hresult', List.rel_append hevents hevents'⟩
      · -- Neither second computation is run.
        exact ⟨.error reason, hevents⟩
    emit := fun h => ⟨.ok trivial, .cons h .nil⟩ }

end Descent
