import Descent.Proofs.Comparison

/-!
# What a computation may yield

`Outcomes` is an account of the values that the computations of an effect may yield: it says when
all of them have a property. An effect may yield nothing at all, as after an abort, or run its parts
more than once; all that is asked is that a composed computation yields only what its parts make
possible.

The account is a comparison with only one side (`Outcomes.comparison`), so whatever is known of
agreeing parsers serves for the values of one. Every lawful effect has an account of its own
(`Outcomes.lawful`): a property holds of all values when the computation could as well have been run
on values that carry a proof of it.
-/

namespace Descent

/-- A step of a loop goes on from a state with one property or ends with a result with another. -/
inductive Flow.Always {σ α : Type} (I : σ → Prop) (P : α → Prop) : Flow σ α → Prop where
  | again {s : σ} (h : I s) : Always I P (.again s)
  | done {a : α} (h : P a) : Always I P (.done a)

/-- When all values that a computation may yield have a property. -/
structure Outcomes (m : Type → Type) [Effect m] where
  /-- Every value that the computation may yield has the property. -/
  Always : {α : Type} → (α → Prop) → m α → Prop
  any {α : Type} (x : m α) : Always (fun _ => True) x
  mono {α : Type} {P Q : α → Prop} {x : m α} : Always P x → (∀ a, P a → Q a) → Always Q x
  pure {α : Type} {P : α → Prop} {a : α} : P a → Always P (pure a)
  map {α β : Type} {P : α → Prop} {Q : β → Prop} {f : α → β} {x : m α} :
    Always P x → (∀ a, P a → Q (f a)) → Always Q (f <$> x)
  bind {α β : Type} {P : α → Prop} {Q : β → Prop} {f : α → m β} {x : m α} :
    Always P x → (∀ a, P a → Always Q (f a)) → Always Q (x >>= f)
  iterate {σ α : Type} {I : σ → Prop} {P : α → Prop} {f : σ → m (Flow σ α)} :
    (∀ s, I s → Always (Flow.Always I P) (f s)) → ∀ (bound : Nat) {s : σ}, I s →
      Always (fun result => ∀ a, result = some a → P a) (Effect.iterate f bound s)

namespace Outcomes

variable {m : Type → Type} [Effect m]

/-- The account as a comparison that ignores its second side. Agreement by a relation means that
every value is related to some other. -/
def comparison (O : Outcomes m) (seen : Event → Event → Prop) : Comparison m m seen where
  Agree R x _ := O.Always (fun a => ∃ b, R a b) x
  mono agree h := O.mono agree fun a ⟨b, hab⟩ => ⟨b, h a b hab⟩
  pure h := O.pure ⟨_, h⟩
  bind agree h := O.bind agree fun a ⟨b, hab⟩ => h a b hab
  emit _ := O.mono (O.any _) fun _ _ => ⟨(), trivial⟩
  map agree h := O.map agree fun a ⟨b, hab⟩ => ⟨_, h a b hab⟩
  iterate {σ τ α β S R f g} step bound {s t} h := by
    have steps : ∀ s, (∃ t, S s t) →
        O.Always (Flow.Always (fun s => ∃ t, S s t) (fun a => ∃ b, R a b)) (f s) := by
      rintro s ⟨t, hst⟩
      refine O.mono (step s t hst) ?_
      rintro flow ⟨flow', h | h⟩
      · exact .again ⟨_, h⟩
      · exact .done ⟨_, h⟩
    refine O.mono (O.iterate steps bound ⟨t, h⟩) fun result values => ?_
    cases result with
    | none => exact ⟨none, .none⟩
    | some a =>
      obtain ⟨b, hab⟩ := values a rfl
      exact ⟨some b, .some hab⟩

/-- The account of a lawful effect: the computation is the image of one whose values carry a proof
of the property. -/
def lawful [LawfulEffect m] : Outcomes m where
  Always P x := ∃ proved : m { a // P a }, (·.val) <$> proved = x
  any x := ⟨(fun a => ⟨a, trivial⟩) <$> x, by simp⟩
  mono := by
    rintro α P Q _ ⟨x, rfl⟩ h
    exact ⟨(fun a => ⟨a.val, h _ a.property⟩) <$> x, by simp⟩
  pure h := ⟨Pure.pure ⟨_, h⟩, by simp⟩
  map := by
    rintro α β P Q f _ ⟨x, rfl⟩ h
    exact ⟨(fun a => ⟨f a.val, h _ a.property⟩) <$> x, by simp⟩
  bind := by
    rintro α β P Q f _ ⟨x, rfl⟩ h
    choose next images using fun a : { a // P a } => h a.val a.property
    exact ⟨x >>= next, by simp [images]⟩
  iterate := by
    intro σ α I P f step bound s h
    rw [LawfulEffect.iterate_eq]
    induction bound generalizing s with
    | zero => exact ⟨Pure.pure ⟨none, by simp⟩, by simp [Flow.unroll]⟩
    | succ bound ih =>
      obtain ⟨flow, image⟩ := step s h
      -- What follows a proved step: the rest of the loop, or its result.
      have rest : ∀ flow : { flow // Flow.Always I P flow },
          ∃ next : m { result : Option α // ∀ a, result = some a → P a },
            (·.val) <$> next = match flow.val with
              | .again s => Flow.unroll f bound s
              | .done a => Pure.pure (some a) := by
        rintro ⟨_, hs | ha⟩
        · exact ih hs
        · exact ⟨Pure.pure ⟨some _, by rintro _ ⟨⟩; exact ha⟩, by simp⟩
      choose next images using rest
      refine ⟨flow >>= next, ?_⟩
      rw [Flow.unroll, ← image, map_bind, bind_map_left]
      exact bind_congr images

/-- Chains need to agree only on the values that their first link may yield. -/
theorem bind_congr_of_always [LawfulEffect m] {α β : Type} {P : α → Prop} {x : m α}
    (h : lawful.Always P x) {f g : α → m β} (agree : ∀ a, P a → f a = g a) :
    x >>= f = x >>= g := by
  obtain ⟨proved, rfl⟩ := h
  rw [bind_map_left, bind_map_left]
  exact bind_congr fun a => agree a.val a.property

end Outcomes

/-! ## The effects of the library

An effect that yields one value may yield a value with a property exactly when its value has it, and
an aborted computation yields nothing. -/

variable {α : Type} {P : α → Prop}

theorem Plain.always_iff {x : Plain α} : Outcomes.lawful.Always P x ↔ P x.value := by
  constructor
  · rintro ⟨proved, rfl⟩
    exact proved.value.property
  · intro h
    exact ⟨⟨⟨x.value, h⟩, x.events⟩, rfl⟩

theorem Logged.always_iff {ω : Type} {x : Logged ω α} :
    Outcomes.lawful.Always P x ↔ P x.value := by
  constructor
  · rintro ⟨proved, rfl⟩
    exact proved.value.property
  · intro h
    exact ⟨⟨⟨x.value, h⟩, x.log, x.events⟩, rfl⟩

theorem Tally.always_iff {κ : Type} [Zero κ] [Add κ] [Std.Associative fun a b : κ => a + b]
    [Std.LawfulIdentity (fun a b : κ => a + b) 0] {x : Tally κ α} :
    Outcomes.lawful.Always P x ↔ P x.value := by
  constructor
  · rintro ⟨proved, rfl⟩
    exact proved.value.property
  · intro h
    refine ⟨(fun _ => ⟨x.value, h⟩) <$> x, ?_⟩
    rw [Functor.map_map]
    exact id_map x

theorem Abortable.always_iff {ε : Type} {x : Abortable ε α} :
    Outcomes.lawful.Always P x ↔ ∀ a, x.result = .ok a → P a := by
  constructor
  · rintro ⟨⟨proved | proved, events⟩, rfl⟩ a ha
    · cases ha
    · cases ha
      exact proved.property
  · obtain ⟨result | a, events⟩ := x
    · intro _
      exact ⟨⟨.error result, events⟩, rfl⟩
    · intro h
      exact ⟨⟨.ok ⟨a, h a rfl⟩, events⟩, rfl⟩

end Descent
