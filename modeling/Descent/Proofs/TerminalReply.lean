import Descent.Proofs.Bounds

/-!
# Terminals answer without effects

In whatever effect a terminal is run, it does nothing but answer, and its answer is the one it gives
in the plain effect (`Terminal.run_eq`). The answer lies inside the text (`Terminal.reply_within`).
-/

namespace Descent

/-- A plain computation and one in another effect that has the same value and no effect. -/
def Plain.effectless (m : Type → Type) [Effect m] [LawfulEffect m] : Accord Plain m :=
  .ofLawful {
    Agree := fun R x y => ∃ b, R x.value b ∧ y = pure b
    mono := by
      rintro α β R S x y ⟨b, value, rfl⟩ h
      exact ⟨b, h _ _ value, rfl⟩
    pure := fun h => ⟨_, h, rfl⟩
    bind := by
      rintro α β γ δ R S f g x y ⟨b, value, rfl⟩ h
      obtain ⟨d, value', next⟩ := h _ _ value
      exact ⟨d, value', by rw [pure_bind, next]⟩ }

namespace Terminal

variable {α : Type}

/-- The answer of a terminal. -/
def reply (t : Terminal α) (c : Cursor) : Reply α := ((t.parser : Parser Plain α).run c).value

/-- A terminal does nothing but answer. -/
theorem run_eq {m : Type → Type} [Effect m] [LawfulEffect m] (t : Terminal α) (c : Cursor) :
    (t.parser : Parser m α).run c = pure (t.reply c) := by
  have alike : (t.parser : Parser Plain α).Alike (Plain.effectless m) View.same Eq t.parser :=
    .terminal t
  -- The run in `m` is pure, and its reply agrees by equality with the plain one.
  obtain ⟨s, agree, run⟩ := alike (show View.same.Place c c from rfl)
  rw [run, ← agree.eq_of_same]
  rfl

theorem reply_within (t : Terminal α) (c : Cursor) : (t.reply c).Within c := by
  have alike : (t.parser : Parser Plain α).Alike (Plain.comparison Eq).accord (View.onward c) Eq
    t.parser := .terminal t
  -- Replies agree under the view onward from `c` only inside of the text.
  have start : (View.onward c).Place c c := ⟨rfl, rfl, Nat.le_refl _⟩
  exact (alike start).1.within

end Terminal

end Descent
