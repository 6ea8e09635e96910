import Descent.Proofs.Bounds

/-!
# Places further on

A place is onward from another when it lies in the same text and no earlier. A reply stays inside
the text from its start on (`Reply.Within`) when it stops, or blames a place, onward from there;
what lies onward from a later place lies onward from an earlier one, and nothing that is done to a
reply leads out of the text.
-/

namespace Descent

/-- The other place lies in the same text, no earlier. -/
def Cursor.Onward (c d : Cursor) : Prop := d.source = c.source ∧ c.position ≤ d.position

namespace Cursor.Onward

variable {c d e : Cursor}

theorem refl (c : Cursor) : c.Onward c := ⟨rfl, Nat.le_refl _⟩

theorem trans (first : c.Onward d) (second : d.Onward e) : c.Onward e :=
  ⟨second.1.trans first.1, Nat.le_trans first.2 second.2⟩

/-- There is one text, and so one end. -/
theorem limit_eq (h : c.Onward d) : d.limit = c.limit := congrArg Array.size h.1

/-- Two places that lie onward from one another are the same. -/
theorem antisymm (h : c.Onward d) (h' : d.Onward c) : d = c :=
  Cursor.ext h.1 (Nat.le_antisymm h'.2 h.2)

/-- Less text is left at every other place onward. -/
theorem remaining_lt (h : c.Onward d) (ne : d ≠ c) : d.remaining < c.remaining := by
  -- Two places of one text differ in their positions.
  have position_ne : d.position ≠ c.position := fun eq => ne (Cursor.ext h.1 eq)
  have := h.2
  have := d.position_le_limit
  rw [remaining, remaining, h.limit_eq]
  rw [h.limit_eq] at this
  omega

theorem advance (c : Cursor) (count : Nat) : c.Onward (c.advance count) := by
  have := c.position_le_limit
  exact ⟨rfl, by rw [position_advance]; omega⟩

end Cursor.Onward

@[simp] theorem Cursor.limit_ofString (text : String) : (ofString text).limit = text.length := by
  simp [ofString, limit, String.length_toList]

/-- Whoever steps over characters that are there does not stay. -/
theorem Cursor.eq_zero_of_advance_eq {c : Cursor} {count : Nat} (there : count ≤ c.remaining)
    (same : c.advance count = c) : count = 0 := by
  have position_eq := congrArg position same
  rw [position_advance_of_le there] at position_eq
  omega

theorem Cursor.advance_one_ne {c : Cursor} {x : Char} (h : c.peek? = some x) : c.advance 1 ≠ c := by
  intro same
  exact absurd (eq_zero_of_advance_eq (remaining_pos h) same) Nat.one_ne_zero

namespace Reply

variable {α β : Type} {c d : Cursor} {r : Reply α}

theorem within_success {a : α} (h : c.Onward d) : (success a d).Within c :=
  ⟨h.1, h.limit_eq, h.2, d.position_le_limit⟩

theorem Within.onward {a : α} (h : (success a d).Within c) : c.Onward d := ⟨h.1, h.2.2.1⟩

theorem within_failure (c : Cursor) (message : String) :
    (failure (c.failure message) : Reply α).Within c :=
  ⟨Nat.le_refl _, c.position_le_limit⟩

namespace Within

/-- What lies onward from a later place lies onward from an earlier one. -/
theorem of_onward (place : c.Onward d) (h : r.Within d) : r.Within c := by
  cases r with
  | success a next => exact within_success (place.trans h.onward)
  | failure e => exact ⟨Nat.le_trans place.2 h.1, place.limit_eq ▸ h.2⟩
  | unfinished => trivial

/-! ### Operations on replies -/

theorem map (f : α → β) (h : r.Within c) : (r.map f).Within c := by
  cases r <;> exact h

theorem relabel (message : String) (h : r.Within c) : (r.relabel message).Within c := by
  cases r <;> exact h

theorem withSpan (h : r.Within c) : (r.withSpan c).Within c := by
  cases r <;> exact h

theorem recover (default : α) (h : r.Within c) : (r.recover c default).Within c := by
  cases r with
  | success a next => exact h
  | failure e => exact within_success (.refl c)
  | unfinished => trivial

theorem refuse (message : String) (h : r.Within c) : (r.refuse c message).Within c := by
  cases r with
  | success a next => exact within_failure c message
  | failure e => exact within_success (.refl c)
  | unfinished => exact h

theorem requireEnd (message : String) (h : r.Within c) : (r.requireEnd message).Within c := by
  cases r with
  | success a next =>
    rw [Reply.requireEnd]
    split
    · exact h
    · -- Where the end is missed, the parser has stopped onward from its start.
      exact of_onward h.onward (within_failure next message)
  | failure e => exact h
  | unfinished => exact h

end Within

end Reply

end Descent
