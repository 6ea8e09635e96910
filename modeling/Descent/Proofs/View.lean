import Descent.Parser.Report
import Mathlib.Data.List.Forall2

/-!
# Views of two texts

A `View` lays two texts side by side: it says which places in them correspond, and with them which
failures, which spans and which events. Corresponding places have the same text left to read, so a
parser that only looks at the text left cannot tell them apart; all else about them may differ,
their positions above all.

Replies agree under a view when they are of one kind, with values that agree and places, or
failures, that correspond (`Reply.Agree`). Every operation on replies keeps this.
-/

namespace Descent

/-- How two texts correspond. -/
structure View where
  /-- Which places correspond. -/
  Place : Cursor → Cursor → Prop
  /-- Which failures correspond. -/
  Reason : Failure → Failure → Prop
  /-- Which spans correspond. -/
  Stretch : Span → Span → Prop
  /-- Which events correspond. -/
  Seen : Event → Event → Prop
  rest_eq {c d : Cursor} : Place c d → c.rest = d.rest
  advance {c d : Cursor} : Place c d → ∀ count, Place (c.advance count) (d.advance count)
  failure {c d : Cursor} : Place c d → ∀ message, Reason (c.failure message) (d.failure message)
  relabel {e f : Failure} : Reason e f →
    ∀ message, Reason (e.withMessage message) (f.withMessage message)
  stretch {c d c' d' : Cursor} : Place c d → Place c' d' →
    Stretch ⟨c.position, c'.position⟩ ⟨d.position, d'.position⟩
  entered {c d : Cursor} : Place c d →
    ∀ name, Seen (.entered name c.position) (.entered name d.position)
  matched {c d c' d' : Cursor} : Place c d → Place c' d' →
    ∀ name, Seen (.matched name c.position c'.position) (.matched name d.position d'.position)
  failed {e f : Failure} : Reason e f → ∀ name, Seen (.failed name e) (.failed name f)

/-- Two replies are of one kind, their values agree, and their places or failures correspond. -/
inductive Reply.Agree {α β : Type} (v : View) (R : α → β → Prop) : Reply α → Reply β → Prop where
  | success {a : α} {b : β} {c d : Cursor} (value : R a b) (next : v.Place c d) :
      Agree v R (.success a c) (.success b d)
  | failure {e f : Failure} (reason : v.Reason e f) : Agree v R (.failure e) (.failure f)
  | unfinished : Agree v R .unfinished .unfinished

/-- Pairs agree when their parts do. -/
def Both {α β γ δ : Type} (R : α → β → Prop) (S : γ → δ → Prop) (x : α × γ) (y : β × δ) : Prop :=
  R x.1 y.1 ∧ S x.2 y.2

/-- Two operators take operands that agree to results that agree. -/
def Operators {α β : Type} (R : α → β → Prop) (f : α → α → α) (g : β → β → β) : Prop :=
  ∀ ⦃a b⦄, R a b → ∀ ⦃a' b'⦄, R a' b' → R (f a a') (g b b')

/-! ## Agreement by equality

Where the parts of two values agree by equality, the values are equal. -/

theorem Both.eq {α β : Type} {x y : α × β} (h : Both Eq Eq x y) : x = y := Prod.ext h.1 h.2

theorem Operators.of_eq {α : Type} {f g : α → α → α} (h : f = g) : Operators Eq f g := by
  rintro a _ rfl b _ rfl
  rw [h]

theorem eq_of_rel_eq {α : Type} {a b : Option α} (h : Option.Rel Eq a b) : a = b := by
  cases h with
  | some h => rw [h]
  | none => rfl

theorem eq_of_forall₂_eq {α : Type} {as bs : List α} (h : List.Forall₂ Eq as bs) : as = bs := by
  rwa [List.forall₂_eq_eq_eq] at h

namespace View

/-! ## Places that correspond -/

variable {v : View} {c d : Cursor}

theorem remaining_eq (h : v.Place c d) : c.remaining = d.remaining := by
  rw [← Cursor.length_rest, ← Cursor.length_rest, v.rest_eq h]

theorem peek?_eq (h : v.Place c d) : c.peek? = d.peek? := by
  rw [Cursor.peek?_eq_head?, Cursor.peek?_eq_head?, v.rest_eq h]

theorem atEnd_eq (h : v.Place c d) : c.atEnd = d.atEnd := by
  rw [Bool.eq_iff_iff, Cursor.atEnd_iff, Cursor.atEnd_iff, v.rest_eq h]

theorem startsWith_eq (h : v.Place c d) (expected : List Char) :
    c.startsWith expected = d.startsWith expected := by
  rw [Bool.eq_iff_iff, Cursor.startsWith_iff, Cursor.startsWith_iff, v.rest_eq h]

/-- A text compared with itself: everything corresponds to itself only. -/
def same : View where
  Place := Eq
  Reason := Eq
  Stretch := Eq
  Seen := Eq
  rest_eq := by rintro c _ rfl; rfl
  advance := by rintro c _ rfl _; rfl
  failure := by rintro c _ rfl _; rfl
  relabel := by rintro e _ rfl _; rfl
  stretch := by rintro c _ c' _ rfl rfl; rfl
  entered := by rintro c _ rfl _; rfl
  matched := by rintro c _ c' _ rfl rfl _; rfl
  failed := by rintro e _ rfl _; rfl

end View

namespace Reply.Agree

/-! ## Operations on replies -/

variable {α β γ δ : Type} {v : View} {R : α → β → Prop} {S : γ → δ → Prop} {c d : Cursor}
  {r : Reply α} {s : Reply β}

theorem mono {T : α → β → Prop} (h : Reply.Agree v R r s) (weaker : ∀ a b, R a b → T a b) :
    Reply.Agree v T r s := by
  cases h with
  | success value next => exact .success (weaker _ _ value) next
  | failure reason => exact .failure reason
  | unfinished => exact .unfinished

theorem map {f : α → γ} {g : β → δ} (h : Reply.Agree v R r s)
    (values : ∀ a b, R a b → S (f a) (g b)) : Reply.Agree v S (r.map f) (s.map g) := by
  cases h with
  | success value next => exact .success (values _ _ value) next
  | failure reason => exact .failure reason
  | unfinished => exact .unfinished

theorem relabel (h : Reply.Agree v R r s) (message : String) :
    Reply.Agree v R (r.relabel message) (s.relabel message) := by
  cases h with
  | success value next => exact .success value next
  | failure reason => exact .failure (v.relabel reason message)
  | unfinished => exact .unfinished

theorem recover (h : Reply.Agree v R r s) (start : v.Place c d) {a : α} {b : β}
    (default : R a b) : Reply.Agree v R (r.recover c a) (s.recover d b) := by
  cases h with
  | success value next => exact .success value next
  | failure _ => exact .success default start
  | unfinished => exact .unfinished

theorem refuse (h : Reply.Agree v R r s) (start : v.Place c d) (message : String) :
    Reply.Agree v Eq (r.refuse c message) (s.refuse d message) := by
  cases h with
  | success _ _ => exact .failure (v.failure start message)
  | failure _ => exact .success rfl start
  | unfinished => exact .unfinished

/-- A judgement that takes values that agree to the same verdict is kept. -/
theorem refine {judge : α → Except String γ} {judge' : β → Except String γ}
    (h : Reply.Agree v R r s) (start : v.Place c d)
    (judges : ∀ a b, R a b → judge a = judge' b) :
    Reply.Agree v Eq (r.refine c judge) (s.refine d judge') := by
  cases h with
  | @success a b c' d' value next =>
    -- One verdict on both values: a result at the places reached, or a failure at the start.
    rw [Reply.refine, Reply.refine, judges a b value]
    cases judge' b with
    | ok result => exact .success rfl next
    | error message => exact .failure (v.failure start message)
  | failure reason => exact .failure reason
  | unfinished => exact .unfinished

theorem withSpan (h : Reply.Agree v R r s) (start : v.Place c d) :
    Reply.Agree v (Both R v.Stretch) (r.withSpan c) (s.withSpan d) := by
  cases h with
  | success value next => exact .success ⟨value, v.stretch start next⟩ next
  | failure reason => exact .failure reason
  | unfinished => exact .unfinished

/-- Under the view of a text as itself, replies that agree by equality are equal. -/
theorem eq_of_same {s : Reply α} (h : Reply.Agree View.same Eq r s) : r = s := by
  cases h with
  | success value next => rw [value, show _ = _ from next]
  | failure reason => rw [show _ = _ from reason]
  | unfinished => rfl

end Reply.Agree

/-- Under the view of a text as itself, a reply agrees with itself. -/
theorem Reply.agree_same {α : Type} (r : Reply α) : Reply.Agree View.same Eq r r := by
  cases r with
  | success a next => exact .success rfl rfl
  | failure e => exact .failure rfl
  | unfinished => exact .unfinished

end Descent
