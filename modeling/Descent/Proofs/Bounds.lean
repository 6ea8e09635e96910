import Descent.Proofs.CheckedReading
import Descent.Proofs.Outcomes
import Descent.Proofs.Similar

/-!
# Parsers stay inside their text

A parser that succeeds stops in the text in which it was started, no earlier than there and no later
than its end, and a parser that fails blames a place of the same stretch (`Reply.Within`). This
holds of every grammar whose own looks at the text keep it, over any rules and in any effect.

The proof compares a run with itself, under a view in which a place corresponds to itself as long as
it lies onward from the start (`View.onward`). A run that agrees with anything under this view stays
inside.
-/

namespace Descent

/-- The answer of a parser, started at `c`, that has moved on in the text of `c` or failed further
on in it. -/
def Reply.Within {α : Type} (c : Cursor) : Reply α → Prop
  | .success _ next =>
    next.source = c.source ∧ next.limit = c.limit ∧ c.position ≤ next.position ∧
      next.position ≤ next.limit
  | .failure e => c.position ≤ e.position ∧ e.position ≤ c.limit
  | .unfinished => True

/-- A span read from `c` on covers the characters up to the place where its parser stopped. -/
def Reply.SpanFits {α : Type} (c : Cursor) : Reply (α × Span) → Prop
  | .success a next => a.2.start = c.position ∧ a.2.length = .ok (next.position - c.position)
  | .failure _ => True
  | .unfinished => True

/-! ## The view onward from a place -/

/-- A text compared with itself, from `start` on: no place before it corresponds to any. -/
def View.onward (start : Cursor) : View where
  Place c d := c = d ∧ c.source = start.source ∧ start.position ≤ c.position
  Reason e f := e = f ∧ start.position ≤ e.position ∧ e.position ≤ start.limit
  Stretch := Eq
  Seen := Eq
  rest_eq := by
    rintro c _ ⟨rfl, _⟩
    rfl
  advance := by
    rintro c _ ⟨rfl, hsource, hle⟩ count
    have := c.position_le_limit
    refine ⟨rfl, hsource, ?_⟩
    rw [Cursor.position_advance]
    omega
  failure := by
    rintro c _ ⟨rfl, hsource, hle⟩ message
    refine ⟨rfl, hle, ?_⟩
    rw [Cursor.limit, ← hsource]
    exact c.position_le
  relabel := by
    rintro e _ ⟨rfl, hle, hlimit⟩ message
    exact ⟨rfl, hle, hlimit⟩
  stretch := by
    rintro c _ c' _ ⟨rfl, _⟩ ⟨rfl, _⟩
    rfl
  entered := by
    rintro c _ ⟨rfl, _⟩ name
    rfl
  matched := by
    rintro c _ c' _ ⟨rfl, _⟩ ⟨rfl, _⟩ name
    rfl
  failed := by
    rintro e _ ⟨rfl, _⟩ name
    rfl

namespace Reply

variable {α : Type} {start c : Cursor} {r s : Reply α}

/-- A reply that agrees with any other under the view onward from a place lies onward from it. -/
theorem Agree.within (h : Reply.Agree (View.onward start) Eq r s) : r.Within start := by
  cases h with
  | success _ next =>
    obtain ⟨rfl, hsource, hle⟩ := next
    exact ⟨hsource, congrArg Array.size hsource, hle, Cursor.position_le_limit _⟩
  | failure reason => exact reason.2
  | unfinished => trivial

/-- A reply from a place onward from the start agrees with itself. -/
theorem Within.agree (h : r.Within c) (place : (View.onward start).Place c c) :
    Reply.Agree (View.onward start) Eq r r := by
  obtain ⟨_, hsource, hle⟩ := place
  cases r with
  | success a next =>
    obtain ⟨hsource', _, hle', _⟩ := h
    exact .success rfl ⟨rfl, hsource'.trans hsource, Nat.le_trans hle hle'⟩
  | failure e =>
    obtain ⟨hposition, hlimit⟩ := h
    -- Both places are in one text, so there is one limit.
    rw [Cursor.limit, hsource] at hlimit
    exact .failure ⟨rfl, Nat.le_trans hle hposition, hlimit⟩
  | unfinished => exact .unfinished

/-- The span of a parser that moved on is not reversed. -/
theorem Within.spanFits (h : r.Within c) : (r.withSpan c).SpanFits c := by
  cases r with
  | success a next =>
    obtain ⟨_, _, hle, _⟩ := h
    exact ⟨rfl, if_pos hle⟩
  | failure _ => trivial
  | unfinished => trivial

end Reply

/-! ## Grammars -/

variable {V : Vocabulary} {m : Type → Type} [Effect m] {α : Type}

/-- Every look at the text in the grammar stays inside the text. -/
def Grammar.LooksWithin (g : Grammar V α) : Prop :=
  g.Every (fun look => ∀ c, (look c).Within c) True

/-- Carrying out an action of the effect moves nothing. -/
theorem Parser.lift_within (O : Outcomes m) (action : m α) (c : Cursor) :
    O.Always (Reply.Within c) ((Parser.lift action).run c) :=
  O.map (O.any action) fun _ _ =>
    ⟨rfl, rfl, Nat.le_refl _, c.position_le_limit⟩

/-- Grammars whose looks stay inside the text stay inside the text. -/
theorem Bodies.always_within (O : Outcomes m) {bodies : Bodies V}
    {perform : (action : V.Action) → Parser m (V.Answer action)}
    (performs : ∀ action c, O.Always (Reply.Within c) ((perform action).run c))
    (looks : ∀ r, (bodies r).LooksWithin) (spare depth : Nat) {g : Grammar V α}
    (hg : g.LooksWithin) (c : Cursor) :
    O.Always (Reply.Within c) ((bodies.parserAt spare perform depth g).run c) := by
  -- A place onward from the start corresponds to itself, so a look that stays within agrees there.
  have similar {β : Type} {h : Grammar V β} (hh : h.LooksWithin) :
      Grammar.Similar (View.onward c) V.equality Eq h h := by
    refine Grammar.Similar.refl (fun look within => ?_) (fun _ _ _ same => same) hh
    rintro d _ ⟨rfl, place⟩
    exact (within d).agree ⟨rfl, place⟩
  have actions : ∀ action, (perform action).Agree (O.comparison (View.onward c).Seen) Eq
      (perform action) := by
    rintro action d _ ⟨rfl, place⟩
    exact O.mono (performs action d) fun r within => ⟨r, within.agree ⟨rfl, place⟩⟩
  have agree := Bodies.agree actions (fun r => similar (looks r)) spare depth (similar hg)
  -- What the reply agrees with does not matter: agreement alone keeps it onward.
  refine O.mono (agree ⟨rfl, rfl, Nat.le_refl _⟩) ?_
  rintro r ⟨s, h⟩
  exact h.within

/-- No run leaves its text. In any effect, over any rules and to any depth of calls, a grammar that
succeeds has moved on inside the text, one that fails blames a place between its start and the end,
and a span that it reads has a length. No reader of the text is ever asked for what is not there. -/
theorem Bodies.stays_inside (O : Outcomes m) {bodies : Bodies V}
    {perform : (action : V.Action) → Parser m (V.Answer action)}
    (performs : ∀ action c, O.Always (Reply.Within c) ((perform action).run c))
    (looks : ∀ r, (bodies r).LooksWithin) :
    (∀ (spare depth : Nat) {α : Type} (g : Grammar V α), g.LooksWithin → ∀ c,
      O.Always (Reply.Within c) ((bodies.parserAt spare perform depth g).run c) ∧
        O.Always (Reply.SpanFits c) ((bodies.parserAt spare perform depth (.withSpan g)).run c)) ∧
      ∀ c : Cursor, c.ReadsInRange := by
  refine ⟨fun spare depth α g hg c => ?_, Cursor.readsInRange⟩
  have within := always_within O performs looks spare depth hg c
  exact ⟨within, O.map within fun _ h => h.spanFits⟩

theorem Bodies.stays_inside_announced :
    let perform : String → Parser (Logged String) Unit := fun entry => .lift (Logged.tell entry)
    let bodies : Bodies (Sample.Nesting.announcing String) := Sample.Nesting.announced "bracket"
    let c := (Cursor.ofString "((()").advance 1
    (∀ action c, Outcomes.lawful.Always (Reply.Within c) ((perform action).run c)) ∧
      (∀ r, (bodies r).LooksWithin) ∧
      ((bodies.parserAt 0 perform 4 (bodies .nesting)).run c).value.Within c := by
  intro perform bodies c
  have performs : ∀ action c, Outcomes.lawful.Always (Reply.Within c) ((perform action).run c) :=
    fun action c => Parser.lift_within _ _ c
  have looks : ∀ r, (bodies r).LooksWithin := Grammar.every_announced "bracket"
  have inside := (Bodies.stays_inside Outcomes.lawful performs looks).1 0 4 _ (looks .nesting) c
  exact ⟨performs, looks, Logged.always_iff.mp inside.1⟩

end Descent
