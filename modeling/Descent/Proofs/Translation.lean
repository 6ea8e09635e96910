import Descent.Proofs.Similar

/-!
# A parser sees only the text left

A text may be put in front of another. A parser that is started behind the text in front answers as
it does from the start of the other text alone, with every position in its answer, its values and
its reports moved by the length of the text in front. So nothing before the place where a parser
starts has any influence on it, and no position counts from anywhere else.

The functions from which a grammar is built have to play their part: they must not tell a span from
the same span moved. This is what `Grammar.Similar` says of a grammar and itself under the view
`View.behind`. A grammar that reads no spans has values without any positions, so there it is true
of all functions (`Grammar.Blind.similar`).
-/

namespace Descent

/-! ## Moving positions -/

/-- The same failure, so many characters further on. -/
def Failure.shift (count : Nat) (e : Failure) : Failure := { e with position := count + e.position }

/-- The same stretch, so many characters further on. -/
def Span.shift (count : Nat) (s : Span) : Span := ⟨count + s.start, count + s.stop⟩

/-- The same report of a parser, from so many characters further on. -/
def Event.shift (count : Nat) : Event → Event
  | opened characters => opened (count + characters)
  | entered name position => entered name (count + position)
  | matched name start stop => matched name (count + start) (count + stop)
  | failed name reason => failed name (reason.shift count)
  | succeeded position => succeeded (count + position)
  | rejected reason => rejected (reason.shift count)

/-! ## The view behind a text -/

/-- The first place stands in a text that begins with `front`, as far behind it as the second place
stands in the rest of that text alone. -/
structure Cursor.Behind (front : List Char) (c d : Cursor) : Prop where
  source_eq : c.source.toList = front ++ d.source.toList
  position_eq : c.position = front.length + d.position

namespace Cursor.Behind

variable {front : List Char} {c d : Cursor}

theorem rest_eq (h : Behind front c d) : c.rest = d.rest := by
  have hfront : front.length ≤ front.length + d.position := Nat.le_add_right _ _
  rw [rest, rest, h.source_eq, h.position_eq, List.drop_append, List.drop_of_length_le hfront,
    List.nil_append, Nat.add_sub_cancel_left]

theorem limit_eq (h : Behind front c d) : c.limit = front.length + d.limit := by
  have hlength := congrArg List.length h.source_eq
  rwa [List.length_append, Array.length_toList, Array.length_toList] at hlength

/-- The ends of both texts are equally far away, so that advancing stops there together. -/
theorem advance (h : Behind front c d) (count : Nat) :
    Behind front (c.advance count) (d.advance count) := by
  have hlimit := h.limit_eq
  have hposition := h.position_eq
  refine ⟨h.source_eq, ?_⟩
  rw [position_advance, position_advance]
  omega

end Cursor.Behind

/-- A text compared with itself behind another one, `front`. -/
def View.behind (front : List Char) : View where
  Place := Cursor.Behind front
  Reason e f := e = f.shift front.length
  Stretch s t := s = t.shift front.length
  Seen e f := e = f.shift front.length
  rest_eq := Cursor.Behind.rest_eq
  advance := Cursor.Behind.advance
  failure := by
    rintro c d ⟨_, hposition⟩ message
    rw [Cursor.failure, Cursor.failure, hposition]
    rfl
  relabel := by
    rintro e f rfl message
    rfl
  stretch := by
    rintro c d c' d' ⟨_, hposition⟩ ⟨_, hposition'⟩
    rw [hposition, hposition']
    rfl
  entered := by
    rintro c d ⟨_, hposition⟩ name
    rw [hposition]
    rfl
  matched := by
    rintro c d c' d' ⟨_, hposition⟩ ⟨_, hposition'⟩ name
    rw [hposition, hposition']
    rfl
  failed := by
    rintro e f rfl name
    rfl

/-- The end of the text in front corresponds to the start of the other text. -/
theorem View.behind_start (front text : String) :
    (View.behind front.toList).Place ((Cursor.ofString (front ++ text)).advance front.length)
      (Cursor.ofString text) := by
  have hlength : front.toList.length = front.length := String.length_toList
  constructor
  · simp [Cursor.ofString]
  · rw [Cursor.position_advance]
    simp only [Cursor.ofString, Cursor.limit, String.toList_append, List.size_toArray,
      List.length_append]
    omega

/-! ## Replies moved behind a text

Where values have no positions in them, the two replies determine each other. -/

/-- The same place behind a text put in front. -/
def Cursor.behind (front : List Char) (c : Cursor) : Cursor where
  source := front.toArray ++ c.source
  position := front.length + c.position
  position_le := by
    rw [Array.size_append, List.size_toArray]
    exact Nat.add_le_add_left c.position_le _

/-- The same answer behind a text put in front. -/
def Reply.behind {α : Type} (front : List Char) : Reply α → Reply α
  | success a next => success a (next.behind front)
  | failure e => failure (e.shift front.length)
  | unfinished => unfinished

theorem Cursor.Behind.eq_behind {front : List Char} {c d : Cursor} (h : Behind front c d) :
    c = d.behind front := by
  have hsource : c.source = front.toArray ++ d.source := by
    rw [← Array.toList_inj, Array.toList_append, h.source_eq]
  exact Cursor.ext hsource h.position_eq

theorem Reply.Agree.eq_behind {α : Type} {front : List Char} {r s : Reply α}
    (h : Reply.Agree (View.behind front) Eq r s) : r = s.behind front := by
  cases h with
  | success value next => rw [value, Cursor.Behind.eq_behind next, Reply.behind]
  | failure reason => rw [show _ = _ from reason, Reply.behind]
  | unfinished => rfl

/-! ## Grammars -/

variable {V : Vocabulary} {m : Type → Type} [Effect m] {α : Type}

/-- A grammar that reads no spans and looks at nothing but the text left. -/
def Grammar.Blind (front : List Char) (g : Grammar V α) : Prop :=
  g.Every (fun look => ∀ c d, (View.behind front).Place c d →
    Reply.Agree (View.behind front) Eq (look c) (look d)) False

/-- A blind grammar cannot tell how far a text has been moved, whatever functions it is built
from. -/
theorem Grammar.Blind.similar {front : List Char} {g : Grammar V α} (hg : g.Blind front) :
    Similar (View.behind front) V.equality Eq g g :=
  Similar.refl (fun _ look => look) False.elim hg

/-- In an effect that obeys the laws and lets no one see its events, a blind grammar does behind a
text what it does without it, and only its reply is moved. -/
theorem Bodies.run_behind [LawfulEffect m] (front text : String)
    (silent : ∀ e f : Event, (Effect.emit e : m Unit) = Effect.emit f) {bodies : Bodies V}
    (answer : (action : V.Action) → m (V.Answer action))
    (blind : ∀ r, (bodies r).Blind front.toList) {g : Grammar V α} (hg : g.Blind front.toList)
    (spare depth : Nat) :
    (bodies.parserAt spare (fun action => .lift (answer action)) depth g).run
        ((Cursor.ofString (front ++ text)).advance front.length) =
      Reply.behind front.toList <$>
        (bodies.parserAt spare (fun action => .lift (answer action)) depth g).run
          (Cursor.ofString text) := by
  let C : Comparison m m (View.behind front.toList).Seen := .joint fun e f _ => silent e f
  -- An action is the same one on both sides, and its answer agrees with itself.
  have performs : ∀ action, (Parser.lift (answer action)).Agree C Eq
      (Parser.lift (answer action)) :=
    fun action => .lift ⟨(fun a => ⟨(a, a), rfl⟩) <$> answer action, by simp, by simp⟩
  obtain ⟨both, first, second⟩ := Bodies.agree performs (fun r => (blind r).similar) spare depth
    hg.similar (View.behind_start front text)
  -- Both runs are halves of one, whose values are pairs of replies that agree.
  rw [← first, ← second, Functor.map_map]
  congr 1
  funext pair
  exact pair.property.eq_behind

/-- Parsing behind a text is parsing, with all positions moved. The two runs are of one kind, at any
depth of calls and in any effect: they agree by any comparison of the effect with itself under which
its actions do, so they have the same output. -/
theorem Bodies.translates (front text : String)
    (C : Comparison m m (View.behind front.toList).Seen) (k : V.Likeness) {bodies : Bodies V}
    {perform : (action : V.Action) → Parser m (V.Answer action)}
    (performs : ∀ action, (perform action).Agree C (k.Answer action) (perform action))
    (similar : ∀ r, Grammar.Similar (View.behind front.toList) k (k.Result r) (bodies r) (bodies r))
    {R : α → α → Prop} {g : Grammar V α}
    (sim : Grammar.Similar (View.behind front.toList) k R g g) (spare depth : Nat) :
    C.Agree (Reply.Agree (View.behind front.toList) R)
      ((bodies.parserAt spare perform depth g).run
        ((Cursor.ofString (front ++ text)).advance front.length))
      ((bodies.parserAt spare perform depth g).run (Cursor.ofString text)) :=
  Bodies.agree performs similar spare depth sim (View.behind_start front text)

theorem Bodies.translates_announced :
    let perform : String → Parser (Logged String) Unit := fun entry => .lift (Logged.tell entry)
    let bodies : Bodies (Sample.Nesting.announcing String) := Sample.Nesting.announced "bracket"
    let k := (Sample.Nesting.announcing String).equality
    let view := View.behind "ab(".toList
    let C := Logged.comparison view.Seen String
    let parser := bodies.parserAt 0 perform 4 (.withSpan (bodies .nesting))
    let behind := parser.run ((Cursor.ofString ("ab(" ++ "(()")).advance "ab(".length)
    let alone := parser.run (Cursor.ofString "(()")
    (∀ entry, (perform entry).Agree C Eq (perform entry)) ∧
      (∀ r, Grammar.Similar view k Eq (bodies r) (bodies r)) ∧
      behind.log = alone.log ∧
      Reply.Agree view (Both Eq view.Stretch) behind.value alone.value := by
  intro perform bodies k view C parser behind alone
  have performs : ∀ entry, (perform entry).Agree C Eq (perform entry) :=
    fun entry => .lift ⟨rfl, rfl, .nil⟩
  have similar : ∀ r, Grammar.Similar view k Eq (bodies r) (bodies r) :=
    fun r => Grammar.Blind.similar (Grammar.every_announced "bracket" r)
  have agree := Bodies.translates "ab(" "(()" C k performs similar
    (.withSpan (similar .nesting)) 0 4
  exact ⟨performs, similar, agree.2.1, agree.1⟩

end Descent
