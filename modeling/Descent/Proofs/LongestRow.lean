import Descent.Proofs.Deterministic
import Descent.Proofs.Guarded
import Descent.Proofs.Loops
import Descent.Proofs.Repetition

/-!
# Repetitions take the longest row of runs

The runs of a parser that succeed, each from where the one before it stopped, are a row
(`Parser.Row`). If every run that succeeds gets further in the text, then from every place there is
one longest row, with no more runs than there are characters left, and it is what a repetition
takes: its values are those of the row, it stops where the row does, and it does what all the runs
do, one after the other, the last and failing one included.

Two inductions carry this. One is on the text that is left and finds the longest row. The other is
on the row and shows that a repetition does its runs in turn (`Row.unroll`); a longest row then says
what the next run comes to.
-/

namespace Descent

open Deterministic (value?)

/-- What a repetition with the value `b` answers by the reply to its last run, begun at `last`: that
run ends it by failing, and goes on for ever if it does so itself. -/
def Reply.ended {α β : Type} (b : β) (last : Cursor) : Reply α → Reply β
  | failure _ => success b last
  | success _ _ | unfinished => unfinished

theorem Reply.map_comp_ended {α β γ : Type} (f : β → γ) (b : β) (last : Cursor) :
    Reply.map f ∘ Reply.ended (α := α) b last = Reply.ended (f b) last := by
  funext reply
  cases reply <;> rfl

namespace Parser

variable {m : Type → Type} [Effect m] {α β γ : Type}

/-! ## Rows of runs -/

section Rows

variable [Deterministic m]

/-- Run from `c`, the parser reads the value and stops at `d`. -/
def Succeeds (p : Parser m α) (c : Cursor) (a : α) (d : Cursor) : Prop :=
  value? (p.run c) = some (.success a d)

/-- Every run that succeeds stops further on in the text in which it started. -/
def Strides (p : Parser m α) : Prop :=
  ∀ c a d, p.Succeeds c a d → d.source = c.source ∧ c.position < d.position

/-- Runs that succeed, each from where the one before it stopped. A step of the row is the place
from which a run started and the value that it read. -/
inductive Row (p : Parser m α) : Cursor → List (Cursor × α) → Cursor → Prop where
  | here (c : Cursor) : Row p c [] c
  | onward {c d last : Cursor} {a : α} {steps : List (Cursor × α)} (first : p.Succeeds c a d)
      (others : Row p d steps last) : Row p c ((c, a) :: steps) last

/-- A row behind which no further run succeeds. -/
structure LongestRow (p : Parser m α) (c : Cursor) (steps : List (Cursor × α)) (last : Cursor) :
    Prop where
  row : p.Row c steps last
  ends : ∀ a d, ¬ p.Succeeds last a d

variable {p : Parser m α} {c d last last' : Cursor} {a : α} {steps steps' : List (Cursor × α)}

theorem Succeeds.unique {b : α} {e : Cursor} (h : p.Succeeds c a d) (h' : p.Succeeds c b e) :
    a = b ∧ d = e := by
  have same := Option.some.inj (Eq.trans (Eq.symm h) h')
  exact ⟨(Reply.success.inj same).1, (Reply.success.inj same).2⟩

theorem LongestRow.unique (h : p.LongestRow c steps last) (h' : p.LongestRow c steps' last') :
    steps' = steps ∧ last' = last := by
  obtain ⟨row, ends⟩ := h
  obtain ⟨row', ends'⟩ := h'
  -- The rows go on together, since a run has one reply, and neither ends before the other.
  induction row generalizing steps' with
  | here c =>
    cases row' with
    | here => exact ⟨rfl, rfl⟩
    | onward first _ => exact absurd first (ends _ _)
  | @onward c d last a steps first others ih =>
    cases row' with
    | here => exact absurd first (ends' _ _)
    | onward first' others' =>
      obtain ⟨rfl, rfl⟩ := first.unique first'
      obtain ⟨rfl, rfl⟩ := ih ends others'
      exact ⟨rfl, rfl⟩

/-- Every run of a row takes at least one of the characters that are left. -/
theorem Row.length_le (strides : p.Strides) (row : p.Row c steps last) :
    last.source = c.source ∧ c.position + steps.length ≤ last.position := by
  induction row with
  | here c => exact ⟨rfl, Nat.le_refl _⟩
  | @onward c d last a steps first others ih =>
    obtain ⟨source, further⟩ := strides c a d first
    obtain ⟨source', length⟩ := ih
    refine ⟨source'.trans source, ?_⟩
    rw [List.length_cons]
    omega

/-- The runs of a row start one behind the other. -/
theorem Row.starts_increase (strides : p.Strides) (row : p.Row c steps last) :
    (steps.map fun s => s.1.position).Pairwise (· < ·) ∧
      ∀ s ∈ steps, c.position ≤ s.1.position := by
  induction row with
  | here c => exact ⟨.nil, nofun⟩
  | @onward c d last a steps first others ih =>
    obtain ⟨_, further⟩ := strides c a d first
    obtain ⟨increase, behind⟩ := ih
    have later : ∀ s ∈ steps, c.position < s.1.position :=
      fun s mem => Nat.lt_of_lt_of_le further (behind s mem)
    refine ⟨List.pairwise_cons.mpr ⟨?_, increase⟩, fun s mem => ?_⟩
    · intro position mem
      obtain ⟨s, taken, rfl⟩ := List.mem_map.mp mem
      exact later s taken
    · obtain rfl | mem := List.mem_cons.mp mem
      · exact Nat.le_refl _
      · exact Nat.le_of_lt (later s mem)

theorem Row.result_ok {ε : Type} {p : Parser (Abortable ε) α} (row : p.Row c steps last)
    {step : Cursor × α} (taken : step ∈ steps) : ∃ reply, (p.run step.1).result = .ok reply := by
  induction row with
  | here => cases taken
  | @onward c d last a steps first others ih =>
    obtain rfl | later := List.mem_cons.mp taken
    · have value : (p.run c).result.toOption = some (.success a d) := first
      cases outcome : (p.run c).result with
      | ok reply => exact ⟨reply, rfl⟩
      | error reason => rw [outcome] at value; cases value
    · exact ih later

theorem Row.length_le_remaining (strides : p.Strides) (row : p.Row c steps last) :
    steps.length ≤ c.remaining := by
  obtain ⟨source, length⟩ := row.length_le strides
  have limit : last.limit = c.limit := congrArg Array.size source
  have := last.position_le_limit
  rw [Cursor.remaining]
  omega

/-- Whoever makes headway and never stays gets further. -/
theorem Strides.of_headway [LawfulEffect m] (h : ∀ c, Headway False c p p) : p.Strides := by
  intro c a d succeeds
  have forward : (Reply.success a d).Forward False c := Deterministic.of_always (h c).2 succeeds
  obtain ⟨⟨source, position⟩, moves⟩ := forward
  have ne : c.position ≠ d.position := fun same => moves (Cursor.ext source same.symm)
  exact ⟨source, by omega⟩

theorem Strides.exists_longestRow (strides : p.Strides) (c : Cursor) :
    ∃ steps last, p.LongestRow c steps last := by
  -- Induction on the text that is left, of which every run that succeeds leaves less.
  induction left : c.remaining using Nat.strongRecOn generalizing c with
  | ind left' ih =>
    subst left
    by_cases succeeds : ∃ a d, p.Succeeds c a d
    · obtain ⟨a, d, first⟩ := succeeds
      obtain ⟨source, further⟩ := strides c a d first
      have less : d.remaining < c.remaining := by
        have limit : d.limit = c.limit := congrArg Array.size source
        have := d.position_le_limit
        rw [Cursor.remaining, Cursor.remaining]
        omega
      obtain ⟨steps, last, others, ends⟩ := ih d.remaining less d rfl
      exact ⟨(c, a) :: steps, last, .onward first others, ends⟩
    · exact ⟨[], c, .here c, fun a d first => succeeds ⟨a, d, first⟩⟩

end Rows

/-! ## What a repetition does -/

section Repetition

variable [LawfulEffect m]

theorem map_inTurn (f : α → β) (earlier : List (m γ)) (last : m α) :
    f <$> Flow.inTurn earlier last = Flow.inTurn earlier (f <$> last) := by
  induction earlier with
  | nil => rfl
  | cons x earlier ih =>
    show f <$> (x >>= fun _ => Flow.inTurn earlier last) = x >>= fun _ => Flow.inTurn earlier _
    rw [map_bind, ih]

variable [Deterministic m] {p : Parser m α} {c d last : Cursor} {a : α}
  {steps : List (Cursor × α)}

/-- A repetition does the runs of a row in turn, then goes on from where the row stops. -/
theorem Row.unroll (row : p.Row c steps last) (join : β → α → β) (b : β) (bound : Nat) :
    Flow.unroll (foldStep join p) (steps.length + bound) (b, c) =
      Flow.inTurn (steps.map fun step => p.run step.1)
        (Flow.unroll (foldStep join p) bound ((steps.map Prod.snd).foldl join b, last)) := by
  induction row generalizing b with
  | here c =>
    rw [List.length_nil, Nat.zero_add]
    rfl
  | @onward c d last a steps first others ih =>
    rw [List.length_cons, Nat.add_right_comm, Flow.unroll, foldStep, bind_map_left,
      Deterministic.bind_of_value first]
    have rest := ih (join b a)
    show (p.run c >>= fun _ =>
      Flow.unroll (foldStep join p) (steps.length + bound) (join b a, d)) = _
    rw [rest]
    rfl

/-- Where no further run succeeds, the repetition ends with its next run. -/
theorem unroll_of_ends (ends : ∀ a d, ¬ p.Succeeds last a d) (join : β → α → β) (b : β)
    (bound : Nat) :
    Flow.unroll (foldStep join p) (bound + 1) (b, last) =
      (some ∘ Reply.ended b last) <$> p.run last := by
  rw [Flow.unroll, foldStep, bind_map_left, ← bind_pure_comp]
  refine Deterministic.bind_congr_value fun reply answer => ?_
  cases reply with
  | success a d =>
    -- The row would not be the longest.
    exact absurd answer (ends a d)
  | failure e => rfl
  | unfinished => rfl

theorem LongestRow.foldMany (longest : p.LongestRow c steps last)
    (few : steps.length ≤ c.remaining) (join : β → α → β) (b : β) (spare : Nat) :
    (Parser.foldMany join b p spare).run c =
      Flow.inTurn (steps.map fun step => p.run step.1)
        (Reply.ended ((steps.map Prod.snd).foldl join b) last <$> p.run last) := by
  have bound :
      c.remaining + 1 + spare = steps.length + (c.remaining - steps.length + spare + 1) := by
    omega
  show (·.getD .unfinished) <$> Effect.iterate (foldStep join p) _ (b, c) = _
  rw [LawfulEffect.iterate_eq, bound, longest.row.unroll, unroll_of_ends longest.ends, map_inTurn,
    Functor.map_map]
  rfl

/-- A repetition does all runs of the longest row in turn, and then the one that ends it. -/
theorem LongestRow.many (longest : p.LongestRow c steps last) (strides : p.Strides) (spare : Nat) :
    (Parser.many p spare).run c =
      Flow.inTurn (steps.map fun step => p.run step.1)
        (Reply.ended (steps.map Prod.snd) last <$> p.run last) := by
  have few := longest.row.length_le_remaining strides
  have folded := longest.foldMany few (fun items a => a :: items) [] spare
  show Reply.map List.reverse <$> (Parser.foldMany _ [] p spare).run c = _
  rw [folded, map_inTurn, ← comp_map, Reply.map_comp_ended, List.foldl_flip_cons_eq_append',
    List.append_nil, List.reverse_reverse]

/-- Where a first run succeeds, a repetition that asks for it is one that does not. -/
theorem LongestRow.many1 (longest : p.LongestRow c steps last) (strides : p.Strides)
    (first : p.Succeeds c a d) (spare : Nat) :
    (Parser.many1 p spare).run c = (Parser.many p spare).run c := by
  obtain ⟨row, ends⟩ := longest
  cases row with
  | here => exact absurd first (ends a d)
  | @onward _ d' _ a' steps first' others =>
    obtain ⟨rfl, rfl⟩ := first.unique first'
    have whole : p.LongestRow c ((c, a) :: steps) last := ⟨.onward first others, ends⟩
    have later : p.LongestRow d steps last := ⟨others, ends⟩
    rw [whole.many strides, many1_eq_bind_many]
    show (p.run c >>= _) = p.run c >>= fun _ => Flow.inTurn _ _
    rw [Deterministic.bind_of_value first]
    refine bind_congr fun _ => ?_
    show Reply.map (a :: ·) <$> (Parser.many p spare).run d = _
    rw [later.many strides, map_inTurn, ← comp_map, Reply.map_comp_ended, List.map_cons]

/-! ## What is yielded -/

omit [LawfulEffect m] in
/-- The runs of a row stop nothing. -/
theorem Row.value?_inTurn (row : p.Row c steps last) (x : m β) :
    value? (Flow.inTurn (steps.map fun step => p.run step.1) x) = value? x := by
  induction row with
  | here c => rfl
  | onward first _ ih => exact (Deterministic.value?_bind_of_value first _).trans ih

theorem LongestRow.value?_many (longest : p.LongestRow c steps last) (strides : p.Strides)
    (spare : Nat) :
    value? ((Parser.many p spare).run c) =
      (value? (p.run last)).map (Reply.ended (steps.map Prod.snd) last) := by
  rw [longest.many strides, longest.row.value?_inTurn, Deterministic.value?_map]

/-- The repetition goes on for ever only if the run that should end it does. -/
theorem LongestRow.value?_many_eq_unfinished_iff (longest : p.LongestRow c steps last)
    (strides : p.Strides) (spare : Nat) :
    value? ((Parser.many p spare).run c) = some .unfinished ↔
      value? (p.run last) = some .unfinished := by
  rw [longest.value?_many strides, Option.map_eq_some_iff]
  constructor
  · rintro ⟨reply, answer, ended⟩
    cases reply with
    | success a d => exact absurd answer (longest.ends a d)
    | failure e => cases ended
    | unfinished => exact answer
  · intro answer
    exact ⟨.unfinished, answer, rfl⟩

end Repetition

/-! ## The repetitions of a parser from a place -/

variable [LawfulEffect m] [Deterministic m] {p : Parser m α}

/-- What the repetitions of the parser come to, told by a row of its runs. -/
structure RepeatsAlong (p : Parser m α) (spare : Nat) (c : Cursor) (steps : List (Cursor × α))
    (last : Cursor) : Prop where
  longest : p.LongestRow c steps last
  unique {steps' : List (Cursor × α)} {last' : Cursor} :
    p.LongestRow c steps' last' → steps' = steps ∧ last' = last
  few : steps.length ≤ c.limit - c.position
  /-- What the failing run read is not consumed. -/
  many_success {e : Failure} : value? (p.run last) = some (.failure e) →
    value? ((many p spare).run c) = some (.success (steps.map Prod.snd) last)
  many_ne_failure (e : Failure) : value? ((many p spare).run c) ≠ some (.failure e)
  many_unfinished_iff :
    value? ((many p spare).run c) = some .unfinished ↔ value? (p.run last) = some .unfinished
  many1_eq : many1 p spare = p.bind fun a => (many p spare).map (a :: ·)
  many1_failure_iff (e : Failure) :
    value? ((many1 p spare).run c) = some (.failure e) ↔ value? (p.run c) = some (.failure e)
  many1_otherwise {a : α} {d : Cursor} : p.Succeeds c a d →
    (many1 p spare).run c = (many p spare).run c

theorem Strides.exists_repeatsAlong (strides : p.Strides) (c : Cursor) (spare : Nat) :
    ∃ steps last, p.RepeatsAlong spare c steps last := by
  obtain ⟨steps, last, longest⟩ := strides.exists_longestRow c
  exact ⟨steps, last, {
    longest := longest
    unique := longest.unique
    few := longest.row.length_le_remaining strides
    many_success := fun fails => by rw [longest.value?_many strides, fails]; rfl
    many_ne_failure := value?_ne_failure (manyAfter_lasting [] p spare c)
    many_unfinished_iff := longest.value?_many_eq_unfinished_iff strides spare
    many1_eq := many1_eq_bind_many p spare
    many1_failure_iff := value?_bind_failure_iff (fun a d => manyAfter_lasting [a] p spare d) c
    many1_otherwise := fun first => longest.many1 strides first spare }⟩

/-- In each effect that has a loop, a parser that gets further whenever it succeeds has one longest
row of runs from every place, and its repetition comes to an end where the row does. What it writes
and reports is what the runs do in their order, and an abort of the last run is its own. -/
theorem repetitions_take_longest_row (c : Cursor) (spare : Nat) :
    (∀ p : Parser Plain α, p.Strides → ∃ steps last, p.RepeatsAlong spare c steps last ∧
      (many p spare).run c =
        ⟨.ended (steps.map Prod.snd) last (p.run last).value,
          (steps.map Prod.fst ++ [last]).flatMap fun d => (p.run d).events⟩) ∧
      (∀ {ω : Type} (p : Parser (Logged ω) α), p.Strides →
        ∃ steps last, p.RepeatsAlong spare c steps last ∧
          (many p spare).run c =
            ⟨.ended (steps.map Prod.snd) last (p.run last).value,
              (steps.map Prod.fst ++ [last]).flatMap fun d => (p.run d).log,
              (steps.map Prod.fst ++ [last]).flatMap fun d => (p.run d).events⟩) ∧
      ∀ {ε : Type} (p : Parser (Abortable ε) α), p.Strides →
        ∃ steps last, p.RepeatsAlong spare c steps last ∧
          (many p spare).run c =
            ⟨(p.run last).result.map (.ended (steps.map Prod.snd) last),
              (steps.map Prod.fst ++ [last]).flatMap fun d => (p.run d).events⟩ := by
  refine ⟨fun p strides => ?_, fun p strides => ?_, fun p strides => ?_⟩
  · obtain ⟨steps, last, along⟩ := strides.exists_repeatsAlong c spare
    refine ⟨steps, last, along, ?_⟩
    rw [along.longest.many strides, Plain.inTurn_eq]
    simp [List.flatMap_map]
  · obtain ⟨steps, last, along⟩ := strides.exists_repeatsAlong c spare
    refine ⟨steps, last, along, ?_⟩
    rw [along.longest.many strides, Logged.inTurn_eq]
    simp [List.flatMap_map]
  · obtain ⟨steps, last, along⟩ := strides.exists_repeatsAlong c spare
    refine ⟨steps, last, along, ?_⟩
    have values : ∀ x ∈ steps.map fun step => p.run step.1, ∃ reply, x.result = .ok reply := by
      intro x mem
      obtain ⟨step, taken, rfl⟩ := List.mem_map.mp mem
      exact along.longest.row.result_ok taken
    rw [along.longest.many strides, Abortable.inTurn_eq values, Abortable.map_eq]
    simp [List.flatMap_map]

theorem repetitions_take_longest_row_brackets :
    let brackets {m : Type → Type} [Effect m] (before : m Unit) : Parser m Unit :=
      (Parser.lift before).keepRight ((skipChar '(').keepLeft (skipChar ')'))
    let plain : Parser Plain Unit := brackets (pure ())
    let told : Parser (Logged String) Unit := brackets (Logged.tell "run")
    let stopped : Parser (Abortable String) Char :=
      anyChar.bind fun x => if x = '!' then .lift (Abortable.abort "stop") else .pure x
    let c := Cursor.ofString "()()(]"
    let c' := Cursor.ofString "ab!c"
    (plain.Strides ∧ plain.LongestRow c [(c, ()), (c.advance 2, ())] (c.advance 4) ∧
      (many plain).run c = ⟨.success [(), ()] (c.advance 4), []⟩) ∧
    (told.Strides ∧ told.LongestRow c [(c, ()), (c.advance 2, ())] (c.advance 4) ∧
      (many told).run c = ⟨.success [(), ()] (c.advance 4), ["run", "run", "run"], []⟩) ∧
    (stopped.Strides ∧ stopped.LongestRow c' [(c', 'a'), (c'.advance 1, 'b')] (c'.advance 2) ∧
      (many stopped).run c' = ⟨.error "stop", []⟩) := by
  intro brackets plain told stopped c c'
  have strides {m : Type → Type} [Effect m] [LawfulEffect m] [Deterministic m] (before : m Unit) :
      (brackets before).Strides := by
    refine .of_headway fun d => ?_
    have pair (e : Cursor) : Headway (False ∧ False) e
        ((skipChar '(').keepLeft (skipChar ')') : Parser m Unit) _ :=
      (Headway.skipChar '(').both fun e _ _ => .skipChar ')'
    exact ((Headway.lift _).both fun e _ _ => pair e).mono fun h => h.2.1
  have stoppedStrides : stopped.Strides := by
    refine .of_headway fun d => (Headway.satisfy _).thenAny fun x e _ _ => ?_
    split
    · exact .lift _
    · exact .pure x
  have plainRow : plain.LongestRow c [(c, ()), (c.advance 2, ())] (c.advance 4) := by
    refine ⟨.onward rfl (.onward rfl (.here _)), fun a d succeeds => ?_⟩
    have fails : value? (plain.run (c.advance 4)) =
        some (.failure ((c.advance 5).failure "satisfy")) := rfl
    cases fails.symm.trans succeeds
  have toldRow : told.LongestRow c [(c, ()), (c.advance 2, ())] (c.advance 4) := by
    refine ⟨.onward rfl (.onward rfl (.here _)), fun a d succeeds => ?_⟩
    have fails : value? (told.run (c.advance 4)) =
        some (.failure ((c.advance 5).failure "satisfy")) := rfl
    cases fails.symm.trans succeeds
  have stoppedRow : stopped.LongestRow c' [(c', 'a'), (c'.advance 1, 'b')] (c'.advance 2) := by
    refine ⟨.onward rfl (.onward rfl (.here _)), fun a d succeeds => ?_⟩
    have aborts : value? (stopped.run (c'.advance 2)) = none := rfl
    cases aborts.symm.trans succeeds
  obtain ⟨inPlain, inLogged, _⟩ := repetitions_take_longest_row (α := Unit) c 0
  obtain ⟨_, _, inAbortable⟩ := repetitions_take_longest_row (α := Char) c' 0
  obtain ⟨_, _, repeats, outcome⟩ := inPlain plain (strides _)
  obtain ⟨rfl, rfl⟩ := repeats.unique plainRow
  obtain ⟨_, _, repeats', outcome'⟩ := inLogged told (strides _)
  obtain ⟨rfl, rfl⟩ := repeats'.unique toldRow
  obtain ⟨_, _, repeats'', outcome''⟩ := inAbortable stopped stoppedStrides
  obtain ⟨rfl, rfl⟩ := repeats''.unique stoppedRow
  exact ⟨⟨strides _, plainRow, outcome⟩, ⟨strides _, toldRow, outcome'⟩,
    stoppedStrides, stoppedRow, outcome''⟩

end Parser

end Descent
