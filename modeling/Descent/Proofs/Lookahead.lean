import Descent.Effect.Plain
import Descent.Proofs.Counting
import Descent.Proofs.FirstAndRow
import Descent.Proofs.Scanning

/-!
# Negative lookahead

`Parser.notAhead` only asks whether a parser fails, and asks it without moving. So it can be put
wherever that is known already, and nothing changes: in front of a second alternative, which is only
tried where the first one fails, and behind a repetition, which only ends where the repeated parser
fails. And in front of the parser of any character, it keeps a repetition from running past the
place where the parser that is asked succeeds. Main statement: `Parser.negative_lookahead_laws`.

The last of these is a scan for an arbitrary parser. Each run of it takes one character where the
parser fails (`Parser.outside_succeeds_iff`), so a row of runs is a stretch of such places
(`Parser.Row.outside`), and the longest row ends at the first other place or at the end of the text.
-/

namespace Descent

open Deterministic (value?)

/-- What a scan for a parser answers at `stop` by the reply of the parser there: that it succeeds
ends the scan, and that it fails ends it where nothing is left to read. -/
def Reply.stopped {α β : Type} (b : β) (stop : Cursor) : Reply α → Reply β
  | success _ _ | failure _ => success b stop
  | unfinished => unfinished

/-- To be refused twice more changes nothing. -/
theorem Reply.refuse_thrice {α : Type} (start : Cursor) (message : String) (reply : Reply α) :
    ((reply.refuse start message).refuse start message).refuse start message =
      reply.refuse start message := by
  cases reply <;> rfl

namespace Parser

variable {m : Type → Type} [Effect m] [LawfulEffect m] [Deterministic m] {α β γ : Type}
  {p : Parser m α} {c d last : Cursor} {a : α} {e : Failure}

/-! ## Two parsers in turn -/

omit [LawfulEffect m] in
/-- Second alternatives only matter where the first one fails. -/
theorem value?_orElse_congr {q q' : Parser m α}
    (agree : ∀ e, value? (p.run c) = some (.failure e) → value? (q.run c) = value? (q'.run c)) :
    value? ((p.orElse q).run c) = value? ((p.orElse q').run c) := by
  show value? (p.run c >>= _) = value? (p.run c >>= _)
  rw [Deterministic.value?_bind, Deterministic.value?_bind]
  cases answer : value? (p.run c) with
  | none => rfl
  | some reply =>
    cases reply with
    | success a d => rfl
    | failure e => exact agree e answer
    | unfinished => rfl

theorem both_succeeds_iff {f : α → β → γ} {q : Parser m β} {v : γ} :
    (both f p q).Succeeds c v last ↔
      ∃ a d b, p.Succeeds c a d ∧ q.Succeeds d b last ∧ f a b = v := by
  rw [Succeeds, value?_both, Option.bind_eq_some_iff]
  constructor
  · rintro ⟨reply, answer, hbehind⟩
    cases reply with
    | success a d =>
      obtain ⟨reply', answer', hvalue⟩ := Option.map_eq_some_iff.mp hbehind
      cases reply' with
      | success b last' =>
        obtain ⟨rfl, rfl⟩ := Reply.success.inj hvalue
        exact ⟨a, d, b, answer, answer', rfl⟩
      | failure e => cases hvalue
      | unfinished => cases hvalue
    | failure e => cases hbehind
    | unfinished => cases hbehind
  · rintro ⟨a, d, b, hfirst, hsecond, rfl⟩
    exact ⟨.success a d, hfirst, congrArg (Option.map _) hsecond⟩

/-- Where a first parser has stopped, the second one's answer is that of both. -/
theorem Succeeds.value?_keepRight (h : p.Succeeds c a d) (q : Parser m β) :
    value? ((p.keepRight q).run c) = value? (q.run d) := by
  have hmap : Reply.map (fun b : β => b) = id := funext fun reply => by cases reply <;> rfl
  rw [keepRight, value?_both, h, Option.bind_some, hmap, Option.map_id]
  rfl

/-! ## What is not ahead -/

theorem value?_notAhead (p : Parser m α) (c : Cursor) :
    value? (p.notAhead.run c) = (value? (p.run c)).map
      (Reply.refuse c "negative lookahead failed: unexpected match") :=
  Deterministic.value?_map _ _

theorem notAhead_succeeds_iff :
    p.notAhead.Succeeds c () d ↔ d = c ∧ ∃ e, value? (p.run c) = some (.failure e) := by
  rw [Succeeds, value?_notAhead]
  cases value? (p.run c) with
  | none => simp
  | some reply => cases reply <;> simp [Reply.refuse, eq_comm]

theorem notAhead_fails_iff :
    (∃ e, value? (p.notAhead.run c) = some (.failure e)) ↔ ∃ a d, p.Succeeds c a d := by
  simp only [Succeeds, value?_notAhead]
  cases value? (p.run c) with
  | none => simp
  | some reply => cases reply <;> simp [Reply.refuse]

/-- What is not missing is there. -/
theorem notAhead_notAhead_succeeds_iff :
    p.notAhead.notAhead.Succeeds c () d ↔ d = c ∧ ∃ a d, p.Succeeds c a d := by
  rw [notAhead_succeeds_iff, notAhead_fails_iff]

theorem value?_notAhead_thrice (p : Parser m α) (c : Cursor) :
    value? (p.notAhead.notAhead.notAhead.run c) = value? (p.notAhead.run c) := by
  simp only [value?_notAhead, Option.map_map]
  exact congrArg (fun f => (value? (p.run c)).map f) (funext (Reply.refuse_thrice c _))

/-- Where a second alternative is tried, the first one is not ahead. -/
theorem value?_orElse_notAhead (p q : Parser m α) (c : Cursor) :
    value? ((p.orElse (p.notAhead.keepRight q)).run c) = value? ((p.orElse q).run c) := by
  refine value?_orElse_congr fun e fails => ?_
  have habsent : p.notAhead.Succeeds c () c := notAhead_succeeds_iff.mpr ⟨rfl, e, fails⟩
  exact habsent.value?_keepRight q

/-! ## Behind a repetition -/

/-- Where a repetition has stopped, the repeated parser is not ahead. -/
theorem Strides.value?_many_notAhead (strides : p.Strides) (spare : Nat) (c : Cursor) :
    value? (((many p spare).keepLeft p.notAhead).run c) = value? ((many p spare).run c) := by
  rw [keepLeft, value?_both]
  cases answer : value? ((many p spare).run c) with
  | none => rfl
  | some reply =>
    cases reply with
    | success items last =>
      obtain ⟨_, e, -, -, fails⟩ := strides.row_of_many answer
      have habsent : p.notAhead.Succeeds last () last := notAhead_succeeds_iff.mpr ⟨rfl, e, fails⟩
      exact congrArg (Option.map _) habsent
    | failure e => rfl
    | unfinished => rfl

/-- The failure that ended a repetition is met again behind it. -/
theorem Strides.value?_many_again (strides : p.Strides) {spare : Nat} {items : List α}
    (listed : (many p spare).Succeeds c items last) :
    ∃ e, value? (p.run last) = some (.failure e) ∧
      value? (((many p spare).keepRight p).run c) = some (.failure e) := by
  obtain ⟨_, e, -, -, fails⟩ := strides.row_of_many listed
  exact ⟨e, fails, (listed.value?_keepRight p).trans fails⟩

/-! ## Any characters in front of a parser -/

omit [LawfulEffect m] in
theorem anyChar_succeeds_iff {x : Char} :
    (anyChar : Parser m Char).Succeeds c x d ↔ c.rest.head? = some x ∧ d = c.advance 1 := by
  show value? (pure _) = _ ↔ _
  rw [Deterministic.value?_pure, ← Cursor.peek?_eq_head?]
  cases next : c.peek? <;> simp [next, eq_comm]

/-- A character is read in front of which the parser fails. -/
theorem outside_succeeds_iff {x : Char} :
    (p.notAhead.keepRight anyChar).Succeeds c x d ↔
      (∃ e, value? (p.run c) = some (.failure e)) ∧ c.rest.head? = some x ∧ d = c.advance 1 := by
  rw [keepRight, both_succeeds_iff]
  constructor
  · rintro ⟨_, _, _, habsent, hany, rfl⟩
    obtain ⟨rfl, hfails⟩ := notAhead_succeeds_iff.mp habsent
    exact ⟨hfails, anyChar_succeeds_iff.mp hany⟩
  · rintro ⟨hfails, hany⟩
    exact ⟨(), c, x, notAhead_succeeds_iff.mpr ⟨rfl, hfails⟩, anyChar_succeeds_iff.mpr hany, rfl⟩

theorem outside_strides (p : Parser m α) : (p.notAhead.keepRight anyChar).Strides := by
  intro c x d succeeds
  obtain ⟨_, hhead, rfl⟩ := outside_succeeds_iff.mp succeeds
  rw [← Cursor.peek?_eq_head?] at hhead
  refine ⟨rfl, ?_⟩
  rw [Cursor.position_advance_of_le (Cursor.remaining_pos hhead)]
  exact Nat.lt_succ_self _

/-- A row of such runs is a stretch of places at which the parser fails, and of the characters
there. -/
theorem Row.outside {steps : List (Cursor × Char)}
    (row : (p.notAhead.keepRight anyChar).Row c steps last) :
    last = c.advance steps.length ∧ steps.map Prod.snd = c.rest.take steps.length ∧
      ∀ j < steps.length, ∃ e, value? (p.run (c.advance j)) = some (.failure e) := by
  induction row with
  | here c => exact ⟨c.advance_zero.symm, List.take_zero.symm, nofun⟩
  | @onward c d last x steps first others ih =>
    obtain ⟨hfails, hhead, rfl⟩ := outside_succeeds_iff.mp first
    obtain ⟨text, hrest⟩ := List.head?_eq_some_iff.mp hhead
    obtain ⟨hlast, hread, hbefore⟩ := ih
    rw [Cursor.advance_advance, Nat.add_comm] at hlast
    rw [Cursor.rest_advance, hrest, List.drop_one, List.tail_cons] at hread
    refine ⟨hlast, ?_, fun j hj => ?_⟩
    · rw [List.map_cons, hread, hrest, List.length_cons, List.take_succ_cons]
    · cases j with
      | zero =>
        rw [Cursor.advance_zero]
        exact hfails
      | succ j =>
        have hfails' := hbefore j (Nat.lt_of_succ_lt_succ hj)
        rwa [Cursor.advance_advance, Nat.add_comm] at hfails'

section Ends

variable (ends : ∀ x d, ¬ (p.notAhead.keepRight anyChar).Succeeds c x d)
include ends

/-- Where the parser fails and a character is left, a further run succeeds. -/
theorem rest_eq_nil_of_outside_ends (fails : value? (p.run c) = some (.failure e)) :
    c.rest = [] := by
  cases hrest : c.rest with
  | nil => rfl
  | cons x text =>
    have hhead : c.rest.head? = some x := congrArg List.head? hrest
    exact absurd (outside_succeeds_iff.mpr ⟨⟨e, fails⟩, hhead, rfl⟩) (ends x (c.advance 1))

/-- The run that ends the repetition is the parser's own, with both answers of it taken for an
end. -/
theorem ended_eq_stopped (b : β) :
    (value? ((p.notAhead.keepRight anyChar).run c)).map (Reply.ended b c) =
      (value? (p.run c)).map (Reply.stopped b c) := by
  rw [keepRight, value?_both, value?_notAhead]
  cases answer : value? (p.run c) with
  | none => rfl
  | some reply =>
    cases reply with
    | success a d => rfl
    | failure e =>
      -- The character in front of which the parser fails is missing.
      have hrest := rest_eq_nil_of_outside_ends ends answer
      have hany : (anyChar : Parser m Char).run c = pure (.failure (c.failure "satisfy")) :=
        run_satisfy_of_stops (hrest ▸ Text.stops_nil _)
      show (((value? ((anyChar : Parser m Char).run c)).map _).map _) = _
      rw [hany, Deterministic.value?_pure]
      rfl
    | unfinished => rfl

end Ends

/-- The repetition stops at the first place at which the parser does not fail, or at the end. -/
theorem exists_outside_stop (p : Parser m α) (spare : Nat) (c : Cursor) :
    ∃ k ≤ c.remaining,
      (∀ j < k, ∃ e, value? (p.run (c.advance j)) = some (.failure e)) ∧
      (∀ e, value? (p.run (c.advance k)) = some (.failure e) → (c.advance k).rest = []) ∧
      value? ((many (p.notAhead.keepRight anyChar) spare).run c) =
        (value? (p.run (c.advance k))).map (Reply.stopped (c.rest.take k) (c.advance k)) := by
  have hstrides := outside_strides p
  obtain ⟨steps, last, longest⟩ := hstrides.exists_longestRow c
  obtain ⟨rfl, hread, hbefore⟩ := longest.row.outside
  have hwithin := longest.row.length_le_remaining hstrides
  refine ⟨steps.length, hwithin, hbefore, fun e => rest_eq_nil_of_outside_ends longest.ends, ?_⟩
  rw [longest.value?_many hstrides, hread, ended_eq_stopped longest.ends]

/-! ## The laws together -/

/-- A parser that is run once more behind its own repetition: it fails as it did where the
repetition stopped, or the repetition has never stopped. -/
inductive AgainFails (p : Parser Plain α) (spare : Nat) (c : Cursor) : Prop where
  | fails {items : List α} {last : Cursor} {e : Failure}
      (listed : ((many p spare).run c).value = .success items last)
      (ended : (p.run last).value = .failure e)
      (again : (((many p spare).keepRight p).run c).value = .failure e)
  | endless {last : Cursor} (run : (p.run last).value = .unfinished)
      (listed : ((many p spare).run c).value = .unfinished)
      (again : (((many p spare).keepRight p).run c).value = .unfinished)

/-- Any characters are read up to the place `k` characters further on: the first one at which the
parser does not fail, or the end of the text. -/
structure ScansTo (p : Parser Plain α) (spare : Nat) (c : Cursor) (k : Nat) : Prop where
  position_eq : (c.advance k).position = c.position + k
  before : ∀ j < k, ∃ e, (p.run (c.advance j)).value = .failure e
  atEnd : ∀ e, (p.run (c.advance k)).value = .failure e → c.advance k = c.toEnd
  scanned : (p.run (c.advance k)).value ≠ .unfinished →
    ((many (p.notAhead.keepRight anyChar) spare).run c).value =
      .success (c.rest.take k) (c.advance k)
  endless : (p.run (c.advance k)).value = .unfinished →
    ((many (p.notAhead.keepRight anyChar) spare).run c).value = .unfinished

theorem Strides.againFails {p : Parser Plain α} (strides : p.Strides) (spare : Nat) (c : Cursor) :
    p.AgainFails spare c := by
  obtain ⟨steps, last, longest⟩ := strides.exists_longestRow c
  have hmany := Option.some.inj (longest.value?_many strides spare)
  -- The run that has ended the repetition is the one that is met again.
  cases answer : (p.run last).value with
  | success a d => exact absurd (congrArg some answer) (longest.ends a d)
  | failure e =>
    rw [answer] at hmany
    obtain ⟨e', hfails, hagain⟩ := strides.value?_many_again (congrArg some hmany)
    exact .fails hmany (Option.some.inj hfails) (Option.some.inj hagain)
  | unfinished =>
    rw [answer] at hmany
    have hlisted : value? ((many p spare).run c) = some .unfinished := congrArg some hmany
    have hagain : value? (((many p spare).keepRight p).run c) = some .unfinished := by
      rw [keepRight, value?_both, hlisted]
      rfl
    exact .endless answer hmany (Option.some.inj hagain)

theorem exists_scansTo (p : Parser Plain α) (spare : Nat) (c : Cursor) :
    ∃ k, p.ScansTo spare c k := by
  obtain ⟨k, hwithin, hbefore, hend, hmany⟩ := exists_outside_stop p spare c
  have hscan := Option.some.inj hmany
  refine ⟨k, Cursor.position_advance_of_le hwithin, fun j hj => ?_, fun e fails => ?_,
    fun ends => ?_, fun endless => ?_⟩
  · obtain ⟨e, fails⟩ := hbefore j hj
    exact ⟨e, Option.some.inj fails⟩
  · have hnone := hend e (congrArg some fails)
    rw [Cursor.rest_advance, List.drop_eq_nil_iff, Cursor.length_rest] at hnone
    rw [Cursor.toEnd_eq_advance, Nat.le_antisymm hwithin hnone]
  · cases answer : (p.run (c.advance k)).value with
    | success a d => rw [hscan, answer]; rfl
    | failure e => rw [hscan, answer]; rfl
    | unfinished => exact absurd answer ends
  · rw [hscan, endless]
    rfl

/-- In the plain effect, for all parsers and from every place: a second alternative may ask that the
first one is not ahead; to ask three times for the opposite is to ask once, and to ask twice is to
look ahead for the parser itself; behind a repetition the repeated parser is not ahead, and fails
there as it has failed before; and any characters in front of a parser are read up to the first
place at which it succeeds, or to the end. -/
theorem negative_lookahead_laws (spare : Nat) (c : Cursor) :
    (∀ a b : Parser Plain α,
      ((a.orElse b).run c).value = ((a.orElse (a.notAhead.keepRight b)).run c).value) ∧
    (∀ a : Parser Plain α,
      (a.notAhead.notAhead.notAhead.run c).value = (a.notAhead.run c).value ∧
      ∀ d, (a.notAhead.notAhead.run c).value = .success () d ↔
        d = c ∧ ∃ x e, (a.run c).value = .success x e) ∧
    (∀ p : Parser Plain α, p.Strides →
      (((many p spare).keepLeft p.notAhead).run c).value = ((many p spare).run c).value ∧
      p.AgainFails spare c) ∧
    ∀ a : Parser Plain α, ∃ k, a.ScansTo spare c k := by
  refine ⟨fun a b => ?_, fun a => ⟨?_, fun d => ?_⟩,
    fun p strides => ⟨?_, strides.againFails spare c⟩, fun a => exists_scansTo a spare c⟩
  · exact Option.some.inj (value?_orElse_notAhead a b c).symm
  · exact Option.some.inj (value?_notAhead_thrice a c)
  · have htwice := notAhead_notAhead_succeeds_iff (p := a) (c := c) (d := d)
    simpa only [Succeeds, value?, Option.some.injEq] using htwice
  · exact Option.some.inj (strides.value?_many_notAhead spare c)

/-- Pairs of brackets, of which the last one has read its opening bracket when it fails. -/
theorem negative_lookahead_laws_brackets :
    let brackets : Parser Plain Unit := (skipChar '(').keepLeft (skipChar ')')
    let c := (Cursor.ofString "x()()(]").advance 1
    brackets.Strides ∧
      ((brackets.orElse (brackets.notAhead.keepRight .eof)).run (c.advance 4)).value =
        .failure ⟨5, "expected the end of the string"⟩ ∧
      (brackets.notAhead.notAhead.notAhead.run c).value =
        .failure ⟨1, "negative lookahead failed: unexpected match"⟩ ∧
      (brackets.notAhead.notAhead.run c).value = .success () c ∧
      (((many brackets).keepLeft brackets.notAhead).run c).value = .success [(), ()] (c.advance 4) ∧
      brackets.AgainFails 0 c ∧
      (((many brackets).keepRight brackets).run c).value = .failure ⟨6, "satisfy"⟩ ∧
      (∃ k, (skipChar ']').ScansTo 0 c k) ∧
      ((many ((skipChar ']' : Parser Plain Unit).notAhead.keepRight anyChar)).run c).value =
        .success ['(', ')', '(', ')', '('] (c.advance 5) := by
  intro brackets c
  have hstrides : brackets.Strides :=
    .of_headway fun d => ((Headway.skipChar '(').both fun e _ _ => .skipChar ')').mono fun h => h.1
  obtain ⟨_, questions, repetitions, scans⟩ := negative_lookahead_laws (α := Unit) 0 c
  obtain ⟨alternatives, _⟩ := negative_lookahead_laws (α := Unit) 0 (c.advance 4)
  obtain ⟨hthrice, htwice⟩ := questions brackets
  obtain ⟨hnone, hagain⟩ := repetitions brackets hstrides
  exact ⟨hstrides, (alternatives brackets .eof).symm.trans rfl, hthrice.trans rfl,
    (htwice c).mpr ⟨rfl, (), c.advance 2, rfl⟩, hnone.trans rfl, hagain, rfl,
    scans (skipChar ']'), rfl⟩

end Parser

end Descent
