import Descent.Proofs.CheckedReading
import Descent.Proofs.Sequencing
import Mathlib.Algebra.GroupWithZero.Nat

/-!
# Cursors that count in words

A stored cursor counts in words of 64 bits, and a sum that is too large for a word stops at the
largest word. A cursor counts without such a bound, and stops at the end of its text only. Main
statement: after any steps from the start of a text the two are at the same place, which one step
leads to that is as long as all of them together (`Cursor.advances_as_one_step`).

The largest word is never in front of the end of a text, since a word holds the length of the text.
So a sum that stops there has passed the end, where a step stops anyway
(`StoredCursor.Represents.advance`); the rest is an induction on the steps
(`StoredCursor.Represents.foldl_advance`).
-/

namespace Descent

open Checked (Fault)

/-! ## Stored places -/

/-- The sum of two words, or the largest word if the sum does not fit. Such a sum wraps around, and
is then smaller than what was added to. -/
def addSaturating (a b : UInt64) : UInt64 :=
  if a + b < a then .ofNat (UInt64.size - 1) else a + b

theorem toNat_addSaturating (a b : UInt64) :
    (addSaturating a b).toNat = min (a.toNat + b.toNat) (UInt64.size - 1) := by
  have hsize : UInt64.size = 2 ^ 64 := rfl
  have hlargest : (UInt64.ofNat (UInt64.size - 1)).toNat = UInt64.size - 1 :=
    UInt64.toNat_ofNat_of_lt' (by decide)
  have ha := a.toNat_lt
  have hb := b.toNat_lt
  have hsum : (a + b).toNat = (a.toNat + b.toNat) % 2 ^ 64 := UInt64.toNat_add a b
  -- A sum has wrapped around exactly if it is smaller than what was added to.
  unfold addSaturating
  split
  case isTrue hwrapped =>
    rw [UInt64.lt_iff_toNat_lt] at hwrapped
    omega
  case isFalse hfits =>
    rw [UInt64.lt_iff_toNat_lt] at hfits
    omega

/-- A place in a text, counted in words. -/
structure StoredCursor where
  /-- The whole text, character by character. -/
  source : Array Char
  /-- How many characters lie before the place. -/
  position : UInt64
  /-- The number of characters in the text. -/
  limit : UInt64

namespace StoredCursor

/-- The start of a text. -/
def ofString (text : String) : StoredCursor where
  source := text.toList.toArray
  position := 0
  limit := .ofNat text.length

/-- The place `count` characters further on, or the end of the text if that comes first. -/
def advance (s : StoredCursor) (count : UInt64) : StoredCursor :=
  let moved := addSaturating s.position count
  { s with position := if moved ≤ s.limit then moved else s.limit }

/-- Is nothing left to read? -/
def atEnd (s : StoredCursor) : Bool := s.limit ≤ s.position

/-- The characters left to read, as a slice of the whole. -/
def rest (s : StoredCursor) : Except Fault (List Char) :=
  Checked.slice s.source.toList s.position.toNat s.source.size

/-- The next character, by its index. -/
def peek? (s : StoredCursor) : Except Fault (Option Char) :=
  if s.position < s.limit then some <$> Checked.index s.source.toList s.position.toNat else .ok none

/-- Does the given text stand at the place? It is compared character by character with what is
left. -/
def startsWith (s : StoredCursor) (text : String) : Except Fault Bool :=
  text.toList.isPrefixOf <$> s.rest

/-- The stored place is that of the cursor. -/
structure Represents (s : StoredCursor) (c : Cursor) : Prop where
  source : s.source = c.source
  position : s.position.toNat = c.position
  limit : s.limit.toNat = c.limit

namespace Represents

variable {s : StoredCursor} {c : Cursor} {text : String}

/-! ## Steps -/

theorem ofString (fits : text.length < UInt64.size) :
    (StoredCursor.ofString text).Represents (Cursor.ofString text) where
  source := rfl
  position := rfl
  limit := by
    rw [StoredCursor.ofString, UInt64.toNat_ofNat_of_lt' fits]
    exact String.length_toList.symm

/-- A step of one is a step of the other: a sum that stops at the largest word has passed the
end. -/
theorem advance (h : s.Represents c) (count : UInt64) :
    (s.advance count).Represents (c.advance count.toNat) where
  source := h.source
  position := by
    have hsize : UInt64.size = 2 ^ 64 := rfl
    have hlimit := s.limit.toNat_lt
    have hmoved := toNat_addSaturating s.position count
    rw [Cursor.position_advance, ← h.position, ← h.limit, StoredCursor.advance]
    dsimp only
    -- A sum inside of the text has not stopped at the largest word, which is no less than the
    -- limit.
    split
    case isTrue hinside =>
      rw [UInt64.le_iff_toNat_le] at hinside
      omega
    case isFalse hbeyond =>
      rw [UInt64.le_iff_toNat_le] at hbeyond
      omega
  limit := h.limit

/-- A step over a text that is counted in words. -/
theorem advance_length (h : s.Represents c) (fits : text.length < UInt64.size) :
    (s.advance (.ofNat text.length)).Represents (c.advance text.length) := by
  have hstep := h.advance (.ofNat text.length)
  rwa [UInt64.toNat_ofNat_of_lt' fits] at hstep

theorem foldl_advance (h : s.Represents c) (counts : List UInt64) :
    (counts.foldl StoredCursor.advance s).Represents
      (counts.foldl (fun c count => c.advance count.toNat) c) := by
  induction counts generalizing s c with
  | nil => exact h
  | cons count counts ih => exact ih (h.advance count)

/-! ## Reading -/

theorem atEnd (h : s.Represents c) : s.atEnd = c.atEnd := by
  simp only [StoredCursor.atEnd, Cursor.atEnd, UInt64.le_iff_toNat_le, h.position, h.limit]

theorem rest (h : s.Represents c) : s.rest = .ok c.rest := by
  rw [StoredCursor.rest, h.source, h.position]
  exact Checked.rest_eq c

theorem peek? (h : s.Represents c) : s.peek? = .ok c.peek? := by
  rw [StoredCursor.peek?, h.source, h.position]
  simp only [UInt64.lt_iff_toNat_lt, h.position, h.limit]
  exact Checked.peek?_eq c

theorem startsWith (h : s.Represents c) (text : String) :
    s.startsWith text = .ok (c.startsWith text.toList) := by
  have hprefix : text.toList.isPrefixOf c.rest = c.startsWith text.toList := by
    rw [Bool.eq_iff_iff, List.isPrefixOf_iff_prefix, Cursor.startsWith_iff]
  rw [StoredCursor.startsWith, h.rest, ← hprefix]
  rfl

end Represents

end StoredCursor

namespace Cursor

variable {c : Cursor}

/-! ## Sequences of steps -/

/-- Steps add up. Induction on the steps, from any place on. -/
theorem foldl_advance (c : Cursor) (counts : List Nat) :
    counts.foldl advance c = c.advance counts.sum := by
  induction counts generalizing c with
  | nil => exact (advance_zero c).symm
  | cons count counts ih => rw [List.foldl_cons, ih, advance_advance, List.sum_cons]

theorem peek?_eq_none_iff : c.peek? = none ↔ c.atEnd = true := by
  rw [peek?_eq_head?, List.head?_eq_none_iff, atEnd_iff]

/-! ## Texts in two parts -/

/-- The second part of a text stands where a step over the first part leads. Induction on the first
part, whose characters are stepped over one by one. -/
theorem startsWith_append (first second : List Char) (c : Cursor) :
    c.startsWith (first ++ second) =
      (c.startsWith first && (c.advance first.length).startsWith second) := by
  induction first generalizing c with
  | nil => rw [List.nil_append, startsWith, List.length_nil, advance_zero, Bool.true_and]
  | cons x xs ih =>
    -- The character is stepped over on both sides, and the rest of the part behind it.
    rw [List.cons_append, startsWith, startsWith, ih, advance_advance, List.length_cons,
      Nat.add_comm, Bool.and_assoc]

theorem startsWith_toList_append (first second : String) (c : Cursor) :
    c.startsWith (first ++ second).toList =
      (c.startsWith first.toList && (c.advance first.length).startsWith second.toList) := by
  rw [String.toList_append, startsWith_append, String.length_toList]

end Cursor

namespace Parser

variable {m : Type → Type} [Effect m] [LawfulMonad m]

omit [LawfulMonad m] in
theorem run_literal_startsWith (text : String) (c : Cursor) :
    (literal text : Parser m String).run c = pure
      (if c.startsWith text.toList then .success text (c.advance text.length)
      else .failure (c.failure ("string " ++ Text.Quoted.encode text))) := rfl

/-- What two texts answer one after the other. -/
theorem run_both_literal (first second : String) (c : Cursor) :
    (both (· ++ ·) (literal first) (literal second) : Parser m String).run c = pure
      (if c.startsWith first.toList then
        if (c.advance first.length).startsWith second.toList then
          .success (first ++ second) ((c.advance first.length).advance second.length)
        else .failure ((c.advance first.length).failure ("string " ++ Text.Quoted.encode second))
      else .failure (c.failure ("string " ++ Text.Quoted.encode first))) := by
  refine (run_both_scan _ _ _ c).trans ?_
  rw [run_literal_startsWith, map_pure]
  refine congrArg pure ?_
  split
  · exact apply_ite (Reply.map (first ++ ·)) _ _ _
  · rfl

/-- A text is read in one piece where its two parts are read one after the other, with the same
value and to the same place. Only a failure is told differently. -/
theorem literal_append (first second : String) (c : Cursor) :
    ∃ whole parts : Reply String,
      (literal (first ++ second) : Parser m String).run c = pure whole ∧
        (both (· ++ ·) (literal first) (literal second) : Parser m String).run c = pure parts ∧
        ∀ value stop, whole = .success value stop ↔ parts = .success value stop := by
  refine ⟨_, _, run_literal_startsWith (first ++ second) c, run_both_literal first second c,
    fun value stop => ?_⟩
  -- The whole stands where both parts stand. Otherwise neither reading succeeds, though the
  -- failures differ.
  rw [Cursor.startsWith_toList_append, String.length_append, ← Cursor.advance_advance]
  cases c.startsWith first.toList with
  | false => simp
  | true =>
    cases (c.advance first.length).startsWith second.toList with
    | false => simp
    | true => simp

end Parser

namespace Cursor

/-- Steps from the start of a text, each as large as a word, are one step as large as all of them
together, however large that is: it ends at the end of the text if that comes first. The text and
its length stay what they are, what is left to read is the rest of the text, and the next character
is the first one of it. Words hold these places without a difference, as long as they hold the
length of the text, and what is read there by them is the same.

A text that consists of two parts stands where the first part stands and the second one a step
further on, so it is read where the two are read one after the other. -/
theorem advances_as_one_step (m : Type → Type) [Effect m] [LawfulMonad m] (text : String)
    (counts : List UInt64) :
    let start := ofString text
    let total := (counts.map UInt64.toNat).sum
    let c := counts.foldl (fun c count => c.advance count.toNat) start
    let stored := counts.foldl StoredCursor.advance (.ofString text)
    (c = start.advance total ∧ ∀ a b, (c.advance a).advance b = c.advance (a + b)) ∧
      (c.position = min total text.length ∧ c.source = start.source ∧ c.limit = text.length) ∧
      (text.length < UInt64.size →
        stored.Represents c ∧
        (∀ a b, ((stored.advance a).advance b).Represents (c.advance (a.toNat + b.toNat))) ∧
        stored.rest = .ok c.rest ∧ stored.peek? = .ok c.peek? ∧ stored.atEnd = c.atEnd ∧
        ∀ s : String, stored.startsWith s = .ok (c.startsWith s.toList) ∧
          (s.length < UInt64.size →
            (stored.advance (.ofNat s.length)).Represents (c.advance s.length))) ∧
      (c.rest = text.toList.drop c.position ∧ c.peek? = c.rest.head? ∧
        (c.peek? = none ↔ c.atEnd = true)) ∧
      ∀ first second : String,
        (c.startsWith (first ++ second).toList = true ↔
          c.startsWith first.toList = true ∧
            (c.advance first.length).startsWith second.toList = true) ∧
        ∃ whole parts : Reply String,
          (Parser.literal (first ++ second) : Parser m String).run c = pure whole ∧
            (Parser.both (· ++ ·) (.literal first) (.literal second) : Parser m String).run c =
              pure parts ∧
            ∀ value stop, whole = .success value stop ↔ parts = .success value stop := by
  intro start total c stored
  have hlimit : start.limit = text.length := String.length_toList
  -- Every step is cut off at the end, and so is their sum; between them nothing is lost.
  have hstep : c = start.advance total := by
    rw [← foldl_advance, List.foldl_map]
  have hrepresents (fits : text.length < UInt64.size) : stored.Represents c :=
    (StoredCursor.Represents.ofString fits).foldl_advance counts
  refine ⟨⟨hstep, c.advance_advance⟩, ?_, fun fits => ?_, ?_, fun first second => ⟨?_, ?_⟩⟩
  · -- The steps begin at the start of the text, where the position is zero.
    rw [hstep, position_advance, hlimit]
    exact ⟨congrArg (min · _) (Nat.zero_add total), rfl, hlimit⟩
  · -- Whatever is read by words at a place is read there by the cursor that they represent.
    have h := hrepresents fits
    refine ⟨h, fun a b => ?_, h.rest, h.peek?, h.atEnd, fun s => ⟨h.startsWith s, h.advance_length⟩⟩
    rw [← advance_advance]
    exact (h.advance a).advance b
  · refine ⟨?_, c.peek?_eq_head?, peek?_eq_none_iff⟩
    rw [rest, hstep]
    rfl
  · rw [startsWith_toList_append, Bool.and_eq_true]
  · exact Parser.literal_append first second c

/-- Steps whose sum no word holds, and a text in two parts with something in front. -/
theorem advances_as_one_step_beyond_words :
    let text := "  let"
    let start := ofString text
    let largest : UInt64 := .ofNat (UInt64.size - 1)
    let stored := [2, largest, largest].foldl StoredCursor.advance (.ofString text)
    text.length < UInt64.size ∧
      stored.Represents (start.advance (2 ^ 65)) ∧
      (start.advance (2 ^ 65)).position = 5 ∧
      (Parser.both (· ++ ·) (.literal "le") (.literal "t") : Parser (Logged String) String).run
        (start.advance 2) = pure (.success "let" (start.advance 5)) := by
  intro text start largest stored
  have hfits : text.length < UInt64.size := by decide
  have htotal : ([2, largest, largest].map UInt64.toNat).sum = 2 ^ 65 := by decide +kernel
  obtain ⟨⟨hstep, _⟩, ⟨hposition, _⟩, hstored, _⟩ :=
    advances_as_one_step (Logged String) text [2, largest, largest]
  obtain ⟨_, _, _, _, hparts⟩ := advances_as_one_step (Logged String) text [2]
  obtain ⟨hrepresents, _⟩ := hstored hfits
  obtain ⟨_, whole, parts, hwhole, hboth, hsame⟩ := hparts "le" "t"
  have hstands : (start.advance 2).startsWith "let".toList = true := by decide +kernel
  have hread : (Parser.literal "let" : Parser (Logged String) String).run (start.advance 2) =
      pure (.success "let" (start.advance 5)) := by
    rw [Parser.run_literal_startsWith, if_pos hstands, advance_advance]
    rfl
  -- The whole text is read in one piece, so its parts are read as well.
  have hsuccess : whole = .success "let" (start.advance 5) :=
    congrArg Logged.value (hwhole.symm.trans hread)
  rw [(hsame _ _).mp hsuccess] at hboth
  rw [htotal] at hstep hposition
  rw [hstep] at hrepresents hposition
  exact ⟨hfits, hrepresents, hposition.trans (by decide +kernel), hboth⟩

end Cursor

end Descent
