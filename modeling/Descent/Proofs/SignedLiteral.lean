import Descent.Effect.Tallied
import Descent.Proofs.NumberLiteral

/-!
# Literals of signed numbers

A signed literal is a run of digits with or without a minus sign in front. What the parser of
integers answers is told by the sign and the run (`Parser.run_integer`). Its three failures lie at
three places: without digits it fails where the first of them should stand, which is behind the
sign, and a number that is too large takes the parser back in front of the sign.

The magnitude stays below `2 ^ 63`, so neither the integer nor its negative wraps, and the smallest
integer of the type is too large for a literal.
-/

namespace Descent.Parser

open Text (digitValue)

/-! ## Signs and magnitudes -/

theorem toInt_ofNat_of_small {magnitude : Nat} (small : magnitude < 2 ^ 63) :
    (Int64.ofNat magnitude).toInt = magnitude := by
  rw [← Int64.ofInt_eq_ofNat]
  exact Int64.toInt_ofInt_of_le (by omega) (by omega)

theorem toInt_neg_ofNat_of_small {magnitude : Nat} (small : magnitude < 2 ^ 63) :
    (-Int64.ofNat magnitude).toInt = -magnitude := by
  rw [← Int64.ofInt_eq_ofNat, ← Int64.ofInt_neg]
  exact Int64.toInt_ofInt_of_le (by omega) (by omega)

/-- The sign is applied to a magnitude that has not wrapped, and does not wrap it either. -/
theorem integerOfDigits_eq_ok_iff (sign : Option Unit) (digits : List Nat) (value : Int64) :
    integerOfDigits (sign, digits) = .ok value ↔
      digits.foldl (fun value digit => 10 * value + digit) 0 < 2 ^ 63 ∧
      value.toInt = (if sign.isSome then -1 else 1) *
        (digits.foldl (fun value digit => 10 * value + digit) 0 : Nat) := by
  have half : UInt64.size / 2 = 2 ^ 63 := rfl
  rw [integerOfDigits_eq, half]
  generalize digits.foldl (fun value digit => 10 * value + digit) 0 = number
  by_cases small : number < 2 ^ 63
  · rw [if_pos small, Except.ok.injEq, ← Int64.toInt_inj, eq_comm, and_iff_right small]
    -- A magnitude below the bound is the same number as a signed word, and so is its negation.
    cases sign with
    | none => simp [toInt_ofNat_of_small small]
    | some _ => simp [toInt_neg_ofNat_of_small small]
  · rw [if_neg small]
    exact ⟨nofun, fun h => absurd h.1 small⟩

variable {m : Type → Type} [Effect m]

/-! ## The parser of integers -/

variable [LawfulEffect m]

/-- A sign that is not there is no failure, and nothing is read in its place. -/
theorem run_optional_skipChar (x : Char) (c : Cursor) :
    (optional (skipChar x) : Parser m (Option Unit)).run c = pure
      (.success (if c.peek? == some x then some () else none)
        (c.advance (c.peek? == some x).toNat)) := by
  unfold optional skipChar scan
  simp only [map_pure, beq_iff_eq]
  by_cases next : c.peek? = some x
  · simp [next, Reply.map, Reply.recover]
  · simp [next, beq_false_of_ne next, Reply.map, Reply.recover]

theorem position_advance_peek (x : Char) (c : Cursor) :
    (c.advance (c.peek? == some x).toNat).position = c.position + (c.peek? == some x).toNat := by
  refine Cursor.position_advance_of_le ?_
  by_cases next : c.peek? = some x
  · -- The sign itself is a character that is left.
    simp only [next, beq_self_eq_true, Bool.toNat_true]
    exact Cursor.remaining_pos next
  · simp only [beq_false_of_ne next, Bool.toNat_false]
    exact Nat.zero_le _

/-- Behind the sign stand the digits, and the number of both is judged in front of the sign. -/
theorem run_integer (c : Cursor) :
    let signed := c.peek? == some '-'
    let digits := (c.rest.drop signed.toNat).takeWhile Char.isDigit
    let number := Nat.ofDigitChars 10 digits 0
    (integer : Parser m Int64).run c = pure
      (if digits = [] then .failure ⟨c.position + signed.toNat, "not a digit"⟩
      else if number < 2 ^ 63 then
        .success (if signed then -Int64.ofNat number else Int64.ofNat number)
          (c.advance (signed.toNat + digits.length))
      else .failure ⟨c.position, "integer too large"⟩) := by
  intro signed digits number
  have half : UInt64.size / 2 = 2 ^ 63 := rfl
  show Reply.refine c integerOfDigits <$>
    ((optional (skipChar '-') : Parser m (Option Unit)).run c >>= _) = _
  -- The sign is read or not, and never fails; what follows it starts behind it.
  rw [run_optional_skipChar, pure_bind]
  show Reply.refine c integerOfDigits <$> Reply.map (Prod.mk _) <$>
    (many1 digit).run (c.advance signed.toNat) = _
  rw [run_digits, map_pure, map_pure, Cursor.rest_advance]
  refine congrArg pure ?_
  by_cases missing : digits = []
  · rw [if_pos missing, if_pos missing]
    -- Digits are missed where they were looked for, which is behind the sign.
    show Reply.failure ⟨(c.advance signed.toNat).position, _⟩ = _
    rw [position_advance_peek]
  · have sign : (if signed then some () else none).isSome = signed := by cases signed <;> rfl
    rw [if_neg missing, if_neg missing]
    show Reply.refine c integerOfDigits
      (.success (if signed then some () else none, digits.map digitValue) _) = _
    rw [Reply.refine, integerOfDigits_eq, Text.foldl_digitValue, half, sign]
    by_cases small : number < 2 ^ 63
    · rw [if_pos small, if_pos small, Cursor.advance_advance]
    · rw [if_neg small, if_neg small]
      rfl

/-! ## The literals that are accepted -/

/-- An integer is read where digits come next, perhaps behind a minus sign, that stand for a number
below `2 ^ 63`: sign and digits are read, and the number is not altered but for the sign. Otherwise
nothing is. Digits are missed behind the sign, and a number that is too large fails in front of
it. -/
theorem integer_accepts_signed_decimals :
    (∀ c : Cursor,
      let signed := c.peek? == some '-'
      let digits := (c.rest.drop signed.toNat).takeWhile Char.isDigit
      let number := Nat.ofDigitChars 10 digits 0
      let value := if signed then -Int64.ofNat number else Int64.ofNat number
      (integer : Parser m Int64).run c = pure
        (if digits = [] then .failure ⟨c.position + signed.toNat, "not a digit"⟩
        else if number ≤ 2 ^ 63 - 1 then .success value (c.advance (signed.toNat + digits.length))
        else .failure ⟨c.position, "integer too large"⟩) ∧
      (number ≤ 2 ^ 63 - 1 → value.toInt = if signed then -(number : Int) else number) ∧
      (c.advance (signed.toNat + digits.length)).position =
        c.position + signed.toNat + digits.length) ∧
    (∀ (sign : Option Unit) (digits : List Nat) (value : Int64),
      integerOfDigits (sign, digits) = .ok value ↔
        digits.foldl (fun value digit => 10 * value + digit) 0 < 2 ^ 63 ∧
        value.toInt = (if sign.isSome then -1 else 1) *
          (digits.foldl (fun value digit => 10 * value + digit) 0 : Nat)) ∧
    ∀ (n : Int64) (rest : List Char), n ≠ Int64.minValue → Text.Stops Char.isDigit rest →
      (integer : Parser m Int64).Reads (toString n).toList n rest := by
  refine ⟨fun c => ?_, integerOfDigits_eq_ok_iff, fun n rest notLeast stop => ?_⟩
  · intro signed digits number value
    have atMost : number ≤ 2 ^ 63 - 1 ↔ number < 2 ^ 63 := by omega
    refine ⟨?_, fun small => ?_, ?_⟩
    · simp only [atMost]
      exact run_integer c
    · cases h : signed with
      | false =>
        simp only [value, h]
        exact toInt_ofNat_of_small (atMost.mp small)
      | true =>
        simp only [value, h]
        exact toInt_neg_ofNat_of_small (atMost.mp small)
    · -- The digits stand behind the sign, so their number is added to its position.
      have behind := position_advance_digits (c.advance signed.toNat)
      rwa [Cursor.advance_advance, Cursor.rest_advance, position_advance_peek] at behind
  · -- But for the least integer, the digits of an integer are those of a magnitude below the bound.
    have read : (integer : Parser m Int64).Reads (toString n.toInt).toList (.ofInt n.toInt) rest :=
      .integer (Text.natAbs_lt_of_ne_minValue notLeast) stop
    rwa [Int64.ofInt_toInt] at read

/-- The least number with a literal, the number before it, and a sign without digits. -/
theorem integer_accepts_signed_decimals_least :
    let least := Cursor.ofString "x-9223372036854775807;"
    let smaller := Cursor.ofString "x-9223372036854775808;"
    let signs := Cursor.ofString "x--1"
    Text.Stops Char.isDigit [';'] ∧ (-9223372036854775807 : Int64) ≠ Int64.minValue ∧
      (integer : Parser Tallied Int64).run (least.advance 1) =
        pure (.success (-9223372036854775807) (least.advance 21)) ∧
      (integer : Parser Tallied Int64).run (smaller.advance 1) =
        pure (.failure ⟨1, "integer too large"⟩) ∧
      (integer : Parser Tallied Int64).run (signs.advance 1) =
        pure (.failure ⟨2, "not a digit"⟩) := by
  intro least smaller signs
  obtain ⟨literals, _, written⟩ := integer_accepts_signed_decimals (m := Tallied)
  have notLeast : (-9223372036854775807 : Int64) ≠ Int64.minValue := by decide
  have stop : Text.Stops Char.isDigit [';'] := Text.stops_cons rfl []
  have read :=
    written (-9223372036854775807) [';'] notLeast stop (least.advance 1) (by decide +kernel)
  exact ⟨stop, notLeast, read, (literals (smaller.advance 1)).1, (literals (signs.advance 1)).1⟩

end Descent.Parser
