import Descent.Effect.Logged
import Descent.Proofs.Numeral

/-!
# Literals of numbers

A literal is the longest run of digits that comes next. What a parser of numbers answers at a place
is told by that run alone: whether there are any digits, and the number that they stand for
(`Parser.run_digits`, `Parser.naturalOfDigits_eq`). The number is unbounded, while the parser gives
up at the first digit with which it would leave its words; it is too large then, and only then.
-/

namespace Descent

namespace Text

theorem foldl_digitValue (text : List Char) :
    (text.map digitValue).foldl (fun value digit => 10 * value + digit) 0 =
      Nat.ofDigitChars 10 text 0 := by
  rw [List.foldl_map, Nat.ofDigitChars_eq_foldl]
  rfl

theorem ofDigitChars_zeros_append (zeros : Nat) (text : List Char) :
    Nat.ofDigitChars 10 (List.replicate zeros '0' ++ text) 0 = Nat.ofDigitChars 10 text 0 := by
  rw [Nat.ofDigitChars_append, Nat.ofDigitChars_replicate_zero, Nat.mul_zero]

end Text

namespace Parser

open Text (digitValue)

variable {m : Type → Type} [Effect m]

/-! ## Digits -/

theorem run_digit_of_stops {c : Cursor} (stop : Text.Stops Char.isDigit c.rest) :
    (digit : Parser m Nat).run c = pure (.failure (c.failure "not a digit")) := by
  -- What comes next is the end or no digit, and has no value either way.
  have value : c.peek?.bind Text.digitValue? = none := by
    rw [Cursor.peek?_eq_head?]
    cases next : c.rest.head? with
    | none => rfl
    | some x => exact if_neg (Bool.eq_false_iff.mp (stop x next))
  unfold digit scan
  simp only [value]

variable [LawfulEffect m]

/-- A row of digits is the longest run of them; where there is none, a digit is missing. -/
theorem run_digits (c : Cursor) :
    (many1 digit : Parser m (List Nat)).run c = pure
      (if c.rest.takeWhile Char.isDigit = [] then .failure (c.failure "not a digit")
      else .success ((c.rest.takeWhile Char.isDigit).map digitValue)
        (c.advance (c.rest.takeWhile Char.isDigit).length)) := by
  have split : c.rest = c.rest.takeWhile Char.isDigit ++ c.rest.dropWhile Char.isDigit :=
    List.takeWhile_append_dropWhile.symm
  have behind := Text.stops_dropWhile Char.isDigit c.rest
  by_cases none : c.rest.takeWhile Char.isDigit = []
  · -- Without a digit, the text is what is behind the empty run.
    rw [none, List.nil_append] at split
    rw [← split] at behind
    rw [if_pos none]
    show ((digit : Parser m Nat).run c >>= _) = _
    rw [run_digit_of_stops behind, pure_bind]
  · -- With a digit, the run is read up to what does not go on with it.
    have digits : ∀ x ∈ c.rest.takeWhile Char.isDigit, x.isDigit = true :=
      List.all_eq_true.mp List.all_takeWhile
    rw [if_neg none]
    exact Reads.digits digits none behind c split

theorem position_advance_digits (c : Cursor) :
    (c.advance (c.rest.takeWhile Char.isDigit).length).position =
      c.position + (c.rest.takeWhile Char.isDigit).length :=
  position_after List.takeWhile_append_dropWhile.symm

/-! ## Natural numbers -/

theorem naturalOfDigits_eq (digits : List Nat) :
    naturalOfDigits digits =
      if digits.foldl (fun value digit => 10 * value + digit) 0 < 2 ^ 64
      then .ok (.ofNat (digits.foldl (fun value digit => 10 * value + digit) 0))
      else .error "natural number too large" := by
  have size : UInt64.size = 2 ^ 64 := rfl
  rw [naturalOfDigits, Text.readDigits_eq (by decide), size]
  by_cases small : digits.foldl (fun value digit => 10 * value + digit) 0 < 2 ^ 64
  · simp only [if_pos small, Nat.toUInt64_eq]
  · simp only [if_neg small]

/-- The digits of a word are never refused, and what they are read as has not wrapped. -/
theorem naturalOfDigits_eq_ok_iff (digits : List Nat) (value : UInt64) :
    naturalOfDigits digits = .ok value ↔
      value.toNat = digits.foldl (fun value digit => 10 * value + digit) 0 := by
  rw [naturalOfDigits_eq]
  generalize digits.foldl (fun value digit => 10 * value + digit) 0 = number
  by_cases small : number < 2 ^ 64
  · -- A small number is the value of the word that stands for it, and of no other.
    have exact : (UInt64.ofNat number).toNat = number := UInt64.toNat_ofNat_of_lt' small
    rw [if_pos small, Except.ok.injEq]
    constructor
    · rintro rfl
      exact exact
    · intro same
      rw [← same, UInt64.ofNat_toNat]
  · -- No word has a value that is too large.
    have := value.toNat_lt
    rw [if_neg small]
    exact ⟨nofun, fun same => by omega⟩

theorem run_natural (c : Cursor) :
    (natural : Parser m UInt64).run c = pure
      (if c.rest.takeWhile Char.isDigit = [] then .failure ⟨c.position, "not a digit"⟩
      else if Nat.ofDigitChars 10 (c.rest.takeWhile Char.isDigit) 0 < 2 ^ 64 then
        .success (.ofNat (Nat.ofDigitChars 10 (c.rest.takeWhile Char.isDigit) 0))
          (c.advance (c.rest.takeWhile Char.isDigit).length)
      else .failure ⟨c.position, "natural number too large"⟩) := by
  -- The digits are read first and judged then, in front of the first of them.
  show Reply.refine c naturalOfDigits <$> (many1 digit : Parser m (List Nat)).run c = _
  rw [run_digits, map_pure]
  refine congrArg pure ?_
  by_cases none : c.rest.takeWhile Char.isDigit = []
  · rw [if_pos none, if_pos none]
    rfl
  · rw [if_neg none, if_neg none, Reply.refine, naturalOfDigits_eq, Text.foldl_digitValue]
    by_cases small : Nat.ofDigitChars 10 (c.rest.takeWhile Char.isDigit) 0 < 2 ^ 64
    · rw [if_pos small, if_pos small]
    · rw [if_neg small, if_neg small]
      rfl

/-- A row of digits is read as their number, if that is a word. -/
theorem Reads.natural_of_isDigit {digits rest : List Char} (all : ∀ x ∈ digits, x.isDigit = true)
    (nonempty : digits ≠ []) (small : Nat.ofDigitChars 10 digits 0 < 2 ^ 64)
    (stop : Text.Stops Char.isDigit rest) :
    (Parser.natural : Parser m UInt64).Reads digits (.ofNat (Nat.ofDigitChars 10 digits 0))
      rest := by
  intro c there
  have run := Text.takeWhile_append_of_stops all stop
  rw [← there] at run
  rw [run_natural, run, if_neg nonempty, if_pos small]

/-- The decimal form of a word is read as the word, with any number of zeros in front. -/
theorem Reads.natural (n : UInt64) (zeros : Nat) {rest : List Char}
    (stop : Text.Stops Char.isDigit rest) :
    (Parser.natural : Parser m UInt64).Reads
      (List.replicate zeros '0' ++ (toString n).toList) n rest := by
  have decimal : (toString n).toList = Nat.toDigits 10 n.toNat := Nat.toList_repr
  rw [decimal]
  have digits : ∀ x ∈ List.replicate zeros '0' ++ Nat.toDigits 10 n.toNat, x.isDigit = true := by
    intro x mem
    rcases List.mem_append.mp mem with zero | digit
    · rw [List.eq_of_mem_replicate zero]
      decide
    · exact Text.isDigit_of_mem_toDigits digit
  have nonempty : List.replicate zeros '0' ++ Nat.toDigits 10 n.toNat ≠ [] :=
    List.append_ne_nil_of_right_ne_nil _ Nat.toDigits_ne_nil
  -- Zeros in front change the row of digits, not the number.
  have number : Nat.ofDigitChars 10 (List.replicate zeros '0' ++ Nat.toDigits 10 n.toNat) 0 =
      n.toNat := by
    rw [Text.ofDigitChars_zeros_append, Nat.ofDigitChars_toDigits (by decide) (by decide)]
  have read := Reads.natural_of_isDigit (m := m) digits nonempty (number.trans_lt n.toNat_lt) stop
  rwa [number, UInt64.ofNat_toNat] at read

/-! ## The literals that are accepted -/

/-- A natural number is read where digits come next that stand for a number below `2 ^ 64`: all the
digits are read, and their number is not altered. Otherwise nothing is, and the failure is at the
first digit, or where it is missing. -/
theorem natural_accepts_decimals :
    (∀ c : Cursor,
      let digits := c.rest.takeWhile Char.isDigit
      let number := Nat.ofDigitChars 10 digits 0
      (natural : Parser m UInt64).run c = pure
        (if digits = [] then .failure ⟨c.position, "not a digit"⟩
        else if number < 2 ^ 64 then .success (.ofNat number) (c.advance digits.length)
        else .failure ⟨c.position, "natural number too large"⟩) ∧
      (number < 2 ^ 64 → (UInt64.ofNat number).toNat = number) ∧
      (c.advance digits.length).position = c.position + digits.length) ∧
    (∀ (digits : List Nat) (value : UInt64), naturalOfDigits digits = .ok value ↔
      value.toNat = digits.foldl (fun value digit => 10 * value + digit) 0) ∧
    ∀ (n : UInt64) (zeros : Nat) (rest : List Char), Text.Stops Char.isDigit rest →
      (natural : Parser m UInt64).Reads (List.replicate zeros '0' ++ (toString n).toList) n
        rest := by
  refine ⟨fun c => ⟨run_natural c, fun small => ?_, position_advance_digits c⟩,
    naturalOfDigits_eq_ok_iff, fun n zeros rest stop => .natural n zeros stop⟩
  exact UInt64.toNat_ofNat_of_lt' small

/-- The largest number of the type with zeros in front, and the number after it. -/
theorem natural_accepts_decimals_largest :
    let largest := Cursor.ofString "x0018446744073709551615;"
    let larger := Cursor.ofString "x18446744073709551616;"
    Text.Stops Char.isDigit [';'] ∧
      (natural : Parser (Logged String) UInt64).run (largest.advance 1) =
        pure (.success 18446744073709551615 (largest.advance 23)) ∧
      (natural : Parser (Logged String) UInt64).run (larger.advance 1) =
        pure (.failure ⟨1, "natural number too large"⟩) := by
  intro largest larger
  obtain ⟨literals, _, written⟩ := natural_accepts_decimals (m := Logged String)
  have stop : Text.Stops Char.isDigit [';'] := Text.stops_cons rfl []
  have read := written 18446744073709551615 2 [';'] stop (largest.advance 1) (by decide +kernel)
  exact ⟨stop, read, (literals (larger.advance 1)).1⟩

end Parser

end Descent
