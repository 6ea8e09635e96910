import Descent.Parser.Number
import Descent.Proofs.Reading
import Mathlib.Data.Nat.Digits.Defs

/-!
# Reading numerals

The digits of a numeral are read one by one, and the number that they stand for is found as long as
it stays below the bound (`Text.readDigits_eq`). The decimal form of every integer of magnitude
below `2 ^ 63` is read as that integer (`Parser.Reads.integer`).
-/

namespace Descent

/-! ## Decimal digits -/

namespace Text

/-- The value of a digit. -/
def digitValue (x : Char) : Nat := x.toNat - '0'.toNat

/-- Further digits make a number no smaller. -/
theorem le_foldl_digits (value : Nat) (digits : List Nat) :
    value ≤ digits.foldl (fun value digit => 10 * value + digit) value := by
  induction digits generalizing value with
  | nil => exact Nat.le_refl _
  | cons digit digits ih =>
    have := ih (10 * value + digit)
    rw [List.foldl_cons]
    omega

/-- A row of digits is read as its number, if that is below the bound. A number on the way is never
larger than the whole, so none is refused too early. -/
theorem readDigits_eq {bound value : Nat} (below : value < bound) (digits : List Nat) :
    readDigits bound value digits =
      if digits.foldl (fun value digit => 10 * value + digit) value < bound
      then some (digits.foldl (fun value digit => 10 * value + digit) value) else none := by
  induction digits generalizing value with
  | nil => exact (if_pos below).symm
  | cons digit digits ih =>
    rw [readDigits, List.foldl_cons]
    by_cases h : 10 * value + digit < bound
    · rw [if_pos h, ih h]
    · -- Too large already, and the digits to come make it no smaller.
      have := le_foldl_digits (10 * value + digit) digits
      rw [if_neg h, if_neg (by omega)]

/-- The decimal digits of a number stand for it. -/
theorem foldl_toDigits (n : Nat) :
    ((Nat.toDigits 10 n).map digitValue).foldl (fun value digit => 10 * value + digit) 0 = n := by
  rw [List.foldl_map]
  exact Nat.ofDigitChars_toDigits (by decide) (by decide)

theorem isDigit_of_mem_toDigits {n : Nat} {x : Char} (h : x ∈ Nat.toDigits 10 n) :
    x.isDigit = true :=
  Nat.isDigit_of_mem_toDigits (by decide) (by decide) h

/-- The decimal form of a number begins with a digit. -/
theorem exists_head?_toDigits (n : Nat) :
    ∃ x, (Nat.toDigits 10 n).head? = some x ∧ x.isDigit = true := by
  obtain ⟨x, xs, eq⟩ := List.exists_cons_of_ne_nil (Nat.toDigits_ne_nil (n := n) (b := 10))
  have digit : x.isDigit = true := isDigit_of_mem_toDigits (n := n) (eq ▸ List.mem_cons_self)
  exact ⟨x, by rw [eq]; rfl, digit⟩

/-- The decimal form of an integer. -/
theorem toList_toString_int (n : Int) :
    (toString n).toList = (if n < 0 then ['-'] else []) ++ Nat.toDigits 10 n.natAbs := by
  show n.repr.toList = _
  rw [Int.repr_eq_if]
  split
  · next h =>
    rw [if_neg (by omega), Nat.toList_repr, List.nil_append]
    congr 1
    omega
  · next h =>
    rw [if_pos (by omega), String.toList_append, Nat.toList_repr]
    congr 2
    omega

/-- The decimal form of an integer begins with a digit, or with a sign if it is negative. -/
theorem exists_head?_toString_int (n : Int) :
    ∃ x, (toString n).toList.head? = some x ∧ (x = '-' ∨ x.isDigit = true) := by
  rw [toList_toString_int]
  split
  · exact ⟨'-', rfl, .inl rfl⟩
  · obtain ⟨x, begins, digit⟩ := exists_head?_toDigits n.natAbs
    exact ⟨x, begins, .inr digit⟩

/-- Only the least integer has a magnitude of `2 ^ 63`. -/
theorem natAbs_lt_of_ne_minValue {v : Int64} (h : v ≠ Int64.minValue) :
    v.toInt.natAbs < UInt64.size / 2 := by
  have low := Int64.le_toInt v
  have high := Int64.toInt_lt v
  have : v.toInt ≠ -2 ^ 63 := fun eq => h (Int64.toInt_inj.mp (eq.trans Int64.toInt_minValue.symm))
  have : UInt64.size / 2 = 2 ^ 63 := rfl
  omega

/-! ### Digits and blanks -/

/-- A digit is not blank. -/
theorem isBlank_of_isDigit {x : Char} (h : x.isDigit = true) : isBlank x = false := by
  have not_space : x ≠ ' ' := by
    rintro rfl
    exact absurd h (by decide)
  have between : 48 ≤ x.toNat ∧ x.toNat ≤ 57 := by
    simp only [Char.isDigit, Bool.and_eq_true, decide_eq_true_eq] at h
    exact ⟨UInt32.le_iff_toNat_le.mp h.1, UInt32.le_iff_toNat_le.mp h.2⟩
  rw [isBlank, if_pos (by omega), beq_false_of_ne not_space, Bool.false_or, Bool.and_eq_false_iff]
  exact .inr (decide_eq_false (by omega))

/-- The decimal form of an integer begins with no blank. -/
theorem Spelled.stops_isBlank {n : Int} {s : List Char} (numeral : Spelled (toString n) s)
    (rest : List Char) : Stops isBlank (s ++ rest) := by
  obtain ⟨x, begins, rfl | digit⟩ := exists_head?_toString_int n
  · exact numeral.stops begins (by decide) rest
  · exact numeral.stops begins (isBlank_of_isDigit digit) rest

/-- No blank is a digit, so blanks go on with a digit only if what follows them does. -/
theorem stops_isDigit_append {blanks rest : List Char} (blank : ∀ x ∈ blanks, isBlank x = true)
    (stop : Stops Char.isDigit rest) : Stops Char.isDigit (blanks ++ rest) := by
  refine stops_append (fun x blankx => Bool.eq_false_iff.mpr fun digit => ?_) blank stop
  have notBlank := isBlank_of_isDigit digit
  rw [blankx] at notBlank
  cases notBlank

end Text

/-! ## Reading digits -/

namespace Parser

open Text (digitValue)

variable {m : Type → Type} [Effect m] {text rest : List Char}

/-- A number below `2 ^ 63` is below `2 ^ 64`, so the bound on integers is the only one to be
seen. -/
theorem integerOfDigits_eq (sign : Option Unit) (digits : List Nat) :
    integerOfDigits (sign, digits) =
      if digits.foldl (fun value digit => 10 * value + digit) 0 < UInt64.size / 2
      then .ok (if sign.isSome
        then -Int64.ofNat (digits.foldl (fun value digit => 10 * value + digit) 0)
        else Int64.ofNat (digits.foldl (fun value digit => 10 * value + digit) 0))
      else .error "integer too large" := by
  rw [integerOfDigits, Text.readDigits_eq (by decide)]
  generalize digits.foldl (fun value digit => 10 * value + digit) 0 = number
  by_cases small : number < UInt64.size / 2
  · rw [if_pos (by omega), Option.filter_some, if_pos (decide_eq_true small), if_pos small]
  · rw [if_neg small]
    -- A number that is too large may still be a word. Then it is read, and dropped afterwards.
    by_cases word : number < UInt64.size
    · rw [if_pos word, Option.filter_some, if_neg (by simpa using small)]
    · rw [if_neg word, Option.filter_none]

theorem Reads.digit {x : Char} (h : x.isDigit = true) :
    (Parser.digit : Parser m Nat).Reads [x] (digitValue x) rest := by
  refine .scan fun c there => ?_
  have value : c.peek?.bind Text.digitValue? = some (digitValue x) := by
    rw [Cursor.peek?_eq_head?, there]
    exact if_pos h
  rw [value]
  rfl

theorem Refuses.digit (h : Text.Stops Char.isDigit text) :
    (Parser.digit : Parser m Nat).Refuses text := by
  refine .scan fun c there => ⟨c.failure "not a digit", ?_⟩
  have value : c.peek?.bind Text.digitValue? = none := by
    rw [Cursor.peek?_eq_head?, there]
    cases text with
    | nil => rfl
    | cons x xs => exact if_neg (Bool.eq_false_iff.mp (h x rfl))
  rw [value]

theorem ReadsEach.digits (h : ∀ x ∈ text, x.isDigit = true) :
    (Parser.digit : Parser m Nat).ReadsEach text (text.map digitValue) rest := by
  induction text with
  | nil => exact .nil rest
  | cons x xs ih =>
    have first : (Parser.digit : Parser m Nat).Reads [x] (digitValue x) (xs ++ rest) :=
      .digit (h x List.mem_cons_self)
    exact .cons first (List.cons_ne_nil x []) (ih fun y hy => h y (List.mem_cons_of_mem x hy))

variable [LawfulEffect m]

/-- A row of digits, of which there is at least one, is read to its end. -/
theorem Reads.digits (h : ∀ x ∈ text, x.isDigit = true) (nonempty : text ≠ [])
    (stop : Text.Stops Char.isDigit rest) :
    (many1 Parser.digit : Parser m (List Nat)).Reads text (text.map digitValue) rest := by
  cases text with
  | nil => exact absurd rfl nonempty
  | cons x xs =>
    have first : (Parser.digit : Parser m Nat).Reads [x] (digitValue x) (xs ++ rest) :=
      .digit (h x List.mem_cons_self)
    have others : (Parser.digit : Parser m Nat).ReadsEach xs (xs.map digitValue) rest :=
      .digits fun y hy => h y (List.mem_cons_of_mem x hy)
    exact others.many1 first (.digit stop) 0

/-- The decimal form of an integer of magnitude below `2 ^ 63` is read as the integer. -/
theorem Reads.integer {n : Int} (small : n.natAbs < UInt64.size / 2)
    (stop : Text.Stops Char.isDigit rest) :
    (Parser.integer : Parser m Int64).Reads (toString n).toList (Int64.ofInt n) rest := by
  have digits : (many1 Parser.digit : Parser m (List Nat)).Reads (Nat.toDigits 10 n.natAbs)
      ((Nat.toDigits 10 n.natAbs).map digitValue) rest :=
    .digits (fun _ => Text.isDigit_of_mem_toDigits) Nat.toDigits_ne_nil stop
  have number (sign : Option Unit) :
      integerOfDigits (sign, (Nat.toDigits 10 n.natAbs).map digitValue) =
        .ok (if sign.isSome then -Int64.ofNat n.natAbs else Int64.ofNat n.natAbs) := by
    rw [integerOfDigits_eq, Text.foldl_toDigits, if_pos small]
  rw [Text.toList_toString_int]
  split
  · next negative =>
    have value : -Int64.ofNat n.natAbs = Int64.ofInt n := by
      rw [← Int64.ofInt_eq_ofNat, ← Int64.ofInt_neg]
      congr 1
      omega
    rw [← value]
    exact (((Reads.skipChar '-').optional).both Prod.mk digits).refine (number (some ()))
  · next nonnegative =>
    -- A digit comes first, so there is no sign.
    have unsigned : (Nat.toDigits 10 n.natAbs ++ rest).head? ≠ some '-' := by
      obtain ⟨x, begins, digit⟩ := Text.exists_head?_toDigits n.natAbs
      rw [List.head?_append, begins, Option.some_or]
      rintro ⟨rfl⟩
      exact absurd digit (by decide)
    have value : Int64.ofNat n.natAbs = Int64.ofInt n := by
      rw [← Int64.ofInt_eq_ofNat]
      congr 1
      omega
    rw [← value]
    exact ((Refuses.skipChar unsigned).optional.both Prod.mk digits).refine (number none)

/-- The decimal form of an integer may have blanks behind it. -/
theorem Reads.lexeme_integer {n : Int} {s : List Char} (small : n.natAbs < UInt64.size / 2)
    (numeral : Text.Spelled (toString n) s) (blank : Text.Stops Text.isBlank rest)
    (digit : Text.Stops Char.isDigit rest) :
    (Parser.lexeme Parser.integer : Parser m Int64).Reads s (Int64.ofInt n) rest := by
  obtain ⟨blanks, allBlank, rfl⟩ := numeral
  exact .lexeme allBlank blank (.integer small (Text.stops_isDigit_append allBlank digit))

/-- Where neither a sign nor a digit comes next, there is no integer. -/
theorem Refuses.integer (unsigned : text.head? ≠ some '-') (stop : Text.Stops Char.isDigit text) :
    (Parser.integer : Parser m Int64).Refuses text := by
  have digits : (Parser.many1 Parser.digit : Parser m (List Nat)).Refuses text :=
    (Refuses.digit stop).many1 0
  exact ((Refuses.skipChar unsigned).optional.both_refuses Prod.mk digits).refine integerOfDigits

end Parser

end Descent
