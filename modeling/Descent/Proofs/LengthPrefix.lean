import Descent.Effect.Logged
import Descent.Proofs.Counting
import Descent.Proofs.NumberLiteral
import Descent.Proofs.Scanning
import Descent.Sample.LengthPrefixed

/-!
# Decoding texts with their length in front

The length says how many characters to read, so nothing that stands in a text is looked at. Main
statement: an encoded text is decoded whatever it holds and whatever follows it, and so are encoded
texts one behind the other (`Sample.LengthPrefixed.decodes_encoded`).

The number of runs of the counted repetition is only known when the length has been read. So what a
count of any characters comes to is shown for every count beforehand: it reads a text of that many
characters (`Parser.Reads.count_anyChar`), and where there are fewer it fails at the end of the text
(`Parser.run_count_anyChar_of_short`).
-/

namespace Descent

/-! ## Counts of any characters -/

namespace Parser

variable {m : Type → Type} [Effect m] [LawfulEffect m]

/-- As many characters as are counted are read, whatever they are. Induction on these characters. -/
theorem Reads.count_anyChar (text rest : List Char) :
    (Parser.count text.length anyChar : Parser m (List Char)).Reads text text rest := by
  induction text with
  | nil =>
    rw [List.length_nil, count_zero]
    exact .pure [] rest
  | cons x text ih =>
    rw [List.length_cons, count_succ]
    have hfirst : (anyChar : Parser m Char).Reads [x] x (text ++ rest) := .satisfy rfl
    exact hfirst.bind (ih.map (x :: ·))

/-- Where fewer characters are left than are counted, all of them are read before the count fails.
Induction on the characters that are left. -/
theorem run_count_anyChar_of_short {rest : List Char} {n : Nat} (short : rest.length < n)
    {c : Cursor} (there : c.rest = rest) :
    (count n anyChar : Parser m (List Char)).run c = pure (.failure ⟨c.limit, "satisfy"⟩) := by
  induction rest generalizing n c with
  | nil =>
    obtain ⟨k, rfl⟩ := Nat.exists_eq_add_of_lt short
    have hend : c.position = c.limit :=
      Nat.le_antisymm c.position_le_limit (of_decide_eq_true (Cursor.atEnd_iff.mpr there))
    have hfails : (anyChar : Parser m Char).run c = pure (.failure (c.failure "satisfy")) :=
      run_satisfy_of_stops (there ▸ Text.stops_nil _)
    rw [count_succ]
    show ((anyChar : Parser m Char).run c >>= _) = _
    rw [hfails, pure_bind, Cursor.failure, hend]
  | cons x rest ih =>
    obtain ⟨k, rfl⟩ : ∃ k, n = k + 1 := ⟨n - 1, by omega⟩
    have hfirst : (anyChar : Parser m Char).Reads [x] x rest := .satisfy rfl
    have hbehind : (c.advance [x].length).rest = rest :=
      rest_after (there.trans List.singleton_append.symm)
    have hothers := ih (Nat.lt_of_succ_lt_succ short) hbehind
    rw [count_succ]
    show ((anyChar : Parser m Char).run c >>= _) = _
    rw [hfirst.run_bind there]
    show Reply.map (x :: ·) <$>
      (count k anyChar : Parser m (List Char)).run (c.advance [x].length) = _
    rw [hothers, map_pure]
    rfl

end Parser

/-! ## Fields -/

namespace Sample.LengthPrefixed

open Descent.Parser (Reads Refuses ReadsEach rest_after)

variable {m : Type → Type} [Effect m] [LawfulEffect m]

theorem toList_encode (text : String) :
    (encode text).toList = Nat.toDigits 10 text.length ++ ([':'] ++ text.toList) := by
  rw [encode, String.toList_append, String.toList_append, List.append_assoc]
  exact congrArg (· ++ _) Nat.toList_repr

/-- A colon is no digit, so the length ends in front of it. -/
theorem length_reads {digits : List Char} (all : ∀ x ∈ digits, x.isDigit = true)
    (nonempty : digits ≠ []) (word : Nat.ofDigitChars 10 digits 0 < 2 ^ 64) (behind : List Char) :
    (Parser.natural : Parser m UInt64).Reads digits (.ofNat (Nat.ofDigitChars 10 digits 0))
      ([':'] ++ behind) :=
  .natural_of_isDigit all nonempty word (Text.stops_cons (by decide) behind)

theorem field_reads {text : String} (fits : text.length < 2 ^ 64) (rest : List Char) :
    (field : Parser m String).Reads (encode text).toList text rest := by
  have hnumber : Nat.ofDigitChars 10 (Nat.toDigits 10 text.length) 0 = text.length :=
    Nat.ofDigitChars_toDigits (by decide) (by decide)
  have hlength := length_reads (m := m) (fun _ => Text.isDigit_of_mem_toDigits) Nat.toDigits_ne_nil
    (hnumber.trans_lt fits) (text.toList ++ rest)
  rw [hnumber, ← List.append_assoc] at hlength
  have hcolon : (Parser.skipChar ':' : Parser m Unit).Reads [':'] () (text.toList ++ rest) :=
    .skipChar ':'
  have hbody : (Parser.count (UInt64.ofNat text.length).toNat .anyChar : Parser m (List Char)).Reads
      text.toList text.toList rest := by
    rw [UInt64.toNat_ofNat_of_lt' fits, ← String.length_toList]
    exact .count_anyChar _ _
  -- The second parser is chosen by the length that the first one has read.
  have hpayload : (Parser.bind (.skipChar ':') fun _ =>
      .count (UInt64.ofNat text.length).toNat .anyChar : Parser m (List Char)).Reads
      ([':'] ++ text.toList) text.toList rest := hcolon.bind hbody
  have hall : (Parser.bind .natural fun length =>
      .bind (.skipChar ':') fun _ => .count length.toNat .anyChar : Parser m (List Char)).Reads
      (Nat.toDigits 10 text.length ++ ([':'] ++ text.toList)) text.toList rest :=
    hlength.bind hpayload
  have hread := hall.map String.ofList
  rw [toList_encode]
  rwa [String.ofList_toList] at hread

theorem field_refuses_nil : (field : Parser m String).Refuses [] := by
  have hnatural : (Parser.natural : Parser m UInt64).Refuses [] :=
    ((Refuses.digit (Text.stops_nil _)).many1 0).refine _
  exact hnatural.bind.map _

theorem fields_read {texts : List String} (fit : ∀ text ∈ texts, text.length < 2 ^ 64)
    (rest : List Char) :
    (field : Parser m String).ReadsEach (texts.flatMap fun text => (encode text).toList) texts
      rest := by
  induction texts with
  | nil => exact .nil rest
  | cons text texts ih =>
    obtain ⟨hfits, hothers⟩ := List.forall_mem_cons.mp fit
    -- The empty text has an encoding, too.
    have hnonempty : (encode text).toList ≠ [] := by
      rw [toList_encode]
      exact List.append_ne_nil_of_right_ne_nil _ (List.cons_ne_nil _ _)
    exact .cons (field_reads hfits _) hnonempty (ih hothers)

/-- A field that is cut off fails at the end of the text, where its next character is missing. -/
theorem run_field_of_short {digits rest : List Char} (all : ∀ x ∈ digits, x.isDigit = true)
    (nonempty : digits ≠ []) (word : Nat.ofDigitChars 10 digits 0 < 2 ^ 64)
    (short : rest.length < Nat.ofDigitChars 10 digits 0) {c : Cursor}
    (there : c.rest = digits ++ ':' :: rest) :
    (field : Parser m String).run c = pure (.failure ⟨c.limit, "satisfy"⟩) := by
  have hbehind : (c.advance digits.length).rest = [':'] ++ rest := rest_after there
  have hcolon : (Parser.skipChar ':' : Parser m Unit).Reads [':'] () rest := .skipChar ':'
  have hshort : rest.length < (UInt64.ofNat (Nat.ofDigitChars 10 digits 0)).toNat := by
    rwa [UInt64.toNat_ofNat_of_lt' word]
  -- The length and the colon are read; it is the count behind them that runs short.
  show Reply.map String.ofList <$> ((Parser.natural : Parser m UInt64).run c >>= _) = _
  rw [(length_reads all nonempty word rest).run_bind there]
  show Reply.map String.ofList <$> ((Parser.skipChar ':' : Parser m Unit).run _ >>= _) = _
  rw [hcolon.run_bind hbehind]
  show Reply.map String.ofList <$> (Parser.count _ .anyChar : Parser m (List Char)).run _ = _
  rw [Parser.run_count_anyChar_of_short hshort (Parser.rest_after hbehind), map_pure]
  rfl

/-! ## What was encoded is decoded -/

/-- An encoded text is read as the text wherever it stands, up to the rest behind it and no further;
encoded texts one behind the other are read as these texts, to the end. Neither the texts nor the
rest are asked for anything but that the lengths are words. Where a length announces more characters
than there are, the field fails at the end of the text. -/
theorem decodes_encoded :
    (∀ (text : String) (rest : List Char) (c : Cursor), text.length < 2 ^ 64 →
      c.rest = (encode text).toList ++ rest →
      let stop := c.advance (encode text).length
      (field : Parser m String).run c = pure (.success text stop) ∧
        stop.rest = rest ∧ stop.position = c.position + (encode text).length) ∧
    (∀ (texts : List String) (spare : Nat) (c : Cursor), (∀ text ∈ texts, text.length < 2 ^ 64) →
      c.rest = (texts.flatMap fun text => (encode text).toList) →
      (Parser.many (field : Parser m String) spare).run c = pure (.success texts c.toEnd)) ∧
    ∀ (digits rest : List Char) (c : Cursor), (∀ x ∈ digits, x.isDigit = true) → digits ≠ [] →
      Nat.ofDigitChars 10 digits 0 < 2 ^ 64 → rest.length < Nat.ofDigitChars 10 digits 0 →
      c.rest = digits ++ ':' :: rest →
      (field : Parser m String).run c = pure (.failure ⟨c.limit, "satisfy"⟩) := by
  refine ⟨fun text rest c fits there => ?_, fun texts spare c fit there => ?_,
    fun digits rest c all nonempty word short there =>
      run_field_of_short all nonempty word short there⟩
  · have hread := field_reads (m := m) fits rest c there
    have hrest := rest_after there
    have hposition := Parser.position_after there
    rw [String.length_toList] at hread hrest hposition
    exact ⟨hread, hrest, hposition⟩
  · have hread := (fields_read (m := m) fit []).many field_refuses_nil spare
    have hend : c.toEnd = c.advance (texts.flatMap fun text => (encode text).toList).length := by
      rw [Cursor.toEnd_eq_advance, ← Cursor.length_rest, there]
    rw [hend]
    exact hread c (there.trans (List.append_nil _).symm)

/-- A text that looks like an encoded one, in front of more of the kind; a text and the empty one;
and a text that lacks its last characters. -/
theorem decodes_encoded_lookalike :
    let lookalike := Cursor.ofString "3:1:x2:"
    let both := Cursor.ofString "3:1:x0:"
    let lacking := Cursor.ofString "05:a:b"
    (field : Parser (Logged String) String).run lookalike =
        pure (.success "1:x" (lookalike.advance 5)) ∧
      (Parser.many (field : Parser (Logged String) String)).run both =
        pure (.success ["1:x", ""] both.toEnd) ∧
      (field : Parser (Logged String) String).run lacking = pure (.failure ⟨6, "satisfy"⟩) := by
  intro lookalike both lacking
  obtain ⟨one, row, short⟩ := decodes_encoded (m := Logged String)
  have hone := one "1:x" ['2', ':'] lookalike (by decide) (by decide +kernel)
  have hrow := row ["1:x", ""] 0 both (by decide) (by decide +kernel)
  have hdigits : ∀ x ∈ ['0', '5'], x.isDigit = true := List.all_eq_true.mp rfl
  have hshort := short ['0', '5'] ['a', ':', 'b'] lacking hdigits (by decide) (by decide)
    (by decide) (by decide +kernel)
  exact ⟨hone.1, hrow, hshort⟩

end Sample.LengthPrefixed

end Descent
