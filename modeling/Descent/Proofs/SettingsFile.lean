import Descent.Proofs.Numeral
import Descent.Proofs.ReadingLists
import Descent.Sample.Settings

/-!
# The settings sample reads what is written

A settings file may be written in many ways: blanks may stand at its beginning and behind every
name, sign and integer (`Sample.Settings.Written`). However its entries are written, the sample
parses the text as these entries (`Sample.Settings.parses_written`).

A list of integers stands inside an entry, and the entries form a list themselves. A list goes on
behind an item only with its own separator, so it is enough to know of the text behind an item
whether it begins with that separator or follows the whole list.
-/

namespace Descent

/-! ## Names and blanks -/

namespace Text

/-- A character in a range that is apart from all the given ranges is in none of them. -/
theorem CodeRange.any_eq_false {ranges others : List CodeRange} {x : Char}
    (apart : ∀ r ∈ ranges, ∀ o ∈ others, r.2 < o.1 ∨ o.2 < r.1)
    (inside : CodeRange.any ranges x = true) : CodeRange.any others x = false := by
  obtain ⟨r, mem, low, high⟩ := CodeRange.any_iff.mp inside
  refine Bool.eq_false_iff.mpr fun also => ?_
  obtain ⟨o, mem', low', high'⟩ := CodeRange.any_iff.mp also
  have := apart r mem o mem'
  omega

/-- No blank is a letter or a numeral. -/
theorem isAlphanumeric_of_isBlank {x : Char} (h : isBlank x = true) :
    isAlphanumeric x = false := by
  by_cases ascii : x.toNat < 0x80
  · have each : ∀ n < 0x80, isBlank (Char.ofNat n) = true →
        isAlphanumeric (Char.ofNat n) = false := by decide +kernel
    have here := each x.toNat ascii
    rw [Char.ofNat_toNat] at here
    exact here h
  · -- Beyond ASCII the ranges of the tables are apart.
    rw [isBlank, if_neg ascii] at h
    have noLetter : CodeRange.any alphabeticRanges x = false :=
      CodeRange.any_eq_false (by decide +kernel) h
    have noNumeral : CodeRange.any numericRanges x = false :=
      CodeRange.any_eq_false (by decide +kernel) h
    rw [isAlphanumeric, isAlphabetic, isNumeric, if_neg ascii, if_neg ascii, noLetter, noNumeral]
    rfl

end Text

namespace Sample.Settings

open Text (Spelled Items)

/-- No name goes on with a blank. -/
theorem isNameChar_of_isBlank {x : Char} (h : Text.isBlank x = true) : isNameChar x = false := by
  have other : x ≠ '_' := by
    rintro rfl
    exact absurd h (by decide)
  simp [isNameChar, Text.isAlphanumeric_of_isBlank h, other]

/-! ## Entries and their written forms -/

/-- The text is a decimal form of the integer. The least integer is left out, since its digits stand
for a number that is none. -/
def WrittenValue (v : Int64) (text : List Char) : Prop :=
  v ≠ Int64.minValue ∧ Spelled (toString v) text

/-- The text is a written form of the entry. -/
inductive WrittenEntry : String × List Int64 → List Char → Prop where
  | intro {name : String} {values : List Int64} {s t u v w : List Char} (nonempty : name ≠ "")
      (nameable : ∀ x ∈ name.toList, isNameChar x = true) (name_spelled : Spelled name s)
      (sign : Spelled "=" t) (opening : Spelled "[" u) (listed : Items WrittenValue "," values v)
      (closing : Spelled "]" w) : WrittenEntry (name, values) (s ++ t ++ (u ++ v ++ w))

/-- The text is a written form of the entries. -/
inductive Written : List (String × List Int64) → List Char → Prop where
  | intro {entries : List (String × List Int64)} {blanks s : List Char}
      (leading : ∀ x ∈ blanks, Text.isBlank x = true) (listed : Items WrittenEntry ";" entries s) :
      Written entries (blanks ++ s)

/-! ## Reading entries -/

variable {m : Type → Type} [Effect m] [LawfulEffect m]

theorem value_read {rest : List Char} (ends : rest.head? = some ']') :
    (Parser.lexeme Parser.integer : Parser m Int64).ReadsItem WrittenValue ',' rest where
  starts h behind := h.2.stops_isBlank behind
  reads := by
    rintro v s behind ⟨notLeast, numeral⟩ next
    -- It stops in front of a comma, and in front of the bracket.
    have stop {accepts : Char → Bool} (comma : accepts ',' = false)
        (bracket : accepts ']' = false) : Text.Stops accepts behind := by
      rcases next with next | rfl
      · exact Text.stops_of_head? next comma
      · exact Text.stops_of_head? ends bracket
    have blank : Text.Stops Text.isBlank behind := stop (by decide) (by decide)
    have digit : Text.Stops Char.isDigit behind := stop (by decide) (by decide)
    have read : (Parser.lexeme Parser.integer : Parser m Int64).Reads s (.ofInt v.toInt) behind :=
      .lexeme_integer (Text.natAbs_lt_of_ne_minValue notLeast) numeral blank digit
    rwa [Int64.ofInt_toInt] at read

theorem values_read {values : List Int64} {u v w rest : List Char} (opening : Spelled "[" u)
    (listed : Items WrittenValue "," values v) (closing : Spelled "]" w)
    (blank : Text.Stops Text.isBlank rest) :
    (Settings.values : Parser m (List Int64)).Reads (u ++ v ++ w) values rest := by
  have ends : (w ++ rest).head? = some ']' := closing.head? rfl rest
  have noValue : (Parser.lexeme Parser.integer : Parser m Int64).Refuses (w ++ rest) := by
    refine (Parser.Refuses.integer ?_ (closing.stops (x := ']') rfl (by decide) rest)).both _
    rw [ends]
    decide
  have noComma : (w ++ rest).head? ≠ some ',' := by
    rw [ends]
    decide
  have list := (value_read (m := m) ends).sepBy rfl listed noValue noComma
  have start : Text.Stops Text.isBlank (v ++ (w ++ rest)) :=
    (value_read (m := m) ends).list_starts listed (closing.stops (x := ']') rfl (by decide) rest)
  exact ((Parser.Reads.spelled opening start).keepRight list).keepLeft (.spelled closing blank)

/-- A name is read up to the sign behind it, which goes on with no name. -/
theorem name_reads {name : String} {s t rest : List Char} (nonempty : name ≠ "")
    (nameable : ∀ x ∈ name.toList, isNameChar x = true) (spelled : Spelled name s)
    (sign : Spelled "=" t) (stop : Text.Stops Text.isBlank rest) :
    (Settings.name.keepLeft (.token "=") : Parser m String).Reads (s ++ t) name rest := by
  obtain ⟨blanks, blank, rfl⟩ := spelled
  have signed : Text.Stops isNameChar (blanks ++ (t ++ rest)) :=
    Text.stops_append (fun _ => isNameChar_of_isBlank) blank
      (sign.stops (x := '=') rfl (by decide) rest)
  have word : (Parser.takeWhile1 isNameChar : Parser m String).Reads name.toList
      (String.ofList name.toList) (blanks ++ (t ++ rest)) :=
    .takeWhile1 nameable (fun empty => nonempty (String.toList_eq_nil_iff.mp empty)) signed
  rw [String.ofList_toList] at word
  have lexeme := word.lexeme blank (sign.stops (x := '=') rfl (by decide) rest)
  exact lexeme.keepLeft (.spelled sign stop)

theorem entry_read {rest : List Char} (ends : Text.Stops Text.isBlank rest) :
    (Settings.entry : Parser m (String × List Int64)).ReadsItem WrittenEntry ';' rest where
  starts := by
    rintro _ _ ⟨nonempty, nameable, name_spelled, _, _, _, _⟩ behind
    -- The first character of the name is one, and so is not blank.
    obtain ⟨x, xs, begins⟩ := List.exists_cons_of_ne_nil fun empty =>
      nonempty (String.toList_eq_nil_iff.mp empty)
    have first : isNameChar x = true := nameable x (begins ▸ List.mem_cons_self)
    have notBlank : Text.isBlank x = false := Bool.eq_false_iff.mpr fun blank => by
      rw [isNameChar_of_isBlank blank] at first
      cases first
    rw [List.append_assoc, List.append_assoc]
    exact name_spelled.stops (x := x) (by rw [begins]; rfl) notBlank _
  reads := by
    intro _ _ behind h next
    obtain @⟨name, values, s, t, u, v, w, nonempty, nameable, spelled, sign, opening, listed,
      closing⟩ := h
    have blank : Text.Stops Text.isBlank behind := by
      rcases next with next | rfl
      · exact Text.stops_of_head? next (by decide)
      · exact ends
    have bracket : Text.Stops Text.isBlank (u ++ v ++ w ++ behind) := by
      rw [List.append_assoc, List.append_assoc]
      exact opening.stops (x := '[') rfl (by decide) _
    exact (name_reads nonempty nameable spelled sign bracket).pair
      (values_read opening listed closing blank)

theorem Written.reads {entries : List (String × List Int64)} {text : List Char}
    (h : Written entries text) :
    (Settings.file : Parser m (List (String × List Int64))).Reads text entries [] := by
  obtain ⟨leading, listed⟩ := h
  -- At the end of the text the list ends, since no name comes next.
  have noName : (Parser.takeWhile1 isNameChar : Parser m String).Refuses [] :=
    .takeWhile1 (Text.stops_nil _)
  have noEntry : (Settings.entry : Parser m (String × List Int64)).Refuses [] :=
    ((noName.both _).both _).both _
  have reader := entry_read (m := m) (Text.stops_nil Text.isBlank)
  have list := reader.sepBy rfl listed noEntry (Option.some_ne_none ';').symm
  have start := reader.list_starts listed (Text.stops_nil Text.isBlank)
  have file := ((Parser.Reads.spaces leading start).keepRight list).keepLeft (t := []) .eof
  rwa [List.append_nil] at file

/-- However entries are written, the sample parses the text as these entries, and to its end. -/
theorem parses_written {entries : List (String × List Int64)} {s : List Char}
    (written : Written entries s) :
    let text := String.ofList s
    (file.parse text : m (Reply (List (String × List Int64)))) = (do
        Effect.emit (.opened text.length)
        Effect.emit (.succeeded text.length)
        return .success entries (Cursor.ofString text).toEnd) ∧
      (Cursor.ofString text).toEnd.position = text.length := by
  intro text
  have read : (file : Parser m (List (String × List Int64))).Reads text.toList entries [] := by
    rw [String.toList_ofList]
    exact written.reads
  exact ⟨read.parseWith _, Cursor.limit_ofString text⟩

/-- Two entries, with blanks in many places, of which the second has no values. -/
theorem parses_written_retries :
    let entries : List (String × List Int64) := [("retries", [1, -2]), ("empty", [])]
    let s := " retries = [1 ,-2];\nempty=[ ]\t".toList
    let text := String.ofList s
    Written entries s ∧ (file.parse text : Plain (Reply (List (String × List Int64)))) =
      ⟨.success entries (Cursor.ofString text).toEnd, [.opened 30, .succeeded 30]⟩ := by
  intro entries s text
  have bare {token : String} : Spelled token token.toList := ⟨[], by simp, by simp⟩
  have behind {x : Char} (blank : Text.isBlank x = true) {token : String} :
      Spelled token (token.toList ++ [x]) := ⟨[x], List.forall_mem_singleton.mpr blank, rfl⟩
  have spaced {token : String} : Spelled token (token.toList ++ [' ']) := behind (by decide)
  have numbers : Items WrittenValue "," [1, -2] _ :=
    .some ⟨by decide, spaced⟩ (.more bare ⟨by decide, bare⟩ .none)
  have retries : WrittenEntry ("retries", [1, -2]) _ :=
    .intro (by decide) (List.all_eq_true.mp (by decide)) spaced spaced bare numbers bare
  have empty : WrittenEntry ("empty", []) _ :=
    .intro (by decide) (List.all_eq_true.mp (by decide)) bare bare spaced .none
      (behind (x := '\t') (by decide))
  have whole : Written entries _ :=
    .intro (List.forall_mem_singleton.mpr (by decide : Text.isBlank ' ' = true))
      (.some retries (.more (behind (x := '\n') (by decide)) empty .none))
  have written : Written entries s := by
    convert whole using 1
    decide +kernel
  obtain ⟨parsed, _⟩ := parses_written (m := Plain) written
  have characters : text.length = 30 := by decide +kernel
  refine ⟨written, parsed.trans ?_⟩
  rw [← characters]
  rfl

end Sample.Settings

end Descent
