import Descent.Parse
import Descent.Parser.Number
import Descent.Proofs.Deterministic
import Descent.Proofs.Onward
import Descent.Proofs.Sequencing

/-!
# Reading a text to its end

A whole parse may be asked to read the whole text, and a grammar may ask for the end of the text by
`Parser.eof`. Main statement: either way the same is answered, written and reported. The two judge
the reply of the parser alike, one after the parse and the other in its last step
(`Parser.run_keepLeft_eof`).
-/

namespace Descent

/-- In a text, the end is behind all of its characters. -/
theorem Cursor.atEnd_iff_position {text : String} {c : Cursor}
    (inside : c.source = (ofString text).source) : c.atEnd = true ↔ c.position = text.length := by
  have limit : c.limit = text.length := by
    rw [← limit_ofString, Cursor.limit, Cursor.limit, inside]
  have := c.position_le_limit
  rw [atEnd, decide_eq_true_eq]
  omega

/-- What is left of the reply of a parser that has to read the whole text. -/
theorem Reply.requireEnd_cases {α : Type} {text : String} {reply : Reply α}
    (inside : ∀ a d, reply = .success a d → d.source = (Cursor.ofString text).source)
    (message : String) :
    (∀ a d, reply.requireEnd message = .success a d ↔
      reply = .success a d ∧ d.position = text.length) ∧
    ∀ e, reply.requireEnd message = .failure e ↔
      reply = .failure e ∨
        ∃ a d, reply = .success a d ∧ d.position ≠ text.length ∧ e = ⟨d.position, message⟩ := by
  cases reply with
  | success a d =>
    have ends := Cursor.atEnd_iff_position (inside a d rfl)
    by_cases position : d.position = text.length
    · have kept : (success a d).requireEnd message = success a d := if_pos (ends.mpr position)
      rw [kept]
      refine ⟨fun b d' => ⟨fun same => ?_, And.left⟩, fun e => ⟨nofun, ?_⟩⟩
      · cases same
        exact ⟨rfl, position⟩
      · rintro (fails | ⟨_, _, same, early, _⟩)
        · cases fails
        · cases same
          exact absurd position early
    · have early : (success a d).requireEnd message = failure ⟨d.position, message⟩ :=
        if_neg fun atEnd => position (ends.mp atEnd)
      rw [early]
      refine ⟨fun b d' => ⟨nofun, ?_⟩, fun e => ⟨fun same => ?_, ?_⟩⟩
      · rintro ⟨same, stops⟩
        cases same
        exact absurd stops position
      · cases same
        exact .inr ⟨a, d, rfl, position, rfl⟩
      · rintro (fails | ⟨_, _, same, _, rfl⟩)
        · cases fails
        · cases same
          rfl
  | failure e' => simp [requireEnd]
  | unfinished => simp [requireEnd]

namespace Parser

open Deterministic (value?)

variable {m : Type → Type} [Effect m] [LawfulMonad m] {α : Type}

/-- To ask for the end of the text behind a parser is to judge its reply. -/
theorem run_keepLeft_eof (p : Parser m α) (c : Cursor) :
    (p.keepLeft eof).run c = Reply.requireEnd "expected the end of the string" <$> p.run c := by
  have judged : thenLook (fun a _ => a) (fun rest => if rest.atEnd then .success () rest
      else .failure (rest.failure "expected the end of the string")) =
      (Reply.requireEnd "expected the end of the string" : Reply α → Reply α) := by
    funext reply
    cases reply with
    | success a rest =>
      by_cases atEnd : rest.atEnd = true <;>
        simp [thenLook, atEnd, Reply.requireEnd, Reply.map]
    | failure e => rfl
    | unfinished => rfl
  exact (run_both_scan _ p _ c).trans (congrArg (· <$> p.run c) judged)

/-! ## What a whole parse yields -/

variable [Deterministic m]

/-- A whole parse yields what its parser yields, judged as the settings ask. -/
theorem value?_parseWith (config : Config) (p : Parser m α) (text : String) :
    value? (p.parseWith config text) = (value? (p.run (.ofString text))).map config.judge := by
  unfold parseWith
  simp only [Deterministic.value?_bind, Deterministic.value?_emit, Option.bind_some,
    Deterministic.value?_map]
  cases value? (p.run (.ofString text)) with
  | none => rfl
  | some reply =>
    -- The closing report, if there is one, stops nothing.
    rw [Option.map_some, Option.bind_some]
    cases config.judge reply <;>
      simp [Reply.closingEvent?, Deterministic.value?_pure, Deterministic.value?_emit]

omit [Deterministic m] in
/-- To require the whole text of a parse is to ask for the end of the text behind its parser. If the
parser stays in the text, such a parse succeeds when the parser reads the text to its end, with its
value. It fails when the parser does, with its failure, and where the parser stops early. -/
theorem whole_text_is_eof (p : Parser m α) (text : String) :
    p.parseWith { consumeAll := true } text = (p.keepLeft eof).parse text ∧
      ∀ [Deterministic m],
        (∀ a d, value? (p.run (.ofString text)) = some (.success a d) →
          d.source = (Cursor.ofString text).source) →
        (∀ a d, value? (p.parseWith { consumeAll := true } text) = some (.success a d) ↔
          value? (p.parse text) = some (.success a d) ∧ d.position = text.length) ∧
        ∀ e, value? (p.parseWith { consumeAll := true } text) = some (.failure e) ↔
          value? (p.parse text) = some (.failure e) ∨
            ∃ a d, value? (p.parse text) = some (.success a d) ∧ d.position ≠ text.length ∧
              e = ⟨d.position, "expected the end of the string"⟩ := by
  constructor
  · -- Either parse runs `p` and judges its reply before the closing report.
    have judged : (p.keepLeft eof).parse text = (p.keepLeft eof).parseWith {} text := rfl
    have kept : Config.judge {} = (id : Reply α → Reply α) := rfl
    have required : Config.judge { consumeAll := true } =
      (Reply.requireEnd "expected the end of the string" : Reply α → Reply α) := rfl
    rw [judged, parseWith, parseWith, run_keepLeft_eof, kept, required, id_map]
  · intro _ inside
    have all := value?_parseWith { consumeAll := true } p text
    have some := value?_parseWith {} p text
    have kept : Config.judge {} = (id : Reply α → Reply α) := rfl
    rw [kept, Option.map_id_fun, id] at some
    rw [all, parse, some]
    cases answer : value? (p.run (.ofString text)) with
    | none => simp
    | some reply =>
      rw [answer] at inside
      have judged := Reply.requireEnd_cases (fun a d success => inside a d (congrArg _ success))
        "expected the end of the string"
      simp only [Option.map_some, Option.some.injEq]
      exact judged

/-- A digit with a character behind it, in effects that log, count and abort. -/
theorem whole_text_is_eof_digit :
    let read {m : Type → Type} [Effect m] (before : m Unit) : Parser m Nat :=
      (Parser.lift before).keepRight digit
    let told : Parser (Logged String) Nat := read (Logged.tell "digit")
    let counted : Parser Tallied Nat := read (Tally.count 1)
    let stopped : Parser (Abortable String) Nat := read (Abortable.abort "stop")
    let start := Cursor.ofString "7!"
    (∀ a d, value? (told.run start) = some (.success a d) → d.source = start.source) ∧
      value? (told.parse "7!") = some (.success 7 (start.advance 1)) ∧
      value? (told.parseWith { consumeAll := true } "7!") =
        some (.failure ⟨1, "expected the end of the string"⟩) ∧
      told.parseWith { consumeAll := true } "7!" = (told.keepLeft eof).parse "7!" ∧
      counted.parseWith { consumeAll := true } "7!" = (counted.keepLeft eof).parse "7!" ∧
      stopped.parseWith { consumeAll := true } "7!" = (stopped.keepLeft eof).parse "7!" := by
  intro read told counted stopped start
  have inside : ∀ a d, value? (told.run start) = some (.success a d) → d.source = start.source := by
    intro a d success
    have answer : value? (told.run start) = some (.success 7 (start.advance 1)) := rfl
    cases answer.symm.trans success
    rfl
  have parsed : value? (told.parse "7!") = some (.success 7 (start.advance 1)) := rfl
  obtain ⟨same, yields⟩ := whole_text_is_eof told "7!"
  obtain ⟨_, fails⟩ := yields inside
  have early : (start.advance 1).position ≠ "7!".length := by decide
  exact ⟨inside, parsed, (fails _).mpr (.inr ⟨7, _, parsed, early, rfl⟩), same,
    (whole_text_is_eof counted "7!").1, (whole_text_is_eof stopped "7!").1⟩

end Parser

end Descent
