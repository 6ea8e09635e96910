import Descent.Proofs.Numeral
import Descent.Sample.Arithmetic

/-!
# The arithmetic sample evaluates what is written

An expression may be written in many ways: brackets stand where precedence and grouping to the left
ask for them, and may stand elsewhere, and blanks may follow every token (`Written`). However an
expression is written, the sample evaluates the text to the value of the expression
(`evaluate_written`).

Where an expression stands decides what may follow it. Behind a factor a chain of factors may go on,
and behind a term a chain of terms. So the proof shows of written terms and expressions that they
are read as chains, which are open at their right end, and closes a chain where it is known that
what follows does not go on with it.
-/

namespace Descent

namespace Sample.Arithmetic

/-! ## Expressions and their written forms -/

/-- An expression with literals of magnitude below `2 ^ 63`. -/
inductive Expr where
  | literal (n : Int) (small : n.natAbs < UInt64.size / 2)
  | add (a b : Expr)
  | sub (a b : Expr)
  | mul (a b : Expr)

/-- The value of an expression in 64-bit words, which wrap. -/
def Expr.value : Expr → Int64
  | literal n _ => Int64.ofInt n
  | add a b => a.value + b.value
  | sub a b => a.value - b.value
  | mul a b => a.value * b.value

/-- As what an expression is written: an operand of a product, an operand of a sum, or by itself. -/
inductive Level where
  | factor
  | term
  | expression

open Text (Spelled)

/-- The text is a written form of the expression. A product or sum has its right operand at the next
closer level, so that an operand of another form needs brackets. -/
inductive Written : Level → Expr → List Char → Prop where
  | literal {n : Int} {small : n.natAbs < UInt64.size / 2} {s : List Char}
      (numeral : Spelled (toString n) s) : Written .factor (.literal n small) s
  | brackets {e : Expr} {s t u : List Char} (opening : Spelled "(" s)
      (inner : Written .expression e t) (closing : Spelled ")" u) :
      Written .factor e (s ++ (t ++ u))
  | factor {e : Expr} {s : List Char} (operand : Written .factor e s) : Written .term e s
  | mul {a b : Expr} {s t u : List Char} (left : Written .term a s) (sign : Spelled "*" t)
      (right : Written .factor b u) : Written .term (.mul a b) (s ++ (t ++ u))
  | term {e : Expr} {s : List Char} (operand : Written .term e s) : Written .expression e s
  | add {a b : Expr} {s t u : List Char} (left : Written .expression a s) (sign : Spelled "+" t)
      (right : Written .term b u) : Written .expression (.add a b) (s ++ (t ++ u))
  | sub {a b : Expr} {s t u : List Char} (left : Written .expression a s) (sign : Spelled "-" t)
      (right : Written .term b u) : Written .expression (.sub a b) (s ++ (t ++ u))

/-- No expression begins with a blank. -/
theorem Written.stops_isBlank {level : Level} {e : Expr} {s : List Char} (h : Written level e s)
    (rest : List Char) : Text.Stops Text.isBlank (s ++ rest) := by
  induction h generalizing rest with
  | literal numeral => exact numeral.stops_isBlank rest
  | brackets opening _ _ _ =>
    rw [List.append_assoc]
    exact opening.stops rfl (by decide) _
  | factor _ ih | term _ ih => exact ih rest
  | mul _ _ _ ih _ | add _ _ _ ih _ | sub _ _ _ ih _ =>
    rw [List.append_assoc]
    exact ih _

/-! ## Reading expressions -/

/-- A chain goes on with a sign, which is neither blank nor a digit, and an operand. -/
theorem chain_step {m : Type → Type} [Effect m] {p : Parser m Int64}
    {op : Parser m (Int64 → Int64 → Int64)} {s t u rest : List Char} {name : String} {x : Char}
    {a b : Int64} {f : Int64 → Int64 → Int64} (spelled : Spelled name t)
    (begins : name.toList.head? = some x) (notBlank : Text.isBlank x = false)
    (notDigit : x.isDigit = false)
    (left : ∀ {behind : List Char}, Text.Stops Text.isBlank behind →
      Text.Stops Char.isDigit behind → behind.head? = some x → p.ReadsChain op s a behind)
    (operator : op.Reads t f (u ++ rest)) (right : p.Reads u b rest) :
    p.ReadsChain op (s ++ (t ++ u)) (f a b) rest := by
  refine .step ?_ operator (List.length_pos_iff.mp (spelled.length_pos begins)) right
  rw [List.append_assoc]
  exact left (spelled.stops begins notBlank _) (spelled.stops begins notDigit _)
    (spelled.head? begins _)

variable {m : Type → Type} [Effect m] [LawfulEffect m] (spare : Nat)
  (perform : (action : vocabulary.Action) → Parser m (vocabulary.Answer action))

/-- The parser of a part of the sample's grammar, with so many calls of its rule open at any time.
-/
abbrev reader {α : Type} (depth : Nat) (g : Grammar vocabulary α) : Parser m α :=
  rules.body.parserAt spare perform depth g

/-- Plus and minus signs. -/
abbrev sign : Grammar vocabulary (Int64 → Int64 → Int64) :=
  .orElse (operator "+" (· + ·)) (operator "-" (· - ·))

variable {rest s : List Char} {depth : Nat} {name : String} {f : Int64 → Int64 → Int64} {x : Char}

theorem operator_reads (h : Spelled name s) (stop : Text.Stops Text.isBlank rest) :
    (reader spare perform depth (operator name f)).Reads s f rest :=
  (Parser.Reads.spelled h stop).map _

theorem operator_refuses (begins : name.toList.head? = some x) (h : s.head? ≠ some x) :
    (reader spare perform depth (operator name f)).Refuses s :=
  (Parser.Refuses.token_of_head? begins h).map _

theorem plus_reads (h : Spelled "+" s) (stop : Text.Stops Text.isBlank rest) :
    (reader spare perform depth sign).Reads s (· + ·) rest :=
  Parser.Reads.orElse (operator_reads spare perform h stop)

/-- A minus sign is not a plus sign, so the second choice is taken. -/
theorem minus_reads (h : Spelled "-" s) (stop : Text.Stops Text.isBlank rest) :
    (reader spare perform depth sign).Reads s (· - ·) rest := by
  have noPlus : (s ++ rest).head? ≠ some '+' := by
    rw [h.head? (x := '-') rfl]
    decide
  exact (operator_refuses spare perform rfl noPlus).orElse (operator_reads spare perform h stop)

/-- How a written form is read in front of a rest that goes on with neither blanks nor digits. -/
def Level.Reads (level : Level) (depth : Nat) (s : List Char) (value : Int64) (rest : List Char) :
    Prop :=
  match level with
  | .factor => (reader spare perform depth Arithmetic.factor).Reads s value rest
  | .term => (reader spare perform depth Arithmetic.factor).ReadsChain
      (reader spare perform depth (operator "*" (· * ·))) s value rest
  | .expression => rest.head? ≠ some '*' → (reader spare perform depth Arithmetic.term).ReadsChain
      (reader spare perform depth sign) s value rest

/-- A chain of factors is a term, in front of anything but a multiplication sign. -/
theorem term_reads {value : Int64}
    (h : (reader spare perform depth factor).ReadsChain
      (reader spare perform depth (operator "*" (· * ·))) s value rest)
    (stop : rest.head? ≠ some '*') : (reader spare perform depth term).Reads s value rest :=
  h.chainLeft1 (operator_refuses spare perform rfl stop) spare

/-- A chain of terms is an expression, in front of anything but a plus or minus sign. -/
theorem expression_reads {value : Int64}
    (h : (reader spare perform depth term).ReadsChain
      (reader spare perform depth sign) s value rest)
    (plus : rest.head? ≠ some '+') (minus : rest.head? ≠ some '-') :
    (reader spare perform depth expression).Reads s value rest := by
  have stop : (reader spare perform depth sign).Refuses rest :=
    (operator_refuses spare perform rfl plus).orElse_refuses
      (operator_refuses spare perform rfl minus)
  exact h.chainLeft1 stop spare

/-- An expression between brackets, as one call of the rule reads it. -/
theorem brackets_read {t u : List Char} {value : Int64} (opening : Spelled "(" s)
    (closing : Spelled ")" u) (start : Text.Stops Text.isBlank (t ++ (u ++ rest)))
    (inner : (reader spare perform depth expression).Reads t value (u ++ rest))
    (blank : Text.Stops Text.isBlank rest) :
    (reader spare perform (depth + 1) factor).Reads (s ++ (t ++ u)) value rest := by
  -- An opening bracket begins no integer, so the second choice is taken.
  have bracket : (s ++ (t ++ u) ++ rest).head? = some '(' := by
    rw [List.append_assoc]
    exact opening.head? rfl _
  have noInteger :
      (Parser.lexeme Parser.integer : Parser m Int64).Refuses (s ++ (t ++ u) ++ rest) := by
    refine (Parser.Refuses.integer ?_ ?_).both _
    · rw [bracket]
      decide
    · rw [List.append_assoc]
      exact opening.stops (x := '(') rfl (by decide) _
  refine Parser.Refuses.orElse noInteger ?_
  have called : (reader spare perform (depth + 1) (.rule (V := vocabulary) Rule.expression)).Reads t
      value (u ++ rest) := inner
  exact (Parser.Reads.spelled opening start).between called (.spelled closing blank)

/-- Written forms are read as the values of their expressions. Induction on the form; the depth of
calls is enough, since each call stands between two brackets. -/
theorem Written.reads {level : Level} {e : Expr} (h : Written level e s) (enough : s.length ≤ depth)
    (blank : Text.Stops Text.isBlank rest) (digit : Text.Stops Char.isDigit rest) :
    level.Reads spare perform depth s e.value rest := by
  induction h generalizing depth rest with
  | @literal n small s numeral =>
    exact Parser.Reads.orElse (Parser.Reads.lexeme_integer small numeral blank digit)
  | @brackets e s t u opening inner closing ih =>
    -- The brackets take a character each, so one call less is enough for what is between them.
    have position := opening.length_pos (x := '(') rfl
    simp only [List.length_append] at enough
    obtain ⟨depth, rfl⟩ : ∃ below, depth = below + 1 := ⟨depth - 1, by omega⟩
    have last := closing.head? (x := ')') rfl rest
    have chain : Level.expression.Reads spare perform depth t e.value (u ++ rest) :=
      ih (by omega) (closing.stops (x := ')') rfl (by decide) rest)
        (closing.stops (x := ')') rfl (by decide) rest)
    have within := expression_reads spare perform (chain (by rw [last]; decide))
      (by rw [last]; decide) (by rw [last]; decide)
    exact brackets_read spare perform opening closing (inner.stops_isBlank _) within blank
  | factor operand ih => exact .first (ih enough blank digit)
  | @mul a b s t u left times right ihl ihr =>
    simp only [List.length_append] at enough
    exact chain_step (x := '*') times rfl (by decide) (by decide)
      (fun blank digit _ => ihl (by omega) blank digit)
      (operator_reads spare perform times (right.stops_isBlank rest)) (ihr (by omega) blank digit)
  | term operand ih =>
    exact fun stop => .first (term_reads spare perform (ih enough blank digit) stop)
  | @add a b s t u left plus right ihl ihr =>
    intro stop
    simp only [List.length_append] at enough
    exact chain_step (x := '+') plus rfl (by decide) (by decide)
      (fun blank digit next => ihl (by omega) blank digit (by rw [next]; decide))
      (plus_reads spare perform plus (right.stops_isBlank rest))
      (term_reads spare perform (ihr (by omega) blank digit) stop)
  | @sub a b s t u left minus right ihl ihr =>
    intro stop
    simp only [List.length_append] at enough
    exact chain_step (x := '-') minus rfl (by decide) (by decide)
      (fun blank digit next => ihl (by omega) blank digit (by rw [next]; decide))
      (minus_reads spare perform minus (right.stops_isBlank rest))
      (term_reads spare perform (ihr (by omega) blank digit) stop)

/-! ## Whole texts -/

/-- The calls that the grammar of a whole text allows are enough for every text. -/
theorem document_reads {blanks : List Char} {e : Expr}
    (leading : ∀ x ∈ blanks, Text.isBlank x = true) (h : Written .expression e s) :
    (document : Parser m Int64).Reads (blanks ++ s) e.value [] := by
  have read (perform : (action : vocabulary.Action) → Parser m (vocabulary.Answer action)) :
      (rules.parser perform (.keepRight (.terminal .spaces) expression)).Reads (blanks ++ s) e.value
        [] := by
    intro c there
    have enough : s.length ≤ rules.depthFor c := by
      have := Parser.length_le_remaining there
      rw [List.length_append, Cursor.remaining] at this
      rw [Rules.depthFor, show rules.names.length = 1 from rfl]
      omega
    have ends (x : Char) : ([] : List Char).head? ≠ some x := (Option.some_ne_none x).symm
    have chain := h.reads 0 perform enough (Text.stops_nil _) (Text.stops_nil _) (ends '*')
    have inner := expression_reads 0 perform chain (ends '+') (ends '-')
    have start : Text.Stops Text.isBlank (s ++ []) := h.stops_isBlank []
    exact (Parser.Reads.spaces leading start).both (fun _ b => b) inner c there
  exact read _

/-- Every written expression is evaluated to its value. The text may begin with blanks and is read
to its end. -/
theorem evaluate_written {e : Expr} {blanks : List Char}
    (leading : ∀ x ∈ blanks, Text.isBlank x = true) (written : Written .expression e s) :
    let text := String.ofList (blanks ++ s)
    (evaluate text : m (Reply Int64)) = (do
        Effect.emit (.opened text.length)
        Effect.emit (.succeeded text.length)
        return .success e.value (Cursor.ofString text).toEnd) ∧
      (Cursor.ofString text).toEnd.position = text.length := by
  intro text
  have read : (document : Parser m Int64).Reads text.toList e.value [] := by
    rw [String.toList_ofList]
    exact document_reads leading written
  exact ⟨read.parseWith _, Cursor.limit_ofString text⟩

theorem evaluate_written_brackets :
    let e : Expr := .sub (.mul (.literal 2 (by decide))
      (.sub (.literal 3 (by decide)) (.literal (-4) (by decide)))) (.literal 5 (by decide))
    let s := "2 * (3 - -4)- 5".toList
    let text := String.ofList ([' '] ++ s)
    Written .expression e s ∧ (evaluate text : Plain (Reply Int64)) =
      ⟨.success 9 (Cursor.ofString text).toEnd, [.opened 16, .succeeded 16]⟩ := by
  intro e s text
  have bare {token : String} : Spelled token token.toList := ⟨[], by simp, by simp⟩
  have blank : ∀ x ∈ [' '], Text.isBlank x = true := List.forall_mem_singleton.mpr rfl
  have spaced {token : String} : Spelled token (token.toList ++ [' ']) := ⟨[' '], blank, rfl⟩
  have difference : Written .expression
      (.sub (.literal 3 (by decide)) (.literal (-4) (by decide))) _ :=
    .sub (.term (.factor (.literal spaced))) spaced (.factor (.literal bare))
  have product : Written .term (.mul (.literal 2 (by decide)) _) _ :=
    .mul (.factor (.literal spaced)) spaced (.brackets bare difference bare)
  have whole : Written .expression e _ := .sub (.term product) spaced (.factor (.literal bare))
  have written : Written .expression e s := by
    convert whole using 1
    decide +kernel
  obtain ⟨evaluated, _⟩ := evaluate_written (m := Plain) blank written
  have characters : text.length = 16 := by decide +kernel
  have value : e.value = 9 := by decide +kernel
  refine ⟨written, evaluated.trans ?_⟩
  rw [← characters, ← value]
  rfl

end Sample.Arithmetic

end Descent
