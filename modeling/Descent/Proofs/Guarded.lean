import Descent.Proofs.Headway
import Descent.Proofs.Similar

/-!
# Guarded grammars

Two questions about a grammar that are answered by looking at how it is written: may it succeed
without reading a character (`Grammar.Idles`), and which rules may it run before a character has
been read (`Grammar.Opens`)? A grammar is guarded (`Grammar.Guarded`) when no repetition in it may
take a step without reading.

The answers are cautious. A parser that a value chooses is taken to be any of those that some value
would choose, a look at the text or an action is taken to succeed where it is, and a rule may idle
as soon as its body may (`Bodies.Idle`, the least such account).

Main statement: a guarded grammar makes headway if the rules that it opens do where it is started,
and all rules do further on (`Grammar.headway`).
-/

namespace Descent

/-! ## The analysis -/

/-- May the terminal succeed without reading a character? -/
def Terminal.Idles : {α : Type} → Terminal α → Prop
  | _, peek | _, eof | _, spaces | _, takeWhile _ => True
  | _, literal text | _, token text | _, takeUntil text => text = ""
  | _, satisfy _ | _, skipChar _ | _, anyChar | _, letter | _, alphanumeric | _, space | _, spaces1
  | _, takeWhile1 _ | _, digit | _, natural | _, integer => False

variable {V : Vocabulary}

namespace Grammar

/-- May the grammar succeed without reading a character, if those rules may that are said to? -/
def Idles (idle : V.Rule → Prop) : {α : Type} → Grammar V α → Prop
  | _, terminal t => t.Idles
  | _, rule r => idle r
  | _, scan _ | _, .perform _ | _, lift _ | _, pure _ | _, orDefault _ _ | _, optional _
  | _, notAhead _ | _, many _ | _, sepBy _ _ => True
  | _, fail _ | _, empty => False
  | _, bind g next => g.Idles idle ∧ ∃ a, (next a).Idles idle
  | _, map _ g | _, discard g | _, lexeme g | _, many1 g | _, label _ g | _, withSpan g
  | _, traced _ g | _, sepBy1 g _ | _, chainLeft1 g _ | _, chainRight1 g _ => g.Idles idle
  | _, applyTo g h | _, pair g h | _, keepLeft g h | _, keepRight g h => g.Idles idle ∧ h.Idles idle
  | _, between opening g closing => (opening.Idles idle ∧ g.Idles idle) ∧ closing.Idles idle
  | _, orElse g h => g.Idles idle ∨ h.Idles idle
  | _, count times g => times = 0 ∨ g.Idles idle

/-- May the grammar run the rule `s` before a character has been read? -/
def Opens (idle : V.Rule → Prop) (s : V.Rule) : {α : Type} → Grammar V α → Prop
  | _, rule r => r = s
  | _, terminal _ | _, scan _ | _, .perform _ | _, lift _ | _, pure _ | _, fail _
  | _, empty => False
  | _, bind g next => g.Opens idle s ∨ g.Idles idle ∧ ∃ a, (next a).Opens idle s
  | _, map _ g | _, discard g | _, lexeme g | _, orDefault _ g | _, optional g | _, notAhead g
  | _, many g | _, many1 g | _, count _ g | _, label _ g | _, withSpan g | _, traced _ g =>
    g.Opens idle s
  | _, applyTo g h => h.Opens idle s ∨ h.Idles idle ∧ g.Opens idle s
  | _, pair g h | _, keepLeft g h | _, keepRight g h | _, sepBy g h | _, sepBy1 g h
  | _, chainLeft1 g h | _, chainRight1 g h => g.Opens idle s ∨ g.Idles idle ∧ h.Opens idle s
  | _, between opening g closing =>
    (opening.Opens idle s ∨ opening.Idles idle ∧ g.Opens idle s) ∨
      (opening.Idles idle ∧ g.Idles idle) ∧ closing.Opens idle s
  | _, orElse g h => g.Opens idle s ∨ h.Opens idle s

/-- No repetition in the grammar may take a step without reading: no run of a repeated parser, no
separator with the item behind it, and no operator with the operand behind it. -/
def Guarded (idle : V.Rule → Prop) : {α : Type} → Grammar V α → Prop
  | _, terminal _ | _, scan _ | _, rule _ | _, .perform _ | _, lift _ | _, pure _ | _, fail _
  | _, empty => True
  | _, bind g next => g.Guarded idle ∧ ∀ a, (next a).Guarded idle
  | _, map _ g | _, discard g | _, lexeme g | _, orDefault _ g | _, optional g | _, notAhead g
  | _, count _ g | _, label _ g | _, withSpan g | _, traced _ g => g.Guarded idle
  | _, applyTo g h | _, pair g h | _, keepLeft g h | _, keepRight g h | _, orElse g h =>
    g.Guarded idle ∧ h.Guarded idle
  | _, between opening g closing => opening.Guarded idle ∧ g.Guarded idle ∧ closing.Guarded idle
  | _, many g | _, many1 g => ¬ g.Idles idle ∧ g.Guarded idle
  | _, sepBy g h | _, sepBy1 g h | _, chainLeft1 g h | _, chainRight1 g h =>
    ¬ (h.Idles idle ∧ g.Idles idle) ∧ g.Guarded idle ∧ h.Guarded idle

/-- The more rules may idle, the more grammars may. -/
theorem Idles.mono {idle idle' : V.Rule → Prop} (weaker : ∀ r, idle r → idle' r) {α : Type}
    {g : Grammar V α} (h : g.Idles idle) : g.Idles idle' := by
  induction g with
  | terminal | scan | perform | lift | pure | fail | empty | orDefault | optional | notAhead | many
  | sepBy => exact h
  | rule r => exact weaker r h
  | bind g next ih ihnext =>
    obtain ⟨hg, a, ha⟩ := h
    exact ⟨ih hg, a, ihnext a ha⟩
  | map _ _ ih | discard _ ih | lexeme _ ih | many1 _ ih | label _ _ ih | withSpan _ ih
  | traced _ _ ih => exact ih h
  | sepBy1 _ _ ih _ | chainLeft1 _ _ ih _ | chainRight1 _ _ ih _ => exact ih h
  | applyTo _ _ ihg ihh | pair _ _ ihg ihh | keepLeft _ _ ihg ihh | keepRight _ _ ihg ihh =>
    exact ⟨ihg h.1, ihh h.2⟩
  | between _ _ _ iho ihg ihc => exact ⟨⟨iho h.1.1, ihg h.1.2⟩, ihc h.2⟩
  | orElse _ _ ihg ihh => exact h.imp ihg ihh
  | count _ _ ih => exact h.imp_right ih

end Grammar

namespace Bodies

variable {bodies : Bodies V}

/-- May a rule succeed without reading a character? The least answer by which a rule may if its body
may. -/
def Idle (bodies : Bodies V) (r : V.Rule) : Prop :=
  ∀ idle : V.Rule → Prop, (∀ s, (bodies s).Idles idle → idle s) → idle r

/-- A rule may idle if its body may. -/
theorem Idle.of_body {r : V.Rule} (h : (bodies r).Idles bodies.Idle) : bodies.Idle r :=
  fun idle closed => closed r (h.mono fun _ hs => hs idle closed)

/-- May the rule `r` run the rule `s` before a character has been read? -/
def Leads (bodies : Bodies V) (r s : V.Rule) : Prop := (bodies r).Opens bodies.Idle s

end Bodies

/-! ## Headway of terminals -/

variable {m : Type → Type} [Effect m] [LawfulEffect m] {α : Type}

namespace Parser.Headway

variable {c : Cursor}

theorem satisfy (accepts : Char → Bool) :
    Headway False c (Parser.satisfy accepts : Parser m Char) (Parser.satisfy accepts) := by
  refine scan ?_
  cases h : c.peek? with
  | none => trivial
  | some next =>
    dsimp only
    split
    · exact ⟨.advance c 1, Cursor.advance_one_ne h⟩
    · trivial

theorem skipChar (expected : Char) :
    Headway False c (Parser.skipChar expected : Parser m Unit) (Parser.skipChar expected) := by
  refine scan ?_
  split
  · next h => exact ⟨.advance c 1, Cursor.advance_one_ne h⟩
  · trivial

theorem digit : Headway False c (Parser.digit : Parser m Nat) Parser.digit := by
  refine scan ?_
  cases h : c.peek?.bind Text.digitValue? with
  | none => trivial
  | some value =>
    obtain ⟨next, there, _⟩ := Option.bind_eq_some_iff.mp h
    exact ⟨.advance c 1, Cursor.advance_one_ne there⟩

theorem literal (text : String) :
    Headway (text = "") c (Parser.literal text : Parser m String) (Parser.literal text) := by
  refine scan ?_
  split
  · next h =>
    refine ⟨.advance c _, fun same => ?_⟩
    have there : text.length ≤ c.remaining := by
      rw [← Cursor.length_rest, ← String.length_toList]
      exact (Cursor.startsWith_iff.mp h).length_le
    exact String.length_eq_zero_iff.mp (Cursor.eq_zero_of_advance_eq there same)
  · trivial

theorem takeUntil (stop : String) :
    Headway (stop = "") c (Parser.takeUntil stop : Parser m String) (Parser.takeUntil stop) := by
  refine scan ?_
  cases h : c.find? stop.toList with
  | none => trivial
  | some found =>
    obtain ⟨k, hk, rfl, there, _⟩ := Cursor.find?_eq_some h
    dsimp only
    rw [Cursor.advance_advance]
    refine ⟨.advance c _, fun same => ?_⟩
    -- The stop stands `k` characters further on, and what is left there holds it.
    have length_le := there.length_le
    rw [List.length_drop, Cursor.length_rest, String.length_toList] at length_le
    have := Cursor.eq_zero_of_advance_eq (by omega) same
    exact String.length_eq_zero_iff.mp (by omega)

theorem takeWhile1 (accepts : Char → Bool) :
    Headway False c (Parser.takeWhile1 accepts : Parser m String) (Parser.takeWhile1 accepts) := by
  refine scan ?_
  dsimp only
  split
  · trivial
  · next h =>
    refine ⟨?_, fun same => h (congrArg Cursor.position same)⟩
    rw [Cursor.skipWhile_eq_advance]
    exact .advance c _

theorem spaces : Headway True c (Parser.spaces : Parser m Unit) Parser.spaces :=
  ((manyAfter (fun _ _ => satisfy _) 0 0).map _).label _

theorem many1 {p : Parser m α} {p' : Parser m α} {stay : Prop} (first : Headway stay c p p')
    (h : ∀ d, c.Onward d → Headway False d p p') (spare spare' : Nat) :
    Headway stay c (p.many1 spare) (p'.many1 spare') :=
  first.thenAny fun _ _ place _ => manyAfter (fun e place' => h e (place.trans place')) spare spare'

theorem lexeme {p p' : Parser m α} {stay : Prop} (h : Headway stay c p p') :
    Headway stay c p.lexeme p'.lexeme :=
  (h.both fun _ _ _ => spaces).mono And.left

/-- A terminal makes headway, and stays only if it may idle. -/
theorem terminal (t : Terminal α) : Headway t.Idles c (t.parser : Parser m α) t.parser := by
  cases t with
  | satisfy accepts => exact satisfy accepts
  | skipChar expected => exact skipChar expected
  | anyChar => exact satisfy _
  | letter => exact (satisfy _).label _
  | alphanumeric => exact (satisfy _).label _
  | space => exact satisfy _
  | peek =>
    refine scan ?_
    cases c.peek? with
    | none => trivial
    | some next => exact ⟨.refl c, fun _ => trivial⟩
  | eof =>
    refine scan ?_
    split
    · exact ⟨.refl c, fun _ => trivial⟩
    · trivial
  | spaces => exact spaces
  | spaces1 => exact ((many1 (satisfy _) (fun _ _ => satisfy _) 0 0).map _).label _
  | literal text => exact literal text
  | token text => exact (((literal text).map _).lexeme).label _
  | takeWhile accepts =>
    refine scan ⟨?_, fun _ => trivial⟩
    rw [Cursor.skipWhile_eq_advance]
    exact .advance c _
  | takeWhile1 accepts => exact takeWhile1 accepts
  | takeUntil stop => exact takeUntil stop
  | digit => exact digit
  | natural => exact (many1 digit (fun _ _ => digit) 0 0).refine _
  | integer =>
    have signed := (skipChar '-').optional.both (f := Prod.mk) fun d (_ : c.Onward d) _ =>
      many1 (m := m) (c := d) digit (fun _ _ => digit) 0 0
    exact (signed.mono And.right).refine _

end Parser.Headway

/-! ## Headway of grammars -/

namespace Grammar

/-- Every look at the text in the grammar answers, and does not look back. -/
def LooksForward (g : Grammar V α) : Prop := g.Every (fun look => ∀ c, (look c).Forward True c) True

variable {idle : V.Rule → Prop} {call call' : (r : V.Rule) → Cursor → m (Reply (V.Result r))}

/-- The rules that the grammar opens make headway where it is started, and all rules do further on.
-/
structure Ready (idle : V.Rule → Prop) (call call' : (r : V.Rule) → Cursor → m (Reply (V.Result r)))
    (g : Grammar V α) (c : Cursor) : Prop where
  here : ∀ r, g.Opens idle r → Parser.Headway (idle r) c ⟨call r⟩ ⟨call' r⟩
  further : ∀ d, c.Onward d → d ≠ c → ∀ r, Parser.Headway (idle r) d ⟨call r⟩ ⟨call' r⟩

/-- A part is ready wherever it is run, if it opens only what the whole opens when it is run at the
start. -/
theorem Ready.part {β : Type} {g : Grammar V α} {h : Grammar V β} {c d : Cursor}
    (ready : Ready idle call call' g c) (place : c.Onward d)
    (opens : d = c → ∀ r, h.Opens idle r → g.Opens idle r) : Ready idle call call' h d where
  here r hr := by
    by_cases same : d = c
    · subst same
      exact ready.here r (opens rfl r hr)
    · exact ready.further d place same r
  further e place' ne r := by
    refine ready.further e (place.trans place') ?_ r
    rintro rfl
    exact ne (place.antisymm place').symm

/-- Of two parts, the second is run where it was left by the first, and at the start only if the
first may stay there. -/
theorem Ready.both {β γ : Type} {whole : Grammar V α} {g : Grammar V β} {h : Grammar V γ}
    {c : Cursor} (ready : Ready idle call call' whole c)
    (opens : ∀ r, g.Opens idle r ∨ g.Idles idle ∧ h.Opens idle r → whole.Opens idle r) :
    (∀ d, c.Onward d → Ready idle call call' g d) ∧
      ∀ d, c.Onward d → (d = c → g.Idles idle) → Ready idle call call' h d :=
  ⟨fun _ place => ready.part place fun _ r hr => opens r (.inl hr),
    fun _ place stays => ready.part place fun same r hr => opens r (.inr ⟨stays same, hr⟩)⟩

/-- A guarded grammar makes headway where it is ready, and stays only if it may idle. Induction on
the grammar: what is run after a part that stayed is run at the start. -/
theorem headway {perform : (action : V.Action) → Parser m (V.Answer action)}
    (performs : ∀ action c, Parser.Headway True c (perform action) (perform action))
    (spare spare' : Nat) {g : Grammar V α} (looks : g.LooksForward) (guarded : g.Guarded idle)
    {c : Cursor} (ready : Ready idle call call' g c) :
    Parser.Headway (g.Idles idle) c (g.parser spare perform call)
      (g.parser spare' perform call') := by
  induction g generalizing c with
  | terminal t => exact .terminal t
  | scan look => exact .scan (looks c)
  | rule r => exact ready.here r rfl
  | perform action => exact performs action c
  | lift a => exact .lift _
  | pure a => exact .pure a
  | fail message => exact .fail message
  | empty => exact .fail _
  | bind g next ih ihnext =>
    have first := ih looks.1 guarded.1 (ready.part (.refl c) fun _ _ => .inl)
    have second : ∀ a d, c.Onward d → (d = c → g.Idles idle) →
        Parser.Headway (∃ a, (next a).Idles idle) d ((next a).parser spare perform call)
          ((next a).parser spare' perform call') := by
      intro a d place stays
      have inner : Ready idle call call' (next a) d :=
        ready.part place fun same _ opens => .inr ⟨stays same, a, opens⟩
      exact (ihnext a (looks.2 a) (guarded.2 a) inner).mono fun idles => ⟨a, idles⟩
    exact first.bind second
  | map f g ih => exact (ih looks guarded (ready.part (.refl c) fun _ _ => id)).map f
  | applyTo g h ihg ihh =>
    -- The argument is read before the function.
    obtain ⟨first, second⟩ := ready.both fun _ => id
    have argument := ihh looks.2 guarded.2 (first c (.refl c))
    exact (argument.both fun d place stays =>
      ihg looks.1 guarded.1 (second d place stays)).mono And.symm
  | pair g h ihg ihh | keepLeft g h ihg ihh | keepRight g h ihg ihh =>
    obtain ⟨first, second⟩ := ready.both fun _ => id
    exact (ihg looks.1 guarded.1 (first c (.refl c))).both fun d place stays =>
      ihh looks.2 guarded.2 (second d place stays)
  | between opening g closing iho ihg ihc =>
    obtain ⟨first, second⟩ := ready.both (g := opening) (h := g) fun _ => .inl
    exact (iho looks.1 guarded.1 (first c (.refl c))).between
      (fun d place stays => ihg looks.2.1 guarded.2.1 (second d place stays))
      fun d place stays => ihc looks.2.2 guarded.2.2
        (ready.part place fun same _ opens => .inr ⟨stays same, opens⟩)
  | discard g ih => exact (ih looks guarded (ready.part (.refl c) fun _ _ => id)).map _
  | lexeme g ih => exact (ih looks guarded (ready.part (.refl c) fun _ _ => id)).lexeme
  | orElse g h ihg ihh =>
    exact (ihg looks.1 guarded.1 (ready.part (.refl c) fun _ _ => .inl)).orElse
      (ihh looks.2 guarded.2 (ready.part (.refl c) fun _ _ => .inr))
  | orDefault default g ih =>
    exact (ih looks guarded (ready.part (.refl c) fun _ _ => id)).orDefault default
  | optional g ih => exact (ih looks guarded (ready.part (.refl c) fun _ _ => id)).optional
  | notAhead g ih => exact (ih looks guarded (ready.part (.refl c) fun _ _ => id)).notAhead
  | many g ih =>
    have step d (place : c.Onward d) := ih looks guarded.2 (ready.part place fun _ _ => id)
    exact .manyAfter (fun d place => (step d place).mono guarded.1) spare spare'
  | many1 g ih =>
    have step d (place : c.Onward d) := ih looks guarded.2 (ready.part place fun _ _ => id)
    exact .many1 (step c (.refl c)) (fun d place => (step d place).mono guarded.1) spare spare'
  | count times g ih =>
    exact .count fun d place => ih looks guarded (ready.part place fun _ _ => id)
  | sepBy g h ihg ihh =>
    obtain ⟨first, second⟩ := ready.both fun _ => id
    exact .sepBy (fun d place => ihg looks.1 guarded.2.1 (first d place))
      (fun d place stays => ihh looks.2 guarded.2.2 (second d place stays)) guarded.1 spare spare'
  | sepBy1 g h ihg ihh =>
    obtain ⟨first, second⟩ := ready.both fun _ => id
    exact .sepBy1 (fun d place => ihg looks.1 guarded.2.1 (first d place))
      (fun d place stays => ihh looks.2 guarded.2.2 (second d place stays)) guarded.1 spare spare'
  | chainLeft1 g h ihg ihh =>
    obtain ⟨first, second⟩ := ready.both fun _ => id
    exact .chainLeft1 (fun d place => ihg looks.1 guarded.2.1 (first d place))
      (fun d place stays => ihh looks.2 guarded.2.2 (second d place stays)) guarded.1 spare spare'
  | chainRight1 g h ihg ihh =>
    obtain ⟨first, second⟩ := ready.both fun _ => id
    exact .chainRight1 (fun d place => ihg looks.1 guarded.2.1 (first d place))
      (fun d place stays => ihh looks.2 guarded.2.2 (second d place stays)) guarded.1 spare spare'
  | label message g ih =>
    exact (ih looks guarded (ready.part (.refl c) fun _ _ => id)).label message
  | withSpan g ih => exact (ih looks.2 guarded (ready.part (.refl c) fun _ _ => id)).withSpan
  | traced name g ih =>
    exact (ih looks guarded (ready.part (.refl c) fun _ _ => id)).traced name

end Grammar

end Descent
