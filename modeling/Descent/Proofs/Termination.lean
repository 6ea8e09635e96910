import Descent.Proofs.Guarded
import Descent.Sample.Arithmetic
import Mathlib.Data.Finset.Card
import Mathlib.Logic.Relation

/-!
# Guarded grammars come to an end

Rules that refer to one another may call one another for ever without reading a character. They do
not when no rule leads back to itself before one is read. A call then either is further on in the
text than the call that it was made from, or is of a rule of lower rank, where the rank of a rule is
the number of rules that it leads to (`Rules.rank`). So there are at most as many open calls as
pairs of a rule and a place in the text.

Main statement: over guarded rules of which none leads back to itself, every guarded grammar comes
to an end from every place in every text, in every lawful effect, and further calls and further
repetitions would not have changed a thing (`Rules.terminates`).
-/

namespace Descent

open Relation (TransGen)

variable {V : Vocabulary}

namespace Rules

/-! ## Ranks -/

open Classical in
/-- The rules that a rule leads to, through others or at once. -/
noncomputable def reached (rules : Rules V) (r : V.Rule) : Finset V.Rule :=
  rules.names.toFinset.filter (TransGen rules.body.Leads r)

theorem mem_reached {rules : Rules V} {r s : V.Rule} :
    s ∈ rules.reached r ↔ TransGen rules.body.Leads r s := by
  classical
  rw [reached, Finset.mem_filter, List.mem_toFinset]
  exact and_iff_right (rules.mem_names s)

/-- The number of rules that a rule leads to. -/
noncomputable def rank (rules : Rules V) (r : V.Rule) : Nat := (rules.reached r).card

variable {rules : Rules V}

section Acyclic

variable (acyclic : ∀ r, ¬ TransGen rules.body.Leads r r)
include acyclic

/-- A rule that leads to another leads to whatever the other leads to, and to the other itself. -/
theorem rank_lt_of_leads {r s : V.Rule} (leads : rules.body.Leads r s) :
    rules.rank s < rules.rank r := by
  refine Finset.card_lt_card ?_
  rw [Finset.ssubset_iff_of_subset fun t ht => mem_reached.mpr (.head leads (mem_reached.mp ht))]
  exact ⟨s, mem_reached.mpr (.single leads), fun h => acyclic s (mem_reached.mp h)⟩

/-- A rule leads to all rules but itself at most. -/
theorem rank_lt_length (r : V.Rule) : rules.rank r < rules.names.length := by
  classical
  have smaller : rules.reached r ⊂ rules.names.toFinset := by
    refine Finset.filter_ssubset.mpr ⟨r, ?_, acyclic r⟩
    exact List.mem_toFinset.mpr (rules.mem_names r)
  exact Nat.lt_of_lt_of_le (Finset.card_lt_card smaller) rules.names.toFinset_card_le

/-! ## Open calls -/

/-- A call of the rule at the place has as many other calls open below it at most. -/
noncomputable def room (rules : Rules V) (r : V.Rule) (c : Cursor) : Nat :=
  rules.names.length * c.remaining + rules.rank r

theorem room_lt_of_leads {r s : V.Rule} (leads : rules.body.Leads r s) (c : Cursor) :
    rules.room s c < rules.room r c :=
  Nat.add_lt_add_left (rank_lt_of_leads acyclic leads) _

/-- However many rules there are, the room that they have further on is less than a rule has here.
-/
theorem room_lt_of_further {c d : Cursor} (place : c.Onward d) (ne : d ≠ c) (s : V.Rule) :
    rules.room s d < rules.names.length * c.remaining := by
  calc rules.room s d
      < rules.names.length * d.remaining + rules.names.length :=
        Nat.add_lt_add_left (rank_lt_length acyclic s) _
    _ = rules.names.length * (d.remaining + 1) := (Nat.mul_succ _ _).symm
    _ ≤ rules.names.length * c.remaining := Nat.mul_le_mul_left _ (place.remaining_lt ne)

theorem room_lt_depthFor (r : V.Rule) (c : Cursor) : rules.room r c < rules.depthFor c := by
  calc rules.room r c
      < rules.names.length * c.remaining + rules.names.length :=
        Nat.add_lt_add_left (rank_lt_length acyclic r) _
    _ = rules.names.length * (c.remaining + 1) := (Nat.mul_succ _ _).symm
    _ ≤ rules.depthFor c := Nat.mul_le_mul_left _ (Nat.succ_le_succ (Nat.sub_le _ _))

variable {m : Type → Type} [Effect m] [LawfulEffect m] {α : Type}
  {perform : (action : V.Action) → Parser m (V.Answer action)}
  (performs : ∀ action c, Parser.Headway True c (perform action) (perform action))
  (looks : ∀ r, (rules.body r).LooksForward)
  (guarded : ∀ r, (rules.body r).Guarded rules.body.Idle)
include performs looks guarded

/-- A call with room makes headway, and does the same with more of it. Induction on the depth of
open calls: every call that it makes needs less room. -/
theorem call_headway (spare spare' : Nat) {depth depth' : Nat} {r : V.Rule} {c : Cursor}
    (enough : rules.room r c < depth) (enough' : rules.room r c < depth') :
    Parser.Headway (rules.body.Idle r) c ⟨rules.body.call spare perform depth r⟩
      ⟨rules.body.call spare' perform depth' r⟩ := by
  induction depth generalizing depth' r c with
  | zero => omega
  | succ depth ih =>
    obtain _ | depth' := depth'
    · omega
    have ready : (rules.body r).Ready rules.body.Idle (rules.body.call spare perform depth)
        (rules.body.call spare' perform depth') c := by
      constructor
      · intro s opens
        have := room_lt_of_leads acyclic opens c
        exact ih (by omega) (by omega)
      · intro d place ne s
        have less := room_lt_of_further acyclic place ne s
        have : rules.names.length * c.remaining ≤ rules.room r c := Nat.le_add_right _ _
        exact ih (by omega) (by omega)
    have body := Grammar.headway performs spare spare' (looks r) (guarded r) ready
    exact body.mono Bodies.Idle.of_body

/-- A guarded grammar makes headway with any depth that leaves room for all calls. -/
theorem parserAt_headway (spare spare' : Nat) {c : Cursor} {depth depth' : Nat}
    (enough : rules.depthFor c ≤ depth) (enough' : rules.depthFor c ≤ depth') {g : Grammar V α}
    (hlooks : g.LooksForward) (hguarded : g.Guarded rules.body.Idle) :
    Parser.Headway (g.Idles rules.body.Idle) c (rules.body.parserAt spare perform depth g)
      (rules.body.parserAt spare' perform depth' g) := by
  have ready : g.Ready rules.body.Idle (rules.body.call spare perform depth)
      (rules.body.call spare' perform depth') c := by
    constructor
    · intro s _
      have := room_lt_depthFor acyclic s c
      exact call_headway acyclic performs looks guarded _ _ (by omega) (by omega)
    · intro d place ne s
      have less := room_lt_of_further acyclic place ne s
      have : rules.names.length * c.remaining ≤ rules.depthFor c :=
        Nat.le_of_lt (Nat.lt_of_le_of_lt (Nat.le_add_right _ _) (room_lt_depthFor acyclic s c))
      exact call_headway acyclic performs looks guarded _ _ (by omega) (by omega)
  exact Grammar.headway performs spare spare' hlooks hguarded ready

end Acyclic

/-- Guarded grammars come to an end. Let no repetition, in any rule or in the grammar itself, be
able to take a step without reading a character, and let no rule lead back to itself before a
character is read. Then the grammar, run from any place of any text in any lawful effect, comes to
an end: every answer that it may yield is a success or a failure, no success lies before the place,
and one that stays there was foreseen by the analysis. To allow more open calls, or more
repetitions, changes nothing. -/
theorem terminates {m : Type → Type} [Effect m] [LawfulEffect m] {α : Type}
    {perform : (action : V.Action) → Parser m (V.Answer action)}
    (performs : ∀ action c, Outcomes.lawful.Always (Reply.Forward True c) ((perform action).run c))
    (looks : ∀ r, (rules.body r).LooksForward)
    (guarded : ∀ r, (rules.body r).Guarded rules.body.Idle)
    (acyclic : ∀ r, ¬ TransGen rules.body.Leads r r) {g : Grammar V α} (hlooks : g.LooksForward)
    (hguarded : g.Guarded rules.body.Idle) (c : Cursor) :
    Outcomes.lawful.Always (Reply.Forward (g.Idles rules.body.Idle) c)
        ((rules.parser perform g).run c) ∧
      ∀ spare depth, rules.depthFor c ≤ depth →
        (rules.body.parserAt spare perform depth g).run c = (rules.parser perform g).run c := by
  have headway (spare depth : Nat) (enough : rules.depthFor c ≤ depth) :=
    parserAt_headway acyclic (fun action c => ⟨rfl, performs action c⟩) looks guarded spare 0 enough
      (Nat.le_refl _) hlooks hguarded
  exact ⟨(headway 0 _ (Nat.le_refl _)).2, fun spare depth enough => (headway spare depth enough).1⟩

theorem terminates_arithmetic :
    let rules := Sample.Arithmetic.rules
    let g : Grammar Sample.Arithmetic.vocabulary Int64 :=
      .keepRight (.terminal .spaces) Sample.Arithmetic.expression
    let perform : (action : Empty) → Parser Plain Unit := fun action => nomatch action
    let c := Cursor.ofString " 2 * (3 - 4)"
    (∀ r, (rules.body r).LooksForward) ∧ (∀ r, (rules.body r).Guarded rules.body.Idle) ∧
      (∀ r, ¬ TransGen rules.body.Leads r r) ∧
        ((rules.parser perform g).run c).value ≠ .unfinished ∧
          (rules.body.parserAt 5 perform 100 g).run c = (rules.parser perform g).run c := by
  intro rules g perform c
  have looks : Sample.Arithmetic.expression.LooksForward :=
    ⟨⟨⟨trivial, trivial, trivial, trivial⟩, trivial⟩, trivial, trivial⟩
  -- Every step of either chain begins with a sign, which has to be read.
  have guarded : Sample.Arithmetic.expression.Guarded rules.body.Idle := by
    have plus : "+" ≠ "" := by decide
    have minus : "-" ≠ "" := by decide
    have times : "*" ≠ "" := by decide
    exact ⟨fun ⟨sign, _⟩ => sign.elim plus minus, ⟨fun ⟨sign, _⟩ => times sign,
      ⟨trivial, trivial, trivial, trivial⟩, trivial⟩, trivial, trivial⟩
  -- The rule stands behind an opening bracket, which has to be read.
  have leadsNowhere (s : Sample.Arithmetic.Rule) : ¬ rules.body.Leads .expression s := by
    have bracket : "(" ≠ "" := by decide
    rintro (((none | (none | ⟨opening, _⟩) | ⟨_, none⟩) | ⟨_, none⟩) | ⟨_, none | none⟩)
    · exact none
    · exact none
    · exact bracket opening
    · exact none
    · exact none
    · exact none
    · exact none
  have acyclic : ∀ r, ¬ TransGen rules.body.Leads r r := by
    rintro ⟨⟩ cycle
    obtain ⟨s, leads, _⟩ := Relation.TransGen.head'_iff.mp cycle
    exact leadsNowhere s leads
  have looks' : ∀ r, (rules.body r).LooksForward := by
    rintro ⟨⟩
    exact looks
  have guarded' : ∀ r, (rules.body r).Guarded rules.body.Idle := by
    rintro ⟨⟩
    exact guarded
  have performs : ∀ (action : Empty) (c : Cursor),
      Outcomes.lawful.Always (Reply.Forward True c) ((perform action).run c) :=
    fun action => nomatch action
  obtain ⟨ends, same⟩ :=
    Rules.terminates performs looks' guarded' acyclic (g := g) ⟨trivial, looks⟩ ⟨trivial, guarded⟩ c
  rw [Plain.always_iff] at ends
  exact ⟨looks', guarded', acyclic, ends.finished, same 5 100 (by decide +kernel)⟩

end Rules

end Descent
