import Descent.Proofs.Similar

/-!
# Effects have no influence on a parse

A grammar whose actions only tell things to a host is run in the logging effect, which writes down
what is told. The same grammar with every action replaced by nothing gives the same replies in the
plain effect, and with every action replaced by a count it gives the same replies in a tallying
effect, with the sum of the counts of the log as its total.

The three effects repeat steps each in its own way, and a branch that fails and is given up has been
told to the host all the same. Neither is visible here: the runs are compared operation by operation
(`Logged.erasing`, `Logged.weighing`), and a combinator is made of these.
-/

namespace Descent

/-- Rules, and one action for everything that can be told. -/
abbrev Vocabulary.telling (Rule : Type) (Result : Rule → Type) (ω : Type) : Vocabulary :=
  ⟨Rule, Result, ω, fun _ => Unit⟩

/-! ## Comparing the effects

A plain computation agrees with a logged one that yields a value which agrees, whatever was logged.
A tallied computation has to count what was logged by its weight. -/

variable (seen : Event → Event → Prop) {ω κ : Type}

/-- A logged computation and one that forgets the log. -/
def Logged.erasing : Comparison (Logged ω) Plain seen :=
  .ofLawful {
    Agree := fun R x y => R x.value y.value ∧ List.Forall₂ seen x.events y.events
    mono := fun agree h => ⟨h _ _ agree.1, agree.2⟩
    pure := fun h => ⟨h, .nil⟩
    bind := fun agree h => ⟨(h _ _ agree.1).1, List.rel_append agree.2 (h _ _ agree.1).2⟩
    emit := fun h => ⟨trivial, .cons h .nil⟩ }

/-- A logged computation and one that counts the entries by their weight. -/
def Logged.weighing [Zero κ] [Add κ] [Std.Associative fun a b : κ => a + b]
    [Std.LawfulIdentity (fun a b : κ => a + b) 0] (weight : ω → κ) :
    Comparison (Logged ω) (Tally κ) seen :=
  .ofLawful {
    Agree := fun R x y =>
      R x.value y.value ∧ (x.log.map weight).sum = y.total ∧ List.Forall₂ seen x.events y.events
    mono := fun agree h => ⟨h _ _ agree.1, agree.2⟩
    pure := fun h => ⟨h, rfl, .nil⟩
    bind := by
      intro α β γ δ R S f g x y agree h
      obtain ⟨hvalue, htotal, hevents⟩ := agree
      obtain ⟨hvalue', htotal', hevents'⟩ := h _ _ hvalue
      -- The log of a chain is weighed link by link.
      refine ⟨hvalue', ?_, List.rel_append hevents hevents'⟩
      rw [log_bind, List.map_append, List.sum_append, htotal, htotal', Tally.total_bind]
    emit := fun h => ⟨trivial, rfl, .cons h .nil⟩ }

/-! ## Grammars -/

variable {V : Vocabulary} {α : Type}

/-- A grammar is similar to itself when a text is compared with itself. -/
theorem Grammar.Similar.same (g : Grammar V α) : Similar View.same V.equality Eq g g := by
  refine Similar.refl (fun look _ => ?_) (fun _ _ _ same => same) g.every_true
  rintro c _ rfl
  exact (look c).agree_same

/-- One grammar run in two effects that compare: the replies agree by equality. -/
theorem Bodies.agree_same {m n : Type → Type} [Effect m] [Effect n]
    (C : Comparison m n View.same.Seen) {perform : (action : V.Action) → Parser m (V.Answer action)}
    {perform' : (action : V.Action) → Parser n (V.Answer action)}
    (performs : ∀ action, (perform action).Agree C Eq (perform' action)) (bodies : Bodies V)
    (spare depth : Nat) (g : Grammar V α) (c : Cursor) :
    C.Agree Eq ((bodies.parserAt spare perform depth g).run c)
      ((bodies.parserAt spare perform' depth g).run c) := by
  have agree := Bodies.agree performs (fun r => .same (bodies r)) spare depth (.same g)
    (show View.same.Place c c from rfl)
  exact C.mono agree fun _ _ reply => reply.eq_of_same

/-- Whatever a grammar tells its host, its reply is the one it gives when it tells nothing. A host
that counts instead gets the same reply, and counts what the log weighs. -/
theorem Bodies.erases {Rule : Type} {Result : Rule → Type}
    (bodies : Bodies (.telling Rule Result ω)) (spare depth : Nat)
    (g : Grammar (.telling Rule Result ω) α) (c : Cursor) :
    let told : Logged ω (Reply α) :=
      (bodies.parserAt spare (fun entry => .lift (Logged.tell entry)) depth g).run c
    (bodies.parserAt spare (fun _ => .pure ()) depth g).run c =
        (⟨told.value, told.events⟩ : Plain (Reply α)) ∧
      ∀ {κ : Type} [Zero κ] [Add κ] [Std.Associative fun a b : κ => a + b]
        [Std.LawfulIdentity (fun a b : κ => a + b) 0] (weight : ω → κ),
        (bodies.parserAt spare (fun entry => .lift (Tally.count (weight entry))) depth g).run c =
          ⟨told.value, (told.log.map weight).sum, told.events⟩ := by
  intro told
  constructor
  · -- Telling an entry and doing nothing yield the same reply from the same place.
    have performs : ∀ entry : ω, (Parser.lift (Logged.tell entry)).Agree
        (Logged.erasing View.same.Seen) Eq (Parser.pure ()) :=
      fun _ _ _ place => ⟨.success rfl place, .nil⟩
    obtain ⟨hvalue, hevents⟩ := bodies.agree_same _ performs spare depth g c
    rw [show View.same.Seen = Eq from rfl, List.forall₂_eq_eq_eq] at hevents
    exact Plain.ext hvalue.symm hevents.symm
  · intro κ _ _ _ _ weight
    -- A log of one entry weighs what is counted for it.
    have performs : ∀ entry : ω, (Parser.lift (Logged.tell entry)).Agree
        (Logged.weighing View.same.Seen weight) Eq (Parser.lift (Tally.count (weight entry))) :=
      fun _ => .lift ⟨rfl, List.sum_singleton, .nil⟩
    obtain ⟨hvalue, htotal, hevents⟩ := bodies.agree_same _ performs spare depth g c
    rw [show View.same.Seen = Eq from rfl, List.forall₂_eq_eq_eq] at hevents
    exact Tally.ext hvalue.symm htotal.symm hevents.symm

theorem Bodies.erases_announced :
    let bodies : Bodies (.telling Sample.Nesting.Rule (fun _ => Nat) String) :=
      Sample.Nesting.announced "bracket"
    let c := Cursor.ofString "(()"
    let told : Logged String (Reply Nat) :=
      (bodies.parserAt 0 (fun entry => .lift (Logged.tell entry)) 4 (bodies .nesting)).run c
    told.log = ["bracket", "bracket"] ∧
      (bodies.parserAt 0 (fun entry => .lift (Tally.count entry.length)) 4
        (bodies .nesting)).run c = ⟨told.value, 14, told.events⟩ := by
  intro bodies c told
  have hlog : told.log = ["bracket", "bracket"] := by decide +kernel
  have hsum : (told.log.map String.length).sum = 14 := by rw [hlog]; rfl
  refine ⟨hlog, ?_⟩
  rw [← hsum]
  exact (Bodies.erases bodies 0 4 (bodies .nesting) c).2 String.length

end Descent
