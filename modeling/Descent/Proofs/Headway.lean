import Descent.Proofs.Agreement
import Descent.Proofs.Behind
import Descent.Proofs.Onward

/-!
# Parsers that come to an end

A parser makes headway from a place when it comes to an end, moves on in the text or stays, and
stays only if it may (`Parser.Headway`). A repetition comes to an end if the repeated parser makes
headway from every place onward and may not stay: the text left is used up run by run
(`Headway.foldMany`).

All this is said of two parsers at once, which yield the same. The two may differ in how often they
would be allowed to repeat a step or to call a rule; a parser that makes headway needs no more than
it is allowed, so the difference is not seen.
-/

namespace Descent

/-! ## Settled computations -/

section Settled

variable {m : Type → Type} [Effect m] [LawfulEffect m] {α β σ : Type} {P : α → Prop} {Q : β → Prop}

/-- The two computations are the same, and all values that they may yield have the property. -/
def Settled (P : α → Prop) (x y : m α) : Prop := x = y ∧ Outcomes.lawful.Always P x

namespace Settled

variable {x y : m α}

theorem mono {P' : α → Prop} (h : Settled P x y) (weaker : ∀ a, P a → P' a) : Settled P' x y :=
  ⟨h.1, Outcomes.lawful.mono h.2 weaker⟩

theorem pure {a : α} (h : P a) : Settled P (Pure.pure a : m α) (Pure.pure a) :=
  ⟨rfl, Outcomes.lawful.pure h⟩

/-- Chains need to agree only after values with the property. -/
theorem bind {f g : α → m β} (h : Settled P x y) (next : ∀ a, P a → Settled Q (f a) (g a)) :
    Settled Q (x >>= f) (y >>= g) := by
  obtain ⟨rfl, always⟩ := h
  exact ⟨Outcomes.bind_congr_of_always always fun a ha => (next a ha).1,
    Outcomes.lawful.bind always fun a ha => (next a ha).2⟩

theorem map {f : α → β} (h : Settled P x y) (values : ∀ a, P a → Q (f a)) :
    Settled Q (f <$> x) (f <$> y) :=
  ⟨congrArg _ h.1, Outcomes.lawful.map h.2 values⟩

/-- A loop whose steps lower a measure ends within any number of steps above the measure, and with
the same result. Induction on the number of steps. -/
theorem iterate {I : σ → Prop} (measure : σ → Nat) {f g : σ → m (Flow σ α)}
    (steps : ∀ s, I s → Settled (Flow.Always (fun t => I t ∧ measure t < measure s) P) (f s) (g s))
    {s : σ} (h : I s) {bound bound' : Nat} (enough : measure s < bound)
    (enough' : measure s < bound') :
    Settled (fun result => ∃ a, result = some a ∧ P a) (Effect.iterate f bound s)
      (Effect.iterate g bound' s) := by
  rw [LawfulEffect.iterate_eq, LawfulEffect.iterate_eq]
  induction bound generalizing s bound' with
  | zero => omega
  | succ bound ih =>
    -- The other bound is above the measure, too, so both loops take this step.
    obtain _ | bound' := bound'
    · omega
    rw [Flow.unroll, Flow.unroll]
    refine (steps s h).bind ?_
    rintro _ (⟨next, less⟩ | value)
    · exact ih next (by omega) (by omega)
    · exact .pure ⟨_, rfl, value⟩

end Settled

end Settled

/-! ## Replies of parsers that make headway -/

/-- The answer of a parser, started at `c`, that has come to an end and has not moved back. If it
succeeded where it was started, it was one that may stay. -/
def Reply.Forward {α : Type} (stay : Prop) (c : Cursor) : Reply α → Prop
  | .success _ next => c.Onward next ∧ (next = c → stay)
  | .failure _ => True
  | .unfinished => False

namespace Reply.Forward

variable {α β : Type} {stay stay' : Prop} {c d : Cursor} {r : Reply α}

theorem mono (h : r.Forward stay c) (weaker : stay → stay') : r.Forward stay' c := by
  cases r with
  | success a next => exact ⟨h.1, fun eq => weaker (h.2 eq)⟩
  | failure e => trivial
  | unfinished => exact h

theorem finished (h : r.Forward stay c) : r ≠ .unfinished := by
  rintro rfl
  exact h

/-- Whoever goes on from a later place stays at an earlier one if it stays at both. -/
theorem of_onward (place : c.Onward d) (h : r.Forward stay d) (both : d = c → stay → stay') :
    r.Forward stay' c := by
  cases r with
  | success a next =>
    refine ⟨place.trans h.1, ?_⟩
    rintro rfl
    have same : d = next := place.antisymm h.1
    exact both same (h.2 same.symm)
  | failure e => trivial
  | unfinished => exact h

/-! ### Operations on replies -/

theorem map (f : α → β) (h : r.Forward stay c) : (r.map f).Forward stay c := by
  cases r <;> exact h

theorem relabel (message : String) (h : r.Forward stay c) : (r.relabel message).Forward stay c := by
  cases r <;> exact h

theorem withSpan (h : r.Forward stay c) : (r.withSpan c).Forward stay c := by
  cases r <;> exact h

theorem recover (default : α) (h : r.Forward stay c) : (r.recover c default).Forward True c := by
  cases r with
  | success a next => exact ⟨h.1, fun _ => trivial⟩
  | failure e => exact ⟨.refl c, fun _ => trivial⟩
  | unfinished => exact h

theorem refuse (message : String) (h : r.Forward stay c) :
    (r.refuse c message).Forward True c := by
  cases r with
  | success a next => trivial
  | failure e => exact ⟨.refl c, fun _ => trivial⟩
  | unfinished => exact h

theorem refine {f : α → Except String β} (h : r.Forward stay c) :
    (r.refine c f).Forward stay c := by
  cases r with
  | success a next =>
    rw [Reply.refine]
    cases f a with
    | ok b => exact h
    | error message => trivial
  | failure e => trivial
  | unfinished => exact h

end Reply.Forward

/-! ## Combinators -/

variable {m : Type → Type} [Effect m] [LawfulEffect m] {α β γ : Type} {stay stay' : Prop}

/-- Run from the place, the two parsers do the same. They come to an end, onward from there, and
stay only if they may. -/
def Parser.Headway (stay : Prop) (c : Cursor) (p q : Parser m α) : Prop :=
  Settled (Reply.Forward stay c) (p.run c) (q.run c)

/-- To go on from a reply, there has to be a way on from every success and every failure. -/
theorem Settled.bindReply {c : Cursor} {x y : m (Reply α)} {f g : Reply α → m (Reply β)}
    (h : Settled (Reply.Forward stay c) x y)
    (success : ∀ a d, c.Onward d → (d = c → stay) →
      Settled (Reply.Forward stay' c) (f (.success a d)) (g (.success a d)))
    (failure : ∀ e, Settled (Reply.Forward stay' c) (f (.failure e)) (g (.failure e))) :
    Settled (Reply.Forward stay' c) (x >>= f) (y >>= g) := by
  refine h.bind ?_
  rintro (⟨a, d⟩ | e | _) forward
  · exact success a d forward.1 forward.2
  · exact failure e
  · exact forward.elim

namespace Parser.Headway

variable {c : Cursor} {p p' : Parser m α} {q q' : Parser m β}

theorem mono (h : Headway stay c p p') (weaker : stay → stay') : Headway stay' c p p' :=
  Settled.mono h fun _ forward => forward.mono weaker

theorem of_onward {d : Cursor} (place : c.Onward d) (h : Headway stay d p p')
    (both : d = c → stay → stay') : Settled (Reply.Forward stay' c) (p.run d) (p'.run d) :=
  Settled.mono h fun _ forward => forward.of_onward place both

theorem scan {look : Cursor → Reply α} (h : (look c).Forward stay c) :
    Headway stay c (Parser.scan look : Parser m α) (Parser.scan look) :=
  .pure h

theorem pure (a : α) : Headway True c (Parser.pure a : Parser m α) (Parser.pure a) :=
  scan ⟨.refl c, fun _ => trivial⟩

theorem fail (message : String) :
    Headway False c (Parser.fail message : Parser m α) (Parser.fail message) :=
  scan trivial

theorem lift (x : m α) : Headway True c (Parser.lift x) (Parser.lift x) :=
  ⟨rfl, Outcomes.lawful.map (Outcomes.lawful.any x) fun _ _ => ⟨.refl c, fun _ => trivial⟩⟩

theorem bind {next next' : α → Parser m β} (h : Headway stay c p p')
    (h' : ∀ a d, c.Onward d → (d = c → stay) → Headway stay' d (next a) (next' a)) :
    Headway (stay ∧ stay') c (p.bind next) (p'.bind next') :=
  Settled.bindReply h
    (fun a d place stays =>
      of_onward place (h' a d place stays) fun same stays' => ⟨stays same, stays'⟩)
    fun _ => .pure trivial

/-- A parser after which another may stay. -/
theorem thenAny {next next' : α → Parser m β} (h : Headway stay c p p')
    (h' : ∀ a d, c.Onward d → (d = c → stay) → Headway True d (next a) (next' a)) :
    Headway stay c (p.bind next) (p'.bind next') :=
  (h.bind h').mono And.left

theorem both {f : α → β → γ} (h : Headway stay c p p')
    (h' : ∀ d, c.Onward d → (d = c → stay) → Headway stay' d q q') :
    Headway (stay ∧ stay') c (Parser.both f p q) (Parser.both f p' q') :=
  Settled.bindReply h
    (fun _ d place stays => Settled.map (h' d place stays) fun _ forward =>
      (forward.map _).of_onward place fun same stays' => ⟨stays same, stays'⟩)
    fun _ => .pure trivial

theorem between {stay'' : Prop} {r r' : Parser m γ} (h : Headway stay c p p')
    (h' : ∀ d, c.Onward d → (d = c → stay) → Headway stay' d q q')
    (h'' : ∀ d, c.Onward d → (d = c → stay ∧ stay') → Headway stay'' d r r') :
    Headway ((stay ∧ stay') ∧ stay'') c (Parser.between p q r) (Parser.between p' q' r') := by
  -- The closing may be run at the start only if both parts in front of it have stayed there.
  rw [between_eq_keepLeft, between_eq_keepLeft]
  exact (h.both h').both h''

theorem orElse {q q' : Parser m α} (h : Headway stay c p p') (h' : Headway stay' c q q') :
    Headway (stay ∨ stay') c (p.orElse q) (p'.orElse q') :=
  Settled.bindReply h (fun _ _ place stays => .pure ⟨place, fun same => .inl (stays same)⟩)
    fun _ => h'.mono .inr

theorem map (f : α → β) (h : Headway stay c p p') : Headway stay c (p.map f) (p'.map f) :=
  Settled.map h fun _ forward => forward.map f

theorem refine (judge : α → Except String β) (h : Headway stay c p p') :
    Headway stay c (p.refine judge) (p'.refine judge) :=
  Settled.map h fun _ forward => forward.refine

theorem orDefault (default : α) (h : Headway stay c p p') :
    Headway True c (p.orDefault default) (p'.orDefault default) :=
  Settled.map h fun _ forward => forward.recover default

theorem optional (h : Headway stay c p p') : Headway True c p.optional p'.optional :=
  Settled.map h fun _ forward => (forward.map some).recover none

theorem notAhead (h : Headway stay c p p') : Headway True c p.notAhead p'.notAhead :=
  Settled.map h fun _ forward => forward.refuse _

theorem label (message : String) (h : Headway stay c p p') :
    Headway stay c (Parser.label message p) (Parser.label message p') :=
  Settled.map h fun _ forward => forward.relabel message

theorem withSpan (h : Headway stay c p p') : Headway stay c p.withSpan p'.withSpan :=
  Settled.map h fun _ forward => forward.withSpan

theorem traced (name : String) (h : Headway stay c p p') :
    Headway stay c (Parser.traced name p) (Parser.traced name p') := by
  refine Settled.bind (P := fun _ => True) ⟨rfl, Outcomes.lawful.any _⟩ fun _ _ => ?_
  refine Settled.bind h fun reply forward => ?_
  cases reply.traceEvent? name c with
  | none => exact .pure forward
  | some event =>
    exact Settled.bind (P := fun _ => True) ⟨rfl, Outcomes.lawful.any _⟩ fun _ _ => .pure forward

/-! ### Repetitions -/

/-- A parser that makes headway and may not stay is repeated at most as often as characters are
left. -/
theorem foldMany {join : β → α → β} {init : β} (h : ∀ d, c.Onward d → Headway False d p p')
    (spare spare' : Nat) :
    Headway True c (Parser.foldMany join init p spare) (Parser.foldMany join init p' spare') := by
  have steps : ∀ s : β × Cursor, c.Onward s.2 →
      Settled (Flow.Always (fun t : β × Cursor => c.Onward t.2 ∧ t.2.remaining < s.2.remaining)
        (Reply.Forward True c)) (Parser.foldStep join p s) (Parser.foldStep join p' s) := by
    rintro ⟨b, d⟩ place
    refine Settled.map (h d place) ?_
    rintro (⟨a, next⟩ | e | _) forward
    · -- A run that succeeds leaves less text than it found.
      exact .again ⟨place.trans forward.1, forward.1.remaining_lt forward.2⟩
    · exact .done ⟨place, fun _ => trivial⟩
    · exact forward.elim
  have loops := Settled.iterate (fun s : β × Cursor => s.2.remaining) steps (s := (init, c))
    (.refl c) (show c.remaining < c.remaining + 1 + spare by omega)
    (show c.remaining < c.remaining + 1 + spare' by omega)
  refine Settled.map loops ?_
  rintro _ ⟨reply, rfl, forward⟩
  exact forward

theorem manyAfter {earlier : List α} (h : ∀ d, c.Onward d → Headway False d p p')
    (spare spare' : Nat) :
    Headway True c (Parser.manyAfter earlier p spare) (Parser.manyAfter earlier p' spare') :=
  (foldMany h spare spare').map _

/-- A counted repetition stays if it runs its parser not at all, or if the parser may stay. -/
theorem count {times : Nat} (h : ∀ d, c.Onward d → Headway stay d p p') :
    Headway (times = 0 ∨ stay) c (p.count times) (p'.count times) := by
  have steps : ∀ s : Nat × List α × Cursor,
      c.Onward s.2.2 ∧ (s.2.2 = c → s.1 = times ∨ stay) →
      Settled (Flow.Always
        (fun t : Nat × List α × Cursor =>
          (c.Onward t.2.2 ∧ (t.2.2 = c → t.1 = times ∨ stay)) ∧ t.1 < s.1)
        (Reply.Forward (times = 0 ∨ stay) c)) (Parser.countStep p s) (Parser.countStep p' s) := by
    rintro ⟨_ | left, items, d⟩ ⟨place, stays⟩
    · exact .pure (.done ⟨place, fun same => (stays same).imp_left Eq.symm⟩)
    refine Settled.map (h d place) ?_
    rintro (⟨a, next⟩ | e | _) forward
    · -- A run that is back at the start of the repetition has stayed, and so has every run before
      -- it.
      have stays' : next = c → stay := by
        rintro rfl
        exact forward.2 (place.antisymm forward.1).symm
      exact .again ⟨⟨place.trans forward.1, fun same => .inr (stays' same)⟩, Nat.lt_succ_self left⟩
    · exact .done trivial
    · exact forward.elim
  have loops := Settled.iterate (fun s : Nat × List α × Cursor => s.1) steps (s := (times, [], c))
    ⟨.refl c, fun _ => .inl rfl⟩ (Nat.lt_succ_self times) (Nat.lt_succ_self times)
  refine Settled.map loops ?_
  rintro _ ⟨reply, rfl, forward⟩
  exact forward

/-! ### Items with something between them

Items follow one another with something before each but the first. Such a step may stay only if both
of its parts may, and is never taken at the start unless the first item stayed there. -/

section Steps

variable (item : ∀ d, c.Onward d → Headway stay d p p')
  (before : ∀ d, c.Onward d → (d = c → stay) → Headway stay' d q q') (guard : ¬ (stay' ∧ stay))
include item before guard

theorem step {d : Cursor} (place : c.Onward d) (stays : d = c → stay) (e : Cursor)
    (place' : d.Onward e) : Headway False e (q.pair p) (q'.pair p') := by
  -- A separator at the start stands behind a first item that has stayed there.
  have stays' : e = c → stay := by
    rintro rfl
    exact stays (place.antisymm place')
  refine Headway.mono ?_ guard
  exact (before e (place.trans place') stays').both fun next place'' _ =>
    item next ((place.trans place').trans place'')

theorem foldBehind (join : γ → β → α → γ) (init : γ) {d : Cursor} (place : c.Onward d)
    (stays : d = c → stay) (spare spare' : Nat) :
    Headway True d (Parser.foldBehind join init q p spare)
      (Parser.foldBehind join init q' p' spare') := by
  rw [foldBehind_eq_foldMany, foldBehind_eq_foldMany]
  exact foldMany (step item before guard place stays) spare spare'

theorem itemsAfter (a : α) {d : Cursor} (place : c.Onward d) (stays : d = c → stay)
    (spare spare' : Nat) :
    Headway True d (Parser.itemsAfter a p q spare) (Parser.itemsAfter a p' q' spare') :=
  (foldBehind item before guard _ _ place stays spare spare').map _

theorem sepBy1 (spare spare' : Nat) :
    Headway stay c (p.sepBy1 q spare) (p'.sepBy1 q' spare') :=
  (item c (.refl c)).thenAny fun a _ place stays =>
    itemsAfter item before guard a place stays spare spare'

theorem sepBy (spare spare' : Nat) : Headway True c (p.sepBy q spare) (p'.sepBy q' spare') := by
  refine Settled.bindReply (item c (.refl c)) (fun a d place stays => ?_) fun _ =>
    .pure ⟨.refl c, fun _ => trivial⟩
  exact (itemsAfter item before guard a place stays spare spare').of_onward place fun _ _ => trivial

end Steps

section Chains

variable {op op' : Parser m (α → α → α)} (operand : ∀ d, c.Onward d → Headway stay d p p')
  (operator : ∀ d, c.Onward d → (d = c → stay) → Headway stay' d op op') (guard : ¬ (stay' ∧ stay))
include operand operator guard

theorem chainLeft1 (spare spare' : Nat) :
    Headway stay c (p.chainLeft1 op spare) (p'.chainLeft1 op' spare') :=
  (operand c (.refl c)).thenAny fun _ _ place stays =>
    foldBehind operand operator guard _ _ place stays spare spare'

theorem chainRight1 (spare spare' : Nat) :
    Headway stay c (p.chainRight1 op spare) (p'.chainRight1 op' spare') :=
  (operand c (.refl c)).thenAny fun _ _ place stays =>
    (foldBehind operand operator guard _ _ place stays spare spare').map _

end Chains

end Parser.Headway

end Descent
