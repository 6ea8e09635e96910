import Descent.Effect.Abortable
import Descent.Effect.Logged
import Descent.Effect.Plain
import Descent.Effect.Tallied
import Descent.Parser.Blank
import Descent.Parser.Number

/-!
# Sequencing is chaining

Parsers in an effect that obeys the laws of monads are a monad themselves, into which the
computations of the effect are lifted. Main statement: every combinator that runs one parser after
another is what `Parser.bind` and `Parser.pure` make of its parts, in the order in which it runs
them, so that an argument that is read before its function obeys the laws of an applicative functor
in that order.

Laws are equations between parsers: the same replies from every place, and the same doings of the
effect. No law is asked of the loops of an effect, not even by the combinators that skip white
space.
-/

namespace Descent.Parser

variable {m : Type → Type} [Effect m] [LawfulMonad m] {α β γ : Type}

/-! ## The monad of parsers -/

theorem bind_pure_left (a : α) (f : α → Parser m β) : (Parser.pure a).bind f = f a :=
  Parser.ext fun _ => pure_bind _ _

/-- What follows a success may itself be a chain; a reply that ends a chain ends the longer one,
too. -/
theorem bind_bind (p : Parser m α) (f : α → Parser m β) (g : β → Parser m γ) :
    (p.bind f).bind g = p.bind fun a => (f a).bind g := by
  refine Parser.ext fun c => (bind_assoc (p.run c) _ _).trans (bind_congr fun reply => ?_)
  cases reply with
  | success a rest => rfl
  | failure e => exact pure_bind _ _
  | unfinished => exact pure_bind _ _

theorem map_eq_bind (f : α → β) (p : Parser m α) : p.map f = p.bind fun a => .pure (f a) := by
  refine Parser.ext fun c => (bind_pure_comp (Reply.map f) (p.run c)).symm.trans ?_
  refine bind_congr fun reply => ?_
  cases reply <;> rfl

theorem map_id (p : Parser m α) : p.map id = p := by
  -- The effect maps by the identity as soon as replies do.
  have same : (Reply.map id : Reply α → Reply α) = id := by
    funext reply
    cases reply <;> rfl
  refine Parser.ext fun c => ?_
  show Reply.map id <$> p.run c = p.run c
  rw [same, id_map]

theorem bind_pure_right (p : Parser m α) : p.bind Parser.pure = p :=
  (map_eq_bind id p).symm.trans (map_id p)

instance : LawfulMonad (Parser m) :=
  LawfulMonad.mk' (Parser m) map_id bind_pure_left bind_bind
    (fun _ _ => rfl) (fun _ _ => rfl) (fun _ _ => rfl) fun f p => (map_eq_bind f p).symm

/-! ## Lifted computations -/

theorem lift_pure (a : α) : Parser.lift (pure a : m α) = Parser.pure a :=
  Parser.ext fun _ => map_pure _ _

theorem lift_bind (x : m α) (k : α → m β) :
    Parser.lift (x >>= k) = (Parser.lift x).bind fun a => .lift (k a) := by
  refine Parser.ext fun c => ?_
  show (fun b => Reply.success b c) <$> (x >>= k) = ((fun a => Reply.success a c) <$> x) >>= _
  -- Both computations are carried out, in order, before anything is made of the second value.
  rw [map_bind, bind_map_left]
  rfl

/-! ## One parser after another -/

theorem both_eq_bind (combine : α → β → γ) (p : Parser m α) (q : Parser m β) :
    Parser.both combine p q = p.bind fun a => q.bind fun b => .pure (combine a b) := by
  refine Parser.ext fun c => bind_congr fun reply => ?_
  cases reply with
  | success a rest => exact congrArg (fun q => q.run rest) (map_eq_bind (combine a) q)
  | failure e => rfl
  | unfinished => rfl

/-- The reply of a parser, followed by a look at the text where the parser stopped. -/
def thenLook (combine : α → β → γ) (look : Cursor → Reply β) : Reply α → Reply γ
  | .success a rest => (look rest).map (combine a)
  | .failure e => .failure e
  | .unfinished => .unfinished

/-- To look at the text behind a parser does nothing but change the reply. -/
theorem run_both_scan (combine : α → β → γ) (p : Parser m α) (look : Cursor → Reply β)
    (c : Cursor) :
    (Parser.both combine p (scan look)).run c = thenLook combine look <$> p.run c := by
  -- A look has no effect, so what follows the first parser is a function of its reply.
  refine Eq.trans (bind_congr fun reply => ?_) (bind_pure_comp (thenLook combine look) (p.run c))
  cases reply with
  | success a rest => exact map_pure _ _
  | failure e => rfl
  | unfinished => rfl

theorem keepRight_eq_bind (p : Parser m α) (q : Parser m β) :
    p.keepRight q = p.bind fun _ => q := by
  rw [keepRight, both_eq_bind]
  simp only [bind_pure_right]

theorem between_eq_bind (opening : Parser m α) (p : Parser m β) (closing : Parser m γ) :
    Parser.between opening p closing =
      opening.bind fun _ => p.bind fun b => closing.bind fun _ => .pure b := by
  -- The three are two nested pairs, of which each forgets a value.
  rw [between_eq_keepLeft, keepLeft, keepRight, both_eq_bind, both_eq_bind, bind_bind]
  simp only [bind_bind, bind_pure_left]

/-! ## Functions after their arguments -/

theorem applyTo_eq_bind (function : Parser m (α → β)) (argument : Parser m α) :
    Parser.applyTo function argument =
      argument.bind fun a => function.bind fun f => .pure (f a) :=
  both_eq_bind (fun (a : α) (f : α → β) => f a) argument function

theorem applyTo_pure_id (p : Parser m α) : Parser.applyTo (.pure id) p = p := by
  rw [applyTo_eq_bind]
  simp only [bind_pure_left]
  exact bind_pure_right p

theorem applyTo_pure_pure (f : α → β) (a : α) :
    Parser.applyTo (.pure f) (.pure a) = (.pure (f a) : Parser m β) := by
  rw [applyTo_eq_bind, bind_pure_left, bind_pure_left]

theorem applyTo_pure_right (function : Parser m (α → β)) (a : α) :
    Parser.applyTo function (.pure a) = Parser.applyTo (.pure fun f => f a) function := by
  rw [applyTo_eq_bind, applyTo_eq_bind, bind_pure_left]
  simp only [bind_pure_left]

/-- Either way the argument is read first, then the function that is applied to it, then the
other. -/
theorem applyTo_applyTo (g : Parser m (β → γ)) (f : Parser m (α → β)) (p : Parser m α) :
    Parser.applyTo (Parser.applyTo (Parser.applyTo (.pure fun g f a => g (f a)) g) f) p =
      Parser.applyTo g (Parser.applyTo f p) := by
  simp only [applyTo_eq_bind, bind_bind, bind_pure_left]

/-! ## The laws together -/

/-- Parsers in `m` are a monad into which computations of `m` are lifted, and the combinators that
run several parsers are chains of it. -/
structure SequencingLaws (m : Type → Type) [Effect m] : Prop where
  pure_bind {α β : Type} (a : α) (f : α → Parser m β) : (Parser.pure a).bind f = f a
  bind_pure {α : Type} (p : Parser m α) : p.bind Parser.pure = p
  bind_assoc {α β γ : Type} (p : Parser m α) (f : α → Parser m β) (g : β → Parser m γ) :
    (p.bind f).bind g = p.bind fun a => (f a).bind g
  lift_pure {α : Type} (a : α) : Parser.lift (pure a : m α) = Parser.pure a
  lift_bind {α β : Type} (x : m α) (k : α → m β) :
    Parser.lift (x >>= k) = (Parser.lift x).bind fun a => .lift (k a)
  map_eq {α β : Type} (f : α → β) (p : Parser m α) : p.map f = p.bind fun a => .pure (f a)
  pair_eq {α β : Type} (p : Parser m α) (q : Parser m β) :
    p.pair q = p.bind fun a => q.bind fun b => .pure (a, b)
  keepLeft_eq {α β : Type} (p : Parser m α) (q : Parser m β) :
    p.keepLeft q = p.bind fun a => q.bind fun _ => .pure a
  keepRight_eq {α β : Type} (p : Parser m α) (q : Parser m β) :
    p.keepRight q = p.bind fun _ => q
  between_eq {α β γ : Type} (opening : Parser m α) (p : Parser m β) (closing : Parser m γ) :
    Parser.between opening p closing =
      opening.bind fun _ => p.bind fun b => closing.bind fun _ => .pure b
  lexeme_eq {α : Type} (p : Parser m α) : p.lexeme = p.bind fun a => spaces.bind fun _ => .pure a
  /-- The argument is read before the function. -/
  applyTo_eq {α β : Type} (function : Parser m (α → β)) (argument : Parser m α) :
    Parser.applyTo function argument =
      argument.bind fun a => function.bind fun f => .pure (f a)
  applyTo_identity {α : Type} (p : Parser m α) : Parser.applyTo (.pure id) p = p
  applyTo_homomorphism {α β : Type} (f : α → β) (a : α) :
    Parser.applyTo (.pure f) (.pure a) = (.pure (f a) : Parser m β)
  applyTo_interchange {α β : Type} (function : Parser m (α → β)) (a : α) :
    Parser.applyTo function (.pure a) = Parser.applyTo (.pure fun f => f a) function
  applyTo_composition {α β γ : Type} (g : Parser m (β → γ)) (f : Parser m (α → β))
      (p : Parser m α) :
    Parser.applyTo (Parser.applyTo (Parser.applyTo (.pure fun g f a => g (f a)) g) f) p =
      Parser.applyTo g (Parser.applyTo f p)

/-- Whatever the effect, the laws of monads are all that the laws of its parsers rest on. -/
theorem sequencing_laws (m : Type → Type) [Effect m] [LawfulMonad m] : SequencingLaws m where
  pure_bind := bind_pure_left
  bind_pure := bind_pure_right
  bind_assoc := bind_bind
  lift_pure := lift_pure
  lift_bind := lift_bind
  map_eq := map_eq_bind
  pair_eq := both_eq_bind Prod.mk
  keepLeft_eq := both_eq_bind fun a _ => a
  keepRight_eq := keepRight_eq_bind
  between_eq := between_eq_bind
  lexeme_eq p := both_eq_bind (fun a _ => a) p spaces
  applyTo_eq := applyTo_eq_bind
  applyTo_identity := applyTo_pure_id
  applyTo_homomorphism := applyTo_pure_pure
  applyTo_interchange := applyTo_pure_right
  applyTo_composition := applyTo_applyTo

theorem sequencing_laws_told :
    SequencingLaws Plain ∧ SequencingLaws (Logged String) ∧ SequencingLaws (Abortable String) ∧
    SequencingLaws Tallied ∧
    let function : Parser (Logged String) (Nat → Nat) :=
      (Parser.lift (Logged.tell "function")).map fun _ n => n + n
    let argument := (Parser.lift (Logged.tell "argument")).keepRight .digit
    let chain := argument.bind fun n => function.bind fun f => .pure (f n)
    Parser.applyTo function argument = chain ∧
    chain.run (.ofString "7!") =
      ⟨.success 14 ((Cursor.ofString "7!").advance 1), ["argument", "function"], []⟩ :=
  ⟨sequencing_laws Plain, sequencing_laws (Logged String), sequencing_laws (Abortable String),
    sequencing_laws Tallied, (sequencing_laws (Logged String)).applyTo_eq _ _, rfl⟩

end Descent.Parser
