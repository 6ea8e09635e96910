import Descent.Grammar

/-!
# Sample: nesting

How deep round brackets are nested. Where brackets do not close, nothing is read and the depth is
zero.
-/

namespace Descent.Sample.Nesting

/-- The one rule, which stands inside itself. -/
inductive Rule where
  | nesting
deriving DecidableEq

/-- The value of the rule is a depth, and nothing is asked of the effect. -/
abbrev vocabulary : Vocabulary := ⟨Rule, fun _ => Nat, Empty, fun _ => Unit⟩

/-- A pair of brackets around the rule, or nothing. -/
def nesting : Grammar vocabulary Nat :=
  .orElse
    (.map (· + 1)
      (.keepLeft
        (.keepRight (.terminal (.skipChar '(')) (.rule (V := vocabulary) Rule.nesting))
        (.terminal (.skipChar ')'))))
    (.pure 0)

/-- The rule stands for a nesting. -/
def rules : Rules vocabulary where
  names := [.nesting]
  body | .nesting => nesting
  mem_names | .nesting => by decide

/-- Reads brackets and gives the depth of their nesting. -/
def depth {m : Type → Type} [Effect m] : Parser m Nat :=
  rules.parser (fun action => nomatch action) nesting

/-! ### Announced brackets

The same rule with an action after every opening bracket. The action is carried out when the bracket
is read, whether or not it turns out to close. -/

/-- The one rule, and the actions of a host. -/
abbrev announcing (Action : Type) : Vocabulary := ⟨Rule, fun _ => Nat, Action, fun _ => Unit⟩

/-- A pair of brackets around the rule, the first of them announced by the given action, or
nothing. -/
def announced {Action : Type} (opening : Action) : Bodies (announcing Action)
  | .nesting =>
    .orElse
      (.map (· + 1)
        (.keepLeft
          (.keepRight
            (.keepRight (.terminal (.skipChar '(')) (.perform (V := announcing Action) opening))
            (.rule (V := announcing Action) Rule.nesting))
          (.terminal (.skipChar ')'))))
      (.pure 0)

end Descent.Sample.Nesting
