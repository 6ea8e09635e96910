import Descent.Effect.Abortable
import Descent.Effect.Logged
import Descent.Effect.Plain
import Descent.Effect.Tallied
import Descent.Script.Form

/-!
# Hosts of scripts

A host is an effect that hears the texts that a script says to it. What it makes of them is its own
affair: one ignores them, one writes them down, one stops at the first, one counts.
-/

namespace Descent.Script

/-- An effect that a script can speak to. -/
class Host (m : Type → Type) extends Effect m where
  say : String → m Unit

/-- The plain effect hears nothing. -/
instance : Host Plain where
  say _ := pure ()

/-- The log keeps what is said. -/
instance : Host (Logged String) where
  say := Logged.tell

/-- The first thing said is the reason to stop. -/
instance : Host (Abortable String) where
  say := Abortable.abort

/-- How much a text counts: as much as it says in decimal, with or without a plus sign, below
`2 ^ 64`, and one otherwise. -/
def weight (text : String) : Nat :=
  let digits := match text.toList with
    | '+' :: rest => rest
    | rest => rest
  let value? := do
    let values ← digits.mapM Text.digitValue?
    if values.isEmpty then none else Text.readDigits UInt64.size 0 values
  value?.getD 1

/-- What is said counts by its weight. -/
instance : Host Tallied where
  say text := Tally.count (weight text)

variable {m : Type → Type} [Host m]

/-- Reads nothing and says the text to the host. -/
def sayParser (text : String) : Parser m Unit := .lift (Host.say text)

/-- Runs a script from the start of a text, with the host hearing what it says. -/
def run {count : Nat} (config : Config) (rules : Rules (vocabulary count)) (form : Form count)
    (text : String) : m (Reply Value) :=
  (rules.parser sayParser form).parseWith config text

/-! ### Hosts without a parser -/

/-- One thing to do with a number inside a host. -/
inductive Deed where
  /-- Adds to the number, in 64 bits. -/
  | add (amount : Int64)
  /-- Multiplies the number, in 64 bits. -/
  | scale (factor : Int64)
  /-- Says something and keeps the number. -/
  | say (text : String)

/-- Does one thing more. -/
def Deed.after (x : m Int64) : Deed → m Int64
  | add amount => (· + amount) <$> x
  | scale factor => x >>= fun n => pure (n * factor)
  | say text => x >>= fun n => do
    Host.say text
    pure n

/-- Does one thing after another, from a number on. -/
def perform (start : Int64) (deeds : List Deed) : m Int64 :=
  deeds.foldl Deed.after (pure start)

/-- Does a climb say the number at which it stands? It says the multiples of `every`, and all
numbers where that is zero. -/
def isSaid (every n : Nat) : Bool := n % max 1 every == 0

/-- One step of a climb: the number at which it stands is said if it has to be, then the climb ends
or goes on to the next number. -/
def climbStep (limit : Nat) (every? : Option Nat) (state : Nat × Nat) :
    m (Flow (Nat × Nat) (Nat × Nat)) := do
  if every?.any fun every => isSaid every state.1 then Host.say (toString state.1)
  pure (if limit ≤ state.1 then .done state else .again (state.1 + 1, state.2 + 1))

/-- Climbs from `seed` to `limit` by ones and gives the number reached and the steps it took. -/
def climb (seed limit : Nat) (every? : Option Nat) : m (Option (Nat × Nat)) :=
  Effect.iterate (climbStep limit every?) (limit - seed + 1) (seed, 0)

end Descent.Script
