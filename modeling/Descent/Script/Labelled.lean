import Descent.Text.Quoted
import Descent.Text.Record

/-!
# Labelled things

A thing with a label, shown as a record. The thing may itself be labelled.
-/

namespace Descent.Script

/-- The record of a labelled thing. -/
def labelled (thing : Text.Shown) (message : String) : Text.Shown :=
  .ofFields "Label" [("parser", thing), ("message", .text (Text.Quoted.encode message))]

end Descent.Script
