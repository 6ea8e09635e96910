/-!
# Printed records

How a structure is shown to a person: its name, then its fields between braces. On one line,
fields are divided by commas; spread out, each field has a line of its own, indented by four columns
more than the record, and a comma after it.
-/

namespace Descent.Text

mutual

/-- A value to be shown: a finished text, or a record of named fields. -/
inductive Shown where
  | text (shown : String)
  | record (name : String) (fields : ShownFields)

/-- The fields of a record, in the order of their declaration. -/
inductive ShownFields where
  | nil
  | cons (name : String) (value : Shown) (others : ShownFields)

end

/-- Fields from a list of names and values. -/
def ShownFields.ofList : List (String × Shown) → ShownFields
  | [] => .nil
  | (name, value) :: others => .cons name value (ofList others)

mutual

/-- On one line: the name, then the fields between braces with a blank on either side. -/
def Shown.inline : Shown → String
  | .text shown => shown
  | .record name fields => name ++ " \x7b " ++ fields.inline ++ " \x7d"

/-- The fields on one line, a comma and a blank between two. -/
def ShownFields.inline : ShownFields → String
  | .nil => ""
  | .cons name value .nil => name ++ ": " ++ value.inline
  | .cons name value others => name ++ ": " ++ value.inline ++ ", " ++ others.inline

end

mutual

/-- Spread over lines, inside something that is itself indented by `margin`. -/
def Shown.spread (margin : String) : Shown → String
  | .text shown => shown
  | .record name fields =>
    name ++ " \x7b\n" ++ fields.spread (margin ++ "    ") ++ margin ++ "\x7d"

/-- A line for each field, indented by `margin`, with a comma at its end. -/
def ShownFields.spread (margin : String) : ShownFields → String
  | .nil => ""
  | .cons name value others =>
    margin ++ name ++ ": " ++ value.spread margin ++ ",\n" ++ others.spread margin

end

/-- A record given by its name and the list of its fields. -/
def Shown.ofFields (name : String) (fields : List (String × Shown)) : Shown :=
  .record name (ShownFields.ofList fields)

end Descent.Text
