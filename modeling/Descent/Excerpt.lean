import Descent.Failure

/-!
# Excerpts

A failure is shown to a person as an excerpt of the text around it: the failing line with up to two
lines on either side, and a pointer below the character where the parse failed.
-/

namespace Descent

/-- A place in a text as a person counts: by line from 1, and by characters before it on the
line. -/
structure Location where
  line : Nat
  offset : Nat
deriving DecidableEq, Repr

namespace Location

/-- Where a reader stands in a text: on which line, where that line began, and where the reader
is. -/
structure Reader where
  line : Nat := 1
  lineStart : Nat := 0
  position : Nat := 0

/-- The reader passes one character; a line feed begins a new line. -/
def Reader.pass (reader : Reader) (c : Char) : Reader where
  line := if c = '\n' then reader.line + 1 else reader.line
  lineStart := if c = '\n' then reader.position + 1 else reader.lineStart
  position := reader.position + 1

/-- The location of a position. A position beyond the end counts on along the last line. -/
def ofPosition (text : List Char) (position : Nat) : Location :=
  let reader := (text.take position).foldl Reader.pass {}
  ⟨reader.line, position - reader.lineStart⟩

end Location

namespace Excerpt

/-- The lines of a text: the stretches between line feeds, of which there is one more than there are
line feeds. -/
def lines : List Char → List (List Char)
  | [] => [[]]
  | '\n' :: rest => [] :: lines rest
  | c :: rest =>
    match lines rest with
    | first :: others => (c :: first) :: others
    | [] => [[c]]

/-- The margin before a line of the excerpt: its number, and a mark on the failing line. -/
def margin (number failing : Nat) : List Char :=
  (if number = failing then "  > " else "    ").toList ++ (toString number).toList ++ " | ".toList

/-- A line of the excerpt, and below the failing line the pointer to the place of the failure. -/
def row (location : Location) (number : Nat) (line : List Char) : List Char :=
  margin number location.line ++ line ++ ['\n'] ++
    if number = location.line then
      List.replicate ((margin number location.line).length + location.offset) ' ' ++
        "^--- here\n".toList
    else []

/-- Is the line shown? It is when at most two lines away from the failing one. -/
def isNear (failing number : Nat) : Bool :=
  failing ≤ number + 2 && number ≤ failing + 2

/-- The rows for the given lines, the first of which has the given number. -/
def rows (location : Location) : (number : Nat) → List (List Char) → List Char
  | _, [] => []
  | number, line :: others =>
    (if isNear location.line number then row location number line else []) ++
      rows location (number + 1) others

end Excerpt

/-- The failure in one line with its location, then the excerpt of the text around it. -/
def Failure.render (e : Failure) (text : String) : String :=
  let location := Location.ofPosition text.toList e.position
  e.summary ++ " (line " ++ toString location.line ++ ", offset " ++ toString location.offset ++
    ")\n\n" ++ String.ofList (Excerpt.rows location 1 (Excerpt.lines text.toList))

end Descent
