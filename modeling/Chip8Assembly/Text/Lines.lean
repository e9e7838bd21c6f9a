import Chip8Assembly.Text.Blank

/-!
# Lines, comments, and the lines that carry content

A newline ends a line; one carriage return directly before that newline goes
with it.  The text after the last newline is a line of its own unless it is
empty, and keeps a carriage return at its end.  A semicolon starts a comment
that reaches to the end of its line.
-/

namespace Chip8Assembly.Text

/-! ## Lines -/

/-- A line without the carriage return at its end, if it has one. -/
def dropReturn (line : Text) : Text :=
  if line.getLast? = some '\r' then line.dropLast else line

/-- The lines that the pieces between newlines stand for: every piece but the
    last was ended by a newline, and an empty last piece is no line. -/
def linesOfPieces (pieces : List Text) : List Text :=
  pieces.dropLast.map dropReturn ++ pieces.getLast?.toList.filter (· ≠ [])

/-- The lines of a text. -/
def lines (t : Text) : List Text := linesOfPieces (t.splitOn '\n')

/-- The lines of a text, each with its number; the first has number one. -/
def numberedLines (t : Text) : List (Text × Nat) := (lines t).zipIdx 1

/-- Lines joined by single newlines, with none after the last. -/
def joinLines (ls : List Text) : Text := ['\n'].intercalate ls

/-! ## Comments and content -/

/-- The character that starts a comment. -/
def commentMark : Char := ';'

/-- A line up to its first comment mark. -/
def uncommented (line : Text) : Text := line.takeWhile (· != commentMark)

/-- A line carries content when something is left of it without its comment and
    the blanks around it. -/
def hasContent (line : Text) : Bool := !(trim (uncommented line)).isEmpty

/-- The lines of a text that carry content, numbered among all its lines. -/
def contentLines (t : Text) : List (Text × Nat) :=
  (numberedLines t).filter fun line => hasContent line.1

end Chip8Assembly.Text
