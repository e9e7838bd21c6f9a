import Chip8Assembly.Command.Script
import Chip8Assembly.Json.Record

/-!
# The disassembler as a command

The command maps a file into memory and then tells where it lies, or lists all
of it or a range of it.  A listing is printed, or written to a file if one is
named.

How the JSON of a listing is put into a text is left to a *writer*, which may
fail.
-/

namespace Chip8Assembly.Command

/-- How a listing is shown. -/
inductive Format where
  | text
  | json
  deriving DecidableEq, Repr

/-- What to show of an image. -/
inductive Task where
  | info
  /-- The rows of a range, the two ends of which are still to be read. -/
  | range (start stop : Text) (showBytes : Bool) (out : Option Text)
  | list (format : Format) (showBytes : Bool) (out : Option Text)
  deriving DecidableEq, Repr

/-- What the disassembler is asked to do. -/
structure Disassembly where
  input : Text
  /-- The address of its first byte. -/
  base : Nat := Image.defaultBase
  /-- How many bytes of the file to pass over. -/
  skip : Nat := 0
  /-- How many bytes to map, if not all of them. -/
  length : Option Nat := none
  strict : Bool := false
  task : Task
  deriving DecidableEq, Repr

/-- A way to put JSON into a text. -/
abbrev Writer := Json → Except Failure Text

namespace Disassembly

/-- How words are read. -/
def dialect (d : Disassembly) : Dialect := ⟨d.strict, .drop⟩

/-- The name of the image of a file, from the path of the file. -/
def imageName (path : Text) : Text := (Path.fileName? path).getD "rom".toList

/-- Maps the content of a file. -/
def image (d : Disassembly) (content : List Byte) : Except Failure Image :=
  (Image.load (imageName d.input) d.base d.skip d.length content).mapError
    fun fault => ⟨fault.message, []⟩

/-- Reads the file and maps it. -/
def load (d : Disassembly) : Script Image := do
  let content ← (Script.readFile d.input).within ("reading ".toList ++ d.input)
  .ofExcept (d.image content)

/-- Reads one end of a range. -/
def readEnd (t : Text) : Script Nat :=
  .ofExcept ((Address.read t).mapError fun fault => ⟨fault.message, []⟩)

/-- The rows of a range of an image. -/
def rows (d : Disassembly) (img : Image) (start stop : Nat) : Script (List Row) :=
  .ofTraced ((img.listing d.dialect start stop).mapFault fun fault =>
    ⟨fault.message, []⟩)

/-- Tells where an image lies. -/
def tell (img : Image) : Script Unit := do
  .printLine Image.headings
  .printLine img.placement
  if img.bytes.length % Word.size ≠ 0 then .printLine img.trailing

/-- The text of a range. -/
def rangeText (d : Disassembly) (img : Image) (start stop : Text)
    (showBytes : Bool) : Script Text := do
  let start ← readEnd start
  let stop ← readEnd stop
  let rows ← d.rows img start stop
  pure (Listing.text showBytes rows)

/-- The text of all rows. -/
def listText (writer : Writer) (d : Disassembly) (img : Image) (format : Format)
    (showBytes : Bool) : Script Text := do
  let rows ← d.rows img img.base img.stop
  match format with
  | .text => pure (Listing.text showBytes rows)
  | .json => do
    let json ← .ofExcept (writer (img.report rows).toJson)
    pure (json ++ ['\n'])

/-- Prints a text, or writes it to the file that is named. -/
def emit (text : Text) : Option Text → Script Unit
  | none => .printText text
  | some path => .writeFile path (Text.toUtf8 text)

/-- Shows what is asked for of an image. -/
def view (writer : Writer) (d : Disassembly) (img : Image) : Script Unit :=
  match d.task with
  | .info => tell img
  | .range start stop showBytes out => do
    let text ← d.rangeText img start stop showBytes
    emit text out
  | .list format showBytes out => do
    let text ← d.listText writer img format showBytes
    emit text out

/-- The command: it maps the file and shows what is asked for. -/
def script (writer : Writer) (d : Disassembly) : Script Unit := do
  let img ← d.load
  .noteEvent (.loaded img.name img.base img.bytes.length)
  d.view writer img

end Disassembly

end Chip8Assembly.Command
