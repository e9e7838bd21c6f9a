import Chip8Assembly.Command.Script
import Chip8Assembly.Program

/-!
# The assembler as a command

The command assembles one file into another.  It is strict unless it is asked
to be permissive.
-/

namespace Chip8Assembly.Command

/-- What the assembler is asked to do. -/
structure Assembly where
  input : Text
  output : Text
  /-- Whether lines that no shape claims are assembled all the same. -/
  permissive : Bool := false
  /-- Whether fields that start with no letter of a kind are refused. -/
  rejectUnknownOperands : Bool := false
  deriving DecidableEq, Repr

namespace Assembly

/-- How lines are read. -/
def dialect (a : Assembly) : Dialect where
  strict := !a.permissive
  unknownOperands := if a.rejectUnknownOperands then .reject else .drop

/-- The text of a source, from the bytes of its file. -/
def sourceText (content : List Byte) : Except Failure Text :=
  match Text.ofUtf8? content with
  | some text => .ok text
  | none => .error ⟨"stream did not contain valid UTF-8".toList, []⟩

/-- Reads the source. -/
def readSource (a : Assembly) : Script Text := do
  let content ← .readFile a.input
  .ofExcept (sourceText content)

/-- The bytes that a source stands for. -/
def assemble (a : Assembly) (source : Text) : Script (List Byte) :=
  .ofTraced ((a.dialect.assemble source).mapFault .ofFault)

/-- The command: it reads the source, assembles it and writes the output. -/
def script (a : Assembly) : Script Unit := do
  let source ← a.readSource.within ("reading ".toList ++ a.input)
  let rom ← (a.assemble source).within ("assembling ".toList ++ a.input)
  (Script.writeFile a.output rom).within ("writing ".toList ++ a.output)
  .noteEvent (.wrote a.output (rom.length / Word.size))

end Assembly

end Chip8Assembly.Command
