import Chip8Assembly.Statement.Reading

/-!
# Dialects — reading words and lines, strictly or not

A dialect settles two questions: whether words and lines that no shape claims
are refused, and whether a field that starts with no letter of a kind is
refused or passed over.  The plainest dialect does neither.
-/

namespace Chip8Assembly

structure Dialect where
  /-- Whether words and lines that no shape claims are refused. -/
  strict : Bool
  /-- What becomes of a field that starts with no letter of a kind. -/
  unknownOperands : LetterPolicy
  deriving DecidableEq, Repr

namespace Dialect

/-- The dialect that refuses least. -/
def permissive : Dialect := ⟨false, .drop⟩

/-- Refuses an unknown instruction if the dialect is strict. -/
def checked (d : Dialect) (fault : Fault) (ins : Instruction) :
    Except Fault Instruction :=
  if d.strict && ins.isUnknown then .error fault else .ok ins

def decode (d : Dialect) (w : Word) : Traced Fault Instruction := do
  let ins := Instruction.ofWord w
  .note (Event.ofWord w ins)
  .ofExcept (d.checked (.unclassifiedWord w) ins)

/-- Reads a statement that stands on a line. -/
def readStatement (d : Dialect) (line : Text) (s : Statement) :
    Traced Fault Instruction := do
  let ins := Instruction.ofStatement s line
  .note (Event.ofLine line s.mnemonic ins)
  .ofExcept (d.checked (.unclassifiedLine line) ins)

def parse (d : Dialect) (line : Text) : Traced Fault Instruction := do
  let s ← Statement.read d.unknownOperands line
  d.readStatement line s

end Dialect

end Chip8Assembly
