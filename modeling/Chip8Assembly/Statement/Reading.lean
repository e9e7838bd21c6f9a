import Chip8Assembly.Traced
import Chip8Assembly.Text.Lines

/-!
# Reading statements

The fields of a line are read from left to right, and the first faulty one ends
the reading.  A field that starts with no letter of a kind is faulty too, or it
is passed over as if it were not there; a policy says which.
-/

namespace Chip8Assembly

/-- What becomes of a field that starts with no letter of a kind. -/
inductive LetterPolicy where
  /-- It is passed over. -/
  | drop
  /-- It makes the line faulty. -/
  | reject
  deriving DecidableEq, Repr

namespace LetterPolicy

def all : List LetterPolicy := [.drop, .reject]

def name : LetterPolicy → Text
  | .drop => "Drop".toList
  | .reject => "Reject".toList

end LetterPolicy

namespace Statement

/-- Reads a field that should be an operand; `none` if it is passed over. -/
def readOperand (policy : LetterPolicy) (token : Text) :
    Traced Fault (Option Operand) :=
  match Operand.read? token with
  | .error cause => .fail (.malformedOperand token cause)
  | .ok (some operand) => pure (some operand)
  | .ok none =>
    match policy with
    | .drop => do
      .note [.droppedOperand token]
      pure none
    | .reject => .fail (.unknownLetter token)

/-- Reads a statement from the fields of a line. -/
def ofFields (policy : LetterPolicy) : List Text → Traced Fault Statement
  | [] => pure ⟨[], []⟩
  | mnemonic :: tokens => do
    let found ← Traced.collect (readOperand policy) tokens
    pure ⟨mnemonic, found.filterMap id⟩

/-- Reads a line up to its comment as a statement. -/
def read (policy : LetterPolicy) (line : Text) : Traced Fault Statement :=
  ofFields policy (Text.fields (Text.uncommented line))

end Statement

end Chip8Assembly
