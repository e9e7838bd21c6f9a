import Chip8Assembly.Shape

/-!
# What can go wrong with a line, a word or a stream

Each fault carries what it is about; its wording is `Fault.message`, and the
wordings of the faults behind it are `Fault.causes`.
-/

namespace Chip8Assembly

/-- A reason to refuse a line, a word, a stream or an operand list. -/
inductive Fault where
  /-- A token starts with the letter of a kind, but no number follows. -/
  | malformedOperand (token : Text) (cause : NumeralFault)
  /-- A token starts with no letter of a kind. -/
  | unknownLetter (token : Text)
  /-- The operands given for a shape are not of its kinds. -/
  | operandMismatch (shape : Shape) (found : List Kind)
  | unclassifiedWord (word : Word)
  | unclassifiedLine (line : Text)
  /-- A stream ends in the middle of a word. -/
  | truncatedStream (offset length : Nat)
  /-- A fault on a line of a source, the first line having number one. -/
  | onLine (number : Nat) (cause : Fault)
  deriving DecidableEq, Repr

namespace Fault

/-- A list of kinds between brackets. -/
def kindList (kinds : List Kind) : Text :=
  '[' :: [',', ' '].intercalate (kinds.map Kind.name) ++ [']']

def message : Fault → Text
  | .malformedOperand token cause =>
    "malformed operand token `".toList ++ token ++ "`: ".toList ++ cause.message
  | .unknownLetter token =>
    "operand token `".toList ++ token ++ "` has an unknown type letter".toList
  | .operandMismatch shape found =>
    shape.name ++ " does not take operands ".toList ++ kindList found
  | .unclassifiedWord word => "unclassified opcode ".toList ++ word.render
  | .unclassifiedLine line =>
    "unclassified assembly `".toList ++ line ++ ['`']
  | .truncatedStream offset length =>
    "truncated stream: dangling byte at offset ".toList ++
      Numeral.decimal offset ++ " of ".toList ++ Numeral.decimal length
  | .onLine number cause =>
    "line ".toList ++ Numeral.decimal number ++ [':', ' '] ++ cause.message

/-- The wordings of the faults behind a fault, the nearest first. -/
def causes : Fault → List Text
  | .malformedOperand _ cause => [cause.message]
  | .onLine _ cause => cause.message :: cause.causes
  | _ => []

end Fault

end Chip8Assembly
