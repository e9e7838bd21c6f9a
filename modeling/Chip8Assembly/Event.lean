import Chip8Assembly.Rule
import Chip8Assembly.Text.Quoted

/-!
# Events — what is noted on the way

An event says what was read or written, or what was noticed on the way.  It keeps
the values it is about; level and wording are functions of them.  No event is an
error (`level_ne_error`): what goes wrong is a fault.
-/

namespace Chip8Assembly

/-- How much an event matters. -/
inductive Level where
  /-- One step of the work. -/
  | trace
  /-- Something was passed over. -/
  | debug
  /-- A piece of work is done. -/
  | info
  /-- The outcome may not be what was meant. -/
  | warn
  | error
  deriving DecidableEq, Repr

def Level.name : Level → Text
  | .trace => "TRACE".toList
  | .debug => "DEBUG".toList
  | .info => "INFO".toList
  | .warn => "WARN".toList
  | .error => "ERROR".toList

/-- Something noted on the way. -/
inductive Event where
  | unclaimedWord (word : Word)
  | decoded (word : Word) (instruction : Instruction)
  /-- No shape claims a line with this mnemonic. -/
  | unclaimedLine (line mnemonic : Text)
  | parsed (line : Text) (instruction : Instruction)
  /-- A token that starts with no letter of a kind was passed over. -/
  | droppedOperand (token : Text)
  /-- A line that no shape claims was assembled to a word all the same. -/
  | unclassifiedLine (number : Nat) (word : Word) (line : Text)
  /-- An image was mapped. -/
  | loaded (name : Text) (base length : Nat)
  /-- The words of a program were written to a file. -/
  | wrote (path : Text) (words : Nat)
  deriving DecidableEq, Repr

namespace Event

/-- How much an event matters. -/
def level : Event → Level
  | .unclaimedWord _ => .debug
  | .decoded _ _ => .trace
  | .unclaimedLine _ _ => .debug
  | .parsed _ _ => .trace
  | .droppedOperand _ => .debug
  | .unclassifiedLine _ _ _ => .warn
  | .loaded _ _ _ => .info
  | .wrote _ _ => .info

theorem level_ne_error (e : Event) : e.level ≠ .error := by
  cases e <;> exact nofun

def message : Event → Text
  | .unclaimedWord word => "no rule claims opcode ".toList ++ word.render
  | .decoded word ins =>
    "decoded ".toList ++ word.render ++ " as ".toList ++ ins.render
  | .unclaimedLine line _ =>
    "no rule claims assembly line ".toList ++ Text.quoted line
  | .parsed line ins =>
    "parsed ".toList ++ Text.quoted line ++ " as ".toList ++ ins.render
  | .droppedOperand _ => "dropping operand with unknown type letter".toList
  | .unclassifiedLine _ _ line =>
    "unclassified assembly `".toList ++ Text.trim line ++ ['`']
  | .loaded _ _ _ => "loaded image".toList
  | .wrote path _ => "wrote ".toList ++ path

/-- What is noted when a word is read. -/
def ofWord (w : Word) (ins : Instruction) : List Event :=
  (if ins.isUnknown then [.unclaimedWord w] else []) ++ [.decoded w ins]

/-- What is noted when a line is read as a statement with this mnemonic. -/
def ofLine (line mnemonic : Text) (ins : Instruction) : List Event :=
  (if ins.isUnknown then [.unclaimedLine line mnemonic] else []) ++
    [.parsed line ins]

end Event

end Chip8Assembly
