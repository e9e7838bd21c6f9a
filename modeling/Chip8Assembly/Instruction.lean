import Chip8Assembly.Fault

/-!
# Instructions

An instruction is a shape with its operands, and it remembers the word or the
line from which it was read.  These take no part in comparing instructions, and
only the word matters to the encoding, to that of an unknown instruction: a word
that no shape claims is kept as it was.
-/

namespace Chip8Assembly

/-- A shape with operands, and what they were read from. -/
structure Instruction where
  shape : Shape
  /-- The operands, in the order in which they are written. -/
  operands : List Operand
  /-- The word from which the instruction was read, if it was read from one. -/
  raw : Option Word
  /-- The line from which the instruction was read, if it was read from one. -/
  source : Option Text
  deriving DecidableEq, Repr

namespace Instruction

/-! ## Putting together and comparing -/

/-- Puts an instruction together.  The operands must be of the kinds of the
    shape; only the unknown shape takes any operands. -/
def build (shape : Shape) (operands : List Operand) : Except Fault Instruction :=
  if shape = .unknown ∨ shape.accepts (operands.map Operand.kind) then
    .ok ⟨shape, operands, none, none⟩
  else .error (.operandMismatch shape (operands.map Operand.kind))

/-- Whether two instructions have the same shape and the same operands,
    wherever they came from. -/
def sameAs (i j : Instruction) : Bool :=
  i.shape == j.shape && i.operands == j.operands

/-- The name of the shape in assembly text. -/
def mnemonic (i : Instruction) : Text := i.shape.mnemonic

/-- Whether the instruction has the unknown shape. -/
def isUnknown (i : Instruction) : Bool := i.shape == .unknown

/-! ## The word of an instruction -/

/-- Puts operands into their slots, on top of the bits already there.  An
    operand is cut to its own width; operands without a slot are left out. -/
def fill (base : Word) (operands : List Operand) (slots : List Slot) : Word :=
  (operands.zip slots).foldl (fun w p => w ||| p.1.masked <<< p.2.shift) base

/-- The word of an instruction.  An unknown instruction stands for the word
    from which it was read; if it was read from none, for its first operand;
    if it has none, for zero. -/
def encode (i : Instruction) : Word :=
  match i.shape with
  | .unknown => i.raw.getD ((i.operands.head?.map Operand.value).getD 0)
  | shape => fill shape.base i.operands shape.slots

/-- The two bytes of an instruction, the high one first. -/
def bytes (i : Instruction) : List Byte := i.encode.bytes

/-! ## The text of an instruction -/

/-- The assembly text of an instruction: the mnemonic and, behind a tab, the
    operands with single spaces between them. -/
def render (i : Instruction) : Text :=
  match i.operands with
  | [] => i.mnemonic
  | operands =>
    i.mnemonic ++ '\t' :: [' '].intercalate (operands.map Operand.render)

end Instruction

end Chip8Assembly
