import Chip8Assembly.Operand

/-!
# Statements — a line as what its fields stand for

The first field of a line is its mnemonic and the others are its operands.  A
line without fields is the statement with the empty mnemonic and no operands.
-/

namespace Chip8Assembly

/-- A mnemonic with operands. -/
structure Statement where
  /-- The first field, empty if the line has none. -/
  mnemonic : Text
  /-- What the other fields stand for. -/
  operands : List Operand
  deriving DecidableEq, Repr

/-- The kinds of the operands of a statement. -/
def Statement.kinds (s : Statement) : List Kind := s.operands.map Operand.kind

end Chip8Assembly
