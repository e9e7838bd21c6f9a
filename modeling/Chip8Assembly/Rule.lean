import Chip8Assembly.Instruction
import Chip8Assembly.Statement

/-!
# Rules — which shape claims a word or a line

A rule says that a shape claims the words that agree with it on the bits of a
mask, and the statements with its mnemonic and with operands of its kinds.  The
rules stand in a table and the first that matches decides.

`callNative` matches the words of `clearScreen` and `returnFromSub` too, so it
stands behind them.  The fallback matches everything and stands last.
-/

namespace Chip8Assembly

/-- A shape, and the bits of a word that decide whether it is the word's. -/
structure Rule where
  shape : Shape
  /-- The bits in which a word has to agree with the shape. -/
  mask : Word
  deriving DecidableEq, Repr

namespace Rule

/-! ## One rule -/

/-- Whether a word agrees with the shape on the bits of the mask. -/
def matchesWord (r : Rule) (w : Word) : Bool :=
  w &&& r.mask == r.shape.base &&& r.mask

/-- The instruction that a word stands for by this rule. -/
def readWord (r : Rule) (w : Word) : Instruction :=
  ⟨r.shape, r.shape.slots.map (·.operand w), some w, none⟩

/-- Whether a statement has the mnemonic of the shape and operands of its
    kinds.  Every statement may be an unknown one. -/
def matchesStatement (r : Rule) (s : Statement) : Bool :=
  match r.shape with
  | .unknown => true
  | shape => s.mnemonic == shape.mnemonic && shape.accepts s.kinds

/-- The instruction that a statement on a line stands for by this rule. -/
def readStatement (r : Rule) (s : Statement) (line : Text) : Instruction :=
  ⟨r.shape, s.operands, none, some line⟩

/-! ## The table -/

/-- The mask of a shape that is a single word. -/
def exact : Word := 0xFFFF

/-- The mask of a shape known by its first nibble. -/
def byFirstNibble : Word := 0xF000

/-- The mask of a shape known by its first and last nibble. -/
def byOuterNibbles : Word := 0xF00F

/-- The mask of a shape known by its first nibble and its low byte. -/
def byNibbleAndByte : Word := 0xF0FF

/-- The rule that matches every word and every statement. -/
def fallback : Rule := ⟨.unknown, 0x0000⟩

/-- The rules in the order in which they are tried. -/
def table : List Rule :=
  [⟨.clearScreen, exact⟩,
   ⟨.returnFromSub, exact⟩,
   ⟨.callNative, byFirstNibble⟩,
   ⟨.jump, byFirstNibble⟩,
   ⟨.callSub, byFirstNibble⟩,
   ⟨.skipEqConst, byFirstNibble⟩,
   ⟨.skipNeConst, byFirstNibble⟩,
   ⟨.skipEqReg, byFirstNibble⟩,
   ⟨.loadConst, byFirstNibble⟩,
   ⟨.addConst, byFirstNibble⟩,
   ⟨.loadReg, byOuterNibbles⟩,
   ⟨.or, byOuterNibbles⟩,
   ⟨.and, byOuterNibbles⟩,
   ⟨.xor, byOuterNibbles⟩,
   ⟨.addReg, byOuterNibbles⟩,
   ⟨.sub, byOuterNibbles⟩,
   ⟨.shiftRight, byOuterNibbles⟩,
   ⟨.subN, byOuterNibbles⟩,
   ⟨.shiftLeft, byOuterNibbles⟩,
   ⟨.skipNeReg, byFirstNibble⟩,
   ⟨.loadIndex, byFirstNibble⟩,
   ⟨.jumpV0, byFirstNibble⟩,
   ⟨.random, byFirstNibble⟩,
   ⟨.draw, byFirstNibble⟩,
   ⟨.skipKey, byNibbleAndByte⟩,
   ⟨.skipNotKey, byNibbleAndByte⟩,
   ⟨.loadDelay, byNibbleAndByte⟩,
   ⟨.waitKey, byNibbleAndByte⟩,
   ⟨.setDelay, byNibbleAndByte⟩,
   ⟨.setSound, byNibbleAndByte⟩,
   ⟨.addIndex, byNibbleAndByte⟩,
   ⟨.loadSprite, byNibbleAndByte⟩,
   ⟨.bcd, byNibbleAndByte⟩,
   ⟨.storeRegs, byNibbleAndByte⟩,
   ⟨.loadRegs, byNibbleAndByte⟩,
   fallback]

/-- There is one rule for each shape, in the order of the shapes. -/
theorem map_shape_table : table.map Rule.shape = Shape.all := by
  decide

/-! ## Choosing a rule -/

/-- The first of a list of rules that matches a word. -/
def forWord (rules : List Rule) (w : Word) : Rule :=
  (rules.find? (·.matchesWord w)).getD fallback

/-- The first of a list of rules that matches a statement. -/
def forStatement (rules : List Rule) (s : Statement) : Rule :=
  (rules.find? (·.matchesStatement s)).getD fallback

end Rule

namespace Instruction

/-- The instruction that a word stands for. -/
def ofWord (w : Word) : Instruction := (Rule.forWord Rule.table w).readWord w

/-- The instruction that a statement on a line stands for. -/
def ofStatement (s : Statement) (line : Text) : Instruction :=
  (Rule.forStatement Rule.table s).readStatement s line

end Instruction

end Chip8Assembly
