import Chip8Assembly.Dialect

/-!
# Sessions — instructions read, written and read again

A session holds a dialect and at most one instruction.  A step makes a new
instruction: from a recipe, or from what the held one shows of itself — its
word, its text, the line it came from, its shape and operands.  The new
instruction is held from then on, and the answer tells whether it is the same
as the one before; a fault leaves the session as it was.
-/

namespace Chip8Assembly

/-! ## Recipes -/

/-- A description of an instruction. -/
inductive Recipe where
  /-- The instruction that a word stands for. -/
  | word (w : Word)
  | line (text : Text)
  | parts (shape : Shape) (operands : List Operand)
  deriving DecidableEq, Repr

/-- Makes the instruction that a recipe describes. -/
def Recipe.make (d : Dialect) : Recipe → Traced Fault Instruction
  | .word w => d.decode w
  | .line text => d.parse text
  | .parts shape operands => .ofExcept (Instruction.build shape operands)

/-! ## Steps -/

/-- What a session keeps. -/
structure Session where
  dialect : Dialect
  /-- The instruction at hand. -/
  held : Option Instruction
  deriving DecidableEq, Repr

/-- One step of a session. -/
inductive Step where
  | configure (d : Dialect)
  /-- Makes an instruction anew. -/
  | set (recipe : Recipe)
  /-- Reads the word of the held instruction. -/
  | redecode
  /-- Reads the text of the held instruction. -/
  | reparse
  /-- Reads the line of the held instruction, or the empty line. -/
  | reread
  /-- Puts together the shape and the operands of the held instruction. -/
  | rebuild
  /-- Puts the operands of the held instruction into another shape. -/
  | recast (shape : Shape)
  deriving DecidableEq, Repr

/-- What a session says to a step. -/
inductive Answer where
  | configured
  /-- There is no instruction to work on. -/
  | nothingHeld
  /-- No instruction came about. -/
  | refused (fault : Fault)
  /-- An instruction is now held, and whether the one before was the same. -/
  | holding (instruction : Instruction) (same : Bool)
  deriving DecidableEq, Repr

namespace Session

/-- A session that holds nothing yet. -/
def start (d : Dialect) : Session := ⟨d, none⟩

/-- The recipe that a step follows, if it makes an instruction and can. -/
def recipe? (s : Session) : Step → Option Recipe
  | .configure _ => none
  | .set recipe => some recipe
  | .redecode => s.held.map fun i => .word i.encode
  | .reparse => s.held.map fun i => .line i.render
  | .reread => s.held.map fun i => .line (i.source.getD [])
  | .rebuild => s.held.map fun i => .parts i.shape i.operands
  | .recast shape => s.held.map fun i => .parts shape i.operands

/-- Follows a recipe and holds what comes of it. -/
def follow (s : Session) (recipe : Recipe) : Session × Answer :=
  match (recipe.make s.dialect).outcome with
  | .error fault => (s, .refused fault)
  | .ok ins => ({ s with held := some ins }, .holding ins (s.held.any ins.sameAs))

def step (s : Session) (st : Step) : Session × Answer :=
  match st with
  | .configure d => ({ s with dialect := d }, .configured)
  | st =>
    match s.recipe? st with
    | none => (s, .nothingHeld)
    | some recipe => s.follow recipe

/-- Takes steps one after the other, with the answer to each. -/
def run (s : Session) : List Step → List Answer
  | [] => []
  | st :: rest => (s.step st).2 :: (s.step st).1.run rest

end Session

end Chip8Assembly
