import Chip8Assembly.Operand

/-!
# Instruction shapes

A shape is what all instructions of one sort share: a mnemonic, the bits fixed
in the word, and the slots of the word that hold the operands.  `unknown` is
the shape of whatever no other shape describes; its one slot is the whole word.

Two shapes may share a mnemonic; the kinds of their operands then tell them
apart.
-/

namespace Chip8Assembly

/-- A place for an operand in a word. -/
structure Slot where
  kind : Kind
  /-- How many bits up the operand lies. -/
  shift : Nat
  deriving DecidableEq, Repr

namespace Slot

/-- The first register, in the second nibble of the word. -/
def x : Slot := ⟨.register, 8⟩

/-- The second register, in the third nibble of the word. -/
def y : Slot := ⟨.register, 4⟩

/-- A byte at the end of the word. -/
def byte : Slot := ⟨.constant, 0⟩

/-- An address at the end of the word. -/
def address : Slot := ⟨.address, 0⟩

/-- A nibble at the end of the word. -/
def nibble : Slot := ⟨.nibble, 0⟩

def whole : Slot := ⟨.raw, 0⟩

/-- The operand that a word holds in a slot. -/
def operand (s : Slot) (w : Word) : Operand := .ofField s.kind s.shift w

end Slot

/-- The shapes of instructions. -/
inductive Shape where
  | clearScreen
  | returnFromSub
  | callNative
  | jump
  | callSub
  | skipEqConst
  | skipNeConst
  | skipEqReg
  | loadConst
  | addConst
  | loadReg
  | or
  | and
  | xor
  | addReg
  | sub
  | shiftRight
  | subN
  | shiftLeft
  | skipNeReg
  | loadIndex
  | jumpV0
  | random
  | draw
  | skipKey
  | skipNotKey
  | loadDelay
  | waitKey
  | setDelay
  | setSound
  | addIndex
  | loadSprite
  | bcd
  | storeRegs
  | loadRegs
  /-- Whatever no other shape describes. -/
  | unknown
  deriving DecidableEq, Repr

namespace Shape

/-- Every shape, in the order in which their rules are tried. -/
def all : List Shape :=
  [.clearScreen, .returnFromSub, .callNative, .jump, .callSub, .skipEqConst,
   .skipNeConst, .skipEqReg, .loadConst, .addConst, .loadReg, .or, .and, .xor,
   .addReg, .sub, .shiftRight, .subN, .shiftLeft, .skipNeReg, .loadIndex,
   .jumpV0, .random, .draw, .skipKey, .skipNotKey, .loadDelay, .waitKey,
   .setDelay, .setSound, .addIndex, .loadSprite, .bcd, .storeRegs, .loadRegs,
   .unknown]

def name : Shape → Text
  | .clearScreen => "ClearScreen".toList
  | .returnFromSub => "Return".toList
  | .callNative => "CallNative".toList
  | .jump => "Jump".toList
  | .callSub => "CallSub".toList
  | .skipEqConst => "SkipEqConst".toList
  | .skipNeConst => "SkipNeConst".toList
  | .skipEqReg => "SkipEqReg".toList
  | .loadConst => "LoadConst".toList
  | .addConst => "AddConst".toList
  | .loadReg => "LoadReg".toList
  | .or => "Or".toList
  | .and => "And".toList
  | .xor => "Xor".toList
  | .addReg => "AddReg".toList
  | .sub => "Sub".toList
  | .shiftRight => "ShiftRight".toList
  | .subN => "SubN".toList
  | .shiftLeft => "ShiftLeft".toList
  | .skipNeReg => "SkipNeReg".toList
  | .loadIndex => "LoadIndex".toList
  | .jumpV0 => "JumpV0".toList
  | .random => "Random".toList
  | .draw => "Draw".toList
  | .skipKey => "SkipKey".toList
  | .skipNotKey => "SkipNotKey".toList
  | .loadDelay => "LoadDelay".toList
  | .waitKey => "WaitKey".toList
  | .setDelay => "SetDelay".toList
  | .setSound => "SetSound".toList
  | .addIndex => "AddIndex".toList
  | .loadSprite => "LoadSprite".toList
  | .bcd => "Bcd".toList
  | .storeRegs => "StoreRegs".toList
  | .loadRegs => "LoadRegs".toList
  | .unknown => "Unknown".toList

/-- What a shape looks like in text and in a word. -/
structure Layout where
  /-- The first field of a line of this shape. -/
  mnemonic : Text
  /-- The bits that every word of this shape has, before its operands. -/
  base : Word
  /-- Where the operands lie, in the order in which they are written. -/
  slots : List Slot
  deriving DecidableEq, Repr

open Slot in
/-- The layout of each shape. -/
def layout : Shape → Layout
  | .clearScreen => ⟨['C', 'L', 'S'], 0x00E0, []⟩
  | .returnFromSub => ⟨['R', 'T', 'N'], 0x00EE, []⟩
  | .callNative => ⟨['S', 'Y', 'S'], 0x0000, [address]⟩
  | .jump => ⟨['J', 'M', 'P'], 0x1000, [address]⟩
  | .callSub => ⟨['C', 'A', 'L', 'L'], 0x2000, [address]⟩
  | .skipEqConst => ⟨['S', 'E'], 0x3000, [x, byte]⟩
  | .skipNeConst => ⟨['S', 'N', 'E'], 0x4000, [x, byte]⟩
  | .skipEqReg => ⟨['S', 'R', 'E'], 0x5000, [x, y]⟩
  | .loadConst => ⟨['L', 'D'], 0x6000, [x, byte]⟩
  | .addConst => ⟨['A', 'D', 'D'], 0x7000, [x, byte]⟩
  | .loadReg => ⟨['L', 'D', 'R'], 0x8000, [x, y]⟩
  | .or => ⟨['O', 'R'], 0x8001, [x, y]⟩
  | .and => ⟨['A', 'N', 'D'], 0x8002, [x, y]⟩
  | .xor => ⟨['X', 'O', 'R'], 0x8003, [x, y]⟩
  | .addReg => ⟨['A', 'D', 'D'], 0x8004, [x, y]⟩
  | .sub => ⟨['S', 'U', 'B'], 0x8005, [x, y]⟩
  | .shiftRight => ⟨['S', 'H', 'R'], 0x8006, [x, y]⟩
  | .subN => ⟨['S', 'U', 'B', 'N'], 0x8007, [x, y]⟩
  | .shiftLeft => ⟨['S', 'H', 'L'], 0x800E, [x, y]⟩
  | .skipNeReg => ⟨['S', 'R', 'N', 'E'], 0x9000, [x, y]⟩
  | .loadIndex => ⟨['L', 'D', 'I'], 0xA000, [address]⟩
  | .jumpV0 => ⟨['J', 'M', 'P', 'R'], 0xB000, [address]⟩
  | .random => ⟨['R', 'N', 'G'], 0xC000, [x, byte]⟩
  | .draw => ⟨['D', 'R', 'A', 'W'], 0xD000, [x, y, nibble]⟩
  | .skipKey => ⟨['S', 'K', 'P'], 0xE09E, [x]⟩
  | .skipNotKey => ⟨['S', 'K', 'N', 'P'], 0xE0A1, [x]⟩
  | .loadDelay => ⟨['L', 'D', 'D'], 0xF007, [x]⟩
  | .waitKey => ⟨['W', 'K', 'P', 'L'], 0xF00A, [x]⟩
  | .setDelay => ⟨['S', 'D', 'T'], 0xF015, [x]⟩
  | .setSound => ⟨['S', 'S', 'T'], 0xF018, [x]⟩
  | .addIndex => ⟨['A', 'D', 'D', 'I'], 0xF01E, [x]⟩
  | .loadSprite => ⟨['S', 'I', 'S', 'R'], 0xF029, [x]⟩
  | .bcd => ⟨['B', 'C', 'D'], 0xF033, [x]⟩
  | .storeRegs => ⟨['S', 'T', 'R'], 0xF055, [x]⟩
  | .loadRegs => ⟨['L', 'D', 'I', 'R'], 0xF065, [x]⟩
  | .unknown => ⟨['E', 'R', 'R', '!'], 0x0000, [whole]⟩

/-- The first field of a line of this shape. -/
def mnemonic (s : Shape) : Text := s.layout.mnemonic

/-- The bits that every word of this shape has, before its operands. -/
def base (s : Shape) : Word := s.layout.base

/-- Where the operands of this shape lie. -/
def slots (s : Shape) : List Slot := s.layout.slots

/-- The kinds of the operands of this shape, in order. -/
def kinds (s : Shape) : List Kind := s.slots.map Slot.kind

/-- Whether a list of operand kinds is exactly that of the shape. -/
def accepts (s : Shape) (kinds : List Kind) : Bool := kinds == s.kinds

theorem mem_all (s : Shape) : s ∈ all := by
  cases s <;> decide

end Shape

end Chip8Assembly
