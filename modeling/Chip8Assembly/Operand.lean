import Chip8Assembly.Word

/-!
# Operands — typed values and their tokens

An operand is a value with a kind.  The kind fixes how many bits of the value
an instruction word has room for, and the letter that stands before the value
in assembly text: `v0x1` is register one, `c0xff` the constant 255.

A value read from a word always fits its kind.  A value read from text is kept
as it was written, and is cut to the width of its kind only when it is put into
a word.
-/

namespace Chip8Assembly

/-! ## Kinds -/

/-- What an operand stands for. -/
inductive Kind where
  /-- A place in memory. -/
  | address
  | constant
  | nibble
  /-- One of the sixteen registers. -/
  | register
  /-- A whole instruction word. -/
  | raw
  deriving DecidableEq, Repr

namespace Kind

def all : List Kind := [.address, .constant, .nibble, .register, .raw]

def name : Kind → Text
  | .address => "Address".toList
  | .constant => "Constant".toList
  | .nibble => "Nibble".toList
  | .register => "Register".toList
  | .raw => "Raw".toList

/-- The number of bits a word has for an operand of this kind. -/
def bits : Kind → Nat
  | .address => 12
  | .constant => 8
  | .nibble => 4
  | .register => 4
  | .raw => 16

/-- The low bits that an operand of this kind may use. -/
def mask (k : Kind) : Word := BitVec.ofNat 16 ((1 <<< k.bits) - 1)

/-- The letter that marks a token of this kind. -/
def letter : Kind → Char
  | .address => 'a'
  | .constant => 'c'
  | .nibble => 'n'
  | .register => 'v'
  | .raw => 'r'

/-- The kind with a given letter, in either ASCII case. -/
def ofLetter? (c : Char) : Option Kind :=
  all.find? fun k => k.letter == c.toLower

/-- Each letter names its own kind. -/
theorem ofLetter?_letter (k : Kind) : ofLetter? k.letter = some k := by
  cases k <;> decide

end Kind

/-! ## Operands -/

/-- A value of a kind. -/
structure Operand where
  /-- What the value stands for. -/
  kind : Kind
  /-- The value as it was given, which may be wider than the kind. -/
  value : Word
  deriving DecidableEq, Repr

namespace Operand

/-- The operand that lies `shift` bits up in a word. -/
def ofField (kind : Kind) (shift : Nat) (w : Word) : Operand :=
  ⟨kind, (w >>> shift) &&& kind.mask⟩

/-- The value cut to the width of the kind. -/
def masked (o : Operand) : Word := o.value &&& o.kind.mask

/-- The token of an operand: its letter and its value in hexadecimal. -/
def render (o : Operand) : Text := o.kind.letter :: Numeral.hex 1 o.value.toNat

/-- The number behind the letter of a token: hexadecimal digits, with or
    without their mark, up to the largest word. -/
def readValue (digits : Text) : Except NumeralFault Word :=
  (Numeral.read 16 0xFFFF ((Numeral.afterHexMark? digits).getD digits)).map
    (BitVec.ofNat 16)

/-- Reads a token.  A token that does not start with the letter of a kind is
    no operand; one that does has to go on with a number. -/
def read? : Text → Except NumeralFault (Option Operand)
  | [] => .ok none
  | c :: digits =>
    match Kind.ofLetter? c with
    | none => .ok none
    | some kind => (readValue digits).map fun value => some ⟨kind, value⟩

end Operand

end Chip8Assembly
