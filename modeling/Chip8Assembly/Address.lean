import Chip8Assembly.Text.Numeral

/-!
# Addresses

An address is a number of at most 32 bits.  It is read in hexadecimal behind
the mark `0x` and in decimal without it, with blanks around it passed over, and
it is written in hexadecimal with at least four digits.
-/

namespace Chip8Assembly.Address

def largest : Nat := 0xFFFFFFFF

def read (t : Text) : Except NumeralFault Nat :=
  let t := Text.trim t
  match Numeral.afterHexMark? t with
  | some digits => Numeral.read 16 largest digits
  | none => Numeral.read 10 largest t

def render (address : Nat) : Text := Numeral.hex 4 address

end Chip8Assembly.Address
