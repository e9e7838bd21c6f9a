import Chip8Assembly.Text.Blank

/-!
# Numerals — reading within a limit, and writing

A numeral is an optional plus sign and at least one digit.  Reading goes from
left to right and stops at the first digit that cannot be taken: because it is
no digit of the radix, or because the number so far would pass the limit.
Leading zeros never count against the limit.

Writing uses lowercase digits and no superfluous zero, except where a least
number of digits is asked for.
-/

namespace Chip8Assembly

/-- Why a text is no numeral. -/
inductive NumeralFault where
  | empty
  /-- A character that is no digit of the radix, or a sign with nothing after
      it. -/
  | invalidDigit
  | tooLarge
  deriving DecidableEq, Repr

def NumeralFault.message : NumeralFault → Text
  | .empty => "cannot parse integer from empty string".toList
  | .invalidDigit => "invalid digit found in string".toList
  | .tooLarge => "number too large to fit in target type".toList

namespace Numeral

/-! ## Reading -/

/-- The value of an ASCII digit, with the letters `a` to `f` in either case for
    ten to fifteen. -/
def digitValue? (c : Char) : Option Nat :=
  if '0' ≤ c ∧ c ≤ '9' then some (c.toNat - 48)
  else if 'a' ≤ c ∧ c ≤ 'f' then some (c.toNat - 87)
  else if 'A' ≤ c ∧ c ≤ 'F' then some (c.toNat - 55)
  else none

/-- The value of a digit of the given radix, which is at most sixteen. -/
def digit? (radix : Nat) (c : Char) : Option Nat :=
  (digitValue? c).filter (· < radix)

/-- Reads digits onto the number already read. -/
def readDigits (radix limit : Nat) : Nat → Text → Except NumeralFault Nat
  | n, [] => .ok n
  | n, c :: rest =>
    match digit? radix c with
    | none => .error .invalidDigit
    | some d =>
      if n * radix + d ≤ limit then readDigits radix limit (n * radix + d) rest
      else .error .tooLarge

/-- Reads a numeral: one plus sign may stand before the digits. -/
def read (radix limit : Nat) : Text → Except NumeralFault Nat
  | [] => .error .empty
  | ['+'] => .error .invalidDigit
  | '+' :: digits => readDigits radix limit 0 digits
  | digits => readDigits radix limit 0 digits

/-- The text behind the mark `0x` or `0X`, if it starts with one. -/
def afterHexMark? : Text → Option Text
  | '0' :: 'x' :: rest => some rest
  | '0' :: 'X' :: rest => some rest
  | _ => none

/-! ## Writing -/

/-- The decimal digits of a number. -/
def decimal (n : Nat) : Text := Nat.toDigits 10 n

/-- The hexadecimal digits of a number, at least `width` of them. -/
def hexDigits (width n : Nat) : Text := (Nat.toDigits 16 n).leftpad width '0'

/-- A number in hexadecimal behind the mark `0x`, with at least `width`
    digits. -/
def hex (width n : Nat) : Text := '0' :: 'x' :: hexDigits width n

end Numeral

end Chip8Assembly
