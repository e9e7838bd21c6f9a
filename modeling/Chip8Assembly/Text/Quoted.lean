import Chip8Assembly.Text.Numeral
import Chip8Assembly.Text.Unprintable

/-!
# Quoted text

A quoted text stands between double quotes.  Inside it the quote and the
backslash follow a backslash, four control characters have letters of their
own, and every other character that would not be visible is given by its
number in hexadecimal between braces.
-/

namespace Chip8Assembly.Text

/-- The form of one character inside quotes. -/
def quotedChar (c : Char) : Text :=
  match c with
  | '\x00' => ['\\', '0']
  | '\t' => ['\\', 't']
  | '\r' => ['\\', 'r']
  | '\n' => ['\\', 'n']
  | '\\' => ['\\', '\\']
  | '"' => ['\\', '"']
  | c =>
    if isUnprintable c then
      ['\\', 'u', '{'] ++ Numeral.hexDigits 1 c.toNat ++ ['}']
    else [c]

/-- A text between double quotes. -/
def quoted (t : Text) : Text := '"' :: t.flatMap quotedChar ++ ['"']

end Chip8Assembly.Text
