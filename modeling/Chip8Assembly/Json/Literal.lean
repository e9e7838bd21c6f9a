import Chip8Assembly.Text.Numeral

/-!
# String literals of JSON

A string literal stands between double quotes; what is between them is its
*body*.  A body may give a character by an escape, and characters outside the
basic plane by the escapes of two surrogates.  Escaping writes a text as the
body that uses an escape only where one is needed; unescaping reads any body,
and fails only where a surrogate stands without its partner.
-/

namespace Chip8Assembly.Json

/-! ## Escaping -/

/-- The body of one character. -/
def escapeChar (c : Char) : Text :=
  match c with
  | '"' => ['\\', '"']
  | '\\' => ['\\', '\\']
  | '\x08' => ['\\', 'b']
  | '\x0c' => ['\\', 'f']
  | '\n' => ['\\', 'n']
  | '\r' => ['\\', 'r']
  | '\t' => ['\\', 't']
  | c =>
    if c.toNat < 0x20 then ['\\', 'u'] ++ Numeral.hexDigits 4 c.toNat else [c]

/-- The body that stands for a text. -/
def escape (t : Text) : Text := t.flatMap escapeChar

/-! ## Unescaping -/

/-- The number that four hexadecimal digits stand for. -/
def unitOfDigits? (digits : Text) : Option Nat := do
  let values ← digits.mapM Numeral.digitValue?
  pure (values.foldl (fun n d => n * 16 + d) 0)

/-- The character that a letter stands for behind a backslash. -/
def escapedLetter? : Char → Option Char
  | '"' => some '"'
  | '\\' => some '\\'
  | '/' => some '/'
  | 'b' => some '\x08'
  | 'f' => some '\x0c'
  | 'n' => some '\n'
  | 'r' => some '\r'
  | 't' => some '\t'
  | _ => none

/-- The code points that a body lists, surrogates among them. -/
def codePoints? : Text → Option (List Nat)
  | [] => some []
  | '\\' :: 'u' :: a :: b :: c :: d :: rest => do
    let n ← unitOfDigits? [a, b, c, d]
    let ns ← codePoints? rest
    pure (n :: ns)
  | '\\' :: c :: rest => do
    let c ← escapedLetter? c
    let ns ← codePoints? rest
    pure (c.toNat :: ns)
  | c :: rest => do
    let ns ← codePoints? rest
    pure (c.toNat :: ns)

/-- Whether a code point is the first of a pair of surrogates. -/
def isLeading (n : Nat) : Bool := 0xD800 ≤ n && n < 0xDC00

/-- Whether a code point is the second of a pair of surrogates. -/
def isTrailing (n : Nat) : Bool := 0xDC00 ≤ n && n < 0xE000

/-- The text of a list of code points, in which surrogates stand in pairs. -/
def joinSurrogates? : List Nat → Option Text
  | [] => some []
  | n :: rest =>
    if isTrailing n then none
    else if isLeading n then
      match rest with
      | m :: rest =>
        if isTrailing m then
          (joinSurrogates? rest).map
            (Char.ofNat (0x10000 + (n - 0xD800) * 0x400 + (m - 0xDC00)) :: ·)
        else none
      | [] => none
    else (joinSurrogates? rest).map (Char.ofNat n :: ·)

/-- The text that a body stands for. -/
def unescape? (body : Text) : Option Text :=
  (codePoints? body).bind joinSurrogates?

end Chip8Assembly.Json
