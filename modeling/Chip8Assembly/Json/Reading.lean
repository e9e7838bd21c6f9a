import Chip8Assembly.Json.Value

/-!
# Reading JSON

A reader takes a text apart into a value and the text that follows it.  The
grammar is that of the standard: four blank characters, no control character
inside a string, no superfluous zero in a number, no comma before a closing
bracket.  Values may be nested to any depth.
-/

namespace Chip8Assembly.Json

/-! ## Tokens -/

/-- Whether a character may stand between tokens. -/
def isSpace (c : Char) : Bool :=
  c == ' ' || c == '\n' || c == '\t' || c == '\r'

/-- A text without the spaces at its start. -/
def skipSpace (t : Text) : Text := t.dropWhile isSpace

/-- The body of a string and the text behind its closing quote, from the text
    behind its opening quote. -/
def readBody? : Text → Option (Text × Text)
  | [] => none
  | '"' :: rest => some ([], rest)
  | '\\' :: 'u' :: a :: b :: c :: d :: rest => do
    let _ ← unitOfDigits? [a, b, c, d]
    let (body, after) ← readBody? rest
    pure (['\\', 'u', a, b, c, d] ++ body, after)
  | '\\' :: c :: rest => do
    let _ ← escapedLetter? c
    let (body, after) ← readBody? rest
    pure ('\\' :: c :: body, after)
  | c :: rest =>
    if c.toNat < 0x20 then none
    else (readBody? rest).map fun (body, after) => (c :: body, after)

/-- At least one digit, and the text behind the digits. -/
def readDigits? (t : Text) : Option (Text × Text) :=
  match t.span Char.isDigit with
  | ([], _) => none
  | (digits, after) => some (digits, after)

/-- The digits before the point, which start with a zero only if there is no
    other. -/
def readWhole? : Text → Option (Text × Text)
  | '0' :: after => some (['0'], after)
  | t => readDigits? t

/-- The point and the digits behind it, or nothing if there is no point. -/
def readFraction? : Text → Option (Text × Text)
  | '.' :: rest => (readDigits? rest).map fun (digits, after) => ('.' :: digits, after)
  | t => some ([], t)

/-- The sign of an exponent, or nothing if there is none. -/
def readSign : Text → Text × Text
  | '+' :: rest => (['+'], rest)
  | '-' :: rest => (['-'], rest)
  | t => ([], t)

/-- The exponent, or nothing if there is none. -/
def readExponent? : Text → Option (Text × Text)
  | [] => some ([], [])
  | c :: rest =>
    if c == 'e' || c == 'E' then
      let (sign, rest) := readSign rest
      (readDigits? rest).map fun (digits, after) => (c :: sign ++ digits, after)
    else some ([], c :: rest)

/-- A number behind its sign. -/
def readUnsigned? (t : Text) : Option (Text × Text) := do
  let (whole, t) ← readWhole? t
  let (fraction, t) ← readFraction? t
  let (exponent, t) ← readExponent? t
  pure (whole ++ fraction ++ exponent, t)

/-- A number. -/
def readNumber? : Text → Option (Text × Text)
  | '-' :: rest => (readUnsigned? rest).map fun (literal, after) => ('-' :: literal, after)
  | t => readUnsigned? t

/-! ## Values -/

mutual

/-- A value and the text behind it.  The number bounds the nesting and is
    large enough if it is twice the length of the text. -/
def readValue? : Nat → Text → Option (Json × Text)
  | 0, _ => none
  | fuel + 1, t =>
    match skipSpace t with
    | 'n' :: 'u' :: 'l' :: 'l' :: after => some (.null, after)
    | 't' :: 'r' :: 'u' :: 'e' :: after => some (.bool true, after)
    | 'f' :: 'a' :: 'l' :: 's' :: 'e' :: after => some (.bool false, after)
    | '"' :: rest =>
      (readBody? rest).map fun (body, after) => (.string body, after)
    | '[' :: rest =>
      match skipSpace rest with
      | ']' :: after => some (.array [], after)
      | rest =>
        (readItems? fuel rest).map fun (items, after) => (.array items, after)
    | '{' :: rest =>
      match skipSpace rest with
      | '}' :: after => some (.object [], after)
      | rest =>
        (readMembers? fuel rest).map fun (members, after) =>
          (.object members, after)
    | t => (readNumber? t).map fun (literal, after) => (.number literal, after)

/-- The items of an array up to its closing bracket. -/
def readItems? : Nat → Text → Option (List Json × Text)
  | 0, _ => none
  | fuel + 1, t => do
    let (item, t) ← readValue? fuel t
    match skipSpace t with
    | ',' :: rest =>
      let (items, after) ← readItems? fuel rest
      pure (item :: items, after)
    | ']' :: after => pure ([item], after)
    | _ => none

/-- The members of an object up to its closing brace. -/
def readMembers? : Nat → Text → Option (List (Text × Json) × Text)
  | 0, _ => none
  | fuel + 1, t =>
    match skipSpace t with
    | '"' :: rest => do
      let (name, t) ← readBody? rest
      match skipSpace t with
      | ':' :: rest =>
        let (value, t) ← readValue? fuel rest
        match skipSpace t with
        | ',' :: rest =>
          let (members, after) ← readMembers? fuel rest
          pure ((name, value) :: members, after)
        | '}' :: after => pure ([(name, value)], after)
        | _ => none
      | _ => none
    | _ => none

end

/-- The value that a text holds, with nothing but spaces around it. -/
def parse? (t : Text) : Option Json :=
  match readValue? (2 * t.length + 2) t with
  | some (value, after) => if (skipSpace after).isEmpty then some value else none
  | none => none

end Chip8Assembly.Json
