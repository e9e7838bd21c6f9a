import Chip8Assembly.Json.Literal

/-!
# JSON values and how they are written

A value keeps its numbers and strings as they are written: a number as its
literal, a string and the name of a member as the body of a literal.  Members
stay in their order and may share a name.

A value is written compactly, without any space.
-/

namespace Chip8Assembly

/-- A JSON value. -/
inductive Json where
  | null
  | bool (b : Bool)
  | number (literal : Text)
  | string (body : Text)
  | array (items : List Json)
  | object (members : List (Text × Json))

namespace Json

/-! ## Making values -/

/-- The string of a text. -/
def text (t : Text) : Json := .string (escape t)

/-- A natural number. -/
def nat (n : Nat) : Json := .number (Numeral.decimal n)

/-- An object with the given members. -/
def record (members : List (Text × Json)) : Json :=
  .object (members.map fun m => (escape m.1, m.2))

/-! ## Taking values apart -/

/-- The text of a string. -/
def text? : Json → Option Text
  | .string body => unescape? body
  | _ => none

/-- A natural number up to a limit, written with digits alone. -/
def nat? (limit : Nat) : Json → Option Nat
  | .number literal => (Numeral.readDigits 10 limit 0 literal).toOption
  | _ => none

/-- A truth value. -/
def bool? : Json → Option Bool
  | .bool b => some b
  | _ => none

/-- The members of an object, if the name of each of them stands for a
    text. -/
def members? : Json → Option (List (Text × Json))
  | .object members =>
    members.mapM fun m => (unescape? m.1).map fun name => (name, m.2)
  | _ => none

/-! ## Writing -/

/-- A literal with the given body. -/
def quotedBody (body : Text) : Text := '"' :: body ++ ['"']

/-- The literal of a truth value. -/
def boolLiteral (b : Bool) : Text := if b then "true".toList else "false".toList

mutual

/-- A value without any space. -/
def compact : Json → Text
  | .null => "null".toList
  | .bool b => boolLiteral b
  | .number literal => literal
  | .string body => quotedBody body
  | .array items => '[' :: [','].intercalate (compactItems items) ++ [']']
  | .object members => '{' :: [','].intercalate (compactMembers members) ++ ['}']

/-- The items of an array, each without any space. -/
def compactItems : List Json → List Text
  | [] => []
  | item :: items => compact item :: compactItems items

/-- The members of an object, each without any space. -/
def compactMembers : List (Text × Json) → List Text
  | [] => []
  | (name, value) :: members =>
    (quotedBody name ++ ':' :: compact value) :: compactMembers members

end

end Json

end Chip8Assembly
