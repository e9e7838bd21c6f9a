import Chip8Assembly.Listing
import Chip8Assembly.Json.Reading

/-!
# Operands, instructions, dialects and reports as JSON

A shape, a kind or a policy is a string with its name, and may also be given
as an object whose only member has that name and the value `null`.  An operand
or a dialect is an object with all of its fields, or an array of just these in
order; a member with another name is passed over, and a field must not be
given twice.

Instructions and reports are written and not read.  The word and the line of an
instruction are left out where there are none.
-/

namespace Chip8Assembly

namespace Json

/-! ## Reading -/

/-- The name in the place of a variant without data. -/
def variantName? : Json → Option Text
  | .object [(name, .null)] => unescape? name
  | j => j.text?

/-- The element of a list with the name that a value gives. -/
def variant? {α : Type} (all : List α) (name : α → Text) (j : Json) : Option α := do
  let given ← variantName? j
  all.find? fun a => name a == given

/-- The value of the one member with a name. -/
def field? (name : Text) (members : List (Text × Json)) : Option Json :=
  match members.filter fun m => m.1 == name with
  | [m] => some m.2
  | _ => none

/-- The values of the two fields of a record. -/
def twoFields? (first second : Text) : Json → Option (Json × Json)
  | .array [a, b] => some (a, b)
  | j => do
    let members ← members? j
    let a ← field? first members
    let b ← field? second members
    pure (a, b)

end Json

namespace Shape

/-- The JSON of a shape. -/
def toJson (s : Shape) : Json := .text s.name

/-- The shape that a value names. -/
def ofJson? (j : Json) : Option Shape := Json.variant? all name j

end Shape

namespace Kind

/-- The JSON of a kind. -/
def toJson (k : Kind) : Json := .text k.name

/-- The kind that a value names. -/
def ofJson? (j : Json) : Option Kind := Json.variant? all name j

end Kind

namespace LetterPolicy

/-- The JSON of a policy. -/
def toJson (p : LetterPolicy) : Json := .text p.name

/-- The policy that a value names. -/
def ofJson? (j : Json) : Option LetterPolicy := Json.variant? all name j

end LetterPolicy

namespace Operand

/-- The JSON of an operand. -/
def toJson (o : Operand) : Json :=
  .record [("kind".toList, o.kind.toJson), ("value".toList, .nat o.value.toNat)]

/-- The operand that a value describes. -/
def ofJson? (j : Json) : Option Operand := do
  let (kind, value) ← Json.twoFields? "kind".toList "value".toList j
  let kind ← Kind.ofJson? kind
  let value ← Json.nat? 0xFFFF value
  pure ⟨kind, BitVec.ofNat 16 value⟩

end Operand

namespace Dialect

/-- The JSON of a dialect. -/
def toJson (d : Dialect) : Json :=
  .record [("strict".toList, .bool d.strict),
    ("unknown_operands".toList, d.unknownOperands.toJson)]

/-- The dialect that a value describes. -/
def ofJson? (j : Json) : Option Dialect := do
  let (strict, policy) ← Json.twoFields? "strict".toList "unknown_operands".toList j
  let strict ← Json.bool? strict
  let policy ← LetterPolicy.ofJson? policy
  pure ⟨strict, policy⟩

end Dialect

namespace Instruction

/-- The JSON of an instruction. -/
def toJson (i : Instruction) : Json :=
  .record <|
    [("op".toList, i.shape.toJson),
     ("operands".toList, .array (i.operands.map Operand.toJson))] ++
    i.raw.toList.map (fun w => ("raw".toList, .nat w.toNat)) ++
    i.source.toList.map (fun t => ("source".toList, .text t))

end Instruction

/-- The JSON of a row. -/
def Row.toJson (row : Row) : Json :=
  .record
    [("addr".toList, .nat row.address), ("word".toList, .nat row.word.toNat),
     ("asm".toList, .text row.text), ("unknown".toList, .bool row.unclaimed)]

/-- The JSON of a report. -/
def Report.toJson (r : Report) : Json :=
  .record
    [("name".toList, .text r.name), ("base".toList, .nat r.base),
     ("end".toList, .nat r.stop), ("unknown".toList, .nat r.unclaimed),
     ("lines".toList, .array (r.rows.map Row.toJson))]

end Chip8Assembly
