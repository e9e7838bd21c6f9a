import Chip8Assembly.Dialect

/-!
# Programs — sources and streams

A source is assembled line by line, and a line without content stands for
nothing.  A stream of bytes is read word by word.  The listing of instructions
has one line for each of them.
-/

namespace Chip8Assembly

/-- The words of a stream, or the fault of its last byte. -/
def Word.ofStream (stream : List Byte) : Except Fault (List Word) :=
  if stream.length % size = 0 then .ok (pairs stream)
  else .error (.truncatedStream (stream.length - 1) stream.length)

namespace Dialect

def decodeStream (d : Dialect) (stream : List Byte) :
    Traced Fault (List Instruction) := do
  let ws ← .ofExcept (Word.ofStream stream)
  Traced.collect d.decode ws

/-- The word of a numbered line.  A line that no shape claims is noted once
    more when its word is taken all the same. -/
def assembleLine (d : Dialect) (line : Text × Nat) : Traced Fault Word := do
  let ins ← (d.parse line.1).mapFault (.onLine line.2)
  .note (if ins.isUnknown then [.unclassifiedLine line.2 ins.encode line.1] else [])
  pure ins.encode

def assemble (d : Dialect) (source : Text) : Traced Fault (List Byte) := do
  let ws ← Traced.collect d.assembleLine (Text.contentLines source)
  pure (Word.flatten ws)

end Dialect

namespace Instruction

/-- The text of a list of instructions, each on a line. -/
def listing (is : List Instruction) : Text := Text.joinLines (is.map render)

end Instruction

end Chip8Assembly
