import Chip8Assembly.Image
import Chip8Assembly.Program

/-!
# Listings — the instructions of a range of memory

A listing has one row for each word of a range: its address, the word, the
text of its instruction, and whether no shape claims it.  The range is cut to
the image first, and the words are counted from where the range meets it.
-/

namespace Chip8Assembly

/-- One word of a listing. -/
structure Row where
  /-- Where the word lies. -/
  address : Nat
  word : Word
  text : Text
  /-- Whether no shape claims the word. -/
  unclaimed : Bool
  deriving DecidableEq, Repr

/-- Why there is no listing of a range. -/
inductive ListingFault where
  /-- The range ends before it starts. -/
  | reversed
  /-- The bytes of the range are no stream of words. -/
  | stream (fault : Fault)
  /-- The word at an address is refused. -/
  | refused (address : Nat) (fault : Fault)
  deriving DecidableEq, Repr

def ListingFault.message : ListingFault → Text
  | .reversed => "end must be >= start".toList
  | .stream fault => fault.message
  | .refused address fault => Address.render address ++ [':', ' '] ++ fault.message

namespace Row

/-- The row of a word at an address. -/
def read (d : Dialect) (address : Nat) (w : Word) : Traced ListingFault Row := do
  let ins ← (d.decode w).mapFault (.refused address)
  pure ⟨address, w, ins.render, ins.isUnknown⟩

/-- The text of a row, with the two bytes of the word before its instruction
    if they are asked for. -/
def render (showBytes : Bool) (row : Row) : Text :=
  Address.render row.address ++ [':', ' '] ++
    (if showBytes then
      Numeral.hexDigits 2 row.word.high.toNat ++ ' ' ::
        Numeral.hexDigits 2 row.word.low.toNat ++ [' ', ' ']
    else []) ++ row.text

end Row

namespace Image

/-- The rows of the words from `start` up to, but not including, `stop`. -/
def listing (img : Image) (d : Dialect) (start stop : Nat) :
    Traced ListingFault (List Row) := do
  if stop < start then .fail .reversed
  else
    let ws ← .ofExcept ((Word.ofStream (img.slice start stop)).mapError .stream)
    let first := max start img.base
    Traced.collect (fun p => Row.read d (first + p.2 * Word.size) p.1) ws.zipIdx

end Image

/-! ## Showing a listing -/

/-- A listing as text, each row ended by a newline. -/
def Listing.text (showBytes : Bool) (rows : List Row) : Text :=
  rows.flatMap fun row => row.render showBytes ++ ['\n']

/-- A listing with what it is a listing of. -/
structure Report where
  name : Text
  /-- The address of the first byte of the image. -/
  base : Nat
  /-- The address behind the last byte of the image. -/
  stop : Nat
  /-- How many rows no shape claims. -/
  unclaimed : Nat
  rows : List Row
  deriving DecidableEq, Repr

/-- The report of the rows of an image. -/
def Image.report (img : Image) (rows : List Row) : Report where
  name := img.name
  base := img.base
  stop := img.stop
  unclaimed := rows.countP Row.unclaimed
  rows := rows

/-! ## Telling where an image is mapped -/

namespace Image

/-- A text in a column of some width. -/
def column (width : Nat) (t : Text) : Text := t.rightpad width ' '

/-- The headings over the columns. -/
def headings : Text :=
  column 16 "name".toList ++ ' ' :: column 8 "start".toList ++ ' ' ::
    column 8 "end".toList ++ ' ' :: column 6 "words".toList

/-- The name of an image, its two ends, and the number of its words. -/
def placement (img : Image) : Text :=
  column 16 img.name ++ ' ' :: Address.render img.base ++ "   ".toList ++
    Address.render img.stop ++ "   ".toList ++
    column 6 (Numeral.decimal (img.bytes.length / Word.size))

/-- What is said of a byte at the end that belongs to no word. -/
def trailing (img : Image) : Text :=
  "warning: trailing byte at ".toList ++ Address.render (img.stop - 1)

end Image

end Chip8Assembly
