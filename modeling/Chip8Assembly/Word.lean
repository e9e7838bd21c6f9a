import Chip8Assembly.Text.Numeral

/-!
# Words and the bytes that hold them

An instruction is one word of sixteen bits, kept in memory as two bytes with
the high one first.  A stream of words is a flat sequence of such pairs; a
stream of odd length ends in a byte that belongs to no word.

`pairs_flatten` and `flatten_pairs` say that words and the bytes of an even stream
determine each other.
-/

namespace Chip8Assembly

/-- An instruction word. -/
abbrev Word := BitVec 16

/-- A byte of a stream, a file or an image. -/
abbrev Byte := UInt8

namespace Word

def size : Nat := 2

/-- The word with a high and a low byte. -/
def ofBytes (hi lo : Byte) : Word := BitVec.ofNat 16 (hi.toNat * 256 + lo.toNat)

def high (w : Word) : Byte := UInt8.ofNat (w.toNat / 256)

def low (w : Word) : Byte := UInt8.ofNat (w.toNat % 256)

/-- The two bytes of a word, the high one first. -/
def bytes (w : Word) : List Byte := [w.high, w.low]

/-- The word in hexadecimal, with four digits behind the mark. -/
def render (w : Word) : Text := Numeral.hex 4 w.toNat

/-- A word is put together again from its bytes. -/
theorem ofBytes_high_low (w : Word) : ofBytes w.high w.low = w := by
  apply BitVec.eq_of_toNat_eq
  have := w.isLt
  simp only [ofBytes, high, low, UInt8.toNat_ofNat', BitVec.toNat_ofNat]
  omega

theorem high_ofBytes (hi lo : Byte) : (ofBytes hi lo).high = hi := by
  apply UInt8.toNat_inj.1
  have := hi.toNat_lt
  have := lo.toNat_lt
  simp only [ofBytes, high, UInt8.toNat_ofNat', BitVec.toNat_ofNat]
  omega

theorem low_ofBytes (hi lo : Byte) : (ofBytes hi lo).low = lo := by
  apply UInt8.toNat_inj.1
  have := hi.toNat_lt
  have := lo.toNat_lt
  simp only [ofBytes, low, UInt8.toNat_ofNat', BitVec.toNat_ofNat]
  omega

/-! ## Streams -/

/-- The words of the pairs of a stream, from its start; a single byte at the
    end belongs to none. -/
def pairs : List Byte → List Word
  | hi :: lo :: rest => ofBytes hi lo :: pairs rest
  | _ => []

/-- The bytes of a list of words, one word after the other. -/
def flatten (ws : List Word) : List Byte := ws.flatMap bytes

theorem flatten_cons (w : Word) (ws : List Word) :
    flatten (w :: ws) = w.high :: w.low :: flatten ws := by
  simp [flatten, bytes]

/-- **Words survive being written as bytes.** -/
theorem pairs_flatten (ws : List Word) : pairs (flatten ws) = ws := by
  induction ws with
  | nil => rfl
  | cons w ws ih => rw [flatten_cons, pairs, ofBytes_high_low, ih]

/-- **An even stream survives being read as words.** -/
theorem flatten_pairs (bs : List Byte) (h : bs.length % 2 = 0) :
    flatten (pairs bs) = bs := by
  induction bs using pairs.induct with
  | case1 hi lo rest ih =>
    have hrest : rest.length % 2 = 0 := by
      simp only [List.length_cons] at h
      omega
    rw [pairs, flatten_cons, high_ofBytes, low_ofBytes, ih hrest]
  | case2 bs hbs =>
    match bs, h with
    | [], _ => rfl
    | [_], h => simp at h
    | a :: b :: rest, _ => exact absurd rfl (hbs a b rest)

end Word

end Chip8Assembly
