import Chip8Assembly.Address
import Chip8Assembly.Word

/-!
# Images — bytes mapped into memory

An image is a run of bytes with the address of its first one.  An image made
from a file lies within the first 64 KiB of memory.
-/

namespace Chip8Assembly

/-- Bytes at consecutive addresses. -/
structure Image where
  name : Text
  /-- The address of the first byte. -/
  base : Nat
  bytes : List Byte
  deriving DecidableEq, Repr

namespace Image

/-! ## Ranges of an image -/

/-- The address behind the last byte. -/
def stop (img : Image) : Nat := img.base + img.bytes.length

/-- The nearest address within the image or just behind it. -/
def clip (img : Image) (address : Nat) : Nat :=
  min (max address img.base) img.stop

/-- How far into the image an address lies, once it is clipped. -/
def offset (img : Image) (address : Nat) : Nat := img.clip address - img.base

/-- The bytes of the image at the addresses from `start` up to, but not
    including, `stop`. -/
def slice (img : Image) (start stop : Nat) : List Byte :=
  let lo := img.offset start
  let hi := img.offset stop
  if lo ≥ hi then [] else (img.bytes.drop lo).take (hi - lo)

/-! ## Loading -/

def memorySize : Nat := 0x10000

/-- The address at which programs are loaded unless another is given. -/
def defaultBase : Nat := 0x200

/-- Why a file is not loaded. -/
inductive LoadFault where
  /-- More bytes are to be passed over than there are. -/
  | skipTooLarge
  /-- More bytes are to be taken than are left. -/
  | lengthTooLarge
  /-- The bytes do not fit into the memory from this address on. -/
  | outOfMemory (base : Nat)
  deriving DecidableEq, Repr

def LoadFault.message : LoadFault → Text
  | .skipTooLarge => "--skip exceeds file size".toList
  | .lengthTooLarge => "--len exceeds remaining file size after skip".toList
  | .outOfMemory base =>
    "image does not fit the 64 KiB address space at base ".toList ++
      Numeral.hex 1 base

/-- Maps bytes that fit into the memory. -/
def place (name : Text) (base : Nat) (bytes : List Byte) : Except LoadFault Image :=
  if base + bytes.length ≤ memorySize then .ok ⟨name, base, bytes⟩
  else .error (.outOfMemory base)

/-- Maps the bytes of a file behind the first `skip`: all of them, or as many
    as are asked for. -/
def load (name : Text) (base skip : Nat) (length? : Option Nat) (file : List Byte) :
    Except LoadFault Image :=
  if skip ≤ file.length then
    let rest := file.drop skip
    match length? with
    | none => place name base rest
    | some length =>
      if length ≤ rest.length then place name base (rest.take length)
      else .error .lengthTooLarge
  else .error .skipTooLarge

end Image

end Chip8Assembly
