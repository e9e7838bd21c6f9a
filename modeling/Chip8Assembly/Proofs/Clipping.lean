import Chip8Assembly.Proofs.Slices
import Mathlib.Tactic.SplitIfs

/-!
# Clipping — what is cut out of an image

The bytes of a range are found in steps, and each step asks for something: a sum
has to be an address, the bounds of a clamp have to be in order, a difference must
not go below zero, and a part of a list has to lie within it.  `Image.slice?`
takes these steps and gives up at the first one whose demand is not met.

No demand fails as long as the image ends at an address, wherever the range lies
and in whatever order its ends are (`slice?_eq`).  What is found are the bytes at
the addresses of the range, one address after the other (`slice_exact`).
-/

namespace Chip8Assembly.Image

/-! ## Steps that ask for something -/

/-- A sum, which has to be an address. -/
def sum? (m n : Nat) : Option Nat :=
  if m + n ≤ Address.largest then some (m + n) else none

/-- A difference, which must not go below zero. -/
def difference? (m n : Nat) : Option Nat :=
  if n ≤ m then some (m - n) else none

/-- A number, or the bound that it lies beyond.  The bounds have to be in
    order. -/
def clamp? (lo hi n : Nat) : Option Nat :=
  if lo ≤ hi then some (if n < lo then lo else if hi < n then hi else n) else none

/-- The bytes from one position up to another.  These have to be in order, and
    neither may lie behind the last byte. -/
def part? (bytes : List Byte) (lo hi : Nat) : Option (List Byte) :=
  if lo ≤ hi ∧ hi ≤ bytes.length then some ((bytes.drop lo).take (hi - lo)) else none

/-- How far into the image an address lies, step by step. -/
def offset? (img : Image) (address : Nat) : Option Nat := do
  let stop ← sum? img.base img.bytes.length
  let clipped ← clamp? img.base stop address
  difference? clipped img.base

/-- The bytes of a range, step by step. -/
def slice? (img : Image) (start stop : Nat) : Option (List Byte) := do
  let lo ← img.offset? start
  let hi ← img.offset? stop
  if lo ≥ hi then some [] else part? img.bytes lo hi

/-- Between bounds that are in order there is always a nearest number. -/
theorem clamp?_eq {lo hi : Nat} (h : lo ≤ hi) (n : Nat) :
    clamp? lo hi n = some (min (max n lo) hi) := by
  rw [clamp?, if_pos h]
  congr 1
  split_ifs with hlow hhigh
  · rw [Nat.max_eq_right (Nat.le_of_lt hlow), Nat.min_eq_left h]
  · have hlo : lo ≤ n := Nat.le_of_not_lt hlow
    rw [Nat.max_eq_left hlo, Nat.min_eq_right (Nat.le_of_lt hhigh)]
  · have hlo : lo ≤ n := Nat.le_of_not_lt hlow
    rw [Nat.max_eq_left hlo, Nat.min_eq_left (Nat.le_of_not_lt hhigh)]

section

variable (img : Image)

/-- The image is in order, so a clipped address does not lie before it. -/
theorem base_le_clip (address : Nat) : img.base ≤ img.clip address :=
  Nat.le_min.mpr ⟨Nat.le_max_right _ _, Nat.le_add_right _ _⟩

/-- Only the end of the image can be too large. -/
theorem offset?_eq (address : Nat) :
    img.offset? address
      = if img.stop ≤ Address.largest then some (img.offset address) else none := by
  rw [offset?]
  split_ifs with h
  · have hsum : sum? img.base img.bytes.length = some img.stop := if_pos h
    have hclamp : clamp? img.base img.stop address = some (img.clip address) :=
      clamp?_eq (Nat.le_add_right _ _) address
    have hdifference : difference? (img.clip address) img.base
        = some (img.offset address) := if_pos (img.base_le_clip address)
    simp only [Option.bind_eq_bind, hsum, hclamp, hdifference, Option.bind_some]
  · have hsum : sum? img.base img.bytes.length = none := if_neg h
    rw [hsum]
    rfl

/-- **No step fails** unless the end of the image is no address. -/
theorem slice?_eq (start stop : Nat) :
    img.slice? start stop
      = if img.stop ≤ Address.largest then some (img.slice start stop) else none := by
  rw [slice?, offset?_eq, offset?_eq]
  split_ifs with h
  · show (if img.offset start ≥ img.offset stop then some []
        else part? img.bytes (img.offset start) (img.offset stop))
      = some (img.slice start stop)
    rw [slice]
    split_ifs with hempty
    · rfl
    · have horder : img.offset start ≤ img.offset stop :=
        Nat.le_of_not_le hempty
      exact if_pos ⟨horder, img.offset_le_length stop⟩
  · rfl

/-! ## Address by address -/

/-- A range that has no addresses has no bytes. -/
theorem slice_of_le {start stop : Nat} (h : stop ≤ start) :
    img.slice start stop = [] := by
  have hle : min stop img.stop ≤ max start img.base :=
    Nat.le_trans (Nat.min_le_left _ _) (Nat.le_trans h (Nat.le_max_left _ _))
  rw [← List.length_eq_zero_iff, length_slice, Nat.sub_eq_zero_of_le hle]

/-- A range of one address has the byte that lies there. -/
theorem slice_succ (address : Nat) :
    img.slice address (address + 1) = (img.byteAt? address).toList := by
  rw [slice_eq, offset_sub_offset]
  by_cases hbase : img.base ≤ address
  · rw [byteAt?, if_pos hbase]
    by_cases hstop : address < img.stop
    · have hone : min (address + 1) img.stop - max address img.base = 1 := by omega
      have hoffset : img.offset address = address - img.base := by
        rw [offset, clip, Nat.max_eq_left hbase, Nat.min_eq_left (Nat.le_of_lt hstop)]
      rw [hone, hoffset, List.take_one, List.head?_drop]
    · -- the image ends at the address or before it
      have hnone : min (address + 1) img.stop - max address img.base = 0 := by omega
      have hlength : img.bytes.length ≤ address - img.base :=
        Nat.le_sub_of_add_le' (Nat.le_of_not_lt hstop)
      rw [hnone, List.take_zero, List.getElem?_eq_none hlength]
      rfl
  · have hnone : min (address + 1) img.stop - max address img.base = 0 := by omega
    rw [hnone, List.take_zero, byteAt?, if_neg hbase]
    rfl

/-- The bytes at addresses that follow one another. -/
theorem slice_add (start n : Nat) :
    img.slice start (start + n) = (List.range' start n).filterMap img.byteAt? := by
  induction n with
  | zero => exact img.slice_of_le (Nat.le_refl start)
  | succ n ih =>
      -- the last address of the range is split off
      rw [← Nat.add_assoc, img.slice_append (Nat.le_add_right start n) (Nat.le_succ _),
        ih, slice_succ, List.range'_1_concat, List.filterMap_append,
        List.filterMap_cons, List.filterMap_nil]
      cases img.byteAt? (start + n) with
      | none => rfl
      | some byte => rfl

/-- **A range holds the bytes at its addresses,** and nothing else. -/
theorem slice_eq_filterMap (start stop : Nat) :
    img.slice start stop
      = (List.range' start (stop - start)).filterMap img.byteAt? := by
  rcases Nat.le_total start stop with hle | hle
  · obtain ⟨n, rfl⟩ := Nat.exists_eq_add_of_le hle
    rw [Nat.add_sub_cancel_left, slice_add]
  · rw [img.slice_of_le hle, Nat.sub_eq_zero_of_le hle]
    rfl

end

/-- **What is cut out of an image.**  If the image ends at an address, then every
    range can be cut out of it: no sum is too large, no difference goes below zero,
    no bounds are out of order, and no byte is looked for where there is none.
    What is cut out are the bytes at the addresses of the range in their order, and
    none if the range is reversed.  So a range can be cut in two at any of its
    addresses. -/
theorem slice_exact {img : Image} (himg : img.stop ≤ Address.largest)
    (start stop : Nat) :
    img.slice? start stop = some (img.slice start stop) ∧
    img.slice start stop
      = (List.range' start (stop - start)).filterMap img.byteAt? ∧
    ∀ mid, start ≤ mid → mid ≤ stop →
      img.slice start stop = img.slice start mid ++ img.slice mid stop := by
  refine ⟨?_, img.slice_eq_filterMap start stop, fun mid hstart hstop => ?_⟩
  · rw [slice?_eq, if_pos himg]
  · exact img.slice_append hstart hstop

/-- An image that ends at the largest address, cut with the ends of the range on
    its two sides, in either order.  With one more byte the first step fails. -/
theorem slice_exact_largest :
    ∃ img : Image, img = ⟨['t'], 0xFFFFFFFD, [7, 8]⟩ ∧
      img.stop ≤ Address.largest ∧
      img.slice? 0 0xFFFFFFFF = some [7, 8] ∧
      img.slice 0 0xFFFFFFFF
        = img.slice 0 0xFFFFFFFE ++ img.slice 0xFFFFFFFE 0xFFFFFFFF ∧
      img.slice? 0xFFFFFFFF 0 = some [] ∧
      slice? ⟨['t'], 0xFFFFFFFD, [7, 8, 9]⟩ 0 0xFFFFFFFF = none := by
  have himg : Image.stop ⟨['t'], 0xFFFFFFFD, [7, 8]⟩ ≤ Address.largest := by decide
  obtain ⟨hfound, -, hcut⟩ := slice_exact himg 0 0xFFFFFFFF
  obtain ⟨hreversed, -, -⟩ := slice_exact himg 0xFFFFFFFF 0
  exact ⟨_, rfl, himg, hfound, hcut 0xFFFFFFFE (by decide) (by decide), hreversed, rfl⟩

end Chip8Assembly.Image
