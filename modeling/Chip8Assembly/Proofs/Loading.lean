import Chip8Assembly.Proofs.Ranges
import Mathlib.Algebra.Group.Nat.Defs

/-!
# Loading — what fits into the memory stays within it

Three things are asked of a file before it is mapped, one after the other: that
the bytes to be passed over are there, that those to be taken are, and that these
fit into the memory.  `load_eq` says what comes of that, with the number of bytes
taken as one number whether it was given or not.

An image that was loaded ends within the memory, and so does everything that is
counted from it: the address behind its last byte, the address of that byte, and
the addresses of all listings (`load_safe`).
-/

namespace Chip8Assembly.Image

/-! ## What is loaded -/

/-- How many bytes are taken of a file behind those passed over: as many as are
    asked for, or all. -/
def taken (skip : Nat) (length? : Option Nat) (file : List Byte) : Nat :=
  length?.getD (file.length - skip)

section

variable {name : Text} {base skip : Nat} {length? : Option Nat} {file : List Byte}

/-- Only a number that is given can be too large. -/
theorem taken_le_iff :
    taken skip length? file ≤ file.length - skip ↔
      ∀ length ∈ length?, length ≤ file.length - skip := by
  cases length? with
  | none => simp [taken]
  | some length => simp [taken]

/-- **The first of three checks that fails** is the fault of a file. -/
theorem load_eq (name : Text) (base skip : Nat) (length? : Option Nat)
    (file : List Byte) :
    load name base skip length? file
      = if file.length < skip then .error .skipTooLarge
        else if file.length - skip < taken skip length? file then
          .error .lengthTooLarge
        else if memorySize < base + taken skip length? file then
          .error (.outOfMemory base)
        else .ok ⟨name, base, (file.drop skip).take (taken skip length? file)⟩ := by
  have hplace : ∀ bytes : List Byte, place name base bytes
      = if memorySize < base + bytes.length then .error (.outOfMemory base)
        else .ok ⟨name, base, bytes⟩ := by
    intro bytes
    rw [place]
    split
    · rename_i hfits
      rw [if_neg (Nat.not_lt.mpr hfits)]
    · rename_i hlarge
      rw [if_pos (Nat.not_le.mp hlarge)]
  rw [load]
  by_cases hskip : skip ≤ file.length
  · rw [if_pos hskip, if_neg (Nat.not_lt.mpr hskip)]
    cases length? with
    | none =>
        have hall : (file.drop skip).take (file.length - skip) = file.drop skip := by
          rw [← List.length_drop, List.take_length]
        rw [taken, Option.getD_none, if_neg (Nat.lt_irrefl _), hall,
          ← List.length_drop]
        exact hplace (file.drop skip)
    | some length =>
        show (if length ≤ (file.drop skip).length then
            place name base ((file.drop skip).take length)
          else .error .lengthTooLarge) = _
        rw [taken, Option.getD_some, List.length_drop]
        by_cases hlength : length ≤ file.length - skip
        · have htaken : ((file.drop skip).take length).length = length := by
            rw [List.length_take, List.length_drop, Nat.min_eq_left hlength]
          rw [if_pos hlength, if_neg (Nat.not_lt.mpr hlength), hplace, htaken]
        · rw [if_neg hlength, if_pos (Nat.not_le.mp hlength)]
  · rw [if_neg hskip, if_pos (Nat.not_le.mp hskip)]

/-- **A file is loaded** exactly if nothing is the matter with it. -/
theorem load_eq_ok_iff {img : Image} :
    load name base skip length? file = .ok img ↔
      (skip ≤ file.length ∧ taken skip length? file ≤ file.length - skip ∧
        base + taken skip length? file ≤ memorySize) ∧
      img = ⟨name, base, (file.drop skip).take (taken skip length? file)⟩ := by
  rw [load_eq]
  split_ifs with hskip hlength hfits
  · exact ⟨nofun, fun h => absurd h.1.1 (Nat.not_le.mpr hskip)⟩
  · exact ⟨nofun, fun h => absurd h.1.2.1 (Nat.not_le.mpr hlength)⟩
  · exact ⟨nofun, fun h => absurd h.1.2.2 (Nat.not_le.mpr hfits)⟩
  · constructor
    · intro h
      exact ⟨⟨Nat.not_lt.mp hskip, Nat.not_lt.mp hlength, Nat.not_lt.mp hfits⟩,
        (Except.ok.inj h).symm⟩
    · rintro ⟨-, rfl⟩
      rfl

theorem fault_of_load {fault : LoadFault}
    (h : load name base skip length? file = .error fault) :
    fault =
      if file.length < skip then .skipTooLarge
      else if file.length - skip < taken skip length? file then .lengthTooLarge
      else .outOfMemory base := by
  rw [load_eq] at h
  split_ifs at h ⊢ with hskip hlength
  · exact (Except.error.inj h).symm
  · exact (Except.error.inj h).symm
  · exact (Except.error.inj h).symm

/-- **The bytes of an image are those of its file,** from behind the ones that are
    passed over. -/
theorem exists_append_of_load {img : Image}
    (h : load name base skip length? file = .ok img) :
    ∃ before after, file = before ++ img.bytes ++ after ∧ before.length = skip ∧
      img.bytes.length = taken skip length? file ∧ (length? = none → after = []) := by
  obtain ⟨⟨hskip, hlength, -⟩, rfl⟩ := load_eq_ok_iff.mp h
  refine ⟨file.take skip, (file.drop skip).drop (taken skip length? file), ?_,
    List.length_take_of_le hskip, ?_, ?_⟩
  · show file = file.take skip ++ (file.drop skip).take _ ++ _
    rw [List.append_assoc, List.take_append_drop, List.take_append_drop]
  · show ((file.drop skip).take _).length = _
    rw [List.length_take, List.length_drop, Nat.min_eq_left hlength]
  · rintro rfl
    rw [taken, Option.getD_none, ← List.length_drop, List.drop_length]

theorem base_of_load {img : Image}
    (h : load name base skip length? file = .ok img) : img.base = base := by
  rw [(load_eq_ok_iff.mp h).2]

/-- An image that is loaded ends within the memory. -/
theorem stop_le_of_load {img : Image}
    (h : load name base skip length? file = .ok img) : img.stop ≤ memorySize := by
  obtain ⟨before, after, -, -, hsize, -⟩ := exists_append_of_load h
  rw [stop, base_of_load h, hsize]
  exact (load_eq_ok_iff.mp h).1.2.2

end

/-! ## What is counted from an image -/

/-- Adding up in a limited number of bits loses nothing below the limit. -/
theorem toNat_add_ofNat {bits m n : Nat} (h : m + n < 2 ^ bits) :
    (BitVec.ofNat bits m + BitVec.ofNat bits n).toNat = m + n := by
  rw [← BitVec.ofNat_add, BitVec.toNat_ofNat, Nat.mod_eq_of_lt h]

/-- The address behind an image in the memory. -/
theorem toNat_stop {img : Image} (h : img.stop ≤ memorySize) :
    (BitVec.ofNat 32 img.base + BitVec.ofNat 32 img.bytes.length).toNat
      = img.stop :=
  toNat_add_ofNat (Nat.lt_of_le_of_lt h (by decide))

/-- The address of a last byte that belongs to no word. -/
theorem toNat_last {img : Image} (h : img.stop ≤ memorySize)
    (hodd : img.bytes.length % Word.size = 1) :
    0 < img.stop ∧ (BitVec.ofNat 32 img.stop - 1).toNat = img.stop - 1 := by
  have hpos : 0 < img.stop := by
    have hlength : 0 < img.bytes.length :=
      Nat.pos_of_ne_zero fun hzero => by rw [hzero] at hodd; exact nomatch hodd
    exact Nat.add_pos_right img.base hlength
  have hlt : img.stop < 2 ^ 32 := Nat.lt_of_le_of_lt h (by decide)
  refine ⟨hpos, ?_⟩
  rw [BitVec.toNat_sub_of_le, BitVec.toNat_ofNat, Nat.mod_eq_of_lt hlt]
  · rfl
  · rw [BitVec.le_def, BitVec.toNat_ofNat, Nat.mod_eq_of_lt hlt]
    exact hpos

/-- Every address that a listing names lies within the image. -/
theorem address_lt_of_listing {img : Image} {d : Dialect} {start stop : Nat} :
    (∀ rows, (img.listing d start stop).outcome = .ok rows →
      ∀ row ∈ rows, row.address + 1 < img.stop) ∧
    ∀ address fault,
      (img.listing d start stop).outcome = .error (.refused address fault) →
      address + 1 < img.stop := by
  have hlisted := img.listing_listed d start stop
  constructor
  · intro rows hrows row hrow
    rw [hrows] at hlisted
    exact Nat.lt_of_lt_of_le (hlisted.address_lt_stop hrow) (Nat.min_le_right _ _)
  · intro address fault hfault
    rw [hfault] at hlisted
    cases hlisted with
    | refused hends heven hstrict hk hw hunclaimed hbefore =>
        exact Nat.lt_of_lt_of_le (wordAddress_lt_stop hk) (Nat.min_le_right _ _)

/-- **What is loaded is safe.**  A file is loaded exactly if three checks succeed,
    and the first of them that fails is its fault; the sum in the third is right in
    64 bits, whatever the base.  The image consists of the bytes that were asked
    for.  It ends within the memory, and whatever is counted from it is right in 32
    bits: the address behind its last byte, the address of that byte, and the
    addresses that any listing of it names. -/
theorem load_safe (name : Text) (base skip : Nat) (length? : Option Nat)
    (file : List Byte) :
    let size := taken skip length? file
    let found := load name base skip length? file
    ((∃ img, found = .ok img) ↔
      skip ≤ file.length ∧ (∀ length ∈ length?, length ≤ file.length - skip) ∧
        base + size ≤ memorySize) ∧
    (∀ fault, found = .error fault → fault =
      if file.length < skip then .skipTooLarge
      else if file.length - skip < size then .lengthTooLarge
      else .outOfMemory base) ∧
    (base ≤ Address.largest → size < 2 ^ 63 →
      (BitVec.ofNat 64 base + BitVec.ofNat 64 size).toNat = base + size) ∧
    ∀ img, found = .ok img →
      (img.base = base ∧ ∃ before after, file = before ++ img.bytes ++ after ∧
        before.length = skip ∧ img.bytes.length = size ∧
          (length? = none → after = [])) ∧
      (img.stop ≤ memorySize ∧
        (BitVec.ofNat 32 img.base + BitVec.ofNat 32 img.bytes.length).toNat
          = img.stop) ∧
      (img.bytes.length % Word.size = 1 → 0 < img.stop ∧
        (BitVec.ofNat 32 img.stop - 1).toNat = img.stop - 1) ∧
      ∀ d start stop,
        (∀ rows, (img.listing d start stop).outcome = .ok rows →
          ∀ row ∈ rows, row.address + 1 < memorySize) ∧
        ∀ address fault,
          (img.listing d start stop).outcome = .error (.refused address fault) →
          address + 1 < memorySize := by
  intro size found
  refine ⟨?_, fun fault hfault => ?_, fun hbase hsize => toNat_add_ofNat ?_,
    fun img himg => ⟨⟨base_of_load himg, ?_⟩, ⟨stop_le_of_load himg, ?_⟩, fun hodd => ?_,
      fun d start stop => ⟨fun rows hrows row hrow => ?_,
        fun address fault hfault => ?_⟩⟩⟩
  · show (∃ img, load name base skip length? file = .ok img) ↔ _
    simp only [load_eq_ok_iff, exists_and_left, exists_eq, and_true]
    rw [taken_le_iff]
  · exact fault_of_load hfault
  · have hlargest : base ≤ 0xFFFFFFFF := hbase
    omega
  · exact exists_append_of_load himg
  · exact toNat_stop (stop_le_of_load himg)
  · exact toNat_last (stop_le_of_load himg) hodd
  · exact Nat.lt_of_lt_of_le (address_lt_of_listing.1 rows hrows row hrow)
      (stop_le_of_load himg)
  · exact Nat.lt_of_lt_of_le (address_lt_of_listing.2 address fault hfault)
      (stop_le_of_load himg)

/-- A file of odd size that ends with the memory, and files with nothing to load:
    behind all of their bytes, at the largest address, and with a wrong count. -/
theorem load_safe_edge :
    (∃ img, load ['r'] 0xFFFD 1 (some 3) [9, 0x00, 0xE0, 0x12, 9] = .ok img ∧
      img.bytes = [0x00, 0xE0, 0x12] ∧ img.stop = 0x10000 ∧
      (BitVec.ofNat 32 img.stop - 1).toNat = 0xFFFF) ∧
    (∃ img, load ['r'] 0x10000 2 none [1, 2] = .ok img) ∧
    load ['r'] 0xFFFFFFFF 2 none [1, 2] = .error (.outOfMemory 0xFFFFFFFF) ∧
    load ['r'] 0xFFFFFFFF 1 (some 2) [1, 2] = .error .lengthTooLarge := by
  refine ⟨?_, ?_, ?_, ?_⟩
  · obtain ⟨-, -, -, hsafe⟩ :=
      load_safe ['r'] 0xFFFD 1 (some 3) [9, 0x00, 0xE0, 0x12, 9]
    obtain ⟨-, -, hlast, -⟩ := hsafe _ rfl
    exact ⟨_, rfl, rfl, rfl, (hlast rfl).2⟩
  · exact (load_safe ['r'] 0x10000 2 none [1, 2]).1.mpr
      ⟨Nat.le_refl 2, nofun, Nat.le_refl 0x10000⟩
  · rfl
  · rfl

end Chip8Assembly.Image
