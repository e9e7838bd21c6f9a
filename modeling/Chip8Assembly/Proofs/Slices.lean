import Chip8Assembly.Image

/-!
# Slices — the bytes of a range, by their addresses

An image answers for an address with the byte that lies there.  A range is cut
to the image at both of its ends, and what is left of it starts at the greater
of the two starts and ends at the smaller of the two ends:

* `length_slice` — so many bytes are left;
* `slice_append` — ranges that meet hold what the range over them holds;
* `getElem?_slice` — the bytes are those at the addresses from that start on;
* `getElem?_pairs_slice` — the words of the range lie two addresses apart.
-/

namespace Chip8Assembly

/-! ## Words of a stream, by their positions -/

namespace Word

theorem length_pairs (bs : List Byte) :
    (pairs bs).length = bs.length / size := by
  induction bs using pairs.induct with
  | case1 hi lo rest ih =>
      rw [pairs, List.length_cons, ih, List.length_cons, List.length_cons]
      exact (Nat.add_div_right rest.length (by decide)).symm
  | case2 bs hbs =>
      cases bs with
      | nil => rfl
      | cons a bs =>
          cases bs with
          | nil =>
              show 0 = 1 / size
              rfl
          | cons b rest => exact absurd rfl (hbs a b rest)

/-- **A word of a stream** is made of the bytes at its position. -/
theorem getElem?_pairs (bs : List Byte) (k : Nat) :
    (pairs bs)[k]? =
      match bs[k * size]?, bs[k * size + 1]? with
      | some hi, some lo => some (ofBytes hi lo)
      | _, _ => none := by
  have hsucc : ∀ k, (k + 1) * size = k * size + 1 + 1 :=
    fun k => Nat.succ_mul k size
  induction bs using pairs.induct generalizing k with
  | case1 hi lo rest ih =>
      cases k with
      | zero => rfl
      | succ k =>
          rw [pairs, List.getElem?_cons_succ, ih, hsucc]
          rfl
  | case2 bs hbs =>
      cases bs with
      | nil => rfl
      | cons a bs =>
          cases bs with
          | nil =>
              cases k with
              | zero => rfl
              | succ k =>
                  rw [hsucc]
                  rfl
          | cons b rest => exact absurd rfl (hbs a b rest)

/-- **Words of two streams,** one behind the other, if the first is even. -/
theorem pairs_append {bs : List Byte} (h : bs.length % size = 0)
    (cs : List Byte) : pairs (bs ++ cs) = pairs bs ++ pairs cs := by
  have hwords : ∀ ws, pairs (flatten ws ++ cs) = ws ++ pairs cs := by
    intro ws
    induction ws with
    | nil => rfl
    | cons w ws ih =>
        rw [flatten_cons]
        show ofBytes w.high w.low :: pairs (flatten ws ++ cs) = _
        rw [ofBytes_high_low, ih]
        rfl
  calc pairs (bs ++ cs)
      = pairs (flatten (pairs bs) ++ cs) := by rw [flatten_pairs bs h]
    _ = pairs bs ++ pairs cs := hwords _

end Word

namespace Image

/-! ## Bytes and words at addresses -/

/-- The byte at an address, if the image reaches it. -/
def byteAt? (img : Image) (address : Nat) : Option Byte :=
  if img.base ≤ address then img.bytes[address - img.base]? else none

/-- The word whose high byte lies at an address and whose low byte at the
    next. -/
def wordAt? (img : Image) (address : Nat) : Option Word :=
  match img.byteAt? address, img.byteAt? (address + 1) with
  | some hi, some lo => some (Word.ofBytes hi lo)
  | _, _ => none

/-! ## What a range holds -/

/-- An empty range is the slice of no bytes. -/
theorem slice_eq (img : Image) (start stop : Nat) :
    img.slice start stop
      = (img.bytes.drop (img.offset start)).take
          (img.offset stop - img.offset start) := by
  by_cases h : img.offset start ≥ img.offset stop
  · rw [Nat.sub_eq_zero_of_le h, List.take_zero]
    exact if_pos h
  · exact if_neg h

/-- No address lies further into the image than its last byte. -/
theorem offset_le_length (img : Image) (address : Nat) :
    img.offset address ≤ img.bytes.length :=
  Nat.sub_le_iff_le_add'.mpr (Nat.min_le_right _ _)

/-- The ends of a range are as far apart as those of its addresses within the
    image. -/
theorem offset_sub_offset (img : Image) (start stop : Nat) :
    img.offset stop - img.offset start
      = min stop img.stop - max start img.base := by
  have hends : img.base ≤ img.stop := Nat.le_add_right _ _
  simp only [offset, clip]
  omega

/-- **A range has as many bytes as addresses within the image.** -/
theorem length_slice (img : Image) (start stop : Nat) :
    (img.slice start stop).length = min stop img.stop - max start img.base := by
  have hle : img.offset stop - img.offset start
      ≤ img.bytes.length - img.offset start :=
    Nat.sub_le_sub_right (img.offset_le_length stop) _
  rw [slice_eq, List.length_take, List.length_drop, Nat.min_eq_left hle,
    offset_sub_offset]

/-- **Two ranges that meet** hold what the range over both of them holds. -/
theorem slice_append (img : Image) {start mid stop : Nat} (hstart : start ≤ mid)
    (hstop : mid ≤ stop) :
    img.slice start stop = img.slice start mid ++ img.slice mid stop := by
  have hmono : ∀ {a b : Nat}, a ≤ b → img.offset a ≤ img.offset b := by
    intro a b h
    simp only [offset, clip]
    omega
  have hfirst := hmono hstart
  have hsecond := hmono hstop
  -- the second range goes on where the first one ends
  have hsum : img.offset stop - img.offset start
      = (img.offset mid - img.offset start)
        + (img.offset stop - img.offset mid) := by omega
  rw [slice_eq, slice_eq, slice_eq, hsum, List.take_add, List.drop_drop,
    Nat.add_sub_of_le hfirst]

section

variable (img : Image) {start stop : Nat}

/-- **The bytes of a range are those at its addresses,** in their order. -/
theorem getElem?_slice {i : Nat}
    (h : i < min stop img.stop - max start img.base) :
    (img.slice start stop)[i]? = img.byteAt? (max start img.base + i) := by
  have hbase : img.base ≤ max start img.base := Nat.le_max_right _ _
  have hstop : max start img.base ≤ img.stop := by
    have hlt := Nat.lt_of_sub_pos (Nat.zero_lt_of_lt h)
    exact Nat.le_trans (Nat.le_of_lt hlt) (Nat.min_le_right _ _)
  have hoffset : img.offset start = max start img.base - img.base :=
    congrArg (· - img.base) (Nat.min_eq_left hstop)
  rw [← offset_sub_offset] at h
  rw [slice_eq, List.getElem?_take_of_lt h, List.getElem?_drop, hoffset,
    ← Nat.sub_add_comm hbase, byteAt?, if_pos (Nat.le_add_right_of_le hbase)]

theorem length_pairs_slice (start stop : Nat) :
    (Word.pairs (img.slice start stop)).length
      = (min stop img.stop - max start img.base) / Word.size := by
  rw [Word.length_pairs, length_slice]

/-- **The words of a range lie two addresses apart.** -/
theorem getElem?_pairs_slice {k : Nat}
    (h : k < (min stop img.stop - max start img.base) / Word.size) :
    (Word.pairs (img.slice start stop))[k]?
      = img.wordAt? (max start img.base + k * Word.size) := by
  have hlow : k * Word.size + 1 < min stop img.stop - max start img.base := by
    have hmul := (Nat.le_div_iff_mul_le (by decide : 0 < Word.size)).mp h
    rw [Nat.succ_mul] at hmul
    exact hmul
  rw [Word.getElem?_pairs, getElem?_slice img (Nat.lt_of_succ_lt hlow),
    getElem?_slice img hlow, wordAt?]
  rfl

/-- Every word of a range lies at its address. -/
theorem exists_getElem?_pairs_slice {k : Nat}
    (h : k < (min stop img.stop - max start img.base) / Word.size) :
    ∃ w, (Word.pairs (img.slice start stop))[k]? = some w ∧
      img.wordAt? (max start img.base + k * Word.size) = some w := by
  rw [← length_pairs_slice] at h
  refine ⟨_, List.getElem?_eq_getElem h, ?_⟩
  rw [← List.getElem?_eq_getElem]
  rw [length_pairs_slice] at h
  exact (img.getElem?_pairs_slice h).symm

end

end Image

end Chip8Assembly
