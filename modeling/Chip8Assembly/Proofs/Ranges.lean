import Chip8Assembly.Proofs.Listings
import Chip8Assembly.Proofs.Slices
import Chip8Assembly.Proofs.Streams

/-!
# Ranges — the listing of any part of an image

What a listing of a range has to be is said by `Image.Listed`, in terms of the
addresses of the range and of the words at them: a range that is reversed, that
is odd, or that holds a word that a strict dialect refuses has no listing, and
these reasons come in this order; any other range is listed word by word.

`listing_listed` says that every listing is of this sort.  Its rows lie within
the range, so no address of theirs is too large.
-/

namespace Chip8Assembly

/-! ## Steps for numbered elements -/

namespace Traced

variable {ε α β : Type} {f : α × Nat → Traced ε β} {xs : List α}

/-- Every numbered element has its value. -/
theorem getElem?_of_collect_zipIdx {ys : List β}
    (h : (collect f xs.zipIdx).outcome = .ok ys) {k : Nat} {x : α}
    (hx : xs[k]? = some x) :
    ∃ y, ys[k]? = some y ∧ (f (x, k)).outcome = .ok y := by
  obtain ⟨hlen, hall⟩ :=
    List.forall₂_iff_get.mp (outcome_collect_eq_ok_iff.mp h)
  obtain ⟨hk, rfl⟩ := List.getElem?_eq_some_iff.mp hx
  have hz : k < xs.zipIdx.length := by rwa [List.length_zipIdx]
  have hy : k < ys.length := hlen ▸ hz
  refine ⟨ys[k], List.getElem?_eq_getElem hy, ?_⟩
  have hk := hall k hz hy
  rwa [List.get_eq_getElem, List.getElem_zipIdx, Nat.zero_add] at hk

theorem length_of_collect_zipIdx {ys : List β}
    (h : (collect f xs.zipIdx).outcome = .ok ys) : ys.length = xs.length := by
  rw [← (outcome_collect_eq_ok_iff.mp h).length_eq, List.length_zipIdx]

/-- The first numbered element that fails, and those before it. -/
theorem exists_of_collect_zipIdx_error {fault : ε}
    (h : (collect f xs.zipIdx).outcome = .error fault) :
    ∃ k x, xs[k]? = some x ∧ (f (x, k)).outcome = .error fault ∧
      ∀ j < k, ∀ y, xs[j]? = some y → ∃ z, (f (y, j)).outcome = .ok z := by
  obtain ⟨before, ⟨x, k⟩, after, hsplit, ⟨zs, hzs⟩, hx⟩ :=
    outcome_collect_eq_error_iff.mp h
  -- both parts of the numbered list are read off by position
  have hat : ∀ j, (before ++ (x, k) :: after)[j]?
      = xs[j]?.map fun y => (y, 0 + j) :=
    fun j => hsplit ▸ List.getElem?_zipIdx
  have hhead := hat before.length
  rw [List.getElem?_append_right (Nat.le_refl _), Nat.sub_self,
    List.getElem?_cons_zero, Nat.zero_add] at hhead
  obtain ⟨x', hx', heq⟩ := Option.map_eq_some_iff.mp hhead.symm
  obtain ⟨rfl, rfl⟩ := Prod.mk.inj heq
  refine ⟨before.length, x', hx', hx, fun j hj y hy => ?_⟩
  -- an earlier element is one of those that succeed
  have hj' := hat j
  rw [List.getElem?_append_left hj, hy, Option.map_some, Nat.zero_add] at hj'
  obtain ⟨hlen, hall⟩ :=
    List.forall₂_iff_get.mp (outcome_collect_eq_ok_iff.mp hzs)
  obtain ⟨_, hget⟩ := List.getElem?_eq_some_iff.mp hj'
  have hok := hall j hj (hlen ▸ hj)
  rw [List.get_eq_getElem, hget] at hok
  exact ⟨_, hok⟩

end Traced

/-! ## Rows -/

namespace Row

variable {d : Dialect} {address : Nat} {w : Word}

/-- A word is listed exactly if it is claimed or the dialect is not strict. -/
theorem outcome_read_eq_ok_iff {row : Row} :
    (read d address w).outcome = .ok row ↔
      (d.strict = true → Rule.Claimed w) ∧ row = ofWord address w := by
  rw [outcome_read_eq, map_eq_ok_iff]
  simp only [mapError_eq_ok_iff, Dialect.outcome_decode_eq_ok_iff]
  constructor
  · rintro ⟨i, ⟨hclaimed, rfl⟩, rfl⟩
    exact ⟨hclaimed, rfl⟩
  · rintro ⟨hclaimed, rfl⟩
    exact ⟨_, ⟨hclaimed, rfl⟩, rfl⟩

theorem outcome_read_eq_error_iff {fault : ListingFault} :
    (read d address w).outcome = .error fault ↔
      d.strict = true ∧ ¬ Rule.Claimed w ∧
        fault = .refused address (.unclassifiedWord w) := by
  rw [outcome_read_eq, map_eq_error_iff, mapError_eq_error_iff]
  simp only [Dialect.outcome_decode_eq_error_iff]
  constructor
  · rintro ⟨cause, ⟨hstrict, hunclaimed, rfl⟩, rfl⟩
    exact ⟨hstrict, hunclaimed, rfl⟩
  · rintro ⟨hstrict, hunclaimed, rfl⟩
    exact ⟨_, ⟨hstrict, hunclaimed, rfl⟩, rfl⟩

end Row

/-! ## Listings of ranges -/

namespace Image

/-- The address of the word with a number, counted from a first address. -/
def wordAddress (lo k : Nat) : Nat := lo + k * Word.size

/-- What comes of a range whose addresses within the image are the `n` ones from
    `lo` on. -/
inductive Listed (img : Image) (d : Dialect) (start stop lo n : Nat) :
    Except ListingFault (List Row) → Prop where
  /-- The range ends before it starts. -/
  | reversed (hends : stop < start) :
      Listed img d start stop lo n (.error .reversed)
  /-- The last byte belongs to no word. -/
  | truncated (hends : start ≤ stop) (hodd : n % Word.size = 1) :
      Listed img d start stop lo n
        (.error (.stream (.truncatedStream (n - 1) n)))
  /-- The dialect is strict, and this is the first word that no shape claims. -/
  | refused {k : Nat} {w : Word} (hends : start ≤ stop)
      (heven : n % Word.size = 0) (hstrict : d.strict = true)
      (hk : k < n / Word.size) (hw : img.wordAt? (wordAddress lo k) = some w)
      (hunclaimed : ¬ Rule.Claimed w)
      (hbefore : ∀ j < k, ∃ v, img.wordAt? (wordAddress lo j) = some v ∧
        Rule.Claimed v) :
      Listed img d start stop lo n
        (.error (.refused (wordAddress lo k) (.unclassifiedWord w)))
  /-- There is a row for each word, in their order. -/
  | listed {rows : List Row} (hends : start ≤ stop)
      (heven : n % Word.size = 0) (hlength : rows.length = n / Word.size)
      (hrows : ∀ k < n / Word.size, ∃ w,
        img.wordAt? (wordAddress lo k) = some w ∧
        rows[k]? = some (Row.ofWord (wordAddress lo k) w) ∧
        (d.strict = true → Rule.Claimed w)) :
      Listed img d start stop lo n (.ok rows)

/-- Reads words that follow one another from a first address on. -/
def readWords (d : Dialect) (lo : Nat) (ws : List Word) :
    Traced ListingFault (List Row) :=
  Traced.collect (fun p => Row.read d (wordAddress lo p.2) p.1) ws.zipIdx

variable {img : Image} {d : Dialect} {start stop : Nat}

theorem outcome_listing_of_odd (hends : start ≤ stop)
    (hodd : (img.slice start stop).length % Word.size = 1) :
    (img.listing d start stop).outcome
      = .error (.stream (.truncatedStream
          ((img.slice start stop).length - 1) (img.slice start stop).length)) := by
  rw [listing, if_neg (Nat.not_lt.mpr hends), Word.ofStream_of_odd hodd]
  rfl

/-- The listing of an even range reads its words one after the other. -/
theorem outcome_listing_of_even (hends : start ≤ stop)
    (heven : (img.slice start stop).length % Word.size = 0) :
    (img.listing d start stop).outcome
      = (readWords d (max start img.base)
          (Word.pairs (img.slice start stop))).outcome := by
  have hstream : Word.ofStream (img.slice start stop)
      = .ok (Word.pairs (img.slice start stop)) := if_pos heven
  rw [listing, if_neg (Nat.not_lt.mpr hends), hstream]
  rfl

section

variable (hends : start ≤ stop)
  (heven : (min stop img.stop - max start img.base) % Word.size = 0)

include hends heven

/-- Rows read from the words of a range are a listing of it. -/
theorem Listed.of_rows {rows : List Row}
    (h : (readWords d (max start img.base)
      (Word.pairs (img.slice start stop))).outcome = .ok rows) :
    Listed img d start stop (max start img.base)
      (min stop img.stop - max start img.base) (.ok rows) := by
  have hlength := (Traced.length_of_collect_zipIdx h).trans
    (img.length_pairs_slice start stop)
  refine .listed hends heven hlength fun k hk => ?_
  obtain ⟨w, hpair, hw⟩ := img.exists_getElem?_pairs_slice hk
  obtain ⟨row, hrow, hread⟩ := Traced.getElem?_of_collect_zipIdx h hpair
  obtain ⟨hclaimed, rfl⟩ := Row.outcome_read_eq_ok_iff.mp hread
  exact ⟨w, hw, hrow, hclaimed⟩

/-- A word of a range that cannot be read is the first that no shape claims. -/
theorem Listed.of_fault {fault : ListingFault}
    (h : (readWords d (max start img.base)
      (Word.pairs (img.slice start stop))).outcome = .error fault) :
    Listed img d start stop (max start img.base)
      (min stop img.stop - max start img.base) (.error fault) := by
  obtain ⟨k, w, hpair, hread, hbefore⟩ := Traced.exists_of_collect_zipIdx_error h
  obtain ⟨hstrict, hunclaimed, rfl⟩ := Row.outcome_read_eq_error_iff.mp hread
  have hk : k < (min stop img.stop - max start img.base) / Word.size :=
    img.length_pairs_slice start stop ▸ (List.getElem?_eq_some_iff.mp hpair).1
  obtain ⟨w', hpair', hw⟩ := img.exists_getElem?_pairs_slice hk
  obtain rfl := Option.some.inj (hpair.symm.trans hpair')
  refine .refused hends heven hstrict hk hw hunclaimed fun j hj => ?_
  -- an earlier word was read, though the dialect is strict
  obtain ⟨v, hpairj, hv⟩ := img.exists_getElem?_pairs_slice (Nat.lt_trans hj hk)
  obtain ⟨row, hreadj⟩ := hbefore j hj v hpairj
  exact ⟨v, hv, (Row.outcome_read_eq_ok_iff.mp hreadj).1 hstrict⟩

end

/-- **Every listing is what it has to be.** -/
theorem listing_listed (img : Image) (d : Dialect) (start stop : Nat) :
    Listed img d start stop (max start img.base)
      (min stop img.stop - max start img.base)
      (img.listing d start stop).outcome := by
  by_cases hends : stop < start
  · rw [listing, if_pos hends]
    exact .reversed hends
  have hends : start ≤ stop := Nat.not_lt.mp hends
  have hlength := img.length_slice start stop
  rcases Nat.mod_two_eq_zero_or_one
    (min stop img.stop - max start img.base) with heven | hodd
  · rw [outcome_listing_of_even hends (hlength ▸ heven)]
    cases hread : (readWords d (max start img.base)
        (Word.pairs (img.slice start stop))).outcome with
    | ok rows => exact .of_rows hends heven hread
    | error fault => exact .of_fault hends heven hread
  · rw [outcome_listing_of_odd hends (hlength ▸ hodd), hlength]
    exact .truncated hends hodd

/-! ### Rows and reports -/

/-- Every row of a listing is that of a word of the range. -/
theorem Listed.exists_word {lo n : Nat} {rows : List Row}
    (h : Listed img d start stop lo n (.ok rows)) {row : Row}
    (hrow : row ∈ rows) :
    ∃ k < n / Word.size, ∃ w, img.wordAt? (wordAddress lo k) = some w ∧
      row = Row.ofWord (wordAddress lo k) w := by
  cases h with
  | listed hends heven hlength hrows =>
      obtain ⟨k, hk⟩ := List.mem_iff_getElem?.mp hrow
      have hlt : k < n / Word.size :=
        hlength ▸ (List.getElem?_eq_some_iff.mp hk).1
      obtain ⟨w, hw, hat, -⟩ := hrows k hlt
      exact ⟨k, hlt, w, hw, Option.some.inj (hk.symm.trans hat)⟩

/-- The two bytes of a word lie within the range. -/
theorem wordAddress_lt_stop {lo hi k : Nat} (hk : k < (hi - lo) / Word.size) :
    wordAddress lo k + 1 < hi := by
  have hmul := (Nat.le_div_iff_mul_le (by decide : 0 < Word.size)).mp hk
  rw [Nat.succ_mul] at hmul
  have hlow : k * Word.size + 1 < hi - lo := hmul
  rw [wordAddress, Nat.add_assoc]
  exact Nat.add_lt_of_lt_sub' hlow

theorem Listed.address_lt_stop {lo hi : Nat} {rows : List Row}
    (h : Listed img d start stop lo (hi - lo) (.ok rows)) {row : Row}
    (hrow : row ∈ rows) : row.address + 1 < hi := by
  obtain ⟨k, hk, w, -, rfl⟩ := h.exists_word hrow
  exact wordAddress_lt_stop hk

/-- A report counts the words that no shape claims. -/
theorem Listed.unclaimed_report {lo n : Nat} {rows : List Row}
    (h : Listed img d start stop lo n (.ok rows)) :
    (img.report rows).unclaimed
      = (rows.map Row.word).countP fun w => decide (¬ Rule.Claimed w) := by
  rw [List.countP_map]
  refine List.countP_congr fun row hrow => ?_
  obtain ⟨k, -, w, -, rfl⟩ := h.exists_word hrow
  show (Instruction.ofWord w).isUnknown = true ↔ decide (¬ Rule.Claimed w) = true
  rw [decide_eq_true_iff, Rule.claimed_iff, Bool.not_eq_false]

/-- **The listing of a range** is what it has to be, its rows lie within the
    image, and its report adds to them their count and the end of the image. -/
theorem listing_exact {img : Image} (himg : img.stop ≤ Address.largest)
    (d : Dialect) (start stop : Nat) :
    let lo := max start img.base
    let hi := min stop img.stop
    let found := (img.listing d start stop).outcome
    Listed img d start stop lo (hi - lo) found ∧
    (∀ rows, found = .ok rows →
      (∀ row ∈ rows, row.address + 1 < hi ∧ hi ≤ Address.largest) ∧
      (img.report rows).rows = rows ∧
      (img.report rows).unclaimed
        = (rows.map Row.word).countP (fun w => decide (¬ Rule.Claimed w)) ∧
      (img.report rows).stop = img.base + img.bytes.length) ∧
    ListingFault.reversed.message = "end must be >= start".toList ∧
    ∀ address fault,
      Address.render address <+: (ListingFault.refused address fault).message := by
  have hlisted := listing_listed img d start stop
  refine ⟨hlisted, fun rows hrows => ?_, rfl, fun address fault => ?_⟩
  · rw [hrows] at hlisted
    exact ⟨fun row hrow => ⟨hlisted.address_lt_stop hrow,
      Nat.le_trans (Nat.min_le_right _ _) himg⟩, rfl, hlisted.unclaimed_report, rfl⟩
  · show _ <+: Address.render address ++ [':', ' '] ++ fault.message
    rw [List.append_assoc]
    exact List.prefix_append _ _

/-- An image that ends at the largest address, listed as far as there are
    addresses: a strict dialect refuses its second word. -/
theorem listing_exact_largest :
    ∃ img : Image,
      img = ⟨['t'], 0xFFFFFFF9, [0x00, 0xE0, 0xFF, 0xFF, 0x12, 0x00]⟩ ∧
      img.stop ≤ Address.largest ∧
      (∃ rows, (img.listing .permissive 0 Address.largest).outcome = .ok rows ∧
        rows.map Row.address = [0xFFFFFFF9, 0xFFFFFFFB, 0xFFFFFFFD] ∧
        (∀ row ∈ rows, row.address + 1 < 0xFFFFFFFF) ∧
        (img.report rows).unclaimed
          = (rows.map Row.word).countP (fun w => decide (¬ Rule.Claimed w))) ∧
      Listed img ⟨true, .drop⟩ 0 Address.largest 0xFFFFFFF9 6
        (.error (.refused 0xFFFFFFFB (.unclassifiedWord 0xFFFF))) := by
  refine ⟨_, rfl, ?_⟩
  have himg : Image.stop ⟨['t'], 0xFFFFFFF9, [0x00, 0xE0, 0xFF, 0xFF, 0x12, 0x00]⟩
      ≤ Address.largest := by decide
  obtain ⟨-, hrows, -⟩ := listing_exact himg .permissive 0 Address.largest
  obtain ⟨hinside, -, hcount, -⟩ := hrows _ rfl
  exact ⟨himg, ⟨_, rfl, by decide, fun row hrow => (hinside row hrow).1, hcount⟩,
    (listing_exact himg ⟨true, .drop⟩ 0 Address.largest).1⟩

end Image

end Chip8Assembly
