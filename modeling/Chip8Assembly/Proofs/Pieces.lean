import Chip8Assembly.Proofs.Ranges

/-!
# Pieces — a listing of two ranges that meet

A range may be listed in two pieces.  Each piece is cut to the image for itself
and counts its addresses afresh, from where it meets the image; the second takes
up the count where the first leaves it, unless there is nothing left to count
(`wordAddress_length_pairs_slice`).  So if the first piece holds no half of a
word, the rows of the pieces are those of the whole, in order, and the whole has
a listing exactly if both pieces have one (`listing_append_iff`).
-/

namespace Chip8Assembly

namespace Image

/-! ## Words behind one another -/

theorem wordAddress_wordAddress (lo j k : Nat) :
    wordAddress (wordAddress lo j) k = wordAddress lo (j + k) := by
  simp only [wordAddress]
  rw [Nat.add_mul, Nat.add_assoc]

/-- **Words behind others** are read from the address that these end at. -/
theorem outcome_readWords_append (d : Dialect) (lo : Nat) (vs ws : List Word) :
    (readWords d lo (vs ++ ws)).outcome
      = (readWords d lo vs).outcome.bind fun rows =>
          (readWords d (wordAddress lo vs.length) ws).outcome.map (rows ++ ·) := by
  have hsecond : Traced.collect (fun p => Row.read d (wordAddress lo p.2) p.1)
        (ws.zipIdx (0 + vs.length))
      = readWords d (wordAddress lo vs.length) ws := by
    rw [Nat.add_comm, ← List.map_snd_add_zipIdx_eq_zipIdx, Traced.collect_map,
      readWords]
    congr 1
    funext p
    rw [wordAddress_wordAddress, Nat.add_comm]
    rfl
  rw [readWords, List.zipIdx_append, Traced.outcome_collect_append, hsecond]
  rfl

/-! ## Ranges behind one another -/

section

variable (img : Image) {start mid stop : Nat}

/-- **The second of two ranges that meet starts where the words of the first
    end,** if anything of it lies within the image. -/
theorem wordAddress_length_pairs_slice (hstart : start ≤ mid)
    (heven : (img.slice start mid).length % Word.size = 0)
    (hne : img.slice mid stop ≠ []) :
    wordAddress (max start img.base) (Word.pairs (img.slice start mid)).length
      = max mid img.base := by
  have hbytes : (Word.pairs (img.slice start mid)).length * Word.size
      = min mid img.stop - max start img.base := by
    rw [Word.length_pairs, Nat.div_mul_cancel (Nat.dvd_of_mod_eq_zero heven),
      img.length_slice]
  have hpos : 0 < min stop img.stop - max mid img.base := by
    rw [← img.length_slice]
    exact List.length_pos_iff.mpr hne
  rw [wordAddress, hbytes]
  omega

variable (d : Dialect)

/-- The listing of two even ranges that meet: the first fault of the two, or
    the rows of both. -/
theorem outcome_listing_append (hstart : start ≤ mid) (hstop : mid ≤ stop)
    (hfirst : (img.slice start mid).length % Word.size = 0)
    (hsecond : (img.slice mid stop).length % Word.size = 0) :
    (img.listing d start stop).outcome
      = (img.listing d start mid).outcome.bind fun rows =>
          (img.listing d mid stop).outcome.map (rows ++ ·) := by
  have hwhole : (img.slice start stop).length % Word.size = 0 := by
    rw [img.slice_append hstart hstop, List.length_append, Nat.add_mod, hfirst,
      hsecond]
    rfl
  rw [outcome_listing_of_even (Nat.le_trans hstart hstop) hwhole,
    outcome_listing_of_even hstart hfirst, outcome_listing_of_even hstop hsecond,
    img.slice_append hstart hstop, Word.pairs_append hfirst,
    outcome_readWords_append]
  -- an empty second range is read alike from every address
  by_cases hne : img.slice mid stop = []
  · rw [hne]
    rfl
  · rw [img.wordAddress_length_pairs_slice hstart hfirst hne]

/-- **A range is listed in two pieces as it is in one.**  If the first piece
    has an even number of addresses within the image, the whole has a listing
    exactly if both pieces have one, and its rows are those of the first and
    then those of the second. -/
theorem listing_append_iff (hstart : start ≤ mid) (hstop : mid ≤ stop)
    (heven : (min mid img.stop - max start img.base) % Word.size = 0)
    (rows : List Row) :
    (img.listing d start stop).outcome = .ok rows ↔
      ∃ before after, (img.listing d start mid).outcome = .ok before ∧
        (img.listing d mid stop).outcome = .ok after ∧
        rows = before ++ after := by
  rw [← img.length_slice] at heven
  rcases Nat.mod_two_eq_zero_or_one (img.slice mid stop).length with
    hsecond | hodd
  · rw [img.outcome_listing_append d hstart hstop heven hsecond]
    cases (img.listing d start mid).outcome with
    | error fault => exact ⟨nofun, fun ⟨_, _, h, _⟩ => nomatch h⟩
    | ok before =>
        cases (img.listing d mid stop).outcome with
        | error fault => exact ⟨nofun, fun ⟨_, _, _, h, _⟩ => nomatch h⟩
        | ok after =>
            constructor
            · intro h
              exact ⟨before, after, rfl, rfl, (Except.ok.inj h).symm⟩
            · rintro ⟨_, _, hbefore, hafter, rfl⟩
              rw [← Except.ok.inj hbefore, ← Except.ok.inj hafter]
              rfl
  · -- half a word at the end is at the end of the second piece too
    have hwhole : (img.slice start stop).length % Word.size = 1 := by
      rw [img.slice_append hstart hstop, List.length_append, Nat.add_mod, heven]
      show (0 + (img.slice mid stop).length % 2) % 2 = 1
      rw [hodd]
    rw [outcome_listing_of_odd (Nat.le_trans hstart hstop) hwhole,
      outcome_listing_of_odd hstop hodd]
    constructor
    · intro h
      exact nomatch h
    · rintro ⟨_, _, _, h, _⟩
      exact nomatch h

end

/-- A range that is cut within the image, at an odd address: the rows of both
    pieces, and a strict dialect that refuses the second piece and the whole. -/
theorem listing_append_iff_inside :
    ∃ img : Image, img = ⟨['t'], 0x201, [0x00, 0xE0, 0x12, 0x00, 0xFF, 0xFF]⟩ ∧
      0 ≤ 0x205 ∧ 0x205 ≤ 0x300 ∧
      (min 0x205 img.stop - max 0 img.base) % Word.size = 0 ∧
      (∃ rows, (img.listing .permissive 0 0x300).outcome = .ok rows ∧
        rows.map Row.address = [0x201, 0x203, 0x205] ∧
        ∃ before after, (img.listing .permissive 0 0x205).outcome = .ok before ∧
          (img.listing .permissive 0x205 0x300).outcome = .ok after ∧
          before.length = 2 ∧ rows = before ++ after) ∧
      (∃ rows, (img.listing ⟨true, .drop⟩ 0 0x205).outcome = .ok rows) ∧
      ¬ ∃ rows, (img.listing ⟨true, .drop⟩ 0 0x300).outcome = .ok rows := by
  have hstart : 0 ≤ 0x205 := Nat.zero_le _
  have hstop : 0x205 ≤ 0x300 := by decide
  have heven : (min 0x205
        (stop ⟨['t'], 0x201, [0x00, 0xE0, 0x12, 0x00, 0xFF, 0xFF]⟩)
      - max 0 0x201) % Word.size = 0 := by decide
  refine ⟨_, rfl, hstart, hstop, heven, ?_, ⟨_, rfl⟩, ?_⟩
  · obtain ⟨before, after, hbefore, hafter, hrows⟩ :=
      (listing_append_iff _ .permissive hstart hstop heven _).mp rfl
    obtain rfl := Except.ok.inj hbefore
    exact ⟨_, rfl, by decide, _, after, hbefore, hafter, by decide, hrows⟩
  · rintro ⟨rows, h⟩
    obtain ⟨_, _, -, hafter, -⟩ :=
      (listing_append_iff _ _ hstart hstop heven rows).mp h
    exact nomatch hafter

end Image

end Chip8Assembly
