import Chip8Assembly.Proofs.Ranges
import Chip8Assembly.Proofs.Sameness

/-!
# The text of a listing — what can be read off it

In the text of a listing nothing is mistaken for what stands beside it: no digit
is a colon or a space, so an address ends at the first colon and a byte at the
first space, and no row has a newline in it, so rows end at newlines.  The line
of the instruction is what is left.

`Listing.text_determines_rows` says that with the bytes shown a text belongs to
one listing only.  Without them the words are read off the lines of their
instructions, and these leave out the last nibble of some.
-/

namespace Chip8Assembly

/-! ## Words of one line -/

/-- The canonical form of a word starts with the same nibble. -/
theorem Word.first_canonical (w : Word) :
    w.canonical &&& 0xF000 = w &&& 0xF000 := by
  rw [canonical]
  split
  · rw [BitVec.and_assoc]
    rfl
  · rfl

/-- Words of one canonical form differ at most in the nibble that it leaves
    out. -/
theorem Word.eq_or_of_canonical_eq {w v : Word} (h : w.canonical = v.canonical) :
    w = v ∨ (w &&& 0xF000 = 0x5000 ∨ w &&& 0xF000 = 0x9000) ∧
      w &&& 0xFFF0 = v &&& 0xFFF0 := by
  have hfirst : w &&& 0xF000 = v &&& 0xF000 := by
    rw [← first_canonical, h, first_canonical]
  by_cases hw : w &&& 0xF000 = 0x5000 ∨ w &&& 0xF000 = 0x9000
  · rw [canonical, canonical, if_pos hw, if_pos (hfirst ▸ hw)] at h
    exact Or.inr ⟨hw, h⟩
  · rw [canonical, canonical, if_neg hw, if_neg (hfirst ▸ hw)] at h
    exact Or.inl h

/-- Words of one instruction have one canonical form. -/
theorem Instruction.canonical_congr {w v : Word}
    (h : (ofWord w).sameAs (ofWord v) = true) : w.canonical = v.canonical := by
  rw [← encode_ofWord, ← encode_ofWord]
  exact encode_congr (wellFormed_ofWord w) (wellFormed_ofWord v) h

/-! ## The fields of a row -/

/-- What stands before the first of a mark, and behind it, is known from the
    whole. -/
theorem Text.append_mark_inj {mark : Char} {x y s t : Text} (hx : mark ∉ x)
    (hy : mark ∉ y) (h : x ++ mark :: s = y ++ mark :: t) : x = y ∧ s = t := by
  have hat : ∀ {z u : Text}, mark ∉ z → (z ++ mark :: u).idxOf mark = z.length := by
    intro z u hz
    rw [List.idxOf_append_of_notMem hz, List.idxOf_cons_self, Nat.add_zero]
  have hlength : x.length = y.length := by rw [← hat hx, h, hat hy]
  obtain ⟨hbefore, hbehind⟩ := List.append_inj h hlength
  exact ⟨hbefore, (List.cons.inj hbehind).2⟩

theorem Numeral.hexDigits_inj {width m n : Nat}
    (h : hexDigits width m = hexDigits width n) : m = n := by
  have hm := read_hexDigits width (Nat.le_max_left m n)
  rw [h, read_hexDigits width (Nat.le_max_right m n)] at hm
  exact (Except.ok.inj hm).symm

/-- **A number ends at the first character that is no digit.** -/
theorem Numeral.hexDigits_append_inj {width m n : Nat} {c : Char}
    (hc : ∀ d < 16, c ≠ Nat.digitChar d) {s t : Text}
    (h : hexDigits width m ++ c :: s = hexDigits width n ++ c :: t) :
    m = n ∧ s = t := by
  obtain ⟨hdigits, hrest⟩ :=
    Text.append_mark_inj (not_mem_hexDigits hc) (not_mem_hexDigits hc) h
  exact ⟨hexDigits_inj hdigits, hrest⟩

/-- A word is known from its two bytes. -/
theorem Word.eq_of_bytes {w v : Word} (hhigh : w.high.toNat = v.high.toNat)
    (hlow : w.low.toNat = v.low.toNat) : w = v := by
  rw [← ofBytes_high_low w, ← ofBytes_high_low v, UInt8.toNat_inj.mp hhigh,
    UInt8.toNat_inj.mp hlow]

namespace Row

variable {r s : Row}

/-- The text of a row behind its address. -/
def body (showBytes : Bool) (row : Row) : Text :=
  (if showBytes then
    Numeral.hexDigits 2 row.word.high.toNat ++ ' ' ::
      Numeral.hexDigits 2 row.word.low.toNat ++ [' ', ' ']
  else []) ++ row.text

theorem render_eq (showBytes : Bool) (row : Row) :
    row.render showBytes
      = Address.render row.address ++ ':' :: ' ' :: row.body showBytes := by
  rw [render, body, List.append_assoc, List.append_assoc]
  rfl

/-- An address ends at the colon. -/
theorem address_body_of_render_eq {showBytes : Bool}
    (h : r.render showBytes = s.render showBytes) :
    r.address = s.address ∧ r.body showBytes = s.body showBytes := by
  rw [render_eq, render_eq] at h
  -- the mark in front of the digits is always there
  have hdigits := (List.cons.inj (List.cons.inj h).2).2
  obtain ⟨haddress, hrest⟩ := Numeral.hexDigits_append_inj (by decide) hdigits
  exact ⟨haddress, (List.cons.inj hrest).2⟩

/-- The bytes end at the spaces behind them. -/
theorem word_of_body_eq (h : r.body true = s.body true) : r.word = s.word := by
  simp only [body, if_true, List.append_assoc, List.cons_append] at h
  obtain ⟨hhigh, h⟩ := Numeral.hexDigits_append_inj (by decide) h
  obtain ⟨hlow, -⟩ := Numeral.hexDigits_append_inj (by decide) h
  exact Word.eq_of_bytes hhigh hlow

/-! ## Rows of words -/

/-- The row is that of its own word. -/
def Faithful (row : Row) : Prop := row = ofWord row.address row.word

/-- Rows that agree in all but the last nibble of a word that starts with a five
    or a nine. -/
structure Alike (r s : Row) : Prop where
  address : r.address = s.address
  text : r.text = s.text
  unclaimed : r.unclaimed = s.unclaimed
  word : r.word = s.word ∨
    (r.word &&& 0xF000 = 0x5000 ∨ r.word &&& 0xF000 = 0x9000) ∧
      r.word &&& 0xFFF0 = s.word &&& 0xFFF0

namespace Faithful

theorem text (h : r.Faithful) : r.text = (Instruction.ofWord r.word).render :=
  congrArg Row.text h

theorem unclaimed (h : r.Faithful) :
    r.unclaimed = (Instruction.ofWord r.word).isUnknown :=
  congrArg Row.unclaimed h

/-- A row is one line. -/
theorem no_newline (h : r.Faithful) (showBytes : Bool) :
    '\n' ∉ r.render showBytes := by
  have haddress : '\n' ∉ Address.render r.address :=
    (Numeral.isToken_hex 4 r.address).isRow.no_newline
  have hbyte : ∀ n, '\n' ∉ Numeral.hexDigits 2 n :=
    fun n => Numeral.not_mem_hexDigits (by decide)
  have htext : '\n' ∉ r.text := h.text ▸ (Instruction.isRow_render _).no_newline
  cases showBytes with
  | false => simp [render, haddress, htext]
  | true => simp [render, haddress, hbyte, htext]

/-- **With its bytes, a row is known from its text.** -/
theorem eq_of_render_eq (hr : r.Faithful) (hs : s.Faithful)
    (h : r.render true = s.render true) : r = s := by
  obtain ⟨haddress, hbody⟩ := address_body_of_render_eq h
  have hword : r.word = s.word := word_of_body_eq hbody
  calc r = ofWord r.address r.word := hr
    _ = ofWord s.address s.word := by rw [haddress, hword]
    _ = s := hs.symm

/-- **Without its bytes, a row is known but for a nibble.** -/
theorem alike_of_render_eq (hr : r.Faithful) (hs : s.Faithful)
    (h : r.render false = s.render false) : r.Alike s := by
  obtain ⟨haddress, hbody⟩ := address_body_of_render_eq h
  have htext : r.text = s.text := hbody
  have hline : (Instruction.ofWord r.word).render
      = (Instruction.ofWord s.word).render := by
    rw [← hr.text, ← hs.text, htext]
  have hsame : (Instruction.ofWord r.word).sameAs (Instruction.ofWord s.word)
      = true :=
    Instruction.sameAs_of_render_eq (Instruction.wellFormed_ofWord _)
      (Instruction.wellFormed_ofWord _) hline
  have hunclaimed : r.unclaimed = s.unclaimed := by
    rw [hr.unclaimed, hs.unclaimed]
    exact Instruction.isUnknown_congr hsame
  have hcanonical : r.word.canonical = s.word.canonical :=
    Instruction.canonical_congr hsame
  exact ⟨haddress, htext, hunclaimed, Word.eq_or_of_canonical_eq hcanonical⟩

end Faithful

end Row

/-- Every row of a listing is that of its word. -/
theorem Image.faithful_of_listing {img : Image} {d : Dialect} {start stop : Nat}
    {rows : List Row} (h : (img.listing d start stop).outcome = .ok rows) :
    ∀ row ∈ rows, row.Faithful := by
  intro row hrow
  have hlisted := img.listing_listed d start stop
  rw [h] at hlisted
  obtain ⟨k, -, w, -, rfl⟩ := hlisted.exists_word hrow
  rfl

/-! ## Rows and newlines -/

namespace Listing

theorem text_cons (showBytes : Bool) (row : Row) (rows : List Row) :
    text showBytes (row :: rows)
      = row.render showBytes ++ '\n' :: text showBytes rows := by
  rw [text, List.flatMap_cons, List.append_assoc]
  rfl

/-- **Rows end at newlines.**  If the texts of two listings are equal, so are
    those of their rows, one by one. -/
theorem forall₂_of_text_eq {showBytes : Bool} {R : Row → Row → Prop}
    (hR : ∀ {r s : Row}, r.Faithful → s.Faithful →
      r.render showBytes = s.render showBytes → R r s) {rows : List Row}
    (hrows : ∀ row ∈ rows, row.Faithful) :
    ∀ {others : List Row}, (∀ row ∈ others, row.Faithful) →
      text showBytes rows = text showBytes others →
      List.Forall₂ R rows others := by
  induction rows with
  | nil =>
      intro others _ h
      cases others with
      | nil => exact .nil
      | cons s others =>
          rw [text_cons] at h
          exact absurd h.symm (List.append_ne_nil_of_right_ne_nil _ nofun)
  | cons r rows ih =>
      intro others hothers h
      cases others with
      | nil =>
          rw [text_cons] at h
          exact absurd h (List.append_ne_nil_of_right_ne_nil _ nofun)
      | cons s others =>
          obtain ⟨hr, hrest⟩ := List.forall_mem_cons.mp hrows
          obtain ⟨hs, hothers⟩ := List.forall_mem_cons.mp hothers
          rw [text_cons, text_cons] at h
          obtain ⟨hrow, htext⟩ := Text.append_mark_inj
            (hr.no_newline showBytes) (hs.no_newline showBytes) h
          exact .cons (hR hr hs hrow) (ih hrest hothers htext)

/-- **A listing is known from its text.**  If the bytes are shown, two listings
    with one text are equal, whatever they are listings of.  If they are not, the
    listings have the same number of rows, and these differ at most in the last
    nibble of a word that starts with a five or a nine. -/
theorem text_determines_rows {img img' : Image} {d d' : Dialect}
    {start stop start' stop' : Nat} {rows rows' : List Row}
    (h : (img.listing d start stop).outcome = .ok rows)
    (h' : (img'.listing d' start' stop').outcome = .ok rows') :
    (text true rows = text true rows' → rows = rows') ∧
      (text false rows = text false rows' →
        List.Forall₂ Row.Alike rows rows') := by
  have hrows : ∀ row ∈ rows, row.Faithful := Image.faithful_of_listing h
  have hrows' : ∀ row ∈ rows', row.Faithful := Image.faithful_of_listing h'
  constructor
  · intro htext
    have hall : List.Forall₂ Eq rows rows' :=
      forall₂_of_text_eq Row.Faithful.eq_of_render_eq hrows hrows' htext
    rwa [List.forall₂_eq_eq_eq] at hall
  · exact forall₂_of_text_eq Row.Faithful.alike_of_render_eq hrows hrows'

/-- A whole image and a part of another one, with addresses of four and of five
    digits: without the bytes their listings have one text. -/
theorem text_determines_rows_nibble :
    ∃ rows rows' : List Row,
      (Image.listing ⟨['t'], 0xFFFE, [0x50, 0x1F, 0x12, 0x00]⟩ .permissive
        0xFFFE 0x10002).outcome = .ok rows ∧
      (Image.listing ⟨['u'], 0xFFFC, [0xFF, 0xFF, 0x50, 0x10, 0x12, 0x00, 0xAA]⟩
        ⟨true, .reject⟩ 0xFFFE 0x10002).outcome = .ok rows' ∧
      text false rows = text false rows' ∧ List.Forall₂ Row.Alike rows rows' ∧
      rows ≠ rows' ∧ text true rows ≠ text true rows' := by
  have h : (Image.listing ⟨['t'], 0xFFFE, [0x50, 0x1F, 0x12, 0x00]⟩ .permissive
      0xFFFE 0x10002).outcome
        = .ok [Row.ofWord 0xFFFE 0x501F, Row.ofWord 0x10000 0x1200] := rfl
  have h' : (Image.listing
      ⟨['u'], 0xFFFC, [0xFF, 0xFF, 0x50, 0x10, 0x12, 0x00, 0xAA]⟩
      ⟨true, .reject⟩ 0xFFFE 0x10002).outcome
        = .ok [Row.ofWord 0xFFFE 0x5010, Row.ofWord 0x10000 0x1200] := rfl
  obtain ⟨hshown, hhidden⟩ := text_determines_rows h h'
  have htext : text false [Row.ofWord 0xFFFE 0x501F, Row.ofWord 0x10000 0x1200]
      = text false [Row.ofWord 0xFFFE 0x5010, Row.ofWord 0x10000 0x1200] := by
    decide
  have hne : [Row.ofWord 0xFFFE 0x501F, Row.ofWord 0x10000 0x1200]
      ≠ [Row.ofWord 0xFFFE 0x5010, Row.ofWord 0x10000 0x1200] := by decide
  exact ⟨_, _, h, h', htext, hhidden htext, hne, fun hequal => hne (hshown hequal)⟩

end Listing

end Chip8Assembly
