import Chip8Assembly.Proofs.Sameness
import Chip8Assembly.Proofs.Streams

/-!
# Reassembly — from a stream to its listing and back

The listing of a stream is assembled to a stream of the same length, whose words
are those of the first in canonical form, and which has the same listing.

The step from text to words is `outcome_assemble_render`: a source whose lines
are those of well-formed instructions is assembled to their words.
-/

namespace Chip8Assembly

namespace Instruction

/-- The lines of a list of instructions are rows. -/
theorem forall_isRow (is : List Instruction) :
    ∀ row ∈ is.map render, Text.IsRow row := by
  intro row hrow
  obtain ⟨i, -, rfl⟩ := List.mem_map.mp hrow
  exact i.isRow_render

end Instruction

namespace Dialect

open Instruction

section

variable {d : Dialect} {is : List Instruction} {source : Text}
  (hlines : Text.lines source = is.map render) (hwf : ∀ i ∈ is, i.WellFormed)
  (hknown : d.strict = true → ∀ i ∈ is, i.isUnknown = false)

include hlines hwf hknown

/-- The lines of instructions are read as the instructions, if the dialect takes
    them. -/
theorem forall₂_parse_render :
    List.Forall₂ (fun line i => (d.parse line.1).outcome = .ok i)
      (Text.contentLines source) (is.map reread) := by
  have hread : List.Forall₂ (fun line i => (d.parse line).outcome = .ok i)
      (is.map render) (is.map reread) := by
    rw [List.forall₂_map_left_iff, List.forall₂_map_right_iff, List.forall₂_same]
    intro i hi
    rw [outcome_parse_render (hwf i hi)]
    exact checked_eq_ok_iff.mpr ⟨rfl, fun hs => hknown hs i hi⟩
  -- the numbers of the lines take no part in reading them
  have hfst : ((is.map render).zipIdx 1).map Prod.fst = is.map render :=
    List.zipIdx_map_fst 1 _
  rw [← hfst, List.forall₂_map_left_iff] at hread
  rwa [Text.contentLines_of_rows hlines (forall_isRow is)]

/-- **The lines of instructions are assembled to their words,** if the dialect
    takes them. -/
theorem outcome_assemble_render :
    (d.assemble source).outcome = .ok (Word.flatten (is.map encode)) := by
  have hwords : (is.map reread).map encode = is.map encode := by
    rw [List.map_map]
    exact List.map_congr_left fun i hi => encode_reread (hwf i hi)
  rw [outcome_assemble_eq_ok_iff]
  exact ⟨is.map reread, forall₂_parse_render hlines hwf hknown,
    congrArg Word.flatten hwords.symm⟩

end

/-- The lines of words are assembled to the words in canonical form. -/
theorem outcome_assemble_words {d : Dialect} {ws : List Word} {source : Text}
    (hlines : Text.lines source = (ws.map ofWord).map render)
    (hknown : d.strict = true → ∀ w ∈ ws, (ofWord w).isUnknown = false) :
    (d.assemble source).outcome = .ok (Word.flatten (ws.map Word.canonical)) := by
  have hwords : (ws.map ofWord).map encode = ws.map Word.canonical := by
    rw [List.map_map]
    exact List.map_congr_left fun w _ => encode_ofWord w
  rw [← hwords]
  refine outcome_assemble_render hlines ?_ ?_
  · intro i hi
    obtain ⟨w, -, rfl⟩ := List.mem_map.mp hi
    exact wellFormed_ofWord w
  · intro hs i hi
    obtain ⟨w, hw, rfl⟩ := List.mem_map.mp hi
    exact hknown hs w hw

/-- **A stream is assembled again from its listing:** nothing is lost, added or
    moved, and only the words of the shapes that compare registers may change,
    to their canonical form. -/
theorem assemble_listing {d : Dialect} {stream : List Byte}
    {is : List Instruction} (h : (d.decodeStream stream).outcome = .ok is)
    (p : LetterPolicy) :
    ∃ again, (assemble ⟨d.strict, p⟩ (listing is)).outcome = .ok again ∧
      again.length = stream.length ∧
      Word.pairs again = (Word.pairs stream).map Word.canonical ∧
      ∃ js, (decodeStream ⟨d.strict, p⟩ again).outcome = .ok js ∧
        List.Forall₂ (fun j i => j.sameAs i = true) js is ∧
        listing js = listing is := by
  obtain ⟨hlen, rfl, hknown⟩ := outcome_decodeStream_eq_ok_iff.mp h
  generalize hws : Word.pairs stream = ws at hknown
  have hsize : Word.size * ws.length = stream.length :=
    hws ▸ Word.size_mul_length_pairs hlen
  have hasm : (assemble ⟨d.strict, p⟩ (listing (ws.map ofWord))).outcome
      = .ok (Word.flatten (ws.map Word.canonical)) :=
    outcome_assemble_words (Text.lines_joinLines (forall_isRow _)) hknown
  have hsame : List.Forall₂ (fun j i => j.sameAs i = true)
      ((ws.map Word.canonical).map ofWord) (ws.map ofWord) := by
    rw [List.map_map, List.forall₂_map_left_iff, List.forall₂_map_right_iff,
      List.forall₂_same]
    exact fun w _ => ofWord_canonical w
  refine ⟨_, hasm, ?_, Word.pairs_flatten _, _,
    outcome_decodeStream_eq_ok_iff.mpr
      ⟨Word.length_flatten_mod _, rfl, ?_⟩, ?_, ?_⟩
  · rw [Word.length_flatten, List.length_map, hsize]
  · rw [Word.pairs_flatten]
    intro hs v hv
    obtain ⟨w, hw, rfl⟩ := List.mem_map.mp hv
    rw [isUnknown_congr (ofWord_canonical w)]
    exact hknown hs w hw
  · rw [Word.pairs_flatten]
    exact hsame
  · rw [Word.pairs_flatten, listing, listing, List.map_map, List.map_map,
      List.map_map]
    refine congrArg Text.joinLines (List.map_congr_left fun w _ => ?_)
    exact render_congr (ofWord_canonical w)

/-- A comparison with a nibble to lose, a word of no shape, and a native
    call. -/
theorem assemble_listing_mixed :
    ∃ is, (decodeStream ⟨false, .drop⟩
          [0x50, 0x1F, 0xFF, 0xFF, 0x01, 0x23]).outcome = .ok is ∧
      ∃ again, (assemble ⟨false, .reject⟩ (listing is)).outcome = .ok again ∧
        again.length = 6 ∧ Word.pairs again = [0x5010, 0xFFFF, 0x0123] ∧
        ∃ js, (decodeStream ⟨false, .reject⟩ again).outcome = .ok js ∧
          List.Forall₂ (fun j i => j.sameAs i = true) js is ∧
          listing js = listing is := by
  have h : (decodeStream ⟨false, .drop⟩
      [0x50, 0x1F, 0xFF, 0xFF, 0x01, 0x23]).outcome
        = .ok ([0x501F, 0xFFFF, 0x0123].map ofWord) := rfl
  obtain ⟨again, hasm, hlen, hpairs, hjs⟩ := assemble_listing h .reject
  exact ⟨_, h, again, hasm, hlen, hpairs.trans (by decide), hjs⟩

end Dialect

end Chip8Assembly
