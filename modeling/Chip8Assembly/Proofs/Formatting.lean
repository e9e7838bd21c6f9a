import Chip8Assembly.Proofs.Reassembly

/-!
# Formatting — a source with its lines as they are rendered

Every line with content of a source is replaced by the line of its instruction,
and the other lines are left out.  What comes of this stands for the same
program (`assemble_format`): the lines of instructions are rows, so they are
found again, and each is read as the instruction it was written for.
-/

namespace Chip8Assembly.Dialect

open Instruction

/-- A source with its lines with content as they are rendered, and no others. -/
def format (d : Dialect) (source : Text) : Except Fault Text :=
  (Traced.collect (fun line => d.parse line.1)
    (Text.contentLines source)).outcome.map listing

theorem format_eq_ok_iff {d : Dialect} {source text : Text} :
    d.format source = .ok text ↔
      ∃ is, List.Forall₂ (fun line i => (d.parse line.1).outcome = .ok i)
        (Text.contentLines source) is ∧ text = listing is := by
  rw [format]
  cases h : (Traced.collect (fun line => d.parse line.1)
      (Text.contentLines source)).outcome with
  | error fault =>
      refine ⟨nofun, fun ⟨is, his, _⟩ => ?_⟩
      rw [Traced.outcome_collect_eq_ok_iff.mpr his] at h
      exact nomatch h
  | ok js =>
      constructor
      · intro htext
        exact ⟨js, Traced.outcome_collect_eq_ok_iff.mp h,
          (Except.ok.inj htext).symm⟩
      · rintro ⟨is, his, rfl⟩
        rw [Traced.outcome_collect_eq_ok_iff.mpr his] at h
        obtain rfl := Except.ok.inj h
        rfl

/-- Instructions that a dialect parses are well-formed, and known if it is
    strict. -/
theorem sound_of_forall₂ {d : Dialect} {lines : List (Text × Nat)}
    {is : List Instruction}
    (h : List.Forall₂ (fun line i => (d.parse line.1).outcome = .ok i) lines is) :
    (∀ i ∈ is, i.WellFormed) ∧
      (d.strict = true → ∀ i ∈ is, i.isUnknown = false) := by
  have hsound := forall_mem_of_forall₂
    (P := fun i => i.WellFormed ∧ (d.strict = true → i.isUnknown = false))
    (fun line i hline => by
      obtain ⟨s, -, rfl, hknown⟩ := outcome_parse_eq_ok_iff.mp hline
      exact ⟨wellFormed_ofStatement s line.1, hknown⟩) h
  exact ⟨fun i hi => (hsound i hi).1, fun hs i hi => (hsound i hi).2 hs⟩

/-- **Formatting keeps the program.**  A source that is assembled can be
    formatted; the formatted source has one line for each line with content, is
    assembled to the same bytes by the same dialect, and is formatted to itself. -/
theorem assemble_format {d : Dialect} {source : Text} {bytes : List Byte}
    (h : (d.assemble source).outcome = .ok bytes) :
    ∃ is text,
      List.Forall₂ (fun line i => (d.parse line.1).outcome = .ok i)
        (Text.contentLines source) is ∧
      text = Text.joinLines (is.map render) ∧
      d.format source = .ok text ∧
      Text.lines text = is.map render ∧
      (d.assemble text).outcome = .ok bytes ∧
      d.format text = .ok text := by
  obtain ⟨is, his, rfl⟩ := outcome_assemble_eq_ok_iff.mp h
  obtain ⟨hwf, hknown⟩ := sound_of_forall₂ his
  have hlines : Text.lines (listing is) = is.map render :=
    Text.lines_joinLines (forall_isRow is)
  have hagain : listing (is.map reread) = listing is := by
    rw [listing, List.map_map]
    rfl
  refine ⟨is, listing is, his, rfl, format_eq_ok_iff.mpr ⟨is, his, rfl⟩, hlines,
    outcome_assemble_render hlines hwf hknown, ?_⟩
  exact format_eq_ok_iff.mpr
    ⟨is.map reread, forall₂_parse_render hlines hwf hknown, hagain.symm⟩

/-- Values that are too wide, fields that are passed over, and lines that no
    shape claims, with operands and without. -/
theorem assemble_format_unclaimed :
    (permissive.assemble
        "LD q1 v12 zz c1ff\r\n\n  FOO v5 n1 ; a\n; b\nBAR x".toList).outcome
      = .ok [0x62, 0xFF, 0x00, 0x05, 0x00, 0x00] ∧
    permissive.format
        "LD q1 v12 zz c1ff\r\n\n  FOO v5 n1 ; a\n; b\nBAR x".toList
      = .ok "LD\tv0x12 c0x1ff\nERR!\tv0x5 n0x1\nERR!".toList ∧
    (permissive.assemble
        "LD\tv0x12 c0x1ff\nERR!\tv0x5 n0x1\nERR!".toList).outcome
      = .ok [0x62, 0xFF, 0x00, 0x05, 0x00, 0x00] ∧
    permissive.format "LD\tv0x12 c0x1ff\nERR!\tv0x5 n0x1\nERR!".toList
      = .ok "LD\tv0x12 c0x1ff\nERR!\tv0x5 n0x1\nERR!".toList := by
  have hasm : (permissive.assemble
      "LD q1 v12 zz c1ff\r\n\n  FOO v5 n1 ; a\n; b\nBAR x".toList).outcome
        = .ok [0x62, 0xFF, 0x00, 0x05, 0x00, 0x00] := by decide
  have hformat : permissive.format
      "LD q1 v12 zz c1ff\r\n\n  FOO v5 n1 ; a\n; b\nBAR x".toList
        = .ok "LD\tv0x12 c0x1ff\nERR!\tv0x5 n0x1\nERR!".toList := by decide
  obtain ⟨is, text, -, -, htext, -, hagain, hfixed⟩ := assemble_format hasm
  obtain rfl := Except.ok.inj (htext.symm.trans hformat)
  exact ⟨hasm, hformat, hagain, hfixed⟩

end Chip8Assembly.Dialect
