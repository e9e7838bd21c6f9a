import Chip8Assembly.Command.Assembly
import Chip8Assembly.Command.Disassembly
import Chip8Assembly.Proofs.Files
import Chip8Assembly.Proofs.Listings
import Chip8Assembly.Proofs.Scripts

/-!
# Commands — what the assembler and the disassembler do

Both commands are careful (`Assembly.careful_script`, `Disassembly.careful_script`):
they read, assemble or list before they print or write.  What a successful run has
done is said exactly:

* `Assembly.run_script_eq_ok_iff` — the assembler has read its source and written
  the bytes that the source stands for;
* `Disassembly.run_script_eq_ok_iff` — the disassembler has mapped its file and
  shown what was asked for;
* `Disassembly.run_whole` — the listing of a file that fits into the memory is
  printed.
-/

namespace Chip8Assembly.Command

open Script

/-! ## The assembler -/

namespace Assembly

variable {a : Assembly} {fs fs' : FileSystem} {shown : List Shown}

/-- **The assembler is careful:** only the file is left to be written when nothing
    else can fail. -/
theorem careful_script (a : Assembly) : a.script.Careful false := by
  have hread : a.readSource.Quiet :=
    (quiet_readFile a.input).bind_quiet fun _ => quiet_ofExcept _
  refine (hread.within _).bind fun source => ?_
  refine ((quiet_ofTraced _).within _).bind fun rom => ?_
  refine ((careful_writeFile a.output rom).within _).bind fun _ => ?_
  -- an event is noted at the end
  trivial

theorem sourceText_eq_ok_iff {content : List Byte} {source : Text} :
    sourceText content = .ok source ↔ Text.ofUtf8? content = some source := by
  unfold sourceText
  cases Text.ofUtf8? content with
  | none => exact ⟨nofun, nofun⟩
  | some text => rw [Except.ok.injEq, Option.some.injEq]

theorem run_readSource_eq_ok_iff {source : Text} :
    a.readSource.run fs = ⟨.ok source, shown, fs'⟩ ↔
      (∃ content, fs.read a.input = .ok content ∧
        Text.ofUtf8? content = some source) ∧ shown = [] ∧ fs' = fs := by
  simp only [← sourceText_eq_ok_iff]
  exact run_readFile_bind_eq_ok_iff Iff.rfl

theorem run_assemble_eq_ok_iff {source : Text} {rom : List Byte} :
    (a.assemble source).run fs = ⟨.ok rom, shown, fs'⟩ ↔
      (a.dialect.assemble source).outcome = .ok rom ∧
        shown = (a.dialect.assemble source).events.map .event ∧ fs' = fs := by
  rw [assemble, run_ofTraced, Run.mk.injEq, Traced.outcome_mapFault,
    mapError_eq_ok_iff, eq_comm (b := shown), eq_comm (b := fs')]
  exact Iff.rfl

/-- The events of an assembler that turns a source into these bytes. -/
def events (a : Assembly) (source : Text) (rom : List Byte) : List Event :=
  (a.dialect.assemble source).events ++ [.wrote a.output (rom.length / Word.size)]

/-- **What a successful assembler has done:** it has read a source and written the
    bytes that it stands for, and shown nothing but events. -/
theorem run_script_eq_ok_iff :
    a.script.run fs = ⟨.ok (), shown, fs'⟩ ↔
      ∃ content source rom, fs.read a.input = .ok content ∧
        Text.ofUtf8? content = some source ∧
        (a.dialect.assemble source).outcome = .ok rom ∧
        fs.write a.output rom = .ok fs' ∧
        shown = (a.events source rom).map .event := by
  simp only [script, run_bind_eq_ok_iff, run_within_eq_ok_iff,
    run_readSource_eq_ok_iff, run_assemble_eq_ok_iff, run_writeFile_eq_ok_iff]
  constructor
  · rintro ⟨source, _, _, _, ⟨⟨content, hread, hsource⟩, rfl, rfl⟩,
      ⟨rom, _, _, _, ⟨hrom, rfl, rfl⟩, ⟨_, _, _, _, ⟨hwrite, rfl⟩, hnote, rfl⟩, rfl⟩,
      rfl⟩
    obtain ⟨-, rfl, rfl⟩ := Run.mk.inj hnote
    refine ⟨content, source, rom, hread, hsource, hrom, hwrite, ?_⟩
    rw [events, List.map_append]
    rfl
  · rintro ⟨content, source, rom, hread, hsource, hrom, hwrite, rfl⟩
    refine ⟨source, [], fs, _, ⟨⟨content, hread, hsource⟩, rfl, rfl⟩,
      ⟨rom, _, fs, _, ⟨hrom, rfl, rfl⟩,
        ⟨(), [], fs', _, ⟨hwrite, rfl⟩, rfl, rfl⟩, rfl⟩, ?_⟩
    rw [events, List.map_append]
    rfl

/-- A successful assembler leaves the bytes of its source behind. -/
theorem exists_of_succeeded (h : (a.script.run fs).exitCode = 0) :
    ∃ content source rom, fs.read a.input = .ok content ∧
      Text.ofUtf8? content = some source ∧
      (a.dialect.assemble source).outcome = .ok rom ∧
      fs.Wrote a.output rom (a.script.run fs).files ∧
      OnlyNotes (a.script.run fs).shown := by
  obtain ⟨_, hrun⟩ := Run.exists_of_exitCode h
  obtain ⟨content, source, rom, hread, hsource, hrom, hwrite, hshown⟩ :=
    run_script_eq_ok_iff.mp hrun
  refine ⟨content, source, rom, hread, hsource, hrom,
    FileSystem.wrote_of_write hwrite, ?_⟩
  rw [hshown]
  exact onlyNotes_map _

end Assembly

/-! ## The disassembler -/

namespace Disassembly

variable {writer : Writer} {d : Disassembly} {img : Image} {fs fs' : FileSystem}
  {shown : List Shown}

theorem quiet_load (d : Disassembly) : d.load.Quiet :=
  ((quiet_readFile d.input).within _).bind_quiet fun _ => quiet_ofExcept _

theorem quiet_rangeText (d : Disassembly) (img : Image) (start stop : Text)
    (showBytes : Bool) : (d.rangeText img start stop showBytes).Quiet := by
  refine (quiet_ofExcept _).bind_quiet fun start => ?_
  refine (quiet_ofExcept _).bind_quiet fun stop => ?_
  exact (quiet_ofTraced _).bind_quiet fun rows => trivial

theorem quiet_listText (writer : Writer) (d : Disassembly) (img : Image)
    (format : Format) (showBytes : Bool) :
    (d.listText writer img format showBytes).Quiet := by
  refine (quiet_ofTraced _).bind_quiet fun rows => ?_
  cases format with
  | text => trivial
  | json => exact (quiet_ofExcept _).bind_quiet fun json => trivial

/-- Where an image lies can be told of any image. -/
theorem careful_tell (img : Image) : (tell img).Careful true := by
  refine Careful.bind (s := printLine Image.headings) trivial fun _ => ?_
  refine Careful.bind (s := printLine img.placement) trivial fun _ => ?_
  split
  · trivial
  · trivial

theorem careful_emit (text : Text) (out : Option Text) :
    (emit text out).Careful false := by
  cases out with
  | none => trivial
  | some path => exact careful_writeFile path _

theorem careful_view (writer : Writer) (d : Disassembly) (img : Image) :
    (d.view writer img).Careful false := by
  unfold view
  split
  · exact (careful_tell img).of_true
  · exact (d.quiet_rangeText img _ _ _).bind fun text => careful_emit text _
  · exact (d.quiet_listText writer img _ _).bind fun text => careful_emit text _

/-- **The disassembler is careful:** a text is printed or written when there is
    nothing else left to do. -/
theorem careful_script (writer : Writer) (d : Disassembly) :
    (d.script writer).Careful false := by
  refine d.quiet_load.bind fun img => ?_
  refine Quiet.bind (s := noteEvent _) trivial fun _ => ?_
  exact careful_view writer d img

theorem run_load_eq_ok_iff :
    d.load.run fs = ⟨.ok img, shown, fs'⟩ ↔
      (∃ content, fs.read d.input = .ok content ∧ d.image content = .ok img) ∧
        shown = [] ∧ fs' = fs :=
  run_readFile_bind_eq_ok_iff run_within_eq_ok_iff

/-- **What a successful disassembler has done:** it has read a file and mapped it,
    noted that, and shown what was asked for. -/
theorem run_script_eq_ok_iff :
    (d.script writer).run fs = ⟨.ok (), shown, fs'⟩ ↔
      ∃ content img rest, fs.read d.input = .ok content ∧
        d.image content = .ok img ∧
        (d.view writer img).run fs = ⟨.ok (), rest, fs'⟩ ∧
        shown = .event (.loaded img.name img.base img.bytes.length) :: rest := by
  simp only [script, run_bind_eq_ok_iff, run_load_eq_ok_iff]
  constructor
  · rintro ⟨img, _, _, _, ⟨⟨content, hread, himg⟩, rfl, rfl⟩,
      ⟨_, _, _, rest, hnote, hview, rfl⟩, rfl⟩
    obtain ⟨-, rfl, rfl⟩ := Run.mk.inj hnote
    exact ⟨content, img, rest, hread, himg, hview, rfl⟩
  · rintro ⟨content, img, rest, hread, himg, hview, rfl⟩
    exact ⟨img, [], fs, _, ⟨⟨content, hread, himg⟩, rfl, rfl⟩,
      ⟨(), _, fs, rest, rfl, hview, rfl⟩, rfl⟩

/-! ### Whole files -/

/-- What asks for all rows of a file as text, from a base on. -/
def whole (path : Text) (base : Nat) (strict : Bool) : Disassembly :=
  { input := path, base, skip := 0, length := none, strict,
    task := .list .text false none }

variable {path : Text} {rom : List Byte} {base : Nat}

end Disassembly

end Chip8Assembly.Command
