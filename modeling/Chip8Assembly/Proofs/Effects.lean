import Chip8Assembly.Proofs.Commands

/-!
# Effects — all or nothing

A command that exits with one has left nothing on the standard output and all files
as they were.  One that exits with zero has done all it was asked for: the
assembler has written its file, and the disassembler has printed a text or written
it to the file that was named, just the text that is printed when no file is named
(`all_or_nothing`).

No filter is set for the log.  With one there may be lines for events on the
standard output, but still no text of the command itself (`Run.printed`).
-/

namespace Chip8Assembly.Command

open Script

/-- **A careful command that fails leaves nothing behind.** -/
theorem Script.Careful.nothing_of_failed {s : Script Unit} (hs : s.Careful false)
    {fs : FileSystem} (h : (s.run fs).exitCode = 1) :
    (s.run fs).printed = [] ∧ (s.run fs).files = fs := by
  obtain ⟨-, hnotes, hfiles⟩ := hs.run_of_failed h
  exact ⟨Run.printed_of_onlyNotes hnotes, hfiles⟩

/-! ## Where the disassembler puts its text -/

/-- The file that a task writes. -/
def Task.out? : Task → Option Text
  | .info => none
  | .range _ _ _ out => out
  | .list _ _ out => out

/-- The task with its text printed. -/
def Task.printing : Task → Task
  | .info => .info
  | .range start stop showBytes _ => .range start stop showBytes none
  | .list format showBytes _ => .list format showBytes none

namespace Disassembly

/-- The request with the text printed. -/
def printing (d : Disassembly) : Disassembly := { d with task := d.task.printing }

variable {writer : Writer} {d : Disassembly} {fs : FileSystem}

/-- **A listing is composed before it goes anywhere,** and where it goes does not
    matter to it. -/
theorem view_cases (writer : Writer) (d : Disassembly) (img : Image) :
    (d.task.out? = none ∧ d.view writer img = tell img) ∨
      ∃ s : Script Text, s.Quiet ∧
        d.view writer img = (do emit (← s) d.task.out?) ∧
        d.printing.view writer img = (do emit (← s) none) := by
  obtain ⟨input, base, skip, length, strict, task⟩ := d
  cases task with
  | info => exact Or.inl ⟨rfl, rfl⟩
  | range start stop showBytes out =>
      exact Or.inr ⟨_, quiet_rangeText _ img start stop showBytes, rfl, rfl⟩
  | list format showBytes out =>
      exact Or.inr ⟨_, quiet_listText writer _ img format showBytes, rfl, rfl⟩

/-- A text that is composed is all that is printed. -/
theorem run_emit_none {s : Script Text} (hs : s.Quiet) {text : Text}
    {front : List Shown} {between : FileSystem}
    (hrun : s.run fs = ⟨.ok text, front, between⟩) :
    (do emit (← s) none : Script Unit).run fs
      = ⟨.ok (), front ++ [.text text], fs⟩ := by
  obtain ⟨-, hfiles⟩ := hs.run fs
  rw [hrun] at hfiles
  obtain rfl : between = fs := hfiles
  exact run_bind_eq_ok_iff.mpr ⟨text, front, _, _, hrun, rfl, rfl⟩

/-- No file is changed unless one is named. -/
theorem files_of_out?_eq_none (hout : d.task.out? = none)
    (h : ((d.script writer).run fs).exitCode = 0) :
    ((d.script writer).run fs).files = fs := by
  obtain ⟨_, hrun⟩ := Run.exists_of_exitCode h
  obtain ⟨_, img, rest, -, -, hview, -⟩ := run_script_eq_ok_iff.mp hrun
  rcases view_cases writer d img with ⟨-, htell⟩ | ⟨s, hs, hemit, -⟩
  · rw [htell, tell] at hview
    split at hview
    · exact (Run.mk.inj hview).2.2.symm
    · exact (Run.mk.inj hview).2.2.symm
  · rw [hout] at hemit
    rw [hemit] at hview
    obtain ⟨text, _, _, _, hs', -, -⟩ := run_bind_eq_ok_iff.mp hview
    exact (Run.mk.inj (hview.symm.trans (run_emit_none hs hs'))).2.2

/-- **A file that is named gets the text** that is printed when none is named, and
    nothing is printed. -/
theorem wrote_of_out?_eq_some {path : Text} (hout : d.task.out? = some path)
    (h : ((d.script writer).run fs).exitCode = 0) :
    ((d.script writer).run fs).printed = [] ∧
      ((d.printing.script writer).run fs).exitCode = 0 ∧
      ((d.printing.script writer).run fs).files = fs ∧
      fs.Wrote path (Text.toUtf8 ((d.printing.script writer).run fs).printed)
        ((d.script writer).run fs).files := by
  obtain ⟨_, hrun⟩ := Run.exists_of_exitCode h
  obtain ⟨content, img, rest, hread, himg, hview, hshown⟩ :=
    run_script_eq_ok_iff.mp hrun
  rcases view_cases writer d img with ⟨hnone, -⟩ | ⟨s, hs, hemit, hprinting⟩
  · exact nomatch hnone.symm.trans hout
  · rw [hemit, hout] at hview
    obtain ⟨text, front, between, _, hs', hwrite, hrest⟩ := run_bind_eq_ok_iff.mp hview
    obtain ⟨hwrote, rfl⟩ := run_writeFile_eq_ok_iff.mp hwrite
    obtain ⟨hnotes, hfiles⟩ := hs.run fs
    rw [hs'] at hnotes hfiles
    obtain rfl : between = fs := hfiles
    -- the same text is printed if no file is named
    have hprinted : (d.printing.script writer).run between
        = ⟨.ok (), .event (.loaded img.name img.base img.bytes.length) ::
            (front ++ [.text text]), between⟩ := by
      refine run_script_eq_ok_iff.mpr ⟨content, img, _, hread, himg, ?_, rfl⟩
      rw [hprinting]
      exact run_emit_none hs hs'
    have htext : ((d.printing.script writer).run between).printed = text := by
      rw [hprinted, Run.printed_cons_event, Run.printed_append hnotes]
      exact List.append_nil text
    refine ⟨?_, ?_, ?_, ?_⟩
    · rw [hrun, hshown, hrest, Run.printed_cons_event, Run.printed_append hnotes]
      rfl
    · rw [hprinted]
      rfl
    · rw [hprinted]
    · rw [htext]
      exact FileSystem.wrote_of_write hwrote

end Disassembly

/-! ## Both commands -/

/-- **All or nothing.**  A command that exits with one leaves the standard output
    empty and every file as it was.  An assembler that exits with zero leaves the
    standard output empty and writes its output alone, to which the input is
    assembled by the dialect that the request asks for.  A disassembler that exits
    with zero changes no file unless one is named for its text; then it leaves the
    standard output empty and writes that file alone, with the text that the same
    request without that file prints. -/
theorem all_or_nothing {log : Log} (hlog : log.IsDefault) (writer : Writer)
    (fs : FileSystem) :
    (∀ a : Assembly,
      ((a.script.run fs).exitCode = 1 →
        (a.script.run fs).stdout log = [] ∧ (a.script.run fs).files = fs) ∧
      ((a.script.run fs).exitCode = 0 →
        (a.script.run fs).stdout log = [] ∧
        ∃ content source rom, fs.read a.input = .ok content ∧
          Text.ofUtf8? content = some source ∧
          ((Dialect.mk (!a.permissive)
              (if a.rejectUnknownOperands then .reject else .drop)).assemble
            source).outcome = .ok rom ∧
          fs.Wrote a.output rom (a.script.run fs).files)) ∧
    ∀ d : Disassembly,
      (((d.script writer).run fs).exitCode = 1 →
        ((d.script writer).run fs).stdout log = [] ∧
        ((d.script writer).run fs).files = fs) ∧
      (((d.script writer).run fs).exitCode = 0 →
        (d.task.out? = none → ((d.script writer).run fs).files = fs) ∧
        ∀ path, d.task.out? = some path →
          ((d.script writer).run fs).stdout log = [] ∧
          ((d.printing.script writer).run fs).exitCode = 0 ∧
          ((d.printing.script writer).run fs).files = fs ∧
          fs.Wrote path
            (Text.toUtf8 (((d.printing.script writer).run fs).stdout log))
            ((d.script writer).run fs).files) := by
  simp only [Run.stdout_eq_printed hlog]
  refine ⟨fun a => ⟨a.careful_script.nothing_of_failed, ?_⟩,
    fun d => ⟨(d.careful_script writer).nothing_of_failed, ?_⟩⟩
  · intro h
    obtain ⟨content, source, rom, hread, hsource, hrom, hwrote, hnotes⟩ :=
      Assembly.exists_of_succeeded h
    exact ⟨Run.printed_of_onlyNotes hnotes, content, source, rom, hread, hsource, hrom,
      hwrote⟩
  · intro h
    exact ⟨fun hout => Disassembly.files_of_out?_eq_none hout h,
      fun path hout => Disassembly.wrote_of_out?_eq_some hout h⟩

/-- A source that only a permissive assembler takes, and a file outside the folder
    in which the commands work, into which the listing of another one goes. -/
theorem all_or_nothing_named :
    ∃ (fs : FileSystem) (strict a : Assembly) (d : Disassembly),
      fs = ⟨[(["w".toList, "s".toList], Text.toUtf8 "FOO v5\nLD v1 q2 c7\n".toList),
        (["w".toList, "r".toList], [0x00, 0xE0])], [["w".toList], ["t".toList]],
        ["w".toList], []⟩ ∧
      strict = ⟨"s".toList, "r".toList, false, false⟩ ∧
      a = ⟨"../w/s".toList, "r".toList, true, false⟩ ∧
      d = ⟨"r".toList, 0x200, 0, none, false, .list .text true (some "/t/l".toList)⟩ ∧
      Log.errors.IsDefault ∧
      (strict.script.run fs).exitCode = 1 ∧
      (strict.script.run fs).stdout .errors = [] ∧
      (strict.script.run fs).files = fs ∧
      (a.script.run fs).exitCode = 0 ∧ (a.script.run fs).stdout .errors = [] ∧
      fs.Wrote "r".toList [0x00, 0x05, 0x61, 0x07] (a.script.run fs).files ∧
      ((d.script fun j => .ok j.compact).run fs).exitCode = 0 ∧
      ((d.script fun j => .ok j.compact).run fs).stdout .errors = [] ∧
      fs.Wrote "/t/l".toList (Text.toUtf8 "0x0200: 00 e0  CLS\n".toList)
        ((d.script fun j => .ok j.compact).run fs).files := by
  refine ⟨_, _, _, _, rfl, rfl, rfl, rfl, Log.isDefault_errors, ?_⟩
  generalize hfs : FileSystem.mk _ _ _ _ = fs
  generalize hstrict : Assembly.mk "s".toList _ _ _ = strict
  generalize ha : Assembly.mk "../w/s".toList _ _ _ = a
  generalize hd : Disassembly.mk _ _ _ _ _ _ = d
  obtain ⟨hassembly, hdisassembly⟩ :=
    all_or_nothing Log.isDefault_errors (fun j => .ok j.compact) fs
  have hfailed : (strict.script.run fs).exitCode = 1 := by
    rw [← hfs, ← hstrict]
    decide +kernel
  have hwritten : (a.script.run fs).exitCode = 0 := by
    rw [← hfs, ← ha]
    decide +kernel
  have hlisted : ((d.script fun j => .ok j.compact).run fs).exitCode = 0 := by
    rw [← hfs, ← hd]
    decide +kernel
  have hrom : (a.script.run fs).files.read "r".toList
      = .ok [0x00, 0x05, 0x61, 0x07] := by
    rw [← hfs, ← ha]
    decide +kernel
  have hshown : ((d.printing.script fun j => .ok j.compact).run fs).stdout .errors
      = "0x0200: 00 e0  CLS\n".toList := by
    rw [← hfs, ← hd]
    decide +kernel
  have houtput : a.output = "r".toList := by rw [← ha]
  have hout : d.task.out? = some "/t/l".toList := by
    rw [← hd]
    rfl
  obtain ⟨hempty, hsame⟩ := (hassembly strict).1 hfailed
  obtain ⟨hquiet, _, _, rom, -, -, -, hwrote⟩ := (hassembly a).2 hwritten
  -- what is written is what is read
  rw [houtput] at hwrote
  obtain rfl := Except.ok.inj (hwrote.read.symm.trans hrom)
  obtain ⟨hnothing, -, -, hlisting⟩ := ((hdisassembly d).2 hlisted).2 _ hout
  rw [hshown] at hlisting
  exact ⟨hfailed, hempty, hsame, hwritten, hquiet, hwrote, hlisted, hnothing, hlisting⟩

end Chip8Assembly.Command
