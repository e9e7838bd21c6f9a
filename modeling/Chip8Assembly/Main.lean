import Chip8Assembly.Command.Assembly
import Chip8Assembly.Command.Disassembly

/-!
# The command lines

`Script.perform` carries out a script with the files and the standard output of the
system, step by step as `Script.run` does in a file system.

The two programs take their arguments apart first and report a failure in the end.
How they do both and how an event is logged is left to the `Surroundings` of a
program, and how JSON is put into a text to its writer.
-/

namespace Chip8Assembly.Command

/-- The number of an error, which may be given negated. -/
def errorNumber (code : UInt32) : UInt32 := min code (-code)

/-- The fault of a file of the system. -/
def fileFault : IO.Error → FileFault
  | .noFileOrDirectory _ _ _ => .notFound
  | .inappropriateType file code details =>
    if errorNumber code = 20 then .notFolder
    else if errorNumber code = 21 then .isFolder
    else .other (IO.Error.inappropriateType file code details).toString.toList
  | .invalidArgument file code details =>
    if errorNumber code = 36 then .nameTooLong
    else .other (IO.Error.invalidArgument file code details).toString.toList
  | e => .other e.toString.toList

/-- Does something with a file of the system. -/
def attempt {α : Type} (action : IO α) : IO (Except FileFault α) := do
  match ← action.toBaseIO with
  | .ok a => pure (.ok a)
  | .error e => pure (.error (fileFault e))

/-- Carries out a script with the files and the standard output of the system. -/
def Script.perform {α : Type} (log : Log) : Script α → IO (Except Failure α)
  | .done a => pure (.ok a)
  | .fail failure => pure (.error failure)
  | .read path next => do
    let content ← attempt (IO.FS.readBinFile ⟨String.ofList path⟩)
    (next (content.map fun bytes => bytes.data.toList)).perform log
  | .write path content next => do
    let r ← attempt (IO.FS.writeBinFile ⟨String.ofList path⟩ ⟨content.toArray⟩)
    (next r).perform log
  | .print text next => do
    (← IO.getStdout).putStr (String.ofList text)
    next.perform log
  | .note event next => do
    (← IO.getStdout).putStr (String.ofList (log event))
    next.perform log

/-- What a program has from elsewhere. -/
structure Surroundings (Request : Type) where
  /-- What the arguments ask for, or the exit code if nothing is left to do: they
      are refused, or all they ask for is help. -/
  parse : List String → IO (Except UInt32 Request)
  /-- How a failure is put. -/
  report : Failure → Text
  log : Log

/-- Carries out what the arguments ask for.  The exit code is zero after success and
    one after a failure. -/
def Surroundings.carryOut {Request : Type} (s : Surroundings Request)
    (script : Request → Script Unit) (arguments : List String) : IO UInt32 := do
  match ← s.parse arguments with
  | .error code => pure code
  | .ok request =>
    match ← (script request).perform s.log with
    | .ok _ => pure 0
    | .error failure =>
      (← IO.getStderr).putStr (String.ofList (s.report failure))
      pure 1

/-- The assembler as a program. -/
def assembler (s : Surroundings Assembly) : List String → IO UInt32 :=
  s.carryOut Assembly.script

/-- The disassembler as a program. -/
def disassembler (s : Surroundings Disassembly) (writer : Writer) :
    List String → IO UInt32 :=
  s.carryOut (Disassembly.script writer)

end Chip8Assembly.Command
