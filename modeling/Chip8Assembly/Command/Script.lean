import Chip8Assembly.Event
import Chip8Assembly.FileSystem
import Chip8Assembly.Traced

/-!
# Scripts — what a command does, step by step

A script reads and writes files, prints texts and notes events, one step after
another, and goes on as the files let it.  It ends with a value or in a failure,
and what it has done until then is not undone.

`Script.run` carries a script out in a file system.  The texts that it prints and
the events that it notes go to the standard output in the order of the steps; a
*log* settles which text an event leaves there.
-/

namespace Chip8Assembly.Command

/-! ## Failures -/

/-- Why a command fails: what it was about, and the causes behind that, the
    nearest first. -/
structure Failure where
  message : Text
  causes : List Text
  deriving DecidableEq, Repr

namespace Failure

/-- Puts what was going on in front of a failure. -/
def within (context : Text) (f : Failure) : Failure :=
  ⟨context, f.message :: f.causes⟩

def ofFile (fault : FileFault) : Failure := ⟨fault.message, []⟩

def ofFault (fault : Fault) : Failure := ⟨fault.message, fault.causes⟩

end Failure

/-! ## Steps -/

/-- The steps of a command up to its value or its failure. -/
inductive Script (α : Type) where
  | done (value : α)
  | fail (failure : Failure)
  | read (path : Text) (next : Except FileFault (List Byte) → Script α)
  | write (path : Text) (content : List Byte) (next : Except FileFault Unit → Script α)
  | print (text : Text) (next : Script α)
  | note (event : Event) (next : Script α)

namespace Script

variable {α β : Type}

/-- One script after another.  The second is not begun if the first fails. -/
def andThen (f : α → Script β) : Script α → Script β
  | .done a => f a
  | .fail failure => .fail failure
  | .read path next => .read path fun content => (next content).andThen f
  | .write path content next => .write path content fun r => (next r).andThen f
  | .print text next => .print text (next.andThen f)
  | .note event next => .note event (next.andThen f)

instance : Monad Script where
  pure := .done
  bind s f := s.andThen f

/-- The same steps, with what was going on put in front of a failure. -/
def within (context : Text) : Script α → Script α
  | .done a => .done a
  | .fail failure => .fail (failure.within context)
  | .read path next => .read path fun content => (next content).within context
  | .write path content next => .write path content fun r => (next r).within context
  | .print text next => .print text (next.within context)
  | .note event next => .note event (next.within context)

/-- No steps, but a value or a failure. -/
def ofExcept : Except Failure α → Script α
  | .ok a => .done a
  | .error failure => .fail failure

/-- Notes the events of traced work and ends as it did. -/
def ofTraced (x : Traced Failure α) : Script α :=
  x.events.foldr .note (ofExcept x.outcome)

def readFile (path : Text) : Script (List Byte) :=
  .read path fun content => ofExcept (content.mapError Failure.ofFile)

def writeFile (path : Text) (content : List Byte) : Script Unit :=
  .write path content fun r => ofExcept (r.mapError Failure.ofFile)

def printText (text : Text) : Script Unit := .print text (.done ())

def printLine (line : Text) : Script Unit := printText (line ++ ['\n'])

def noteEvent (event : Event) : Script Unit := .note event (.done ())

end Script

/-! ## Runs -/

/-- Something that goes to the standard output. -/
inductive Shown where
  | text (t : Text)
  | event (e : Event)
  deriving DecidableEq, Repr

/-- A script that was carried out. -/
structure Run (α : Type) where
  result : Except Failure α
  /-- What went to the standard output, in order. -/
  shown : List Shown
  /-- The files as they were left. -/
  files : FileSystem

/-- The run with something shown before all else. -/
def Run.cons {α : Type} (s : Shown) (r : Run α) : Run α :=
  { r with shown := s :: r.shown }

/-- Carries a script out.  A file that cannot be written leaves all files as they
    were. -/
def Script.run {α : Type} (fs : FileSystem) : Script α → Run α
  | .done a => ⟨.ok a, [], fs⟩
  | .fail failure => ⟨.error failure, [], fs⟩
  | .read path next => (next (fs.read path)).run fs
  | .write path content next =>
    match fs.write path content with
    | .ok fs => (next (.ok ())).run fs
    | .error fault => (next (.error fault)).run fs
  | .print text next => (next.run fs).cons (.text text)
  | .note event next => (next.run fs).cons (.event event)

/-- What a log writes for an event: nothing for the events that it leaves out. -/
abbrev Log := Event → Text

/-- The log of a command in whose environment no filter is set leaves all out but
    errors. -/
def Log.IsDefault (log : Log) : Prop := ∀ e : Event, e.level ≠ .error → log e = []

/-- The log that writes the messages of errors. -/
def Log.errors : Log := fun e => if e.level = .error then e.message else []

theorem Log.isDefault_errors : errors.IsDefault := fun _ he => if_neg he

/-- The text of the standard output for something that is shown. -/
def Shown.render (log : Log) : Shown → Text
  | .text t => t
  | .event e => log e

namespace Run

variable {α : Type}

/-- The exit code: zero after success, one after a failure. -/
def exitCode (r : Run α) : Nat :=
  match r.result with
  | .ok _ => 0
  | .error _ => 1

/-- All that goes to the standard output. -/
def stdout (log : Log) (r : Run α) : Text := r.shown.flatMap (Shown.render log)

end Run

end Chip8Assembly.Command
