import Chip8Assembly.Text.Utf8

/-!
# File systems — the files that a command can reach

A file system is a tree of folders with files in them, and a command works in one
of the folders.  A path in text is walked one component at a time, from the root
if it starts with a slash and from the working folder otherwise: a single dot
stays in a folder, two dots go back, and the rest are names.  Nothing is behind
the root, and there are no links.

Writing replaces a file as a whole or makes a new one in a folder that is there;
when it fails the file system stays as it was.
-/

namespace Chip8Assembly

/-- Why a file cannot be read or written. -/
inductive FileFault where
  | notFound
  /-- Something on the way is a file. -/
  | notFolder
  | isFolder
  /-- The path or one of its names is longer than a path or a name may be. -/
  | nameTooLong
  /-- Another reason, in its own wording. -/
  | other (message : Text)
  deriving DecidableEq, Repr

def FileFault.message : FileFault → Text
  | .notFound => "No such file or directory (os error 2)".toList
  | .notFolder => "Not a directory (os error 20)".toList
  | .isFolder => "Is a directory (os error 21)".toList
  | .nameTooLong => "File name too long (os error 36)".toList
  | .other message => message

/-- Names from the root down to a file or folder. -/
abbrev Path := List Text

namespace Path

/-- The largest number of bytes in a name. -/
def longestName : Nat := 255

/-- The largest number of bytes in a path. -/
def longest : Nat := 4095

/-- The components of a path in text. -/
def components (path : Text) : List Text := path.splitOn '/'

/-- The name of the file that a path in text leads to: its last component, if
    that is a name. -/
def fileName? (path : Text) : Option Text :=
  match ((components path).filter fun c => c ≠ [] ∧ c ≠ ['.']).getLast? with
  | none => none
  | some name => if name = ['.', '.'] then none else some name

end Path

/-- Files with their contents, and folders. -/
structure FileSystem where
  files : List (Path × List Byte)
  /-- The folders, besides the root. -/
  folders : List Path
  /-- The folder in which a command works. -/
  here : Path
  /-- The places where no file can be written, each with the reason. -/
  refusals : List (Path × FileFault)
  deriving DecidableEq, Repr

namespace FileSystem

/-! ## Walking -/

/-- Where a path leads. -/
inductive Place where
  | folder (path : Path)
  /-- To a file with this content. -/
  | file (path : Path) (content : List Byte)
  /-- To a place in a folder where there is nothing. -/
  | vacant (path : Path)
  | nowhere (fault : FileFault)
  deriving DecidableEq, Repr

/-- What is under a path from the root down. -/
def find (fs : FileSystem) (path : Path) : Place :=
  match fs.files.lookup path with
  | some content => .file path content
  | none => if path ∈ fs.folders then .folder path else .vacant path

/-- Goes on from a place by one component.  An empty component stays in a
    folder as a single dot does. -/
def enter (fs : FileSystem) (place : Place) (component : Text) : Place :=
  match place with
  | .folder path =>
    if component = [] ∨ component = ['.'] then .folder path
    else if component = ['.', '.'] then .folder path.dropLast
    else if Path.longestName < (Text.toUtf8 component).length then
      .nowhere .nameTooLong
    else fs.find (path ++ [component])
  | .file _ _ => .nowhere .notFolder
  | .vacant _ => .nowhere .notFound
  | .nowhere fault => .nowhere fault

/-- The folder in which a walk starts: the root if the path starts with a
    slash. -/
def start (fs : FileSystem) : List Text → Path
  | [] :: _ => []
  | _ => fs.here

/-- Where the components of a path lead. -/
def walk (fs : FileSystem) (components : List Text) : Place :=
  components.foldl fs.enter (.folder (fs.start components))

/-! ## Reading and writing -/

/-- The content of the file under a path. -/
def read (fs : FileSystem) (path : Text) : Except FileFault (List Byte) :=
  if path = [] then .error .notFound
  else if Path.longest < (Text.toUtf8 path).length then .error .nameTooLong
  else
    match fs.walk (Path.components path) with
    | .file _ content => .ok content
    | .folder _ => .error .isFolder
    | .vacant _ => .error .notFound
    | .nowhere fault => .error fault

/-- The file system with a file under a path, in place of the one that was there
    before. -/
def put (fs : FileSystem) (path : Path) (content : List Byte) : FileSystem :=
  { fs with files := fs.files.filter (·.1 ≠ path) ++ [(path, content)] }

/-- Writes a file at a place, unless that is refused there. -/
def writeAt (fs : FileSystem) (path : Path) (content : List Byte) :
    Except FileFault FileSystem :=
  match fs.refusals.lookup path with
  | none => .ok (fs.put path content)
  | some fault => .error fault

/-- Writes the file under a path.  A path that ends with a slash is that of a
    folder. -/
def write (fs : FileSystem) (path : Text) (content : List Byte) :
    Except FileFault FileSystem :=
  if path = [] then .error .notFound
  else if Path.longest < (Text.toUtf8 path).length then .error .nameTooLong
  else
    let components := Path.components path
    let slashes := components.reverse.takeWhile (· = [])
    match fs.walk (components.take (components.length - slashes.length)) with
    | .file path _ | .vacant path =>
      if slashes = [] then fs.writeAt path content else .error .isFolder
    | .folder _ => .error .isFolder
    | .nowhere fault => .error fault

end FileSystem

end Chip8Assembly
