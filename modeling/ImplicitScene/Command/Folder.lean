import ImplicitScene.Command.Help

/-!
# Running a command in a folder

A folder is a list of files with their paths.  A directory is there when a file
lies in it.  Paths do not leave the folder.  A directory reads as the empty text,
which is neither a scene nor options.
-/

namespace ImplicitScene

/-- Why a file cannot be read or written. -/
inductive FileError where
  /-- There is no such file. -/
  | missing
  /-- A file stands where a directory should. -/
  | notDirectory
  /-- A directory stands where a file should. -/
  | isDirectory
  deriving Repr, DecidableEq

/-- The wording of an error. -/
def FileError.message : FileError → String
  | missing => "No such file or directory (os error 2)"
  | notDirectory => "Not a directory (os error 20)"
  | isDirectory => "Is a directory (os error 21)"

/-- A path. -/
structure FilePath where
  /-- The names from the folder down, without empty ones and those that stay in place. -/
  parts : List String
  /-- Whether the path leads out of the folder. -/
  outside : Bool
  /-- Whether the path can only be a directory. -/
  directory : Bool
  deriving Repr, DecidableEq

/-- The path of a text. -/
def FilePath.ofText (text : String) : FilePath :=
  let pieces := text.splitOn "/"
  let stays (piece : String) : Bool := piece == "" || piece == "."
  let parts := pieces.filter fun piece => !stays piece
  { parts
    outside := pieces.head? == some "" || parts.contains ".."
    directory := (pieces.getLast?.map stays).getD true }

/-- Files with their paths. -/
structure Folder where
  /-- The files. -/
  files : List (List String × Content) := []
  deriving Repr

namespace Folder

/-- The file at a path. -/
def file? (f : Folder) (parts : List String) : Option Content := f.files.lookup parts

/-- Whether there is a directory at a path. -/
def hasDirectory (f : Folder) (parts : List String) : Bool :=
  parts.isEmpty || f.files.any fun (path, _) => parts.isPrefixOf path && parts != path

/-- Whether a file stands in the way to a path. -/
def blocked (f : Folder) (parts : List String) : Bool :=
  f.files.any fun (path, _) => path.isPrefixOf parts && path != parts

/-- The text of a file.  What is not text reads as the empty text. -/
def read (f : Folder) (path : String) : Except FileError String :=
  let p := FilePath.ofText path
  if p.outside then .error .missing
  else
    match f.file? p.parts with
    | some content =>
        if p.directory then .error .notDirectory
        else
          match content with
          | .text s => .ok s
          | _ => .ok ""
    | none =>
        if f.hasDirectory p.parts then .ok ""
        else if f.blocked p.parts then .error .notDirectory
        else .error .missing

/-- The folder after a file is written. -/
def write (f : Folder) (path : String) (content : Content) : Except FileError Folder :=
  let p := FilePath.ofText path
  if p.outside then .error .missing
  else if p.directory || f.hasDirectory p.parts then .error .isDirectory
  else if f.blocked p.parts then .error .notDirectory
  else if !f.hasDirectory p.parts.dropLast then .error .missing
  else .ok ⟨(p.parts, content) :: f.files.filter fun (other, _) => other != p.parts⟩

/-- Carry out a plan. -/
def carryOut (f : Folder) : Plan → Report × Folder
  | .report r => (r, f)
  | .write path content after =>
      match f.write path content with
      | .ok f => (after, f)
      | .error e => (.unwritten e.message, f)

/-- Run a command line. -/
def run (f : Folder) (words : List String) : Report × Folder :=
  match Command.parse words with
  | .error stop => (stop.report, f)
  | .ok c => f.carryOut (c.plan fun path => (f.read path).mapError FileError.message)

end Folder

end ImplicitScene
