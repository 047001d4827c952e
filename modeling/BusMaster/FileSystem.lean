/-!
# Files

The files that a lookup can see.

* `FileReader`: what reading a path gives: a text, nothing for a missing file, or an error.
* `FileSystem`: a tree of directories, as a list of the paths that exist in it.
* `FileSystem.resolve`: where a path leads, followed name by name.
* `FileSystem.write`, `makeDirectory`, `remove`: changes, each without effect where it cannot be
  made.
* `FileSystem.readText`: the reader of the tree.
-/

namespace BusMaster

/-- What exists under a path. -/
inductive FileNode where
  | directory
  | file (content : ByteArray)

/-- What exists, each path as its list of names: from the current directory, with `..` in front for
each step up from there, or, after a first name `/`, from the root. -/
structure FileSystem where
  entries : List (List String × FileNode) := []

/-- Why a file that exists cannot be read as text, or a path cannot be followed. -/
inductive FileError where
  | isDirectory
  /-- The path goes through a file as if it were a directory. -/
  | notDirectory
  | nameTooLong
  /-- The path holds a null character. -/
  | nullInName
  | notUtf8
deriving DecidableEq, Repr

def FileError.message : FileError → String
  | isDirectory => "Is a directory (os error 21)"
  | notDirectory => "Not a directory (os error 20)"
  | nameTooLong => "File name too long (os error 36)"
  | nullInName => "file name contained an unexpected NUL byte"
  | notUtf8 => "stream did not contain valid UTF-8"

/-- Reads the text that a path leads to. A missing file has none. -/
abbrev FileReader :=
  String → Except FileError (Option String)

namespace FileSystem

/-- The most bytes that a name can have. -/
def nameLimit : Nat := 255

/-- The most bytes that a path can have. -/
def pathLimit : Nat := 4095

/-- The path goes up from the current directory and no further; it is that directory if it is
empty. -/
def isAbove (path : List String) : Bool :=
  path.all (· == "..")

/-- The directory that holds a path. The root holds itself. -/
def parent (path : List String) : List String :=
  if path = ["/"] then path else if isAbove path then path ++ [".."] else path.dropLast

/-- What a list of names leads to. The current directory, those above it and the root exist
always. -/
def node? (files : FileSystem) (path : List String) : Option FileNode :=
  if isAbove path ∨ path = ["/"] then some .directory
  else (files.entries.find? (·.1 == path)).map (·.2)

def isDirectory (files : FileSystem) (path : List String) : Bool :=
  match files.node? path with
  | some .directory => true
  | _ => false

/-- Where a path starts. -/
def start (path : String) : List String :=
  if path.toList.head? = some '/' then ["/"] else []

/-- The pieces of a path between slashes. -/
def names (path : String) : List String :=
  (path.toList.splitOn '/').map String.ofList

/-! ## Paths -/

/-- Where a walk along a path stands. -/
inductive Place where
  | missing
  | blocked (cause : FileError)
  | reached (path : List String)
deriving DecidableEq, Repr

/-- A name that stands for the directory it is looked up in. -/
def isHere (name : String) : Bool :=
  name == "" || name == "."

/-- One step of a walk: into a directory, to a file, or up again. -/
def enter (files : FileSystem) (place : Place) (name : String) : Place :=
  match place with
  | .reached path =>
    match files.node? path with
    | some .directory =>
      if isHere name then .reached path
      else if name = ".." then .reached (parent path)
      else if nameLimit < name.utf8ByteSize then .blocked .nameTooLong
      else if (files.node? (path ++ [name])).isSome then .reached (path ++ [name])
      else .missing
    | some (.file _) => .blocked .notDirectory
    | none => .missing
  | other => other

/-- What is wrong with a path before it is followed. -/
def pathFault? (path : String) : Option FileError :=
  if path.contains '\x00' then some .nullInName
  else if pathLimit < path.utf8ByteSize then some .nameTooLong
  else none

/-- Where a path leads. Names are entered one after the other, so a slash at the end asks for a
directory. The empty path leads nowhere. -/
def resolve (files : FileSystem) (path : String) : Place :=
  match pathFault? path with
  | some fault => .blocked fault
  | none =>
    if path.isEmpty then .missing else (names path).foldl files.enter (.reached (start path))

/-- The path of a file that can be there: the last name is one of its own, and what comes before it
leads to a directory. -/
def target? (files : FileSystem) (path : String) : Option (List String) :=
  match pathFault? path, (names path).getLast? with
  | none, some name =>
    if isHere name ∨ name = ".." ∨ nameLimit < name.utf8ByteSize then none
    else
      match (names path).dropLast.foldl files.enter (.reached (start path)) with
      | .reached directory =>
        if files.isDirectory directory then some (directory ++ [name]) else none
      | _ => none
  | _, _ => none

/-! ## Changes -/

def put (files : FileSystem) (path : List String) (node : FileNode) : FileSystem :=
  ⟨files.entries.filter (·.1 != path) ++ [(path, node)]⟩

/-- The files with one more, or with new content for one. -/
def write (files : FileSystem) (path : String) (content : ByteArray) : FileSystem :=
  match files.target? path with
  | some target => if files.isDirectory target then files else files.put target (.file content)
  | none => files

/-- One step of a walk that makes the directories missing. -/
def enterNew (s : FileSystem × Place) (name : String) : FileSystem × Place :=
  match s.2, s.1.enter s.2 name with
  | .reached path, .missing => (s.1.put (path ++ [name]) .directory, .reached (path ++ [name]))
  | _, place => (s.1, place)

/-- The files with a directory, and with those that lead to it. -/
def makeDirectory (files : FileSystem) (path : String) : FileSystem :=
  match pathFault? path with
  | some _ => files
  | none => ((names path).foldl enterNew (files, .reached (start path))).1

/-- The file is removed, if it is there. -/
def remove (files : FileSystem) (path : String) : Bool × FileSystem :=
  match files.target? path with
  | none => (false, files)
  | some target =>
    match files.node? target with
    | some (.file _) => (true, ⟨files.entries.filter (·.1 != target)⟩)
    | _ => (false, files)

/-! ## Reading -/

/-- The text of the file that the path leads to. -/
def readText (files : FileSystem) : FileReader := fun path =>
  match files.resolve path with
  | .missing => .ok none
  | .blocked cause => .error cause
  | .reached path =>
    match files.node? path with
    | some (.file content) =>
      match String.fromUTF8? content with
      | some text => .ok (some text)
      | none => .error .notUtf8
    | some .directory => .error .isDirectory
    | none => .ok none

end FileSystem

end BusMaster
