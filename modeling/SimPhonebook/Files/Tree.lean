import SimPhonebook.Files.Path

/-!
# Files

Reading a file by its path, and why it may fail. A `FileTree` is a set of files held in memory, in which
relative paths start at a working directory.
-/

namespace SimPhonebook

inductive FileFault where
  | notFound
  | isDirectory
  | notDirectory
  | invalidPath
  /-- Any other fault, by its text. -/
  | other (reason : Text)
deriving DecidableEq, Repr

instance : Described FileFault where
  message
    | .notFound => "no such file or directory"
    | .isDirectory => "is a directory"
    | .notDirectory => "not a directory"
    | .invalidPath => "invalid argument"
    | .other reason => reason

/-- A file could not be opened or read. -/
structure FileError where
  operation : Text
  path : Text
  fault : FileFault
deriving DecidableEq, Repr

instance : Described FileError := ⟨fun e => e.operation ++ " " ++ e.path ++ ": " ++ message e.fault⟩

structure FileTree where
  /-- The files by the parts of their paths. -/
  files : List (List Text × Octets)
  /-- Directories that exist even if no file is in them. -/
  directories : List (List Text)
  /-- The working directory. -/
  here : List Text
deriving Repr

namespace FileTree

/-- What a place in the tree holds. -/
inductive Place where
  | file (data : Octets)
  | directory
deriving DecidableEq, Repr

/-- What the path of the given parts holds, none of them `.` or `..`. -/
def place? (t : FileTree) (parts : List Text) : Option Place :=
  match t.files.lookup parts with
  | some data => some (.file data)
  | none =>
    if parts.isEmpty || t.files.any (fun (p, _) => parts.isPrefixOf p) || t.directories.any parts.isPrefixOf then
      some .directory
    else none

/-- Follows a path part by part from a place, whose parts stand in reverse. -/
def walk (t : FileTree) (here : List Text) : List Text → Except FileFault Place
  | [] => (t.place? here.reverse).elim (.error .notFound) .ok
  | part :: rest =>
    match t.place? here.reverse with
    | none => .error .notFound
    | some (.file _) => .error .notDirectory
    | some .directory =>
      if part.isEmpty || part = "." then walk t here rest
      else if part = ".." then walk t (here.drop 1) rest
      else walk t (part :: here) rest

/-- The content of a file. -/
def read (t : FileTree) (path : Text) : Except FileError Octets :=
  if path.octets.contains 0 then .error ⟨"open", path, .invalidPath⟩
  else match t.walk (if Path.isAbsolute path then [] else t.here.reverse) (Path.parts path) with
    | .ok (.file data) => .ok data
    | .ok .directory => .error ⟨"read", path, .isDirectory⟩
    | .error fault => .error ⟨"open", path, fault⟩

end FileTree

end SimPhonebook
