import Inlay.Files.Path

/-!
# Disks

The files that a run sees: their contents by absolute path, directories that may be empty, and
files that refuse to be read or written. A file that is written keeps its place.
-/

namespace Inlay

structure Disk where
  files : List (Text × Text)
  directories : List Text
  unreadable : List Text
  unwritable : List Text
  deriving DecidableEq

namespace Disk

/-- Gives a file its content, in its place if it is there and at the end if not. -/
def putFile (path content : Text) : List (Text × Text) → List (Text × Text)
  | [] => [(path, content)]
  | (p, c) :: rest =>
    if p = path then (path, content) :: rest else (p, c) :: putFile path content rest

def empty : Disk := ⟨[], [], [], []⟩

def addFile (d : Disk) (name content : Text) : Disk :=
  { d with files := putFile (Path.resolve Path.root name) content d.files }

def content? (d : Disk) (name : Text) : Option Text :=
  d.files.lookup (Path.resolve Path.root name)

def missingReason (name : Text) : Text :=
  text "ENOENT: no such file or directory, open '" ++ name ++ text "'"

def deniedReason (name : Text) : Text :=
  text "EACCES: permission denied, open '" ++ name ++ text "'"

def read (d : Disk) (name : Text) : Except Text Text :=
  if d.unreadable.contains name then .error (deniedReason name)
  else
    match d.content? name with
    | some content => .ok content
    | none => .error (missingReason name)

def write (d : Disk) (name content : Text) : Except Text Disk :=
  if d.unwritable.contains name then .error (deniedReason name)
  else .ok (d.addFile name content)

def below (directory path : Text) : Bool :=
  if directory = Path.root then Path.root.isPrefixOf path
  else (directory ++ Path.root).isPrefixOf path

def isDirectory (d : Disk) (path : Text) : Bool :=
  path = Path.root || d.directories.contains path || d.directories.any (below path) ||
    d.files.any fun file => below path file.1

def contains (d : Disk) (path : Text) : Bool :=
  (d.files.lookup path).isSome || d.isDirectory path

/-- What is read of a path if something is there. -/
def look? (d : Disk) (path : Text) : Option (Except Text Text) :=
  if d.contains path then some (d.read path) else none

end Disk

end Inlay
