import Inlay.Files.Path

/-!
# Collecting files

What a list of paths stands for: a directory for the scripts below it that no pattern excludes, in
the order of their code units, and any other path for itself. Every file is listed once, where it
first comes up. How a directory is searched is up to `Directories`.
-/

namespace Inlay.Collect

def script : Text := text "**/*.rpy"

def skipped : List Text := [text "**/node_modules/**", text "**/.git/**"]

/-- What is asked of directories: which paths are some, and which files below one match a glob and
none of those to ignore. -/
structure Directories where
  isDirectory : Text → Bool
  search : (glob directory : Text) → (ignored : List Text) → List Text

def scripts (ds : Directories) (exclude : List Text) (directory : Text) : List Text :=
  (ds.search script directory (skipped ++ exclude)).mergeSort Text.le

def expand (ds : Directories) (exclude : List Text) (path : Text) : List Text :=
  if ds.isDirectory path then scripts ds exclude path else [path]

def addNew (files : List Text) (file : Text) : List Text :=
  if files.contains file then files else files ++ [file]

def collectFrom (ds : Directories) (exclude : List Text) (directory : Text) (inputs : List Text) :
    List Text :=
  (inputs.flatMap fun input => expand ds exclude (Path.resolve directory input)).foldl addNew []

end Inlay.Collect
