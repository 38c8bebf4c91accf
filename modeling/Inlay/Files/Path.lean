import Inlay.Text.Search

/-!
# Paths

Absolute paths are slashes and names. `resolve` reads a path from a directory and takes its dots
away; `relative` is the way from one absolute path to another.
-/

namespace Inlay.Path

open CodeUnit

def slash : CodeUnit := ofChar '/'

def root : Text := [slash]

def parent : Text := text ".."

def enter (names : List Text) (segment : Text) : List Text :=
  if segment.isEmpty || segment = text "." then names
  else if segment = parent then names.dropLast
  else names ++ [segment]

def names (path : Text) : List Text := (Text.splitOn slash path).foldl enter []

/-- Where a relative path leads: by how many directories up, and then down which names. -/
def climb (path : Text) : Nat × List Text :=
  (Text.splitOn slash path).foldl
    (fun (up, down) segment =>
      if down.isEmpty && segment = parent then (up + 1, down) else (up, enter down segment)) (0, [])

def ofNames (names : List Text) : Text :=
  if names.isEmpty then root else names.flatMap (slash :: ·)

def resolve (directory path : Text) : Text :=
  if root.isPrefixOf path then ofNames (names path)
  else ofNames (names (directory ++ slash :: path))

def divergence : List Text → List Text → List Text × List Text
  | a :: as, b :: bs => if a = b then divergence as bs else (a :: as, b :: bs)
  | as, bs => (as, bs)

def relative (origin path : Text) : Text :=
  let (up, down) := divergence (names origin) (names path)
  Text.joinWith root (up.map (fun _ => parent) ++ down)

end Inlay.Path
