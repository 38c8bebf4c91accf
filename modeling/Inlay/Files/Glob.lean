import Inlay.Files.Glob.Reader
import Inlay.Files.Path

/-!
# Globs

A glob is matched against paths as they are seen from a directory. It also covers what lies below
a directory that it names.
-/

namespace Inlay

/-- What a glob matches, and how many directories above the one it is seen from it looks. -/
structure Glob where
  height : Nat
  pattern : Pattern
  deriving DecidableEq, Repr

namespace Glob

open CodeUnit

def escapeName (before : Option CodeUnit) : Text → Text
  | [] => []
  | u :: rest =>
    let sign := (text "!+@").contains u && rest.head? = some (ofChar '(')
    let escaped := before ≠ some backslash && ((text "()[]\x7b\x7d*?|").contains u || sign)
    (if escaped then [backslash, u] else [u]) ++ escapeName (some u) rest

def way (directory : List Text) (path : Text) : Nat × List Text :=
  if path.head? = some Path.slash then
    let (up, down) := Path.divergence directory (Path.names path)
    (up.length, down)
  else Path.climb path

def shorten (directory : List Text) (up : Nat) (down : List Text) : Nat × List Text :=
  if directory.length < up then (up, down)
  else
    let back := (directory.drop (directory.length - up)).zip down
    let same := (back.takeWhile fun names => names.1 = names.2).length
    (up - same, down.drop same)

/-- The glob of a text as seen from a directory. One that does not end in a star is taken for a
directory too; an empty one, and one that an exclamation mark takes back, is none. -/
def ofText? (directory glob : Text) : Option Glob :=
  let negated := glob.head? = some (ofChar '!') && glob[1]? ≠ some (ofChar '(')
  if glob.isEmpty || negated then none
  else
    let trimmed := if glob.getLast? = some Path.slash then glob.dropLast else glob
    let further := if trimmed.getLast? = some (ofChar '*') then [] else text "/**"
    let names := (Path.names directory).map (escapeName none)
    let (up, down) := way names (trimmed ++ further)
    let (up, down) := shorten names up down
    let glob := Text.joinWith Path.root (List.replicate up Path.parent ++ down)
    some ⟨min up names.length, compile glob⟩

def accepts (g : Glob) (names : List Text) : Bool :=
  g.pattern.matchesAll (Text.joinWith Path.root names)

def beginnings (names : List Text) : List (List Text) :=
  (List.range names.length).map fun n => names.take (n + 1)

def covers (globs : List Glob) (names : List Text) : Bool :=
  (beginnings names).any fun beginning => globs.any (·.accepts beginning)

/-- One of some globs matches a directory on the way down from the highest one that any of them
looks at to the one that they are seen from. -/
def blocks (globs : List Glob) : Bool :=
  let height := (globs.map (·.height)).foldl max 0
  (List.range height).any fun above =>
    let names := if above = 0 then [text "."] else List.replicate above Path.parent
    globs.any (·.accepts names)

end Glob

end Inlay
