import Inlay.Text.Search

/-!
# Spacing assignments

The formatting rule of the in-process engine: one space on either side of an equals sign that
stands alone, no white space at the end of a line, no empty lines at the end.
-/

namespace Inlay.Assignments

open CodeUnit

def equals : CodeUnit := ofChar '='

def operatorUnits : Text := text "=!<>+-*/%&|^:"

/-- The text behind a lone equals sign that stands here, past white space on both sides. The unit
`before` is the one in front of the text on its line. -/
def loneEquals? (before : Option CodeUnit) (t : Text) : Option Text :=
  let blanks := t.takeWhile CodeUnit.isBlank
  match t.dropWhile CodeUnit.isBlank with
  | [] => none
  | sign :: rest =>
    let joined := blanks.isEmpty && before.any operatorUnits.contains
    if sign = equals && rest.head? != some equals && !joined then some rest else none

def spaced (before : Option CodeUnit) (t : Text) : Text :=
  match _h : loneEquals? before t with
  | some rest =>
    let gap := rest.takeWhile CodeUnit.isBlank
    text " = " ++ spaced (gap.getLast? <|> some equals) (rest.dropWhile CodeUnit.isBlank)
  | none =>
    match t with
    | [] => []
    | u :: rest => u :: spaced (some u) rest
termination_by t.length
decreasing_by
  · have shorter : rest.length < t.length := by
      simp only [loneEquals?] at _h
      split at _h
      · cases _h
      · next sign behind hd =>
        split at _h
        · cases _h
          have := (List.dropWhile_sublist CodeUnit.isBlank (l := t)).length_le
          rw [hd, List.length_cons] at this
          omega
        · cases _h
    have := (List.dropWhile_sublist CodeUnit.isBlank (l := rest)).length_le
    omega
  · simp

def formatLine (line : Text) : Text := Text.trimEnd (spaced none line)

def format (source : Text) : Text :=
  let lines := (Text.splitOn lineFeed source).map formatLine
  let kept := dropEndWhile List.isEmpty lines
  if kept.isEmpty then [] else Text.joinWith [lineFeed] kept ++ [lineFeed]

end Inlay.Assignments
