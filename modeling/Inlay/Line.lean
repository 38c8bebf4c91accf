import Inlay.Text.Search

/-!
# Physical lines

A text is cut behind every line break: CR LF, a lone LF or a lone CR. The break belongs to the
line before it, and a break at the very end opens no further line. `join_split` says that nothing
is lost; `Line` adds to a line its number and the offset it starts at.
-/

namespace Inlay

inductive LineBreak
  | lf
  | crlf
  | cr
  deriving DecidableEq, Repr

namespace LineBreak

def text : LineBreak → Text
  | lf => [CodeUnit.lineFeed]
  | crlf => [CodeUnit.carriageReturn, CodeUnit.lineFeed]
  | cr => [CodeUnit.carriageReturn]

end LineBreak

def endingText (ending : Option LineBreak) : Text := ending.elim [] LineBreak.text

structure RawLine where
  content : Text
  ending : Option LineBreak
  deriving DecidableEq, Repr

namespace RawLine

def text (line : RawLine) : Text := line.content ++ endingText line.ending

def isBlank (line : RawLine) : Bool := Text.isBlank line.content

def indent (line : RawLine) : Text := Text.indentation line.content

def body (line : RawLine) : Text := Text.unindented line.content

theorem indent_append_body (line : RawLine) : line.indent ++ line.body = line.content :=
  Text.indentation_append_unindented _

def consUnit (u : CodeUnit) : List RawLine → List RawLine
  | [] => [⟨[u], none⟩]
  | line :: lines => ⟨u :: line.content, line.ending⟩ :: lines

def split : Text → List RawLine
  | [] => []
  | u :: rest =>
    if u = CodeUnit.lineFeed then ⟨[], some .lf⟩ :: split rest
    else if u = CodeUnit.carriageReturn then
      match rest with
      | v :: behind =>
        if v = CodeUnit.lineFeed then ⟨[], some .crlf⟩ :: split behind
        else ⟨[], some .cr⟩ :: split (v :: behind)
      | [] => [⟨[], some .cr⟩]
    else consUnit u (split rest)

def join (lines : List RawLine) : Text := lines.flatMap text

theorem join_cons (line : RawLine) (lines : List RawLine) :
    join (line :: lines) = line.text ++ join lines := by
  simp [join]

theorem join_consUnit (u : CodeUnit) (lines : List RawLine) :
    join (consUnit u lines) = u :: join lines := by
  cases lines <;> simp [consUnit, join, text, endingText]

theorem join_split (t : Text) : join (split t) = t := by
  fun_induction split t with
  | case1 => rfl
  | case2 rest ih => simp_all [join_cons, text, endingText, LineBreak.text]
  | case3 behind _ ih => simp_all [join_cons, text, endingText, LineBreak.text]
  | case4 v behind _ hv ih => simp_all [join_cons, text, endingText, LineBreak.text]
  | case5 => simp_all [join, text, endingText, LineBreak.text]
  | case6 u rest _ _ ih => simp [join_consUnit, ih]

end RawLine

-- ---------------------------------------------------------------------------
-- Lines with their places
-- ---------------------------------------------------------------------------

/-- A line of a document: its number from 0 and the offset of its first unit. -/
structure Line extends RawLine where
  index : Nat
  start : Nat
  deriving DecidableEq, Repr

namespace Line

def stop (line : Line) : Nat := line.start + line.content.length

def next (line : Line) : Nat := line.start + line.toRawLine.text.length

def place (index start : Nat) : List RawLine → List Line
  | [] => []
  | line :: lines =>
    { line with index, start } :: place (index + 1) (start + line.text.length) lines

def scan (t : Text) : List Line := place 0 0 (RawLine.split t)

theorem map_toRawLine_place (lines : List RawLine) (index start : Nat) :
    (place index start lines).map Line.toRawLine = lines := by
  induction lines generalizing index start with
  | nil => rfl
  | cons line lines ih => simp [place, ih]

theorem map_toRawLine_scan (t : Text) : (scan t).map Line.toRawLine = RawLine.split t :=
  map_toRawLine_place _ _ _

end Line

-- ---------------------------------------------------------------------------
-- The breaks of a document
-- ---------------------------------------------------------------------------

structure LineStyle where
  dominant : LineBreak
  mixed : Bool
  deriving DecidableEq, Repr

namespace LineStyle

def count (lines : List RawLine) (kind : LineBreak) : Nat :=
  lines.countP fun line => line.ending = some kind

/-- Of breaks that are equally frequent the first of LF, CR LF, CR is dominant. -/
def ofLines (lines : List RawLine) : LineStyle where
  dominant :=
    if count lines .crlf ≤ count lines .lf ∧ count lines .cr ≤ count lines .lf then .lf
    else if count lines .cr ≤ count lines .crlf then .crlf
    else .cr
  mixed := ([LineBreak.lf, .crlf, .cr].filter fun kind => 0 < count lines kind).length > 1

end LineStyle

end Inlay
