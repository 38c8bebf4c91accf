import Inlay.Region

/-!
# Partitions

A document is cut into host segments, which are copied, and embedded ones, which are formatted.
One pass over the lines reads the regions; the segments then are what lies between them.
`checkTiling` is the independent test that segments cover a text in order, without gap or overlap.
-/

namespace Inlay

structure Document where
  text : Text
  lines : List Line
  style : LineStyle

def Document.ofText (t : Text) : Document :=
  let lines := Line.scan t
  ⟨t, lines, .ofLines (lines.map Line.toRawLine)⟩

inductive Segment
  | host (span : Span)
  | embedded (id : Nat) (region : Region)
  deriving DecidableEq, Repr

def Segment.span : Segment → Span
  | host span => span
  | embedded _ region => region.span

/-- A line of the script as it is read: the lexer state in which it begins, and the region that it
introduces. The lines of a block are read with the line that introduces them. -/
structure Reading where
  line : Line
  start : LexState
  region : Option Region
  deriving DecidableEq, Repr

structure Partition where
  document : Document
  regions : List Region
  segments : List Segment

namespace Partition

/-- The lines from a lexer state on, as they are read. The text behind a region starts afresh: no
string, bracket or continuation of the embedded code reaches it. -/
def readFrom (indentation : Indentation) (style : LineStyle) (s : LexState) :
    List Line → Except StructureError (List Reading)
  | [] => .ok []
  | line :: below => do
    let lexed := lexLine .host s line.content
    match ← Introducer.recognize line s lexed.tokens with
    | .none =>
      let readings ← readFrom indentation style lexed.finish below
      return ⟨line, s, none⟩ :: readings
    | .statement _ code stop =>
      let readings ← readFrom indentation style .initial below
      return ⟨line, s, Region.ofStatement line code stop⟩ :: readings
    | .block header colon =>
      let region ←
        Region.ofBlock indentation style line header.variant header (colon + 1) below
      let readings ← readFrom indentation style .initial (below.drop region.lines.length)
      return ⟨line, s, region⟩ :: readings
termination_by lines => lines.length

def readings (indentation : Indentation) (document : Document) :
    Except StructureError (List Reading) :=
  readFrom indentation document.style .initial document.lines

/-- The segments from an offset on, given the regions that lie behind it. -/
def segmentsFrom (length offset id : Nat) : List Region → List Segment
  | [] => if offset < length then [.host ⟨offset, length⟩] else []
  | region :: regions =>
    let between := if offset < region.span.start then [.host ⟨offset, region.span.start⟩] else []
    between ++ .embedded id region :: segmentsFrom length region.span.stop (id + 1) regions

def build (indentation : Indentation) (document : Document) : Except StructureError Partition := do
  let regions := (← readings indentation document).filterMap Reading.region
  return ⟨document, regions, segmentsFrom document.text.length 0 0 regions⟩

end Partition

-- ---------------------------------------------------------------------------
-- Tiling
-- ---------------------------------------------------------------------------

inductive TilingError
  | broken (offset start stop : Int)
  | short (covered : Int) (length : Nat)
  deriving DecidableEq, Repr

def Text.ofInt (i : Int) : Text := Inlay.text i.repr

def TilingError.message : TilingError → Text
  | broken offset start stop =>
    text "Segment partition broken at offset " ++ Text.ofInt offset ++ text ": segment spans " ++
      Text.ofInt start ++ text "-" ++ Text.ofInt stop
  | short covered length =>
    text "Segments cover " ++ Text.ofInt covered ++ text " of " ++ Text.ofNat length ++
      text " characters"

def checkTilingFrom (length : Nat) (offset : Int) : List (Int × Int) → Except TilingError Unit
  | [] => if offset = length then .ok () else .error (.short offset length)
  | (start, stop) :: rest =>
    if start = offset ∧ start ≤ stop then checkTilingFrom length stop rest
    else .error (.broken offset start stop)

def checkTiling (length : Nat) (intervals : List (Int × Int)) : Except TilingError Unit :=
  checkTilingFrom length 0 intervals

def Partition.check (p : Partition) : Except TilingError Unit :=
  checkTiling p.document.text.length
    (p.segments.map fun segment => (↑segment.span.start, ↑segment.span.stop))

end Inlay
