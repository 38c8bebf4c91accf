import Inlay.Introducer

/-!
# Embedded regions

A region is a piece of a document that holds embedded code: the rest of a line behind a marker, or
the lines of a block. It carries the code as the engine is to see it, moved to the left margin and
with line feeds only, and for every line what was taken off, so that the lines can be restored
and a position in the code found in the document.
-/

namespace Inlay

structure Span where
  start : Nat
  stop : Nat
  deriving DecidableEq, Repr

structure RegionLine where
  index : Nat
  indent : Text
  codeIndent : Text
  body : Text
  ending : Option LineBreak
  deriving DecidableEq, Repr

def RegionLine.restored (line : RegionLine) : Text :=
  line.indent ++ line.body ++ endingText line.ending

def RegionLine.code (line : RegionLine) : Text :=
  line.codeIndent ++ if Text.isBlank line.body then [] else line.body

inductive RegionForm
  | statement
  | block (variant : BlockVariant) (header : Header)
  deriving DecidableEq, Repr

def RegionForm.isStatement : RegionForm → Bool
  | statement => true
  | block _ _ => false

structure Region where
  form : RegionForm
  span : Span
  /-- The number of the line that introduces the region. -/
  introducer : Nat
  outerIndent : Text
  /-- The indentation of the margin, which formatted lines are given back. -/
  margin : Text
  codeColumn : Nat
  lines : List RegionLine
  code : Text
  lineBreak : LineBreak
  /-- The last line of the region ends in a line break that belongs to it. -/
  endsWithBreak : Bool
  deriving DecidableEq, Repr

namespace Region

open CodeUnit

def isStatement (r : Region) : Bool := r.form.isStatement

def startLine (r : Region) : Nat := (r.lines.head?.map (·.index)).getD r.introducer

def ofStatement (line : Line) (code stop : Nat) : Region :=
  let body := Text.slice line.content code stop
  { form := .statement
    span := ⟨line.start + code, line.start + stop⟩
    introducer := line.index
    outerIndent := line.indent
    margin := line.indent
    codeColumn := code
    lines := [⟨line.index, [], [], body, none⟩]
    code := body ++ [lineFeed]
    lineBreak := line.ending.getD .lf
    endsWithBreak := false }

-- ---------------------------------------------------------------------------
-- The lines of a block
-- ---------------------------------------------------------------------------

/-- A line of a block and the state of the lexer in which it begins. -/
structure BodyLine where
  line : Line
  start : LexState
  deriving DecidableEq, Repr

namespace BodyLine

def isBlank (b : BodyLine) : Bool := b.line.isBlank

def inString (b : BodyLine) : Bool := b.start.inString

def startsStatement (b : BodyLine) : Bool := b.start.startsStatement

/-- The line is nothing but a comment, the indentation of which means nothing. -/
def isComment (b : BodyLine) : Bool :=
  b.startsStatement &&
    (lexLine .embedded b.start b.line.content).tokens.head?.any (·.kind = .comment)

/-- The indentation of the line says how deep its statement is nested. -/
def isAnchor (b : BodyLine) : Bool := !b.isBlank && b.startsStatement && !b.isComment

def finish (b : BodyLine) : LexState := b.start.after .embedded b.line.content

end BodyLine

def stays (tabWidth introducerWidth : Nat) (line : Line) : Bool :=
  line.isBlank || introducerWidth < Indent.width tabWidth line.indent

def bodyFrom (tabWidth introducerWidth : Nat) (s : LexState) : List Line → List BodyLine
  | [] => []
  | line :: rest =>
    if stays tabWidth introducerWidth line then
      ⟨line, s⟩ :: bodyFrom tabWidth introducerWidth (s.after .embedded line.content) rest
    else []

def bodyFinish (body : List BodyLine) : LexState :=
  (body.getLast?.map BodyLine.finish).getD .initial

def narrower (tabWidth : Nat) (least : Option BodyLine) (b : BodyLine) : Option BodyLine :=
  if !b.isAnchor then least
  else
    match least with
    | some a =>
      if Indent.width tabWidth b.line.indent < Indent.width tabWidth a.line.indent then some b
      else least
    | none => some b

def leastAnchor (tabWidth : Nat) (body : List BodyLine) : Option BodyLine :=
  body.foldl (narrower tabWidth) none

/-- The margin of a block: the indentation of its least wide anchor. A block of comments has that
of its first line. -/
def bodyMargin (tabWidth : Nat) (body : List BodyLine) : Text :=
  let chosen := leastAnchor tabWidth body <|> body.find? (!·.isBlank) <|> body.head?
  (chosen.map (·.line.indent)).getD []

/-- What the indentation of a line becomes when the margin is taken off, or nothing if the line
cannot be moved. A line whose indentation means nothing loses what it has. -/
def dedented? (indentation : Indentation) (margin : Text) (b : BodyLine) : Option Text :=
  let indent := b.line.indent
  let width := Indent.width indentation.tabWidth indent
  let marginWidth := Indent.width indentation.tabWidth margin
  if b.isBlank && !b.inString then some []
  else
    match indentation.policy with
    | .reject =>
      if margin.isPrefixOf indent then some (indent.drop margin.length)
      else if b.isBlank || b.isComment then some []
      else if !b.inString && !b.startsStatement && width < marginWidth then some []
      else none
    | .expandTabs =>
      if marginWidth ≤ width then some (Indent.spaces (width - marginWidth))
      else if b.isBlank || b.isComment then some []
      else if b.inString then none
      else some []

def dedentLine (indentation : Indentation) (margin : Text) (b : BodyLine) :
    Except StructureError RegionLine :=
  match dedented? indentation margin b with
  | some codeIndent =>
    .ok ⟨b.line.index, b.line.indent, codeIndent, b.line.body, b.line.ending⟩
  | none => .error ⟨.indentation (.offMargin b.line.indent margin), b.line.index + 1, 1⟩

def breakOf (style : LineStyle) (lines : List Line) : LineBreak :=
  match lines.filterMap (·.ending) with
  | [] => style.dominant
  | first :: rest => if rest.all (· = first) then first else style.dominant

def blockCode (lines : List RegionLine) : Text :=
  Text.joinWith [lineFeed] (lines.map RegionLine.code) ++ [lineFeed]

/-- The region of the lines of a block whose header ends at a column. The fault of a block without
lines is placed behind the header. -/
def ofBody (indentation : Indentation) (style : LineStyle) (introducer : Line)
    (variant : BlockVariant) (header : Header) (behind : Nat) (body : List BodyLine) :
    Except StructureError Region :=
  match body.head?, body.getLast? with
  | some first, some last => do
    let margin := bodyMargin indentation.tabWidth body
    let lines ← body.mapM (dedentLine indentation margin)
    .ok
      { form := .block variant header
        span := ⟨first.line.start, last.line.next⟩
        introducer := introducer.index
        outerIndent := introducer.indent
        margin
        codeColumn := 0
        lines
        code := blockCode lines
        lineBreak := breakOf style (body.map (·.line))
        endsWithBreak := last.line.ending.isSome }
  | _, _ => .error ⟨.introducer .missingBlock, introducer.index + 1, behind + 1⟩

def ofBlock (indentation : Indentation) (style : LineStyle) (introducer : Line)
    (variant : BlockVariant) (header : Header) (behind : Nat) (below : List Line) :
    Except StructureError Region := do
  let introducerWidth := Indent.width indentation.tabWidth introducer.indent
  let reached := bodyFrom indentation.tabWidth introducerWidth .initial below
  if let some leaving := (below.drop reached.length).head? then
    if (bodyFinish reached).isOpen then
      .error ⟨.indentation .openDedent, leaving.index + 1, 1⟩
  ofBody indentation style introducer variant header behind
    (dropEndWhile BodyLine.isBlank reached)

end Region

end Inlay
