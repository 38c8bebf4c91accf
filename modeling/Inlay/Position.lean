import Inlay.Region

/-!
# Positions

An engine reports positions in the code of a region. They are carried back to the document line by
line: on the line of a statement by the column where its code starts, on a line of a block by what
the margin took off its indentation. Columns need not be whole: nothing here depends on it. A line
must be: there is nothing between two lines of a region.
-/

namespace Inlay

structure Position where
  line : Int
  column : Rat
  deriving DecidableEq, Repr

namespace Region

/-- The line of the region with a number from 1; the nearest one for numbers out of range, and none
for a number between those of two lines. -/
def lineAt? (r : Region) (line : Rat) : Option RegionLine :=
  let last := r.lines.length
  if line < 1 then r.lines[0]?
  else if last < line then r.lines[last - 1]?
  else if line.den = 1 then r.lines[line.num.toNat - 1]?
  else none

/-- The place in the document of a line and a column of the code. A column inside the indentation of
the code is kept as it is. -/
def toDocument? (r : Region) (line column : Rat) : Option Position :=
  (r.lineAt? line).map fun found =>
    let width : Nat := found.codeIndent.length
    let column :=
      if r.isStatement then column + r.codeColumn
      else if column ≤ width then column
      else column - width + found.indent.length
    ⟨found.index + 1, column⟩

end Region

end Inlay
