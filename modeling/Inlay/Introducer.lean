import Inlay.Header
import Inlay.Line

/-!
# Introducers

A line introduces embedded code when it starts a logical line of the script and begins with the
marker `$`, whose code stands behind it on the same line, or with a block header, whose code
stands on the lines below. Any other line is host text.
-/

namespace Inlay

inductive Introducer
  | none
  | statement (marker code stop : Nat)
  | block (header : Header) (colon : Nat)
  deriving DecidableEq, Repr

namespace Introducer

open CodeUnit

def marker : CodeUnit := ofChar '$'

def gap (t : Text) : Nat := (t.takeWhile fun u => u == space || u == tab).length

def ofMarker (line : Line) (column : Nat) : Except StructureError Introducer :=
  let code := column + 1 + gap (line.content.drop (column + 1))
  let stop := (Text.trimEnd line.content).length
  if stop ≤ code then .error ⟨.introducer .missingCode, line.index + 1, column + 1⟩
  else .ok (.statement column code stop)

/-- The place of a refusal: its token, or just past the last unit that is not blank. -/
def refusalError (line : Line) (refusal : HeaderRefusal) : StructureError :=
  let column := (refusal.found.map (·.column)).getD (Text.trimEnd line.content).length
  ⟨.introducer refusal.fault, line.index + 1, column + 1⟩

def recognize (line : Line) (start : LexState) (tokens : List Token) :
    Except StructureError Introducer :=
  if !start.startsStatement then .ok none
  else
    match tokens with
    | [] => .ok none
    | first :: _ =>
      if first.isPunct marker then ofMarker line first.column
      else
        match Header.ofTokens? tokens with
        | .ok (some (header, colon)) => .ok (.block header colon)
        | .ok .none => .ok none
        | .error refusal => .error (refusalError line refusal)

end Introducer

end Inlay
