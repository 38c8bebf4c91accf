import Inlay.Partition

/-!
# Splicing

Formatted code goes back to where its region was: every line gets the margin and the line break of
the region, and everything outside formatted regions is copied. A region that failed, or has no
result, keeps its text.
-/

namespace Inlay

inductive RegionFailure
  | syntaxError (message : Text) (line : Int) (column : Rat)
  | engineError (message : Text)
  deriving DecidableEq, Repr

def RegionFailure.message : RegionFailure → Text
  | syntaxError message _ _ => message
  | engineError message => message

inductive RegionResult
  | formatted (code : Text)
  | failed (failure : RegionFailure)
  deriving DecidableEq, Repr

namespace Region

open CodeUnit

/-- Puts the margin before lines of code, the first of which begins in a lexer state. A blank line
comes out empty unless its white space belongs to a string. -/
def margined (margin : Text) (s : LexState) : List Text → List Text
  | [] => []
  | line :: rest =>
    let kept := !Text.isBlank line || (s.inString && !line.isEmpty)
    (if kept then margin ++ line else []) :: margined margin (s.after .embedded line) rest

def unterminated (code : Text) : Text :=
  if code.getLast? = some lineFeed then code.dropLast else code

def reindent (r : Region) (code : Text) : Text :=
  let body := unterminated code
  if r.isStatement then body
  else if body.isEmpty then []
  else
    let lines := margined r.margin .initial (Text.splitOn lineFeed body)
    let joined := Text.joinWith r.lineBreak.text lines
    if r.endsWithBreak then joined ++ r.lineBreak.text else joined

def restored (r : Region) : Text := r.lines.flatMap RegionLine.restored

/-- What stands in the document in place of the region once it has a result. -/
def render (document : Text) (r : Region) : Option RegionResult → Text
  | some (.formatted code) => r.reindent code
  | _ => Text.slice document r.span.start r.span.stop

end Region

def Partition.splice (p : Partition) (results : List (Option RegionResult)) : Text :=
  p.segments.flatMap fun
    | .host span => Text.slice p.document.text span.start span.stop
    | .embedded id region => region.render p.document.text results[id]?.join

end Inlay
