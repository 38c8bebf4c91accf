import Inlay.Text.Search
import Inlay.Number.Basic
import Inlay.Engine.Basic

/-!
# Syntax error reports

What the two known engines write when a source does not parse. One writes `Cannot parse`, some
text, and `: line:column: detail` with columns from 0; the other writes `Failed to parse`, some
text, and `:line:column: detail` with columns from 1. The phrase and the colon of the position
stand on one line. The first phrase, and behind it the first position, that make a report count.
-/

namespace Inlay

/-- A position in a source, from 1, and the message that goes with it. -/
structure SyntaxReport where
  message : Text
  line : Nat
  column : Nat
  deriving DecidableEq, Repr

structure ReportStyle where
  phrase : Text
  spaced : Bool
  /-- What makes a column of the engine count from 1. -/
  columnOffset : Nat

namespace SyntaxReport

open CodeUnit

def colon : CodeUnit := ofChar ':'

def takeNumber? (t : Text) : Option (Nat × Text) :=
  let digits := t.takeWhile isDigit
  match t.dropWhile isDigit with
  | u :: rest => if u = colon && !digits.isEmpty then some (Text.decimal digits, rest) else none
  | [] => none

def detailMessage (detail : Text) : Text :=
  let detail := Text.trim detail
  if detail.isEmpty then text "Cannot parse" else text "Cannot parse: " ++ detail

def ofPosition? (style : ReportStyle) (t : Text) : Option SyntaxReport := do
  let (line, t) ← takeNumber? (if style.spaced then Text.trimStart t else t)
  let (column, t) ← takeNumber? t
  let detail := (Text.trimStart t).takeWhile (· != lineFeed)
  some ⟨detailMessage detail, Number.roundNat line,
    Number.roundNat (Number.roundNat column + style.columnOffset)⟩

def behindPhrase? (style : ReportStyle) : Text → Option SyntaxReport
  | [] => none
  | u :: rest =>
    if u = lineFeed then none
    else (if u = colon then ofPosition? style rest else none) <|> behindPhrase? style rest

def inStyle? (style : ReportStyle) : Text → Option SyntaxReport
  | [] => none
  | u :: rest =>
    (if style.phrase.isPrefixOf (u :: rest) then
      behindPhrase? style ((u :: rest).drop style.phrase.length)
    else none) <|> inStyle? style rest

def blackStyle : ReportStyle := ⟨text "Cannot parse", true, 1⟩

def ruffStyle : ReportStyle := ⟨text "Failed to parse", false, 0⟩

def ofStderr? (stderr : Text) : Option SyntaxReport :=
  inStyle? blackStyle stderr <|> inStyle? ruffStyle stderr

def toError (r : SyntaxReport) : EngineError := .syntaxError r.message r.line r.column

end SyntaxReport

end Inlay
