/-!
# Text as code units

A document is addressed by offsets and columns that count UTF-16 code units, and a cut may fall
inside a surrogate pair. Text is therefore a list of code units: every list operation is a text
operation, and no cut is ill-formed. Only on the way out does `Text.toString` read pairs as
characters again, with U+FFFD for a unit that is half of a pair.
-/

namespace Inlay

abbrev CodeUnit := UInt16

abbrev Text := List CodeUnit

namespace CodeUnit

def ofChar (c : Char) : CodeUnit := c.toNat.toUInt16

abbrev tab : CodeUnit := 9
abbrev lineFeed : CodeUnit := 10
abbrev formFeed : CodeUnit := 12
abbrev carriageReturn : CodeUnit := 13
abbrev space : CodeUnit := 32
abbrev backslash : CodeUnit := 92

def isDigit (u : CodeUnit) : Bool := ofChar '0' ≤ u && u ≤ ofChar '9'

def isUpper (u : CodeUnit) : Bool := ofChar 'A' ≤ u && u ≤ ofChar 'Z'

def isLower (u : CodeUnit) : Bool := ofChar 'a' ≤ u && u ≤ ofChar 'z'

/-- Lower case for the letters of ASCII; every other unit is kept. -/
def toLower (u : CodeUnit) : CodeUnit := if u.isUpper then u + 32 else u

def digitValue? (u : CodeUnit) : Option Nat :=
  if u.isDigit then some (u.toNat - 48)
  else if u.toLower.isLower then some (u.toLower.toNat - 87)
  else none

def isHighSurrogate (u : CodeUnit) : Bool := 0xD800 ≤ u && u < 0xDC00

def isLowSurrogate (u : CodeUnit) : Bool := 0xDC00 ≤ u && u < 0xE000

def toChar (u : CodeUnit) : Char :=
  if u.isHighSurrogate || u.isLowSurrogate then '\uFFFD' else Char.ofNat u.toNat

end CodeUnit

namespace Text

def unitsOf (c : Char) : Text :=
  if c.toNat < 0x10000 then [c.toNat.toUInt16]
  else
    let offset := c.toNat - 0x10000
    [(0xD800 + offset / 0x400).toUInt16, (0xDC00 + offset % 0x400).toUInt16]

def ofString (s : String) : Text := s.toList.flatMap unitsOf

/-- The characters of a text, a surrogate outside a pair read as U+FFFD. -/
def toChars : Text → List Char
  | high :: low :: rest =>
    if high.isHighSurrogate && low.isLowSurrogate then
      Char.ofNat (0x10000 + (high.toNat - 0xD800) * 0x400 + (low.toNat - 0xDC00)) :: toChars rest
    else high.toChar :: toChars (low :: rest)
  | [unit] => [unit.toChar]
  | [] => []

protected def toString (t : Text) : String := String.ofList t.toChars

def decimal (digits : Text) : Nat :=
  digits.foldl (fun n u => 10 * n + (u.digitValue?.getD 0)) 0

def byteLength (t : Text) : Nat := t.toChars.foldl (fun n c => n + c.utf8Size) 0

end Text

abbrev text (s : String) : Text := Text.ofString s

def Text.ofNat (n : Nat) : Text := text (Nat.repr n)

end Inlay
