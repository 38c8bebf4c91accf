import Inlay.Text.Blank
import Inlay.Number.Basic

/-!
# Numerals

Reading numbers. A numeral is a run of decimal digits, a fraction and a power of ten; its value is
the double nearest to what it denotes. `Number.ofText?` reads a whole text: nothing denotes zero,
`0x`, `0o` and `0b` introduce unsigned digits of another base, and anything but a numeral between
blanks is refused. `Int` and `Nat` are read from digits exactly.
-/

namespace Inlay

open CodeUnit

def Text.inBase? (base : Nat) (digits : Text) : Option Nat :=
  if digits.isEmpty then none
  else digits.foldlM (fun n u => do
    let d ← u.digitValue?
    if d < base then some (base * n + d) else none) 0

structure Numeral where
  whole : Text
  fraction : Text
  exponent : Int

def Numeral.value (n : Numeral) : Number :=
  Number.ofDecimal (Text.decimal (n.whole ++ n.fraction)) (n.exponent - n.fraction.length)

def Text.takeSign : Text → Bool × Text
  | u :: rest =>
    if u = ofChar '-' then (true, rest) else if u = ofChar '+' then (false, rest)
    else (false, u :: rest)
  | [] => (false, [])

/-- The power of ten at the start of a text, zero when none is written there. -/
def Numeral.takeExponent? : Text → Option (Int × Text)
  | [] => some (0, [])
  | u :: rest =>
    if u.toLower = ofChar 'e' then
      let (negative, rest) := Text.takeSign rest
      let digits := rest.takeWhile isDigit
      if digits.isEmpty then none
      else
        let power : Int := Text.decimal digits
        some (if negative then -power else power, rest.dropWhile isDigit)
    else some (0, u :: rest)

def Numeral.ofText? (t : Text) : Option Numeral := do
  let whole := t.takeWhile isDigit
  let behind := t.dropWhile isDigit
  let (fraction, rest) :=
    if behind.head? = some (ofChar '.') then
      ((behind.drop 1).takeWhile isDigit, (behind.drop 1).dropWhile isDigit)
    else ([], behind)
  if whole.isEmpty && fraction.isEmpty then none
  let (exponent, rest) ← takeExponent? rest
  if rest.isEmpty then some ⟨whole, fraction, exponent⟩ else none

def Numeral.announcedBase? : Text → Option Nat
  | zero :: letter :: _ =>
    if zero ≠ ofChar '0' then none
    else if letter.toLower = ofChar 'x' then some 16
    else if letter.toLower = ofChar 'o' then some 8
    else if letter.toLower = ofChar 'b' then some 2
    else none
  | _ => none

def Number.ofText? (t : Text) : Option Number :=
  let t := Text.trim t
  if t.isEmpty then some (.finite 0)
  else
    match Numeral.announcedBase? t with
    | some base => (Text.inBase? base (t.drop 2)).map fun n => nearest n
    | none =>
      let (negative, rest) := Text.takeSign t
      let magnitude :=
        if rest = Inlay.text "Infinity" then some (.infinite false)
        else (Numeral.ofText? rest).map Numeral.value
      magnitude.map fun m => if negative then m.neg else m

/-- The integer that a text starts with, behind blanks and a sign; what follows it is ignored. -/
def Number.leadingInt? (t : Text) : Option Int :=
  let (negative, rest) := Text.takeSign (Text.trimStart t)
  let digits := rest.takeWhile isDigit
  if digits.isEmpty then none
  else
    let magnitude : Int := Text.decimal digits
    some (if negative then -magnitude else magnitude)

end Inlay
