import Inlay.Number.Basic

/-!
# The shortest decimal of a number

A number is written with the fewest decimal digits that read back as it, and of those with the
nearest. `shortest` looks for them on the grids of 1, 2, … 17 digits, where only the two
neighbours of the value can be the nearest. `Number.text` then writes magnitudes from `1e-7`
up to `1e21`, both excluded, with a decimal point at most, and all others with an exponent.
-/

namespace Inlay

/-- The decimal `0.d₁d₂… * 10 ^ point`, where `digits` is written `d₁d₂…`. -/
structure Decimal where
  digits : List Char
  point : Int
  deriving DecidableEq

def Decimal.write (d : Decimal) : String :=
  let count : Int := d.digits.length
  let digits := d.digits
  let zeros (n : Int) : List Char := List.replicate n.toNat '0'
  if count ≤ d.point ∧ d.point ≤ 21 then
    String.ofList (digits ++ zeros (d.point - count))
  else if 0 < d.point ∧ d.point ≤ 21 then
    String.ofList (digits.take d.point.toNat ++ '.' :: digits.drop d.point.toNat)
  else if -6 < d.point ∧ d.point ≤ 0 then
    String.ofList ('0' :: '.' :: zeros (-d.point) ++ digits)
  else
    let exponent := d.point - 1
    let sign := if exponent < 0 then '-' else '+'
    let fraction := if digits.length ≤ 1 then [] else '.' :: digits.drop 1
    String.ofList (digits.take 1 ++ fraction ++ 'e' :: sign :: Nat.toDigits 10 exponent.natAbs)

namespace Number

def decimalPoint (value : Rat) : Int :=
  let guess : Int :=
    (Nat.toDigits 10 value.num.natAbs).length - (Nat.toDigits 10 value.den).length
  if value < (10 : Rat) ^ guess then guess else guess + 1

def onGrid? (value unit : Rat) : Option Nat :=
  let scaled := value / unit
  let below := scaled.floor.toNat
  let reads (n : Nat) : Bool := nearest (n * unit) = .finite value
  match reads below, reads (below + 1) with
  | false, false => none
  | true, false => some below
  | false, true => some (below + 1)
  | true, true =>
    let rest := scaled - below
    if rest < 1 / 2 ∨ (rest = 1 / 2 ∧ below % 2 = 0) then some below else some (below + 1)

def shortest (value : Rat) : Decimal :=
  let point := decimalPoint value
  let found := (List.range 17).findSome? fun (n : Nat) =>
    (onGrid? value ((10 : Rat) ^ (point - (n + 1 : Nat)))).map (n + 1, ·)
  let (count, digits) := found.getD (1, 0)
  let written := Nat.toDigits 10 digits
  ⟨dropEnd written, point + (written.length - count)⟩
where
  dropEnd (digits : List Char) : List Char := (digits.reverse.dropWhile (· == '0')).reverse

def text : Number → Text
  | .infinite negative => Text.ofString (if negative then "-Infinity" else "Infinity")
  | .finite value =>
    if value = 0 then Text.ofString "0"
    else if value < 0 then Text.ofString ("-" ++ (shortest (-value)).write)
    else Text.ofString (shortest value).write

end Number

end Inlay
