import Inlay.Text.Basic

/-!
# Numbers

A number is the value of an IEEE double: a rational or one of the two infinities. Zero has no sign
and no operation of this library yields an undefined value, so neither is represented. What is
read or computed exactly goes through `Number.nearest`, which rounds to the nearest double and a
tie to the even significand.
-/

namespace Inlay

inductive Number
  | finite (value : Rat)
  | infinite (negative : Bool)
  deriving DecidableEq, Repr

def roundRatio (num den : Nat) : Nat :=
  let below := num / den
  let twice := 2 * (num % den)
  if twice < den ∨ (twice = den ∧ below % 2 = 0) then below else below + 1

namespace Number

instance : Inhabited Number := ⟨.finite 0⟩

def ofNat (n : Nat) : Number := .finite n

-- ---------------------------------------------------------------------------
-- Rounding to a double
-- ---------------------------------------------------------------------------

/-- The exponent of two that the last place of a double of this positive magnitude has: 53 bits
from the first, but never below the smallest double. -/
def lastPlace (num den : Nat) : Int :=
  let guess : Int := num.log2 - den.log2
  let below := num * Nat.pow 2 (-guess).toNat < den * Nat.pow 2 guess.toNat
  let first := if below then guess - 1 else guess
  max (first - 52) (-1074)

def nearestMagnitude (num den : Nat) : Rat :=
  let place := lastPlace num den
  let units := roundRatio (num * Nat.pow 2 (-place).toNat) (den * Nat.pow 2 place.toNat)
  mkRat (units * Nat.pow 2 place.toNat) (Nat.pow 2 (-place).toNat)

def nearest (q : Rat) : Number :=
  if q.num = 0 then .finite 0
  else
    let magnitude := nearestMagnitude q.num.natAbs q.den
    if magnitude.num ≥ Nat.pow 2 1024 then .infinite (q.num < 0)
    else .finite (if q.num < 0 then -magnitude else magnitude)

/-- The double nearest to `digits * 10 ^ exponent`. Exponents far beyond the range of doubles are
decided without computing the power. -/
def ofDecimal (digits : Nat) (exponent : Int) : Number :=
  let size : Int := (Nat.toDigits 10 digits).length + exponent
  if digits = 0 ∨ size < -400 then .finite 0
  else if size > 400 then .infinite false
  else nearest (mkRat (digits * Nat.pow 10 exponent.toNat) (Nat.pow 10 (-exponent).toNat))

def ofInt (i : Int) : Number := nearest i

/-- The natural number with 53 significant bits nearest to another, whatever its size. One below
2⁵³ has no more bits than that. -/
def roundNat (n : Nat) : Nat :=
  if n < 9007199254740992 then n else (nearestMagnitude n 1).floor.toNat

-- ---------------------------------------------------------------------------
-- Operations
-- ---------------------------------------------------------------------------

def neg : Number → Number
  | .finite value => .finite (-value)
  | .infinite negative => .infinite !negative

def scale (factor : Nat) : Number → Number
  | .finite value => nearest (value * factor)
  | .infinite negative => .infinite negative

/-- The floor of the quotient by a positive divisor, which is first rounded itself. -/
def floorDiv (divisor : Nat) : Number → Number
  | .finite value =>
    match nearest (value / divisor) with
    | .finite quotient => .finite quotient.floor
    | .infinite negative => .infinite negative
  | .infinite negative => .infinite negative

def floor (n : Number) : Number := n.floorDiv 1

def lt : Number → Number → Bool
  | .finite a, .finite b => a < b
  | .finite _, .infinite negative => !negative
  | .infinite negative, .finite _ => negative
  | .infinite a, .infinite b => a && !b

def toInt? : Number → Option Int
  | .finite value => if value.den = 1 then some value.num else none
  | .infinite _ => none

def toPositive? (n : Number) : Option Nat :=
  match n.toInt? with
  | some (.ofNat (k + 1)) => some (k + 1)
  | _ => none

theorem toInt?_ofNat (n : Nat) : (ofNat n).toInt? = some n := by
  simp [ofNat, toInt?]

theorem toPositive?_ofNat {n : Nat} (h : 1 ≤ n) : (ofNat n).toPositive? = some n := by
  obtain ⟨k, rfl⟩ : ∃ k, n = k + 1 := ⟨n - 1, by omega⟩
  rw [toPositive?, toInt?_ofNat]
  rfl

theorem one_le_of_toPositive? {n : Number} {k : Nat} (h : n.toPositive? = some k) : 1 ≤ k := by
  rw [toPositive?] at h
  split at h
  · cases h; omega
  · cases h

end Number

end Inlay
