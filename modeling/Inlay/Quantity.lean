import Inlay.Number.Shortest
import Inlay.Number.Numeral
import Inlay.Json.Basic

/-!
# Durations and counts

The two kinds of quantity that settings hold. A duration is a number of milliseconds, written as
such or as a decimal with a unit; a count is a positive integer.
-/

namespace Inlay

inductive Duration
  | millis (n : Number)
  | written (t : Text)
  deriving DecidableEq

structure DurationError where
  written : Text
  deriving DecidableEq, Repr

def DurationError.message (e : DurationError) : Text :=
  text "Invalid duration format: " ++ e.written

namespace Duration

def second : Nat := 1000
def minute : Nat := 60 * second
def hour : Nat := 60 * minute
def day : Nat := 24 * hour

/-- The milliseconds in a unit. No unit stands for milliseconds, and capitals do not matter. -/
def unit? (t : Text) : Option Nat :=
  let t := t.map CodeUnit.toLower
  if t.isEmpty || t = text "ms" then some 1
  else if t = text "s" then some second
  else if t = text "m" then some minute
  else if t = text "h" then some hour
  else if t = text "d" then some day
  else none

/-- Digits, perhaps a point and more digits, perhaps blanks, perhaps a unit. The product is rounded
as a double before it is cut down to whole milliseconds. -/
def parse (t : Text) : Except DurationError Number :=
  let whole := t.takeWhile CodeUnit.isDigit
  let behind := t.dropWhile CodeUnit.isDigit
  let pointed := behind.head? = some (CodeUnit.ofChar '.')
  let fraction := if pointed then (behind.drop 1).takeWhile CodeUnit.isDigit else []
  let rest := if pointed then (behind.drop 1).dropWhile CodeUnit.isDigit else behind
  if whole.isEmpty || (pointed && fraction.isEmpty) then .error ⟨t⟩
  else
    match unit? (Text.trimStart rest) with
    | none => .error ⟨t⟩
    | some unit => .ok (((Numeral.mk whole fraction 0).value.scale unit).floor)

def toMillis : Duration → Except DurationError Number
  | millis n => .ok n
  | written t => parse t

def format (n : Number) : Text :=
  if n.lt (.ofNat second) then n.text ++ text "ms"
  else if n.lt (.ofNat minute) then (n.floorDiv second).text ++ text "s"
  else if n.lt (.ofNat hour) then (n.floorDiv minute).text ++ text "m"
  else if n.lt (.ofNat day) then (n.floorDiv hour).text ++ text "h"
  else (n.floorDiv day).text ++ text "d"

end Duration

-- ---------------------------------------------------------------------------
-- Counts
-- ---------------------------------------------------------------------------

structure CountError where
  name : Text
  given : Text
  deriving DecidableEq, Repr

def CountError.message (e : CountError) : Text :=
  e.name ++ text " must be a positive integer, got: " ++ e.given

namespace Count

def ofNumber (name : Text) (n : Number) : Except CountError Nat :=
  match n.toPositive? with
  | some count => .ok count
  | none => .error ⟨name, n.text⟩

def ofText (name t : Text) : Except CountError Nat :=
  match (Number.ofText? t).bind Number.toPositive? with
  | some count => .ok count
  | none => .error ⟨name, t⟩

theorem one_le_of_ofText {name t : Text} {count : Nat} (h : ofText name t = .ok count) :
    1 ≤ count := by
  rw [ofText] at h
  split at h
  · next hc =>
    cases h
    obtain ⟨n, _, hn⟩ := Option.bind_eq_some_iff.1 hc
    exact Number.one_le_of_toPositive? hn
  · cases h

end Count

def defaultConcurrency : Nat := 4

/-- The concurrency that the environment asks for: the integer it starts with, if that is positive
and finite, and otherwise the default. -/
def concurrencyOfEnvironment (value : Option Text) : Nat :=
  match (value.bind Number.leadingInt?).bind fun i => (Number.ofInt i).toPositive? with
  | some count => count
  | none => defaultConcurrency

end Inlay
