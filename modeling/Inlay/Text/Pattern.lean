import Inlay.Text.Basic

/-!
# Patterns over texts

Patterns are built from sets of units by sequence, choice and repetition, and may ask what stands
ahead. A pattern is read as a step between offsets of a text: `reach` gives the offsets at which a
match can end that starts at one of some others. `matchesAll` asks for a match of the whole text.
-/

namespace Inlay

structure UnitSet where
  ranges : List (CodeUnit × CodeUnit)
  negated : Bool
  deriving DecidableEq, Repr

namespace UnitSet

def contains (s : UnitSet) (u : CodeUnit) : Bool :=
  (s.ranges.any fun range => range.1 ≤ u && u ≤ range.2) != s.negated

def ofUnits (t : Text) : UnitSet := ⟨t.map fun u => (u, u), false⟩

def except (t : Text) : UnitSet := ⟨t.map fun u => (u, u), true⟩

end UnitSet

inductive Pattern
  | empty
  | unit (set : UnitSet)
  | seq (first second : Pattern)
  | either (left right : Pattern)
  | many (body : Pattern)
  /-- Whether the body matches from here on, or does not. -/
  | ahead (wanted : Bool) (body : Pattern)
  | start
  | finish
  deriving DecidableEq, Repr

namespace Pattern

def literal (u : CodeUnit) : Pattern := unit (UnitSet.ofUnits [u])

def sequence (patterns : List Pattern) : Pattern := patterns.foldr seq empty

def ofText (t : Text) : Pattern := sequence (t.map literal)

def optional (p : Pattern) : Pattern := either p empty

def repeated (p : Pattern) : Pattern := seq p (many p)

def never : Pattern := unit ⟨[], false⟩

def choice : List Pattern → Pattern
  | [] => empty
  | [p] => p
  | p :: rest => either p (choice rest)

/-- What is reached by any number of steps from `found`, of which `frontier` was reached last. A
step never leads back, so that as many steps suffice as there are offsets. -/
def closure (step : List Nat → List Nat) : Nat → List Nat → List Nat → List Nat
  | 0, found, _ => found
  | fuel + 1, found, frontier =>
    let fresh := ((step frontier).filter (!found.contains ·)).eraseDups
    if fresh.isEmpty then found else closure step fuel (found ++ fresh) fresh

def reach (t : Array CodeUnit) : Pattern → List Nat → List Nat
  | empty, starts => starts
  | unit set, starts =>
    starts.filterMap fun i => if t[i]?.any set.contains then some (i + 1) else none
  | seq p q, starts => reach t q (reach t p starts)
  | either p q, starts => (reach t p starts ++ reach t q starts).eraseDups
  | many p, starts => closure (reach t p) (t.size + 1) starts starts
  | ahead wanted p, starts => starts.filter fun i => (reach t p [i]).isEmpty != wanted
  | start, starts => starts.filter (· == 0)
  | finish, starts => starts.filter (· == t.size)

def matchesAll (p : Pattern) (t : Text) : Bool :=
  (p.reach t.toArray [0]).contains t.length

end Pattern

end Inlay
