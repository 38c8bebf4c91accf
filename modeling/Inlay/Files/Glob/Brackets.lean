import Inlay.Text.Blank
import Inlay.Text.Pattern

/-!
# Brackets in a glob

A pair of brackets stands for one unit: for any of those between them or, behind a caret or an
exclamation mark, for any other. Two units with a hyphen between them are a range, a backslash takes
the meaning from what follows it, and a class such as `[:alpha:]` stands for its units.
-/

namespace Inlay

namespace CodeUnit

def spans (ends : List (Char × Char)) : List (CodeUnit × CodeUnit) :=
  ends.map fun (low, high) => (ofChar low, ofChar high)

def digitSpans : List (CodeUnit × CodeUnit) := spans [('0', '9')]

def letterSpans : List (CodeUnit × CodeUnit) := spans [('a', 'z'), ('A', 'Z')]

def wordSpans : List (CodeUnit × CodeUnit) := digitSpans ++ letterSpans ++ spans [('_', '_')]

def blankSpans : List (CodeUnit × CodeUnit) :=
  (9, 13) :: (space, space) :: wideBlanks.map fun u => (u, u)

def classes : List (Text × List (CodeUnit × CodeUnit)) :=
  [(text "alnum", letterSpans ++ digitSpans),
    (text "alpha", letterSpans),
    (text "ascii", [(0, 127)]),
    (text "blank", [(space, space), (tab, tab)]),
    (text "cntrl", [(0, 31), (127, 127)]),
    (text "digit", digitSpans),
    (text "graph", spans [('!', '~')]),
    (text "lower", spans [('a', 'z')]),
    (text "print", spans [(' ', '~')]),
    (text "punct", spans [('!', '/'), (':', '@'), ('[', '['), (']', '\x60'), ('\x7b', '~')]),
    (text "space", [(9, 13), (space, space)]),
    (text "upper", spans [('A', 'Z')]),
    (text "word", wordSpans),
    (text "xdigit", digitSpans ++ spans [('A', 'F'), ('a', 'f')])]

def escapedSpans (u : CodeUnit) : List (CodeUnit × CodeUnit) :=
  let controls : List (Char × CodeUnit) :=
    [('t', 9), ('n', 10), ('v', 11), ('f', 12), ('r', 13)]
  if u = ofChar 'd' then digitSpans
  else if u = ofChar 'w' then wordSpans
  else if u = ofChar 's' then blankSpans
  else
    match controls.find? fun control => u = ofChar control.1 with
    | some control => [(control.2, control.2)]
    | none => [(u, u)]

end CodeUnit

namespace Glob.Brackets

open CodeUnit

inductive Item
  | unit (u : CodeUnit)
  | hyphen
  | units (spans : List (CodeUnit × CodeUnit))
  deriving DecidableEq, Repr

def namedClass? (t : Text) : Option (List (CodeUnit × CodeUnit) × Nat) :=
  if (text "[:").isPrefixOf t then
    let name := (t.drop 2).takeWhile isLower
    if t[name.length + 2]? = some (ofChar ':') then
      (classes.lookup name).map (·, name.length + 4)
    else none
  else none

/-- The items up to the closing bracket, and what follows it. A closing bracket that comes first is
an item. -/
def items? (first : Bool) (t : Text) : Option (List Item × Text) :=
  match t with
  | [] => none
  | u :: rest =>
    if u = ofChar ']' && !first then some ([], rest)
    else
      let (item, length) : Item × Nat :=
        if u = ofChar '-' then (.hyphen, 0)
        else if u = backslash then
          match rest with
          | v :: _ =>
            match escapedSpans v with
            | [(low, high)] => if low = high then (.unit low, 1) else (.units [(low, high)], 1)
            | spans => (.units spans, 1)
          | [] => (.unit u, 0)
        else
          match namedClass? (u :: rest) with
          | some (spans, length) => (.units spans, length - 1)
          | none => (.unit u, 0)
      (items? false (rest.drop length)).map fun (items, behind) => (item :: items, behind)
termination_by t.length

def ranges? : List Item → Option (List (CodeUnit × CodeUnit))
  | [] => some []
  | .unit low :: .hyphen :: .unit high :: rest =>
    if low ≤ high then (ranges? rest).map ((low, high) :: ·) else none
  | .unit u :: rest => (ranges? rest).map ((u, u) :: ·)
  | .hyphen :: rest => (ranges? rest).map ((ofChar '-', ofChar '-') :: ·)
  | .units spans :: rest => (ranges? rest).map (spans ++ ·)

def classUnits : Text := text "-*+?.^$\x7b\x7d(|)[]"

/-- The pattern of brackets behind the opening one, and what follows them. Without a negation or any
unit of `classUnits` they may also stand for themselves. A negated set never has the slash in it. -/
def read? (t : Text) : Option (Pattern × Text) := do
  let negated := t.head?.any (text "^!").contains
  let (items, rest) ← items? true (if negated then t.drop 1 else t)
  let ranges ← ranges? items
  let named := items.any fun item => match item with | .units _ => true | _ => false
  let slash := if negated && !named then spans [('/', '/')] else []
  let set := Pattern.unit ⟨ranges ++ slash, negated⟩
  let inside := t.take (t.length - rest.length - 1)
  let plain := ofChar '[' :: inside ++ [ofChar ']']
  let certain := negated || inside.any classUnits.contains
  some (if certain then set else .either (.ofText plain) set, rest)

end Glob.Brackets

end Inlay
