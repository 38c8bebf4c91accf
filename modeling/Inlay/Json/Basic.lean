import Inlay.Number.Shortest

/-!
# JSON values

Values with the members of an object in the order in which they are enumerated: keys that are array
indices first, ascending, then the others as they were first written. A key written twice keeps
its first place and its last value; `Json.ofMembers` is the constructor that sees to both.
-/

namespace Inlay

inductive Json
  | null
  | bool (value : Bool)
  | number (value : Number)
  | string (value : Text)
  | array (items : List Json)
  | object (members : List (Text × Json))
  deriving Inhabited

namespace Json

abbrev Members := List (Text × Json)

def Members.put (key : Text) (value : Json) : Members → Members
  | [] => [(key, value)]
  | (k, v) :: rest => if k = key then (key, value) :: rest else (k, v) :: put key value rest

def Members.get? (key : Text) : Members → Option Json
  | [] => none
  | (k, v) :: rest => if k = key then some v else get? key rest

/-- The array index that a key spells: decimal, without leading zeros, below 2³² - 1. -/
def index? (key : Text) : Option Nat :=
  if key.all CodeUnit.isDigit && !key.isEmpty && (key.length = 1 || key.head? != some 48) then
    let n := Text.decimal key
    if n < 4294967295 then some n else none
  else none

def Members.enumerated (members : Members) : Members :=
  let indexed := members.filterMap fun (k, v) => (index? k).map (·, k, v)
  let named := members.filter fun (k, _) => (index? k).isNone
  (indexed.mergeSort fun a b => a.1 ≤ b.1).map (·.2) ++ named

def ofMembers (written : Members) : Json :=
  .object (Members.enumerated (written.foldl (fun ms m => Members.put m.1 m.2 ms) []))

def get? (key : Text) : Json → Option Json
  | .object members => Members.get? key members
  | _ => none

-- ---------------------------------------------------------------------------
-- Values as plain text
-- ---------------------------------------------------------------------------

mutual
/-- A value as it stands in the middle of a message: an array is its items with commas between
them, an object is not shown. -/
def shown : Json → Text
  | .null => text "null"
  | .bool b => text (if b then "true" else "false")
  | .number n => n.text
  | .string s => s
  | .array items => shownItems items
  | .object _ => text "[object Object]"

def shownItems : List Json → Text
  | [] => []
  | [item] => shownItem item
  | item :: items => shownItem item ++ text "," ++ shownItems items

def shownItem : Json → Text
  | .null => []
  | .bool b => shown (.bool b)
  | .number n => shown (.number n)
  | .string s => s
  | .array items => shownItems items
  | .object members => shown (.object members)
end

mutual
/-- A value can be shown unless there is an object in it with a member that takes the place of what
shows objects. -/
def isShowable : Json → Bool
  | .array items => areShowable items
  | .object members => (Members.get? (text "toString") members).isNone
  | _ => true

def areShowable : List Json → Bool
  | [] => true
  | item :: items => isShowable item && areShowable items
end

end Json

end Inlay
