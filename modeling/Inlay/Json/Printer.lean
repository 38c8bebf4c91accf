import Inlay.Json.Basic

/-!
# Writing JSON

Two layouts: `compact` writes no white space at all, `pretty` puts every item and member on a line
of its own, two spaces deeper than the bracket that holds it. An infinite number has no JSON form
and is written as null.
-/

namespace Inlay.Json

open CodeUnit

def hexDigit (n : Nat) : Char := (Nat.toDigits 16 (n % 16)).headD '0'

def numericEscape (u : CodeUnit) : Text :=
  let n := u.toNat
  Text.ofString (String.ofList
    ['\\', 'u', hexDigit (n / 4096), hexDigit (n / 256), hexDigit (n / 16), hexDigit n])

def escaped (u : CodeUnit) : Text :=
  if u = ofChar '"' then text "\\\""
  else if u = backslash then text "\\\\"
  else if u = 8 then text "\\b"
  else if u = formFeed then text "\\f"
  else if u = lineFeed then text "\\n"
  else if u = carriageReturn then text "\\r"
  else if u = tab then text "\\t"
  else if u < 32 then numericEscape u
  else [u]

/-- Escapes what a string may not hold: quotes, backslashes, controls and halves of pairs. -/
def escapedText : Text → Text
  | high :: low :: rest =>
    if high.isHighSurrogate && low.isLowSurrogate then high :: low :: escapedText rest
    else alone high ++ escapedText (low :: rest)
  | [u] => alone u
  | [] => []
where
  alone (u : CodeUnit) : Text :=
    if u.isHighSurrogate || u.isLowSurrogate then numericEscape u else escaped u

def quoted (t : Text) : Text := ofChar '"' :: escapedText t ++ [ofChar '"']

def scalarText : Json → Text
  | .bool b => text (if b then "true" else "false")
  | .number (.finite value) => (Number.finite value).text
  | .string s => quoted s
  | _ => text "null"

mutual
def compact : Json → Text
  | .array items => text "[" ++ compactItems items ++ text "]"
  | .object members => ofChar '\x7b' :: compactMembers members ++ [ofChar '\x7d']
  | value => scalarText value

def compactItems : List Json → Text
  | [] => []
  | [item] => compact item
  | item :: items => compact item ++ text "," ++ compactItems items

def compactMembers : List (Text × Json) → Text
  | [] => []
  | [(key, value)] => quoted key ++ text ":" ++ compact value
  | (key, value) :: members =>
    quoted key ++ text ":" ++ compact value ++ text "," ++ compactMembers members
end

def freshLine (depth : Nat) : Text := lineFeed :: List.replicate (2 * depth) space

mutual
def prettyAt (depth : Nat) : Json → Text
  | .array [] => text "[]"
  | .array items =>
    text "[" ++ prettyItems (depth + 1) items ++ freshLine depth ++ text "]"
  | .object [] => [ofChar '\x7b', ofChar '\x7d']
  | .object members =>
    ofChar '\x7b' :: prettyMembers (depth + 1) members ++ freshLine depth ++ [ofChar '\x7d']
  | value => scalarText value

def prettyItems (depth : Nat) : List Json → Text
  | [] => []
  | [item] => freshLine depth ++ prettyAt depth item
  | item :: items => freshLine depth ++ prettyAt depth item ++ text "," ++ prettyItems depth items

def prettyMembers (depth : Nat) : List (Text × Json) → Text
  | [] => []
  | [(key, value)] => freshLine depth ++ quoted key ++ text ": " ++ prettyAt depth value
  | (key, value) :: members =>
    freshLine depth ++ quoted key ++ text ": " ++ prettyAt depth value ++ text "," ++
      prettyMembers depth members
end

def pretty (value : Json) : Text := prettyAt 0 value

end Inlay.Json
