import Inlay.Lexeme
import Inlay.Number.Basic
import Inlay.StructureError

/-!
# Block headers

The grammar of the line that introduces a block, over its tokens:

    [init [[+|-] digits]] python [early] [hide] [in name {. name}] :

A sign stands immediately before its digits, and only a comment may follow the colon. The readers
here take what they accept off the front of a list of tokens. A refusal names the token it stops
at, or none at the end of the line.
-/

namespace Inlay

structure Header where
  init : Bool
  priority : Option Number
  early : Bool
  hide : Bool
  store : Option Text
  deriving DecidableEq, Repr

inductive BlockVariant
  | block
  | initBlock
  | earlyBlock
  deriving DecidableEq, Repr

def Header.variant (h : Header) : BlockVariant :=
  if h.early then .earlyBlock else if h.init then .initBlock else .block

structure HeaderRefusal where
  fault : IntroducerFault
  found : Option Token
  deriving DecidableEq, Repr

namespace Header

open CodeUnit

def pythonWord : Text := text "python"
def initWord : Text := text "init"
def earlyWord : Text := text "early"
def hideWord : Text := text "hide"
def inWord : Text := text "in"

def point : CodeUnit := ofChar '.'
def colon : CodeUnit := ofChar ':'

def takeWord (word : Text) : List Token → Bool × List Token
  | [] => (false, [])
  | token :: rest => if token.isWord word then (true, rest) else (false, token :: rest)

def takeNames : List Token → Except HeaderRefusal (List Text × List Token)
  | [] => .ok ([], [])
  | name :: rest =>
    if name.kind = .word then
      match rest with
      | [] => .ok ([name.text], [])
      | separator :: rest =>
        if separator.isPunct point then
          match rest with
          | [] => .error ⟨.missingName, none⟩
          | next :: _ =>
            if next.kind = .word then do
              let (names, rest) ← takeNames rest
              .ok (name.text :: names, rest)
            else .error ⟨.missingName, some next⟩
        else .ok ([name.text], separator :: rest)
    else .ok ([], name :: rest)

def takeStore (tokens : List Token) : Except HeaderRefusal (Option Text × List Token) :=
  match takeWord inWord tokens with
  | (false, rest) => .ok (none, rest)
  | (true, rest) => do
    let (names, rest) ← takeNames rest
    if names.isEmpty then .error ⟨.missingStore, rest.head?⟩
    else .ok (some (Text.joinWith [point] names), rest)

def takeColon : List Token → Except HeaderRefusal Nat
  | [] => .error ⟨.missingColon, none⟩
  | token :: rest =>
    if token.isPunct colon then
      match rest with
      | [] => .ok token.column
      | next :: _ =>
        if next.kind = .comment then .ok token.column
        else .error ⟨.trailing next.text, some next⟩
    else .error ⟨.unexpected token.text, some token⟩

def ofClauses (init : Bool) (priority : Option Number) (tokens : List Token) :
    Except HeaderRefusal (Header × Nat) := do
  let (early, tokens) := takeWord earlyWord tokens
  let (hide, tokens) := takeWord hideWord tokens
  let (store, tokens) ← takeStore tokens
  let column ← takeColon tokens
  .ok (⟨init, priority, early, hide, store⟩, column)

/-- A priority that may be there, the double nearest to what its digits denote; nothing at all if a
sign has no digits right behind it. -/
def takePriority : List Token → Option (Option Number × List Token)
  | [] => some (none, [])
  | token :: rest =>
    let negative := token.isPunct (ofChar '-')
    if negative || token.isPunct (ofChar '+') then
      match rest with
      | [] => none
      | digits :: rest =>
        if digits.kind = .number && digits.column = token.column + 1 then
          let magnitude : Int := Text.decimal digits.text
          some (some (.ofInt (if negative then -magnitude else magnitude)), rest)
        else none
    else if token.kind = .number then some (some (.ofInt (Text.decimal token.text)), rest)
    else some (none, token :: rest)

/-- The header of a line's tokens, or nothing for a line that introduces no block. A line of
dialogue, which is `python` and a string, is none. -/
def ofTokens? : List Token → Except HeaderRefusal (Option (Header × Nat))
  | [] => .ok none
  | first :: rest =>
    if first.isWord pythonWord then
      if rest.head?.any (·.kind = .string) then .ok none
      else some <$> ofClauses false none rest
    else if first.isWord initWord then
      match takePriority rest with
      | none => .ok none
      | some (priority, rest) =>
        match takeWord pythonWord rest with
        | (true, rest) => some <$> ofClauses true priority rest
        | (false, _) => .ok none
    else .ok none

end Header

end Inlay
