import Inlay.Number.Numeral
import Inlay.Json.Basic

/-!
# Reading JSON

The strict grammar: no comments, no trailing commas, no byte order mark, no leading zeros. Every
reader takes something off the front of a text and returns a shorter rest, which is what bounds
the nesting of readers.
-/

namespace Inlay.Json

open CodeUnit

structure Taken (α : Type) (t : Text) where
  value : α
  rest : Text
  shorter : rest.length < t.length

def isGap (u : CodeUnit) : Bool :=
  u == space || u == tab || u == lineFeed || u == carriageReturn

def skipGap (t : Text) : Text := t.dropWhile isGap

theorem length_skipGap_le (t : Text) : (skipGap t).length ≤ t.length :=
  (List.dropWhile_sublist _).length_le

def Taken.unit? (u : CodeUnit) (t : Text) : Option (Taken Unit t) :=
  match h : skipGap t with
  | v :: rest =>
    if v = u then
      some ⟨(), rest, by have := length_skipGap_le t; rw [h, List.length_cons] at this; omega⟩
    else none
  | [] => none

/-- Reads the same from a text that is not longer. -/
def Taken.widen (x : Taken α s) (h : s.length ≤ t.length) : Taken α t :=
  ⟨x.value, x.rest, Nat.lt_of_lt_of_le x.shorter h⟩

def Taken.map (f : α → β) (x : Taken α t) : Taken β t := ⟨f x.value, x.rest, x.shorter⟩

-- ---------------------------------------------------------------------------
-- Strings
-- ---------------------------------------------------------------------------

def shortEscape? (u : CodeUnit) : Option CodeUnit :=
  if u = ofChar '"' || u = backslash || u = ofChar '/' then some u
  else if u = ofChar 'b' then some 8
  else if u = ofChar 'f' then some formFeed
  else if u = ofChar 'n' then some lineFeed
  else if u = ofChar 'r' then some carriageReturn
  else if u = ofChar 't' then some tab
  else none

def stringBody? : (t : Text) → Option (Taken Text t)
  | [] => none
  | u :: rest =>
    if u = ofChar '"' then some ⟨[], rest, by simp⟩
    else if u = backslash then
      match rest with
      | [] => none
      | e :: rest =>
        if e = ofChar 'u' then
          match rest with
          | a :: b :: c :: d :: rest =>
            match Text.inBase? 16 [a, b, c, d], stringBody? rest with
            | some n, some body => some ⟨n.toUInt16 :: body.value, body.rest, by
                have := body.shorter; simp only [List.length_cons]; omega⟩
            | _, _ => none
          | _ => none
        else
          match shortEscape? e, stringBody? rest with
          | some v, some body => some ⟨v :: body.value, body.rest, by
              have := body.shorter; simp only [List.length_cons]; omega⟩
          | _, _ => none
    else if u < 32 then none
    else
      match stringBody? rest with
      | some body => some ⟨u :: body.value, body.rest, by
          have := body.shorter; simp only [List.length_cons]; omega⟩
      | none => none

def string? (t : Text) : Option (Taken Text t) := do
  let quote ← Taken.unit? (ofChar '"') t
  let body ← stringBody? quote.rest
  some (body.widen (Nat.le_of_lt quote.shorter))

-- ---------------------------------------------------------------------------
-- Numbers and words
-- ---------------------------------------------------------------------------

def numeral? (t : Text) : Option (Number × Text) := do
  let (negative, t) := if t.head? = some (ofChar '-') then (true, t.drop 1) else (false, t)
  let whole := t.takeWhile isDigit
  let behind := t.dropWhile isDigit
  if whole.isEmpty || (whole.length > 1 && whole.head? = some (ofChar '0')) then none
  let pointed := behind.head? = some (ofChar '.')
  let fraction := if pointed then (behind.drop 1).takeWhile isDigit else []
  let rest := if pointed then (behind.drop 1).dropWhile isDigit else behind
  if pointed && fraction.isEmpty then none
  let (exponent, rest) ← Numeral.takeExponent? rest
  let magnitude := (Numeral.mk whole fraction exponent).value
  some (if negative then magnitude.neg else magnitude, rest)

def word? (word : Text) (value : Json) (t : Text) : Option (Json × Text) :=
  if word.isPrefixOf t then some (value, t.drop word.length) else none

def scalar? (t : Text) : Option (Taken Json t) := do
  let (value, rest) ←
    word? (text "null") .null t <|> word? (text "true") (.bool true) t <|>
      word? (text "false") (.bool false) t <|> (numeral? t).map fun (n, rest) => (.number n, rest)
  if h : rest.length < t.length then some ⟨value, rest, h⟩ else none

-- ---------------------------------------------------------------------------
-- Values
-- ---------------------------------------------------------------------------

mutual
def value? (t : Text) : Option (Taken Json t) :=
  match h : skipGap t with
  | [] => none
  | u :: rest =>
    have hr : (u :: rest).length ≤ t.length := h ▸ length_skipGap_le t
    if u = ofChar '[' then
      match Taken.unit? (ofChar ']') rest with
      | some close => some ((close.map fun _ => .array []).widen (by simp at hr; omega))
      | none => (items? rest).map fun x => (x.map .array).widen (by simp at hr; omega)
    else if u = ofChar '\x7b' then
      match Taken.unit? (ofChar '\x7d') rest with
      | some close => some ((close.map fun _ => .object []).widen (by simp at hr; omega))
      | none => (members? rest).map fun x => (x.map ofMembers).widen (by simp at hr; omega)
    else if u = ofChar '"' then
      (string? (u :: rest)).map fun x => (x.map .string).widen hr
    else (scalar? (u :: rest)).map fun x => x.widen hr
termination_by (t.length, 0)
decreasing_by all_goals (simp at hr; omega)

def items? (t : Text) : Option (Taken (List Json) t) :=
  match value? t with
  | none => none
  | some first =>
    match Taken.unit? (ofChar ',') first.rest with
    | some comma =>
      (items? comma.rest).map fun more =>
        (more.map (first.value :: ·)).widen (by have := first.shorter; have := comma.shorter; omega)
    | none =>
      (Taken.unit? (ofChar ']') first.rest).map fun close =>
        (close.map fun _ => [first.value]).widen (Nat.le_of_lt first.shorter)
termination_by (t.length, 1)
decreasing_by
  · omega
  · have := first.shorter; have := comma.shorter; omega

def members? (t : Text) : Option (Taken (List (Text × Json)) t) :=
  match string? t with
  | none => none
  | some key =>
    match Taken.unit? (ofChar ':') key.rest with
    | none => none
    | some colon =>
      match value? colon.rest with
      | none => none
      | some first =>
        have hf : first.rest.length < t.length := by
          have := key.shorter; have := colon.shorter; have := first.shorter; omega
        match Taken.unit? (ofChar ',') first.rest with
        | some comma =>
          (members? comma.rest).map fun more =>
            (more.map ((key.value, first.value) :: ·)).widen (by have := comma.shorter; omega)
        | none =>
          (Taken.unit? (ofChar '\x7d') first.rest).map fun close =>
            (close.map fun _ => [(key.value, first.value)]).widen (Nat.le_of_lt hf)
termination_by (t.length, 1)
decreasing_by
  · have := key.shorter; have := colon.shorter; omega
  · have := comma.shorter; omega
end

def parse? (t : Text) : Option Json := do
  let taken ← value? t
  if (skipGap taken.rest).isEmpty then some taken.value else none

end Inlay.Json
