import Inlay.Text.Search

/-!
# Paint

Colours and weights of a terminal. A painted text is opened and closed by control sequences; it is
closed before line breaks and opened again behind them, so that no line depends on another. There
are two hands: `apply` sees to each line, `cover` to each block of lines that are not empty.
-/

namespace Inlay

inductive Paint
  | bold
  | red
  | green
  | yellow
  | blue
  | magenta
  | cyan
  | gray
  deriving DecidableEq, Repr

namespace Paint

open CodeUnit

def codes : Paint → Nat × Nat
  | bold => (1, 22)
  | red => (31, 39)
  | green => (32, 39)
  | yellow => (33, 39)
  | blue => (34, 39)
  | magenta => (35, 39)
  | cyan => (36, 39)
  | gray => (90, 39)

def sequence (code : Nat) : Text := 27 :: ofChar '[' :: Text.ofNat code ++ [ofChar 'm']

def opening (p : Paint) : Text := sequence p.codes.1

def closing (p : Paint) : Text := sequence p.codes.2

/-- The inside of a painted text: opened again behind a sequence that closes it, and closed around
every line break. -/
def inside (p : Paint) (t : Text) : Text :=
  match t with
  | [] => []
  | u :: rest =>
    if u = carriageReturn ∧ rest.head? = some lineFeed then
      p.closing ++ u :: lineFeed :: p.opening ++ inside p (rest.drop 1)
    else if u = lineFeed then p.closing ++ u :: p.opening ++ inside p rest
    else if p.closing.isPrefixOf (u :: rest) then
      p.closing ++ p.opening ++ inside p (rest.drop (p.closing.length - 1))
    else u :: inside p rest
termination_by t.length

def apply (p : Paint) (t : Text) : Text :=
  if t.isEmpty then [] else p.opening ++ p.inside t ++ p.closing

def parted (p : Paint) (inBreak : Bool) : Text → Text
  | [] => if inBreak then p.opening else []
  | u :: rest =>
    let isBreak := u = lineFeed || u = carriageReturn
    let turn := if isBreak = inBreak then [] else if isBreak then p.closing else p.opening
    turn ++ u :: parted p isBreak rest

/-- A text painted in blocks. What closes the paint opens it instead, and carriage returns are line
breaks only in a text that has line feeds too. Nothing stays nothing. -/
def cover (p : Paint) (t : Text) : Text :=
  let kept := Text.replaceAll p.closing p.opening t
  let inside := if t.contains lineFeed then p.parted false kept else kept
  if t.isEmpty then [] else p.opening ++ inside ++ p.closing

def when (p : Paint) (colours : Bool) (t : Text) : Text := if colours then p.apply t else t

end Paint

end Inlay
