import Inlay.Text.Search

/-!
# Indentation

How wide a run of leading white space is, and the two ways to compare indentations: by their text,
refusing what cannot be compared, or by their width with tabs expanded.
-/

namespace Inlay

inductive IndentPolicy
  | reject
  | expandTabs
  deriving DecidableEq, Repr

structure Indentation where
  policy : IndentPolicy
  tabWidth : Nat
  deriving DecidableEq, Repr

namespace Indent

open CodeUnit

/-- The width reached by one more unit: a tab goes on to the next multiple of the tab width, a
space is one wide, anything else has no width. -/
def advance (tabWidth width : Nat) (u : CodeUnit) : Nat :=
  if u = tab then width + (tabWidth - width % tabWidth)
  else if u = space then width + 1
  else width

/-- The exact width. One that is counted in doubles is the same below 2⁵³. -/
def width (tabWidth : Nat) (indent : Text) : Nat := indent.foldl (advance tabWidth) 0

def spaces (n : Nat) : Text := List.replicate n space

theorem width_spaces (tabWidth n : Nat) : width tabWidth (spaces n) = n := by
  have go (w : Nat) : (spaces n).foldl (advance tabWidth) w = w + n := by
    induction n generalizing w with
    | zero => rfl
    | succ n ih =>
      rw [spaces, List.replicate_succ, List.foldl_cons, ← spaces, ih]
      simp [advance, show space ≠ tab by decide]; omega
  rw [width, go, Nat.zero_add]

def describe (indent : Text) : Text :=
  let tabs := indent.count tab
  let blanks := indent.count space
  if tabs = 0 then text "(" ++ Text.ofNat blanks ++ text " spaces)"
  else if blanks = 0 then text "(" ++ Text.ofNat tabs ++ text " tabs)"
  else text "(" ++ Text.ofNat tabs ++ text " tabs, " ++ Text.ofNat blanks ++ text " spaces)"

end Indent

end Inlay
