import Inlay.Text.Basic

/-!
# Blank units and trimming

Two classes of white space are in use. A *blank* unit is what trimming removes and what makes a
line blank: the white space and line terminators of the table below. An *indent* unit is one of
the three that can stand in the indentation of a line.
-/

namespace Inlay

namespace CodeUnit

/-- Units above ASCII that count as white space or as a line terminator: the space separators of
Unicode, the line and paragraph separators, and the byte order mark. -/
def wideBlanks : List CodeUnit :=
  [0x00A0, 0x1680, 0x2000, 0x2001, 0x2002, 0x2003, 0x2004, 0x2005, 0x2006, 0x2007, 0x2008,
    0x2009, 0x200A, 0x2028, 0x2029, 0x202F, 0x205F, 0x3000, 0xFEFF]

def isBlank (u : CodeUnit) : Bool :=
  (9 ≤ u && u ≤ 13) || u == space || wideBlanks.contains u

/-- Space, tab and form feed: the white space a line may be indented with. -/
def isIndent (u : CodeUnit) : Bool := u == space || u == tab || u == formFeed

theorem isBlank_of_isIndent {u : CodeUnit} (h : u.isIndent) : u.isBlank := by
  simp only [isIndent, Bool.or_eq_true, beq_iff_eq] at h
  rcases h with (rfl | rfl) | rfl <;> decide

theorem isBlank_lineFeed : isBlank lineFeed := by decide

theorem isBlank_carriageReturn : isBlank carriageReturn := by decide

end CodeUnit

def dropEndWhile (p : α → Bool) : List α → List α
  | [] => []
  | a :: rest =>
    match dropEndWhile p rest with
    | [] => if p a then [] else [a]
    | kept => a :: kept

namespace Text

def isBlank (t : Text) : Bool := t.all CodeUnit.isBlank

def trimEnd (t : Text) : Text := dropEndWhile CodeUnit.isBlank t

def trimStart (t : Text) : Text := t.dropWhile CodeUnit.isBlank

def trim (t : Text) : Text := Text.trimEnd (Text.trimStart t)

def indentation (t : Text) : Text := t.takeWhile CodeUnit.isIndent

def unindented (t : Text) : Text := t.dropWhile CodeUnit.isIndent

theorem indentation_append_unindented (t : Text) :
    Text.indentation t ++ Text.unindented t = t :=
  List.takeWhile_append_dropWhile

end Text

-- ---------------------------------------------------------------------------
-- Laws of trimming the end
-- ---------------------------------------------------------------------------

theorem dropEndWhile_append_dropped (p : α → Bool) (l : List α) :
    ∃ dropped, l = dropEndWhile p l ++ dropped ∧ dropped.all p := by
  induction l with
  | nil => exact ⟨[], rfl, rfl⟩
  | cons a rest ih =>
    obtain ⟨dropped, hl, hp⟩ := ih
    rw [dropEndWhile]
    split
    · next hnil =>
      rw [hnil, List.nil_append] at hl
      split
      · exact ⟨a :: dropped, by simp [hl], by simp_all⟩
      · exact ⟨dropped, by simp [hl], hp⟩
    · next kept => exact ⟨dropped, by rw [List.cons_append, ← hl], hp⟩

theorem dropEndWhile_eq_nil_iff {p : α → Bool} {l : List α} :
    dropEndWhile p l = [] ↔ l.all p := by
  induction l with
  | nil => simp [dropEndWhile]
  | cons a rest ih =>
    rw [dropEndWhile]
    split
    · next hnil => by_cases ha : p a <;> simp_all
    · next kept h => simp_all

theorem length_dropEndWhile_le (p : α → Bool) (l : List α) :
    (dropEndWhile p l).length ≤ l.length := by
  obtain ⟨dropped, h, _⟩ := dropEndWhile_append_dropped p l
  conv => rhs; rw [h]
  simp

theorem Text.trimEnd_eq_nil_iff {t : Text} : Text.trimEnd t = [] ↔ Text.isBlank t :=
  dropEndWhile_eq_nil_iff

end Inlay
