import Inlay.Text.Blank

/-!
# Finding and cutting

Offsets and slices of a text, its pieces at a separator, and the first place where one text
occurs in another. `join_splitOn` says that cutting at a unit and joining with it are inverse.
-/

namespace Inlay.Text

def slice (t : Text) (start stop : Nat) : Text := (t.drop start).take (stop - start)

/-- The offset of the first occurrence of `needle`. -/
def offsetOf? (needle : Text) : Text → Option Nat
  | [] => if needle.isEmpty then some 0 else none
  | u :: rest =>
    if needle.isPrefixOf (u :: rest) then some 0 else (offsetOf? needle rest).map (· + 1)

def containsText (t needle : Text) : Bool := (offsetOf? needle t).isSome

def splitOn (separator : CodeUnit) : Text → List Text
  | [] => [[]]
  | u :: rest =>
    if u = separator then [] :: splitOn separator rest
    else
      match splitOn separator rest with
      | piece :: pieces => (u :: piece) :: pieces
      | [] => [[u]]

def joinWith (separator : Text) : List Text → Text
  | [] => []
  | [piece] => piece
  | piece :: pieces => piece ++ separator ++ joinWith separator pieces

def cutAt? (separator : CodeUnit) (t : Text) : Option (Text × Text) :=
  match t.dropWhile (· != separator) with
  | [] => none
  | _ :: behind => some (t.takeWhile (· != separator), behind)

/-- The text with another in place of every occurrence of `old`, taken from the left. -/
def replaceAll (old new : Text) (t : Text) : Text :=
  match t with
  | [] => []
  | u :: rest =>
    if old.isPrefixOf (u :: rest) then new ++ replaceAll old new (rest.drop (old.length - 1))
    else u :: replaceAll old new rest
termination_by t.length

def padLeft (width : Nat) (u : CodeUnit) (t : Text) : Text :=
  List.replicate (width - t.length) u ++ t

/-- The order of the code units, which is not that of the characters above the basic plane. -/
def le (a b : Text) : Bool := decide (a ≤ b)

-- ---------------------------------------------------------------------------
-- Pieces
-- ---------------------------------------------------------------------------

theorem splitOn_ne_nil (separator : CodeUnit) (t : Text) : splitOn separator t ≠ [] := by
  fun_cases splitOn separator t <;> simp_all

theorem join_splitOn (separator : CodeUnit) (t : Text) :
    joinWith [separator] (splitOn separator t) = t := by
  induction t with
  | nil => rfl
  | cons u rest ih =>
    rw [splitOn]
    have hne := splitOn_ne_nil separator rest
    cases hs : splitOn separator rest with
    | nil => exact absurd hs hne
    | cons piece pieces =>
      rw [hs] at ih
      split
      · next hu => simp [joinWith, ih, hu]
      · cases pieces <;> simp_all [joinWith]

theorem not_mem_of_mem_splitOn {separator : CodeUnit} {t piece : Text}
    (h : piece ∈ splitOn separator t) : separator ∉ piece := by
  induction t generalizing piece with
  | nil => simp_all [splitOn]
  | cons u rest ih =>
    rw [splitOn] at h
    split at h
    · rcases List.mem_cons.1 h with rfl | h
      · simp
      · exact ih h
    · next hu =>
      split at h
      · next first pieces hs =>
        rcases List.mem_cons.1 h with rfl | h
        · have := ih (hs ▸ List.mem_cons_self)
          simp_all [eq_comm]
        · exact ih (hs ▸ List.mem_cons_of_mem _ h)
      · next hs => exact absurd hs (splitOn_ne_nil _ _)

end Inlay.Text
