import Inlay.Proofs.Breaks
import Inlay.Proofs.Isolation

/-!
# The normal form of output

Output that is accepted is cleaned to code which cleaning leaves as it is. The code does not depend
on the kind of break at the ends of the lines, nor on the white space behind the last of them, and
neither does the reason for which output is refused (`Partition.clean_normal_form`).
-/

namespace Inlay

open CodeUnit

/-- Some of the line feeds that have no CR before them have become CR LF. -/
inductive Text.Respelled : Text → Text → Prop
  | nil : Respelled [] []
  | unit {u a b} : (u = carriageReturn → a.head? ≠ some lineFeed) → Respelled a b →
    Respelled (u :: a) (u :: b)
  | kept {a b} : Respelled a b →
    Respelled (carriageReturn :: lineFeed :: a) (carriageReturn :: lineFeed :: b)
  | replaced {a b} : Respelled a b → Respelled (lineFeed :: a) (carriageReturn :: lineFeed :: b)

section

variable {t a b w : Text} {u : CodeUnit} {e : LineBreak} {r : Region}

-- ---------------------------------------------------------------------------
-- Breaks of every kind
-- ---------------------------------------------------------------------------

namespace Text

theorem unifyBreaks_crlf (t : Text) :
    unifyBreaks (carriageReturn :: lineFeed :: t) = lineFeed :: unifyBreaks t := by
  rw [unifyBreaks, if_pos rfl, if_pos rfl]

theorem unifyBreaks_cr (h : t.head? ≠ some lineFeed) :
    unifyBreaks (carriageReturn :: t) = lineFeed :: unifyBreaks t := by
  cases t with
  | nil => rfl
  | cons v t => rw [unifyBreaks, if_pos rfl, if_neg (by simpa using h)]

theorem Respelled.head?_eq (h : Respelled a b) (hb : b.head? = some lineFeed) :
    a.head? = some lineFeed := by
  have hne : carriageReturn ≠ lineFeed := by decide
  cases h with
  | nil | unit => exact hb
  | kept | replaced => exact absurd (Option.some.inj hb) hne

theorem Respelled.unifyBreaks_eq (h : Respelled a b) : unifyBreaks b = unifyBreaks a := by
  induction h with
  | nil => rfl
  | @unit u a b hu h ih =>
    by_cases hcr : u = carriageReturn
    · have ha := hu hcr
      rw [hcr, unifyBreaks_cr ha, unifyBreaks_cr (mt h.head?_eq ha), ih]
    · rw [unifyBreaks_cons hcr, unifyBreaks_cons hcr, ih]
  | kept _ ih => rw [unifyBreaks_crlf, unifyBreaks_crlf, ih]
  | replaced _ ih => rw [unifyBreaks_crlf, unifyBreaks_cons (by decide), ih]

theorem head?_withBreak_cr (t : Text) : (withBreak .cr t).head? ≠ some lineFeed := by
  cases t with
  | nil => simp
  | cons u t =>
    rw [withBreak_cons]
    split
    · exact fun h => absurd (Option.some.inj h) (by decide)
    · next hu => simpa using hu

theorem unifyBreaks_withBreak (h : carriageReturn ∉ t) : unifyBreaks (withBreak e t) = t := by
  induction t with
  | nil => rfl
  | cons u t ih =>
    obtain ⟨hu, h⟩ := not_or.mp (mt List.mem_cons.mpr h)
    rw [withBreak_cons]
    split
    · next hlf =>
      rw [hlf]
      cases e with
      | lf => exact (unifyBreaks_cons (by decide)).trans (congrArg _ (ih h))
      | crlf => exact (unifyBreaks_crlf _).trans (congrArg _ (ih h))
      | cr => exact (unifyBreaks_cr (head?_withBreak_cr t)).trans (congrArg _ (ih h))
    · rw [List.singleton_append, unifyBreaks_cons (Ne.symm hu), ih h]

theorem trimEnd_unifyBreaks_append (h : isBlank w) :
    trimEnd (unifyBreaks (a ++ w)) = trimEnd (unifyBreaks a) := by
  cases ha : isBlank a with
  | true =>
    rw [trimEnd_eq_nil_iff.mpr, trimEnd_eq_nil_iff.mpr]
    · rwa [isBlank_unifyBreaks]
    · rw [isBlank_unifyBreaks, isBlank_append, ha, h, Bool.and_self]
  | false =>
    obtain ⟨before, u, after, rfl, hu, hafter⟩ := exists_last_of_not_isBlank ha
    have hblank : isBlank (after ++ w) := by rw [isBlank_append, hafter, h, Bool.and_self]
    rw [List.append_assoc, List.cons_append, trimEnd_unifyBreaks hu hafter,
      trimEnd_unifyBreaks hu hblank]

end Text

-- ---------------------------------------------------------------------------
-- What output is cleaned to
-- ---------------------------------------------------------------------------

namespace Region

/-- Nothing but the text with line feeds for breaks and without white space at its end counts. -/
theorem clean_congr (h : Text.trimEnd (Text.unifyBreaks a) = Text.trimEnd (Text.unifyBreaks b)) :
    r.clean a = r.clean b := by
  simp only [clean, cleanOutput, h]

end Region

end

/-- Output is cleaned to what stands before its last unit that is not blank, that unit and a line
feed, with line feeds for all breaks before it. Code is its own normal form, and neither the kind of
a break nor white space at the end makes a difference, to what is refused either. -/
theorem Partition.clean_normal_form {indentation : Indentation} {t : Text} {p : Partition}
    {r : Region} (h : build indentation (.ofText t) = .ok p) (hr : r ∈ p.regions)
    (output : Text) :
    (∀ code, r.clean output = .ok code ↔ ∃ before u after, output = before ++ u :: after ∧
      u.isBlank = false ∧ Text.isBlank after ∧ (r.isStatement → Text.Unbroken before) ∧
      code = Text.unifyBreaks before ++ [u, lineFeed]) ∧
    (∀ code, r.clean output = .ok code →
      carriageReturn ∉ code ∧ (∃ body u, code = body ++ [u, lineFeed] ∧ u.isBlank = false) ∧
        r.clean code = .ok code) ∧
    (∀ output', Text.Respelled output output' → r.clean output' = r.clean output) ∧
    (carriageReturn ∉ output → ∀ e, r.clean (output.withBreak e) = r.clean output) ∧
    (∀ blanks, Text.isBlank blanks → r.clean (output ++ blanks) = r.clean output) := by
  have hcode := isBlank_code h hr
  refine ⟨fun code => Region.clean_eq_ok_iff_last hcode, fun code hclean => ?_,
    fun output' houtput => ?_, fun hcr e => ?_, fun blanks hblanks => ?_⟩
  · have hcleaned := Region.cleaned_of_clean hclean hcode
    obtain ⟨before, u, after, -, hu, -, -, hcode⟩ := (Region.clean_eq_ok_iff_last hcode).mp hclean
    exact ⟨hcleaned.breaks, ⟨_, u, hcode, hu⟩, Region.clean_of_cleaned hcleaned⟩
  · exact Region.clean_congr (congrArg _ houtput.unifyBreaks_eq)
  · refine Region.clean_congr (congrArg _ ?_)
    rw [Text.unifyBreaks_withBreak hcr, Text.unifyBreaks_of_not_mem hcr]
  · exact Region.clean_congr (Text.trimEnd_unifyBreaks_append hblanks)

theorem Partition.clean_normal_form_block :
    ∃ p r, build ⟨.reject, 8⟩ (.ofText (text "python:\n    a\n    b\n")) = .ok p ∧ r ∈ p.regions ∧
      r.clean (text "a\nb") = .ok (text "a\nb\n") ∧
      r.clean (text "a\r\nb" ++ text "\n \u3000\r") = .ok (text "a\nb\n") := by
  have hbuild : (build ⟨.reject, 8⟩ (.ofText (text "python:\n    a\n    b\n"))).map
      (fun p => p.regions.map Region.isStatement) = .ok [false] := by cbv
  obtain ⟨p, hp, hregions⟩ := map_eq_ok_iff.mp hbuild
  obtain ⟨r, rs, hp', hblock, -⟩ := List.map_eq_cons_iff.mp hregions
  have hr : r ∈ p.regions := hp' ▸ List.mem_cons_self
  have hform := fun output => clean_normal_form hp hr output
  have hclean : r.clean (text "a\nb") = .ok (text "a\nb\n") :=
    ((hform _).1 _).mpr ⟨text "a\n", ofChar 'b', [], by decide, by decide, rfl,
      fun hs => by simp [hblock] at hs, by decide⟩
  have hrespelled : Text.Respelled (text "a\nb") (text "a\r\nb") :=
    .unit (by decide) (.replaced (.unit (by decide) .nil))
  refine ⟨p, r, hp, hr, hclean, ?_⟩
  rw [(hform _).2.2.2.2 _ (by decide), (hform _).2.2.1 _ hrespelled, hclean]

end Inlay
