import Inlay.Proofs.Continuations
import Inlay.Proofs.Margins
import Inlay.Proofs.Splicing

/-!
# Strings that run over several lines

What becomes of a line that begins in a string when the code of its block is put back unchanged.
The line keeps its content exactly if the margin can be taken off and put back, `Restores`: white
space alone must be wider than the margin and hold no other units than those of an indentation,
and where tabs are expanded there must be none past the margin.
-/

namespace Inlay

open CodeUnit

namespace Region

/-- The content of a line that begins in a string is not changed by taking the margin off and
putting it back. -/
def Restores (indentation : Indentation) (margin : Text) (b : BodyLine) : Prop :=
  b.line.content = [] ∨
    ∃ w, b.line.indent = margin ++ w ∧ (b.isBlank → w ≠ [] ∧ b.line.content = b.line.indent) ∧
      (indentation.policy = .expandTabs → ∀ u ∈ w, u = space)

variable {indentation : Indentation} {margin w : Text} {b : BodyLine} {line : RegionLine}

theorem extends_of_inString (h : dedented? indentation margin b = some w) (hs : b.inString)
    (hw : b.isBlank → w ≠ []) : Indent.Extends indentation margin w b.line.indent := by
  cases hb : b.isBlank with
  | true => exact (extends_or_eq_nil h).resolve_right (hw hb)
  | false =>
    have hsignificant : b.isSignificant := by simp [BodyLine.isSignificant, hb, hs]
    refine (dedented?_eq_some_iff hsignificant fun ha => ?_).mp h
    -- no line of a string is an anchor
    obtain ⟨-, hstarts, -⟩ := isAnchor_iff.mp ha
    cases (startsStatement_of_inString hs).symm.trans hstarts

theorem atMargin_code_eq_iff (h : dedentLine indentation margin b = .ok line) (hs : b.inString)
    (hm : ∀ u ∈ margin, u.isIndent) :
    atMargin margin b.start line.code = b.line.content ↔ Restores indentation margin b := by
  have hcontent := RawLine.indent_append_body b.line.toRawLine
  have hblank := isBlank_code h
  obtain ⟨w, hw, hcode⟩ := code_of_dedentLine h
  have hback {w' : Text} (hi : b.line.indent = margin ++ w')
      (hw' : indentation.policy = .expandTabs → ∀ u ∈ w', u = space) : w = w' :=
    Option.some.inj (hw.symm.trans (dedented?_append (fun _ => hs) hi hw'))
  cases hb : b.isBlank with
  | false =>
    rw [hb, if_neg Bool.false_ne_true] at hcode
    have hne : b.line.content ≠ [] := RawLine.content_ne_nil hb
    rw [atMargin_of_not_isBlank (hblank.trans hb), hcode, ← hcontent, ← List.append_assoc,
      List.append_cancel_right_eq]
    constructor
    · intro hi
      exact .inr ⟨w, hi.symm, by simp [hb], (extends_of_inString hw hs (by simp [hb])).eq_space⟩
    · rintro (hnil | ⟨w', hi, -, hw'⟩)
      · exact absurd hnil hne
      · rw [hback hi hw', hi]
  | true =>
    -- of a blank line the code keeps the white space past the margin, if there is some
    rw [hb, if_pos rfl, List.append_nil] at hcode
    rw [hcode]
    by_cases hnil : w = []
    · rw [hnil, atMargin_nil]
      constructor
      · exact fun hc => .inl hc.symm
      · rintro (hc | ⟨w', hi, hwide, hw'⟩)
        · exact hc.symm
        · exact absurd ((hback hi hw').symm.trans hnil) (hwide hb).1
    · rw [atMargin_of_inString hs hnil]
      constructor
      · intro hc
        have hindent : b.line.indent = b.line.content := by
          refine Text.indentation_of_isIndent ?_
          rw [← hc]
          exact List.forall_mem_append.mpr ⟨hm, isIndent_of_dedented? hw⟩
        exact .inr ⟨w, hindent.trans hc.symm, fun _ => ⟨hnil, hindent.symm⟩,
          (extends_of_inString hw hs fun _ => hnil).eq_space⟩
      · rintro (hc | ⟨w', hi, hwide, hw'⟩)
        · refine absurd (dedented?_of_indent_eq_nil hw ?_) hnil
          rw [RawLine.indent, hc]
          rfl
        · rw [hback hi hw', ← hi, (hwide hb).2]

variable {style : LineStyle} {above : Line} {variant : BlockVariant} {header : Header}
  {body blanks left : List Line} {r : Region}

theorem Taken.lines_of_code {tabWidth width : Nat}
    (h : Taken indentation style above variant header body r)
    (he : Extent tabWidth width body blanks left) (hu : ∀ line ∈ body, line.content.Unbroken) :
    (∀ t ∈ r.lines.map RegionLine.code, t.Unbroken) ∧
      ∃ t, (r.lines.map RegionLine.code).getLast? = some t ∧ t.isBlank = false := by
  constructor
  · intro t ht
    obtain ⟨line, hl, rfl⟩ := List.mem_map.mp ht
    obtain ⟨b, hm, hb⟩ := exists_mem_of_forall₂ h.lines hl
    exact unbroken_code hb (hu _ (line_mem_of_mem_lexedFrom hm))
  · obtain ⟨last, hl, hb⟩ := he.last
    have hmap : (lexedFrom .initial body).map (·.line) = body := map_line_lexedFrom
    rw [← hmap, List.getLast?_map] at hl
    obtain ⟨b, hlast, rfl⟩ := Option.map_eq_some_iff.mp hl
    obtain ⟨line, hline, hdedent⟩ := exists_getLast?_of_forall₂ h.lines hlast
    refine ⟨line.code, by rw [List.getLast?_map, hline]; rfl, ?_⟩
    rw [isBlank_code hdedent]
    exact hb

end Region

/-- A line of a block that begins in a string. When the code of the block is put back unchanged,
the lines of the block are replaced by as many lines, and of those that begin in a string exactly
those keep their content from which the margin can be taken and put back. -/
theorem Partition.string_line_kept_iff {indentation : Indentation} {t : Text} {p : Partition}
    {r : Region} (h : build indentation (.ofText t) = .ok p) (hr : p.regions[i]? = some r)
    (hb : r.isStatement = false) :
    p.splice (List.replicate i none ++ [some (.formatted r.code)]) =
        t.take r.span.start ++ r.reindent r.code ++ t.drop r.span.stop ∧
      List.Forall₂ (fun (b : Region.BodyLine) (raw : RawLine) =>
          b.inString → (raw.content = b.line.content ↔ Region.Restores indentation r.margin b))
        (Region.lexedFrom .initial
          ((Line.scan t).filter fun line => r.hasBodyLine line.index))
        (RawLine.split (r.reindent r.code)) := by
  refine ⟨splice_single h hr, ?_⟩
  obtain ⟨rs, hreads, rfl⟩ := build_eq_ok_iff.mp h
  obtain ⟨above, line, header, body, blanks, left, hlines, he, ht⟩ :=
    hreads.block_of_mem (List.mem_of_getElem? hr) hb
  change Line.scan t = _ at hlines
  have hp := Line.placed_scan t
  have hu : ∀ line ∈ body, line.content.Unbroken :=
    fun line hl => Line.unbroken_of_mem_scan (t := t) (by simp [hlines, hl])
  obtain ⟨hunbroken, last, hlast, hblank⟩ := ht.lines_of_code he hu
  have hm : ∀ u ∈ r.margin, u.isIndent := ht.margin ▸ Region.isIndent_of_mem_bodyMargin
  rw [hlines] at hp ⊢
  rw [ht.filter_hasBodyLine hp, ht.code, Region.blockCode,
    Region.split_reindent hb hm hunbroken hlast hblank]
  have hkept := Region.margined_code ht.lines r.margin
  have hcontents : (terminated r.lineBreak r.endsWithBreak (Region.margined r.margin .initial
      (r.lines.map RegionLine.code))).map (·.content) = _ := map_content_terminated
  rw [← hcontents, List.forall₂_map_right_iff] at hkept
  refine hkept.imp fun b raw hraw hs => ?_
  obtain ⟨line, hline, hcontent⟩ := hraw
  rw [hcontent]
  exact Region.atMargin_code_eq_iff hline hs hm

/-- A line of white space that is no wider than the margin is emptied. -/
theorem Partition.string_line_kept_iff_white_space :
    ∃ p r, build ⟨.reject, 4⟩ (.ofText (text "python:\n    s = \"\"\"\n    \n    \"\"\"\n")) =
        .ok p ∧
      p.regions[0]? = some r ∧
      p.splice [some (.formatted r.code)] = text "python:\n    s = \"\"\"\n\n    \"\"\"\n" ∧
      List.Forall₂ (fun (b : Region.BodyLine) (raw : RawLine) =>
          b.inString → (raw.content = b.line.content ↔ Region.Restores ⟨.reject, 4⟩ r.margin b))
        (Region.lexedFrom .initial
          ((Line.scan (text "python:\n    s = \"\"\"\n    \n    \"\"\"\n")).filter
            fun line => r.hasBodyLine line.index))
        (RawLine.split (r.reindent r.code)) := by
  have hbuild :
      (build ⟨.reject, 4⟩ (.ofText (text "python:\n    s = \"\"\"\n    \n    \"\"\"\n"))).map
        (fun p => p.regions[0]?.map fun r =>
          (r.isStatement, p.splice [some (.formatted r.code)])) =
      .ok (some (false, text "python:\n    s = \"\"\"\n\n    \"\"\"\n")) := by cbv
  obtain ⟨p, hp, hregion⟩ := map_eq_ok_iff.mp hbuild
  obtain ⟨r, hr, hsplice⟩ := Option.map_eq_some_iff.mp hregion
  obtain ⟨hb, hsplice⟩ := Prod.mk.inj hsplice
  exact ⟨p, r, hp, hr, hsplice, (string_line_kept_iff hp hr hb).2⟩

end Inlay
