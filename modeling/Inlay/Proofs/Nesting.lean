import Inlay.Proofs.Dedenting

/-!
# How deep the lines of a block are nested

A margin adds to the width of an indentation behind it, by its own width where that holds no tab
and by whole tab stops where it does (`Indent.gain`). When it is taken off, one indentation may
therefore overtake another. `compare_codeIndent_iff` says when the lines of a block are ordered by
the width of their indentation in the code as they are in the document.
-/

namespace Inlay

open CodeUnit

-- ---------------------------------------------------------------------------
-- What a margin adds
-- ---------------------------------------------------------------------------

namespace Indent

variable {w n k : Nat} {x y margin : Text}

def lead (x : Text) : Nat := (x.takeWhile (· != tab)).count space

/-- What a margin of width `n` adds to the width of an indentation behind it. The first tab takes
up what the margin leaves of its tab stop. -/
def gain (w n : Nat) (x : Text) : Nat :=
  if tab ∈ x then w * ((n + lead x) / w - lead x / w) else n

/-- Behind a margin of width `n` the first indentation is at least as wide as the second, without it
the second is at least as wide as the first, and the margin adds more to the first. -/
structure Overtakes (w n : Nat) (x y : Text) : Prop where
  gain : gain w n y < gain w n x
  without : width w x ≤ width w y
  behind : width w y + Indent.gain w n y ≤ width w x + Indent.gain w n x

theorem advance_tab (hw : 0 < w) : advance w n tab = w * (n / w + 1) := by
  have hn := Nat.div_add_mod n w
  have hlt := Nat.mod_lt n hw
  rw [advance, if_pos rfl, Nat.mul_succ]
  omega

theorem advance_mul_add (w k n : Nat) (u : CodeUnit) :
    advance w (w * k + n) u = w * k + advance w n u := by
  simp only [advance, Nat.mul_add_mod]
  split <;> [skip; split] <;> omega

theorem foldl_advance_mul_add (w k n : Nat) (x : Text) :
    x.foldl (advance w) (w * k + n) = w * k + x.foldl (advance w) n := by
  induction x generalizing n with
  | nil => rfl
  | cons u x ih => rw [List.foldl_cons, List.foldl_cons, advance_mul_add, ih]

theorem foldl_advance_of_not_mem (h : tab ∉ x) :
    x.foldl (advance w) n = n + x.count space := by
  induction x generalizing n with
  | nil => rfl
  | cons u x ih =>
    have hu : u ≠ tab := fun heq => h (heq ▸ List.mem_cons_self)
    have hx : tab ∉ x := fun hm => h (List.mem_cons_of_mem u hm)
    rw [List.foldl_cons, ih hx, advance, if_neg hu, List.count_cons]
    by_cases hspace : u = space <;> simp [hspace, Nat.add_assoc, Nat.add_comm 1]

theorem lead_append_tab (h : tab ∉ x) : lead (x ++ tab :: y) = x.count space := by
  have hx : ∀ u ∈ x, (u != tab) = true := fun u hu => by
    simpa using fun heq : u = tab => h (heq ▸ hu)
  rw [lead, takeWhile_append_of_head hx (by simp)]

theorem foldl_advance_eq (hw : 0 < w) (n : Nat) (x : Text) :
    x.foldl (advance w) n = width w x + gain w n x := by
  by_cases hx : tab ∈ x
  · -- behind the first tab both stand at a tab stop, and go on alike from there
    obtain ⟨a, b, rfl, ha⟩ := List.eq_append_cons_of_mem hx
    have hstop (n : Nat) : (a ++ tab :: b).foldl (advance w) n =
        w * ((n + a.count space) / w + 1) + width w b := by
      have hb := foldl_advance_mul_add w ((n + a.count space) / w + 1) 0 b
      rw [Nat.add_zero] at hb
      rw [List.foldl_append, foldl_advance_of_not_mem ha, List.foldl_cons, advance_tab hw, hb,
        width]
    have hle : a.count space / w ≤ (n + a.count space) / w :=
      Nat.div_le_div_right (Nat.le_add_left _ _)
    obtain ⟨d, hd⟩ := Nat.exists_eq_add_of_le hle
    have hwidth : width w (a ++ tab :: b) = w * (a.count space / w + 1) + width w b := by
      rw [width, hstop, Nat.zero_add]
    rw [hstop, hwidth, gain, if_pos hx, lead_append_tab ha, hd, Nat.add_sub_cancel_left]
    ring
  · rw [width, foldl_advance_of_not_mem hx, foldl_advance_of_not_mem hx, gain, if_neg hx]
    omega

theorem width_append (hw : 0 < w) (margin x : Text) :
    width w (margin ++ x) = width w x + gain w (width w margin) x := by
  rw [width, List.foldl_append]
  exact foldl_advance_eq hw _ x

theorem gain_of_not_mem (h : tab ∉ x) : gain w n x = n := if_neg h

theorem gain_of_dvd (hw : 0 < w) (h : w ∣ n) : gain w n x = n := by
  obtain ⟨k, rfl⟩ := h
  unfold gain
  split
  · rw [Nat.mul_add_div hw, Nat.add_sub_cancel]
  · rfl

/-- Two indentations are ordered alike behind a margin and without it unless one of them overtakes
the other. -/
theorem compare_width_append_iff (hw : 0 < w) (margin x y : Text) :
    compare (width w (margin ++ x)) (width w (margin ++ y)) = compare (width w x) (width w y) ↔
      ¬ Overtakes w (width w margin) x y ∧ ¬ Overtakes w (width w margin) y x := by
  have hovertakes (x y : Text) : Overtakes w (width w margin) x y ↔
      gain w (width w margin) y < gain w (width w margin) x ∧ width w x ≤ width w y ∧
        width w y + gain w (width w margin) y ≤ width w x + gain w (width w margin) x :=
    ⟨fun h => ⟨h.gain, h.without, h.behind⟩, fun ⟨hg, hx, hy⟩ => ⟨hg, hx, hy⟩⟩
  rw [hovertakes, hovertakes, width_append hw, width_append hw]
  generalize width w x = a, width w y = b, gain w (width w margin) x = g,
    gain w (width w margin) y = g'
  simp only [Nat.compare_eq_ite_lt]
  split_ifs <;> simp <;> omega

theorem not_overtakes_of_gain_eq (h : gain w n x = gain w n y) : ¬ Overtakes w n x y :=
  fun hovertakes => absurd hovertakes.gain (by omega)

end Indent

-- ---------------------------------------------------------------------------
-- The anchors of a block
-- ---------------------------------------------------------------------------

namespace Region

variable {indentation : Indentation} {style : LineStyle} {above : Line} {variant : BlockVariant}
  {header : Header} {body : List Line} {r : Region} {line line' : RegionLine}

/-- The lines of a block whose indentation says how deep they are nested. -/
def anchors (r : Region) (t : Text) : List RegionLine :=
  (((r.bodyLines t).zip r.lines).filter (·.1.isAnchor)).map (·.2)

theorem Taken.extends_of_mem_anchors {t : Text}
    (h : Taken indentation style above variant header body r)
    (hbody : r.bodyLines t = lexedFrom .initial body) (hm : line ∈ r.anchors t) :
    Indent.Extends indentation r.margin line.codeIndent line.indent := by
  obtain ⟨⟨b, _⟩, hpair, rfl⟩ := List.mem_map.mp hm
  obtain ⟨hpair, ha⟩ := List.mem_filter.mp hpair
  rw [hbody] at hpair
  obtain ⟨-, -, hextends⟩ := List.forall₂_zip h.forall₂_extends hpair
  exact hextends (Bool.or_eq_true_iff.mpr (.inl ha))

theorem Taken.compare_codeIndent_of_expandTabs {t : Text}
    (h : Taken indentation style above variant header body r)
    (hbody : r.bodyLines t = lexedFrom .initial body)
    (hexpand : indentation.policy = .expandTabs) (hm : line ∈ r.anchors t)
    (hm' : line' ∈ r.anchors t) :
    compare (Indent.width indentation.tabWidth line.indent)
        (Indent.width indentation.tabWidth line'.indent) =
      compare (Indent.width indentation.tabWidth line.codeIndent)
        (Indent.width indentation.tabWidth line'.codeIndent) := by
  obtain ⟨hspaces, hwidth⟩ :=
    (Indent.extends_of_expandTabs hexpand).mp (h.extends_of_mem_anchors hbody hm)
  obtain ⟨hspaces', hwidth'⟩ :=
    (Indent.extends_of_expandTabs hexpand).mp (h.extends_of_mem_anchors hbody hm')
  rw [hwidth, hwidth', Indent.width_of_spaces hspaces, Indent.width_of_spaces hspaces']
  simp only [Nat.compare_eq_ite_lt]
  split_ifs <;> first | rfl | omega

theorem Taken.compare_codeIndent_iff_of_reject {t : Text}
    (h : Taken indentation style above variant header body r)
    (hbody : r.bodyLines t = lexedFrom .initial body) (hw : 0 < indentation.tabWidth)
    (hreject : indentation.policy = .reject) (hm : line ∈ r.anchors t)
    (hm' : line' ∈ r.anchors t) :
    compare (Indent.width indentation.tabWidth line.indent)
        (Indent.width indentation.tabWidth line'.indent) =
      compare (Indent.width indentation.tabWidth line.codeIndent)
        (Indent.width indentation.tabWidth line'.codeIndent) ↔
      ¬ Indent.Overtakes indentation.tabWidth (Indent.width indentation.tabWidth r.margin)
          line.codeIndent line'.codeIndent ∧
        ¬ Indent.Overtakes indentation.tabWidth (Indent.width indentation.tabWidth r.margin)
          line'.codeIndent line.codeIndent := by
  rw [(h.extends_of_mem_anchors hbody hm).eq_append hreject,
    (h.extends_of_mem_anchors hbody hm').eq_append hreject]
  exact Indent.compare_width_append_iff hw _ _ _

end Region

/-- The lines of a block are nested in the code as they are in the document, unless tabs are not
expanded and the indentation of one overtakes that of another when the margin is taken off. This
does not happen if the margin is whole tab stops wide, or if no tab stands behind it. -/
theorem Partition.compare_codeIndent_iff {indentation : Indentation} {t : Text} {p : Partition}
    (h : build indentation (.ofText t) = .ok p) (hw : 1 ≤ indentation.tabWidth) :
    ∀ r ∈ p.regions, r.isStatement = false →
      let width := Indent.width indentation.tabWidth
      let overtakes (line line' : RegionLine) := Indent.Overtakes indentation.tabWidth
        (width r.margin) line.codeIndent line'.codeIndent
      let alike (line line' : RegionLine) := compare (width line.indent) (width line'.indent) =
        compare (width line.codeIndent) (width line'.codeIndent)
      List.Forall₂ (fun b line => line.index = b.line.index ∧ line.indent = b.line.indent)
        (r.bodyLines t) r.lines ∧
      (∀ line ∈ r.anchors t, ∀ line' ∈ r.anchors t, alike line line' ↔
        (indentation.policy = .reject → ¬ overtakes line line' ∧ ¬ overtakes line' line)) ∧
      (indentation.policy = .expandTabs ∨ indentation.tabWidth ∣ width r.margin ∨
          (∀ line ∈ r.anchors t, tab ∉ line.codeIndent) →
        ∀ line ∈ r.anchors t, ∀ line' ∈ r.anchors t, alike line line') := by
  intro r hr hb width overtakes alike
  obtain ⟨above, line, header, body, blanks, left, hlines, -, ht⟩ := block_of_mem h hr hb
  change Line.scan t = _ at hlines
  have hbody : r.bodyLines t = Region.lexedFrom .initial body := by
    rw [Region.bodyLines, hlines, ht.filter_hasBodyLine (hlines ▸ Line.placed_scan t)]
  have halike : ∀ line ∈ r.anchors t, ∀ line' ∈ r.anchors t, alike line line' ↔
      (indentation.policy = .reject → ¬ overtakes line line' ∧ ¬ overtakes line' line) := by
    intro line hm line' hm'
    cases hpolicy : indentation.policy with
    | reject =>
      rw [imp_iff_right rfl]
      exact ht.compare_codeIndent_iff_of_reject hbody hw hpolicy hm hm'
    | expandTabs =>
      simpa using ht.compare_codeIndent_of_expandTabs hbody hpolicy hm hm'
  refine ⟨?_, halike, fun hsimple line hm line' hm' => (halike line hm line' hm').mpr ?_⟩
  · rw [hbody]
    refine ht.lines.imp fun b line hline => ?_
    obtain ⟨_, -, rfl⟩ := Region.dedentLine_eq_ok_iff.mp hline
    exact ⟨rfl, rfl⟩
  · intro hreject
    have hgain : Indent.gain indentation.tabWidth (width r.margin) line.codeIndent =
        Indent.gain indentation.tabWidth (width r.margin) line'.codeIndent := by
      rcases hsimple with hexpand | hdvd | htab
      · cases hreject.symm.trans hexpand
      · rw [Indent.gain_of_dvd hw hdvd, Indent.gain_of_dvd hw hdvd]
      · rw [Indent.gain_of_not_mem (htab line hm), Indent.gain_of_not_mem (htab line' hm')]
    exact ⟨Indent.not_overtakes_of_gain_eq hgain, Indent.not_overtakes_of_gain_eq hgain.symm⟩

/-- The second line and the third are equally deep in the document, and the second is deeper in the
code: its tab takes up the margin. -/
theorem Partition.compare_codeIndent_iff_mixed :
    ∃ p r line line',
      build ⟨.reject, 8⟩ (.ofText (text "python:\n if x:\n \ty = 1\n        z = 2\n")) = .ok p ∧
      r ∈ p.regions ∧ r.isStatement = false ∧
      line ∈ r.anchors (text "python:\n if x:\n \ty = 1\n        z = 2\n") ∧
      line' ∈ r.anchors (text "python:\n if x:\n \ty = 1\n        z = 2\n") ∧
      line.indent = text " \t" ∧ line'.indent = text "        " ∧
      compare (Indent.width 8 line.indent) (Indent.width 8 line'.indent) ≠
        compare (Indent.width 8 line.codeIndent) (Indent.width 8 line'.codeIndent) := by
  have hbuild : (build ⟨.reject, 8⟩
        (.ofText (text "python:\n if x:\n \ty = 1\n        z = 2\n"))).map
      (fun p => p.regions.map fun r => (r.isStatement, r.margin,
        r.anchors (text "python:\n if x:\n \ty = 1\n        z = 2\n"))) =
      .ok [(false, text " ",
        [⟨1, text " ", [], text "if x:", some .lf⟩,
          ⟨2, text " \t", text "\t", text "y = 1", some .lf⟩,
          ⟨3, text "        ", text "       ", text "z = 2", some .lf⟩])] := by cbv
  obtain ⟨p, hp, hregions⟩ := map_eq_ok_iff.mp hbuild
  obtain ⟨r, rs, hp', hr, -⟩ := List.map_eq_cons_iff.mp hregions
  obtain ⟨hblock, hr⟩ := Prod.mk.inj hr
  obtain ⟨hmargin, hanchors⟩ := Prod.mk.inj hr
  have hmem : r ∈ p.regions := hp' ▸ List.mem_cons_self
  have hline : (⟨2, text " \t", text "\t", text "y = 1", some .lf⟩ : RegionLine) ∈
      r.anchors (text "python:\n if x:\n \ty = 1\n        z = 2\n") := by simp [hanchors]
  have hline' : (⟨3, text "        ", text "       ", text "z = 2", some .lf⟩ : RegionLine) ∈
      r.anchors (text "python:\n if x:\n \ty = 1\n        z = 2\n") := by simp [hanchors]
  have hovertakes : Indent.Overtakes 8 (Indent.width 8 (text " ")) (text "       ") (text "\t") :=
    ⟨by decide, by decide, by decide⟩
  have halike := (compare_codeIndent_iff hp (by decide) r hmem hblock).2.1 _ hline _ hline'
  rw [hmargin] at halike
  exact ⟨p, r, _, _, hp, hmem, hblock, hline, hline', rfl, rfl,
    fun heq => (halike.mp heq rfl).2 hovertakes⟩

end Inlay
