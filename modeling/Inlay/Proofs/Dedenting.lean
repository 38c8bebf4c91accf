import Inlay.Proofs.Extents
import Inlay.Proofs.Restoring

/-!
# The lines of a block without their margin

The margin of a block is the indentation of the first of its least wide anchors (`IsMargin`), and
from every line whose indentation means something exactly the margin is taken off. A block is
refused for lines of which this cannot be said, and for the margin only because of such a line or
one that goes on with a statement (`Partition.codeIndent_extends`).
-/

namespace Inlay

open CodeUnit

namespace Region

variable {indentation : Indentation} {margin : Text} {b : BodyLine}

-- ---------------------------------------------------------------------------
-- The margin
-- ---------------------------------------------------------------------------

section

variable {tabWidth : Nat} {above below body : List BodyLine}

/-- Of the anchors among some lines none is less wide than the one given, and it is the first. -/
structure IsLeast (tabWidth : Nat) (above : List BodyLine) (b : BodyLine)
    (below : List BodyLine) : Prop where
  isAnchor : b.isAnchor
  above : ∀ a ∈ above, a.isAnchor →
    Indent.width tabWidth b.line.indent < Indent.width tabWidth a.line.indent
  below : ∀ a ∈ below, a.isAnchor →
    Indent.width tabWidth b.line.indent ≤ Indent.width tabWidth a.line.indent

/-- What the margin of a block is: the indentation of its first least wide anchor, or that of its
first full line if it has no anchor. -/
inductive IsMargin (tabWidth : Nat) : List BodyLine → Text → Prop
  | least {above below : List BodyLine} {b : BodyLine} : IsLeast tabWidth above b below →
    IsMargin tabWidth (above ++ b :: below) b.line.indent
  | first {blanks below : List BodyLine} {b : BodyLine} :
    (∀ a ∈ blanks ++ b :: below, a.isAnchor = false) → (∀ a ∈ blanks, a.isBlank) →
    b.isBlank = false →
    IsMargin tabWidth (blanks ++ b :: below) b.line.indent

theorem IsLeast.concat (h : IsLeast tabWidth above b below)
    (ha : a.isAnchor → Indent.width tabWidth b.line.indent ≤ Indent.width tabWidth a.line.indent) :
    IsLeast tabWidth above b (below ++ [a]) where
  isAnchor := h.isAnchor
  above := h.above
  below := List.forall_mem_append.mpr ⟨h.below, List.forall_mem_singleton.mpr ha⟩

theorem of_narrower {least : Option BodyLine} (h : narrower tabWidth least b = some a) :
    (least = some a ∧ (b.isAnchor →
        Indent.width tabWidth a.line.indent ≤ Indent.width tabWidth b.line.indent)) ∨
      (b = a ∧ b.isAnchor ∧ ∀ c, least = some c →
        Indent.width tabWidth b.line.indent < Indent.width tabWidth c.line.indent) := by
  rw [narrower.eq_def] at h
  split at h
  · next hanchor => exact .inl ⟨h, fun hb => by simp [hb] at hanchor⟩
  · next hanchor =>
    have hanchor : b.isAnchor := by simpa using hanchor
    split at h
    · split at h
      · next hlt => exact .inr ⟨Option.some.inj h, hanchor, by rintro _ ⟨⟩; exact hlt⟩
      · next hlt =>
        obtain rfl := Option.some.inj h
        exact .inl ⟨rfl, fun _ => Nat.le_of_not_lt hlt⟩
    · exact .inr ⟨Option.some.inj h, hanchor, by rintro _ ⟨⟩⟩

theorem isLeast_of_leastAnchor (h : leastAnchor tabWidth body = some b) :
    ∃ above below, body = above ++ b :: below ∧ IsLeast tabWidth above b below := by
  -- the fold is opened at its end, where a line is compared with the least of those above it
  induction body using List.reverseRecOn generalizing b with
  | nil => cases h
  | append_singleton body last ih =>
    rw [leastAnchor_concat] at h
    obtain ⟨hleast, hle⟩ | ⟨rfl, hanchor, hlt⟩ := of_narrower h
    · obtain ⟨above, below, rfl, hl⟩ := ih hleast
      exact ⟨above, below ++ [last], by simp, hl.concat hle⟩
    · refine ⟨body, [], rfl, hanchor, fun a hm ha => ?_, by simp⟩
      obtain ⟨c, hc, hle⟩ := exists_leastAnchor_le hm ha
      exact Nat.lt_of_lt_of_le (hlt c hc) hle

theorem isAnchor_of_leastAnchor_eq_none (h : leastAnchor tabWidth body = none) (hm : a ∈ body) :
    a.isAnchor = false := by
  by_contra ha
  obtain ⟨b, hb, -⟩ : ∃ b, leastAnchor tabWidth body = some b ∧ _ :=
    exists_leastAnchor_le hm (Bool.eq_true_of_not_eq_false ha)
  rw [h] at hb
  cases hb

theorem isMargin_bodyMargin (h : ∃ b ∈ body, b.isBlank = false) :
    IsMargin tabWidth body (bodyMargin tabWidth body) := by
  rw [bodyMargin]
  cases hleast : leastAnchor tabWidth body with
  | some b =>
    obtain ⟨above, below, rfl, hl⟩ := isLeast_of_leastAnchor hleast
    exact .least hl
  | none =>
    have hanchor : ∀ a ∈ body, a.isAnchor = false :=
      fun a hm => isAnchor_of_leastAnchor_eq_none hleast hm
    cases hfind : body.find? (!·.isBlank) with
    | some b =>
      obtain ⟨hb, blanks, below, rfl, hblanks⟩ := List.find?_eq_some_iff_append.mp hfind
      exact .first hanchor (by simpa using hblanks) (by simpa using hb)
    | none =>
      obtain ⟨b, hm, hb⟩ := h
      simpa [hb] using List.find?_eq_none.mp hfind b hm

end

-- ---------------------------------------------------------------------------
-- The block below a line
-- ---------------------------------------------------------------------------

section

variable {style : LineStyle} {introducer : Line} {variant : BlockVariant} {header : Header}
  {behind : Nat} {body blanks left below : List Line} {e : StructureError}

/-- The lines of the block below an introducer, as they are read. -/
def bodyBelow (tabWidth : Nat) (introducer : Line) (below : List Line) : List BodyLine :=
  dropEndWhile BodyLine.isBlank
    (bodyFrom tabWidth (Indent.width tabWidth introducer.indent) .initial below)

theorem bodyBelow_eq (tabWidth : Nat) (introducer : Line) (below : List Line) :
    bodyBelow tabWidth introducer below = lexedFrom .initial (dropEndWhile (·.isBlank)
      (below.takeWhile (stays tabWidth (Indent.width tabWidth introducer.indent)))) := by
  rw [bodyBelow, bodyFrom_eq, dropEndWhile_lexedFrom]

theorem Extent.bodyBelow {tabWidth : Nat}
    (h : Extent tabWidth (Indent.width tabWidth introducer.indent) body blanks left) :
    bodyBelow tabWidth introducer (body ++ blanks ++ left) = lexedFrom .initial body := by
  rw [bodyBelow_eq, h.bounds.takeWhile_stays, h.bounds.dropEndWhile_isBlank]

theorem dedentLine_eq_error_of_mem {body : List BodyLine} (hm : b ∈ body)
    (h : dedentLine indentation (bodyMargin indentation.tabWidth body) b = .error e) :
    (∀ rest, ¬ Indent.Extends indentation (bodyMargin indentation.tabWidth body) rest
        b.line.indent) ∧
      (b.isSignificant ∨ b.continues ∧
        Indent.width indentation.tabWidth (bodyMargin indentation.tabWidth body) ≤
          Indent.width indentation.tabWidth b.line.indent) ∧
      e = ⟨.indentation (.offMargin b.line.indent (bodyMargin indentation.tabWidth body)),
        b.line.index + 1, 1⟩ := by
  obtain ⟨hnone, he⟩ := dedentLine_eq_error_iff.mp h
  obtain ⟨hnot, hmeans⟩ := (dedented?_eq_none_iff (width_bodyMargin_le hm)).mp hnone
  exact ⟨hnot, hmeans, he⟩

theorem Taken.forall₂_extends {r : Region}
    (h : Taken indentation style introducer variant header body r) :
    List.Forall₂ (fun b line => line.index = b.line.index ∧ line.indent = b.line.indent ∧
        (b.isSignificant → Indent.Extends indentation r.margin line.codeIndent line.indent))
      (lexedFrom .initial body) r.lines := by
  refine List.forall₂_iff_zip.mpr ⟨h.lines.length_eq, fun hpair => ?_⟩
  obtain ⟨hm, -⟩ := List.of_mem_zip hpair
  obtain ⟨codeIndent, hdedented, rfl⟩ := dedentLine_eq_ok_iff.mp (List.forall₂_zip h.lines hpair)
  refine ⟨rfl, rfl, fun hs => (dedented?_eq_some_iff hs fun ha => ?_).mp hdedented⟩
  rw [h.margin]
  exact width_bodyMargin_le hm ha

theorem ofBody_of_dedented?_eq_none (hm : b ∈ lexedFrom .initial body)
    (h : dedented? indentation (bodyMargin indentation.tabWidth (lexedFrom .initial body)) b =
      none) :
    ∃ fault line column,
      ofBody indentation style introducer variant header behind (lexedFrom .initial body) =
        .error ⟨.indentation fault, line, column⟩ := by
  have hne : body ≠ [] := List.ne_nil_of_mem (line_mem_of_mem_lexedFrom hm)
  cases hbody : ofBody indentation style introducer variant header behind
      (lexedFrom .initial body) with
  | error e =>
    obtain ⟨b', -, hb'⟩ := exists_mem_of_ofBody_eq_error hne hbody
    obtain ⟨-, rfl⟩ := dedentLine_eq_error_iff.mp hb'
    exact ⟨_, _, _, rfl⟩
  | ok r =>
    -- the lines of a region can all be moved
    have ht := (ofBody_eq_ok_iff.mp hbody).2
    obtain ⟨line, -, hline⟩ := exists_mem_of_forall₂ ht.lines.flip hm
    obtain ⟨rest, hrest, -⟩ := dedentLine_eq_ok_iff.mp hline
    rw [ht.margin, h] at hrest
    cases hrest

theorem ofBlock_of_not_extends (hm : b ∈ bodyBelow indentation.tabWidth introducer below)
    (hs : b.isSignificant)
    (h : ∀ rest, ¬ Indent.Extends indentation
      (bodyMargin indentation.tabWidth (bodyBelow indentation.tabWidth introducer below)) rest
      b.line.indent) :
    ∃ fault line column,
      ofBlock indentation style introducer variant header behind below =
        .error ⟨.indentation fault, line, column⟩ := by
  have hnone := (dedented?_eq_none_iff (width_bodyMargin_le hm)).mpr ⟨h, .inl hs⟩
  rw [bodyBelow_eq] at hm hnone
  have hbody : ∃ fault line column, ofBody indentation style introducer variant header behind _ =
      .error ⟨.indentation fault, line, column⟩ := ofBody_of_dedented?_eq_none hm hnone
  rw [ofBlock_eq rfl]
  split
  · split
    · exact ⟨_, _, _, rfl⟩
    · exact hbody
  · exact hbody

/-- A block is refused for the margin only because of such a line, or of one that goes on with a
statement and is no less wide. -/
theorem exists_of_ofBlock_eq_offMargin {indent : Text} {line column : Nat}
    (h : ofBlock indentation style introducer variant header behind below =
      .error ⟨.indentation (.offMargin indent margin), line, column⟩) :
    ∃ b ∈ bodyBelow indentation.tabWidth introducer below,
      (∀ rest, ¬ Indent.Extends indentation margin rest b.line.indent) ∧
      (b.isSignificant ∨ b.continues ∧ Indent.width indentation.tabWidth margin ≤
        Indent.width indentation.tabWidth b.line.indent) ∧
      margin = bodyMargin indentation.tabWidth (bodyBelow indentation.tabWidth introducer below) ∧
      indent = b.line.indent ∧ line = b.line.index + 1 ∧ column = 1 := by
  rw [bodyBelow_eq]
  have hbody : ofBody indentation style introducer variant header behind
      (lexedFrom .initial (dropEndWhile (·.isBlank) (below.takeWhile
        (stays indentation.tabWidth (Indent.width indentation.tabWidth introducer.indent))))) =
      .error ⟨.indentation (.offMargin indent margin), line, column⟩ := by
    rw [ofBlock_eq rfl] at h
    split at h
    · split at h
      · cases h
      · exact h
    · exact h
  obtain ⟨-, he⟩ | ⟨hne, -⟩ := ofBody_eq_error hbody
  · cases he
  · obtain ⟨b, hm, hb⟩ := exists_mem_of_ofBody_eq_error hne hbody
    obtain ⟨hnot, hmeans, he⟩ := dedentLine_eq_error_of_mem hm hb
    cases he
    exact ⟨b, hm, hnot, hmeans, rfl, rfl, rfl, rfl⟩

end

end Region

namespace Partition

variable {indentation : Indentation} {t : Text} {p : Partition} {r : Region}

theorem exists_below (h : build indentation (.ofText t) = .ok p) (hr : r ∈ p.regions)
    (hb : r.isStatement = false) :
    ∃ introducer header body blanks left, introducer ∈ Line.scan t ∧
      introducer.index = r.introducer ∧
      (Line.scan t).drop (r.introducer + 1) = body ++ blanks ++ left ∧
      Line.Placed (r.introducer + 1) introducer.next (body ++ blanks ++ left) ∧
      r.bodyLines t = Region.lexedFrom .initial body ∧
      Region.Extent indentation.tabWidth (Indent.width indentation.tabWidth introducer.indent)
        body blanks left ∧
      Region.Taken indentation (Document.ofText t).style introducer header.variant header body
        r := by
  obtain ⟨above, introducer, header, body, blanks, left, hlines, he, ht⟩ := block_of_mem h hr hb
  change Line.scan t = _ at hlines
  have hp := hlines ▸ Line.placed_scan t
  have hbody : r.bodyLines t = Region.lexedFrom .initial body := by
    rw [Region.bodyLines, hlines, ht.filter_hasBodyLine hp]
  obtain ⟨-, hindex, -, hbelow⟩ := Line.placed_append.mp hp
  rw [Nat.zero_add] at hindex hbelow
  rw [← hindex, ← ht.introducer, ← List.append_assoc] at hbelow
  refine ⟨introducer, header, body, blanks, left, ?_, ht.introducer.symm, ?_, hbelow, hbody, he, ht⟩
  · rw [hlines]
    exact List.mem_append_right _ List.mem_cons_self
  · rw [ht.introducer, hindex, hlines, ← List.drop_drop, List.drop_left, ← List.append_assoc]
    rfl

end Partition

/-- The margin of a block is the indentation of its first least wide anchor, and exactly that comes
off every line whose indentation means something. A block is refused if such a line does not extend
the margin, and refused for the margin only because of such a line or one that goes on with a
statement and is no less wide. -/
theorem Partition.codeIndent_extends (indentation : Indentation) (t : Text) :
    (∀ p, build indentation (.ofText t) = .ok p → ∀ r ∈ p.regions, r.isStatement = false →
      (∃ introducer ∈ Line.scan t, introducer.index = r.introducer ∧
        r.bodyLines t = Region.bodyBelow indentation.tabWidth introducer
          ((Line.scan t).drop (r.introducer + 1))) ∧
      Region.IsMargin indentation.tabWidth (r.bodyLines t) r.margin ∧
      List.Forall₂ (fun b line => line.index = b.line.index ∧ line.indent = b.line.indent ∧
          (b.isSignificant →
            Indent.Extends indentation r.margin line.codeIndent line.indent))
        (r.bodyLines t) r.lines) ∧
    ∀ style introducer variant header behind below,
      let body := Region.bodyBelow indentation.tabWidth introducer below
      let margin := Region.bodyMargin indentation.tabWidth body
      let block := Region.ofBlock indentation style introducer variant header behind below
      (body ≠ [] → Region.IsMargin indentation.tabWidth body margin) ∧
      (∀ b ∈ body, b.isSignificant →
        (∀ rest, ¬ Indent.Extends indentation margin rest b.line.indent) →
          ∃ fault line column, block = .error ⟨.indentation fault, line, column⟩) ∧
      ∀ indent margin' line column,
        block = .error ⟨.indentation (.offMargin indent margin'), line, column⟩ →
          margin' = margin ∧ ∃ b ∈ body, indent = b.line.indent ∧ line = b.line.index + 1 ∧
            column = 1 ∧ (∀ rest, ¬ Indent.Extends indentation margin rest indent) ∧
            (b.isSignificant ∨ b.continues ∧ Indent.width indentation.tabWidth margin ≤
              Indent.width indentation.tabWidth indent) := by
  refine ⟨fun p h r hr hb => ?_, fun style introducer variant header behind below => ⟨?_, ?_, ?_⟩⟩
  · obtain ⟨introducer, header, body, blanks, left, hm, hindex, hbelow, -, hbody, he, ht⟩ :=
      exists_below h hr hb
    refine ⟨⟨introducer, hm, hindex, ?_⟩, ?_, ?_⟩
    · rw [hbelow, he.bodyBelow, hbody]
    · obtain ⟨last, hlast, hfull⟩ := he.last
      rw [hbody, ht.margin]
      exact Region.isMargin_bodyMargin (Region.exists_full_lexedFrom hlast hfull)
    · exact hbody ▸ ht.forall₂_extends
  · exact fun hne => Region.isMargin_bodyMargin (exists_mem_dropEndWhile hne)
  · exact fun b hm hs hnot => Region.ofBlock_of_not_extends hm hs hnot
  · intro indent margin' line column hblock
    obtain ⟨b, hm, hnot, hmeans, rfl, rfl, rfl, rfl⟩ := Region.exists_of_ofBlock_eq_offMargin hblock
    exact ⟨rfl, b, hm, rfl, rfl, rfl, hnot, hmeans⟩

theorem Partition.codeIndent_extends_comment :
    (∃ p r, build ⟨.reject, 4⟩ (.ofText (text "python:\n\tx = 1\n  # c\n\t  y = 2\n")) = .ok p ∧
      r ∈ p.regions ∧ r.isStatement = false ∧ r.margin = text "\t" ∧
      r.lines.map (·.codeIndent) = [[], [], text "  "] ∧
      List.Forall₂ (fun b line => line.index = b.line.index ∧ line.indent = b.line.indent ∧
          (b.isSignificant → Indent.Extends ⟨.reject, 4⟩ r.margin line.codeIndent line.indent))
        (r.bodyLines (text "python:\n\tx = 1\n  # c\n\t  y = 2\n")) r.lines) ∧
    (∃ fault line column,
      Region.ofBlock ⟨.reject, 4⟩ ⟨.lf, false⟩ ⟨⟨text "python:", some .lf⟩, 0, 0⟩ .block
          ⟨false, none, false, false, none⟩ 7
          [⟨⟨text "\tx", some .lf⟩, 1, 8⟩, ⟨⟨text "  y", none⟩, 2, 11⟩] =
        .error ⟨.indentation fault, line, column⟩) ∧
    ∃ b ∈ Region.bodyBelow 4 ⟨⟨text "python:", some .lf⟩, 0, 0⟩
        [⟨⟨text "\tx", some .lf⟩, 1, 8⟩, ⟨⟨text "  y", none⟩, 2, 11⟩],
      text "\t" = b.line.indent ∧ 2 = b.line.index + 1 := by
  have hbuild : (build ⟨.reject, 4⟩
        (.ofText (text "python:\n\tx = 1\n  # c\n\t  y = 2\n"))).map
      (fun p => p.regions.map fun r => (r.isStatement, r.margin, r.lines.map (·.codeIndent))) =
      .ok [(false, text "\t", [[], [], text "  "])] := by cbv
  have hblock : Region.ofBlock ⟨.reject, 4⟩ ⟨.lf, false⟩ ⟨⟨text "python:", some .lf⟩, 0, 0⟩ .block
        ⟨false, none, false, false, none⟩ 7
        [⟨⟨text "\tx", some .lf⟩, 1, 8⟩, ⟨⟨text "  y", none⟩, 2, 11⟩] =
      .error ⟨.indentation (.offMargin (text "\t") (text "  ")), 2, 1⟩ := by cbv
  have hbody : Region.bodyBelow 4 ⟨⟨text "python:", some .lf⟩, 0, 0⟩
        [⟨⟨text "\tx", some .lf⟩, 1, 8⟩, ⟨⟨text "  y", none⟩, 2, 11⟩] =
      [⟨⟨⟨text "\tx", some .lf⟩, 1, 8⟩, .initial⟩, ⟨⟨⟨text "  y", none⟩, 2, 11⟩, .initial⟩] := by
    cbv
  have hmargin : Region.bodyMargin 4
      [⟨⟨⟨text "\tx", some .lf⟩, 1, 8⟩, .initial⟩, ⟨⟨⟨text "  y", none⟩, 2, 11⟩, .initial⟩] =
      text "  " := by cbv
  have hnot : ∀ rest, ¬ Indent.Extends ⟨.reject, 4⟩ (text "  ") rest (text "\t") :=
    not_exists.mp (mt (Indent.exists_extends_of_reject rfl).mp (by decide))
  obtain ⟨p, hp, hregions⟩ := map_eq_ok_iff.mp hbuild
  obtain ⟨r, rs, hp', hr, -⟩ := List.map_eq_cons_iff.mp hregions
  obtain ⟨hb, hr⟩ := Prod.mk.inj hr
  obtain ⟨hr, hlines⟩ := Prod.mk.inj hr
  have hmem : r ∈ p.regions := hp' ▸ List.mem_cons_self
  refine ⟨⟨p, r, hp, hmem, hb, hr, hlines, ((codeIndent_extends _ _).1 p hp r hmem hb).2.2⟩, ?_, ?_⟩
  · refine ((codeIndent_extends ⟨.reject, 4⟩ []).2 _ _ _ _ _ _).2.1 _ (hbody ▸ List.mem_cons_self)
      (by cbv) ?_
    change ∀ rest, ¬ Indent.Extends _ (Region.bodyMargin 4 _) rest _
    rw [hbody, hmargin]
    exact hnot
  · obtain ⟨-, b, hm, hindent, hline, -⟩ :=
      ((codeIndent_extends ⟨.reject, 4⟩ []).2 _ _ _ _ _ _).2.2 _ _ _ _ hblock
    exact ⟨b, hm, hindent, hline⟩

end Inlay
