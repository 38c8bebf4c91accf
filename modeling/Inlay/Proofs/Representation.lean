import Inlay.Proofs.Breaks
import Inlay.Proofs.Dedenting
import Inlay.Proofs.Places
import Inlay.Proofs.Reextraction

/-!
# What every region is like

The engine, the splice and the diagnostics rely on regions to be of one shape, which no single
function establishes: what the code of a region is made of (`CodeInvariant`), where the lines of a
block stand (`BlockInvariant`), and what stands around a statement (`StatementInvariant`).
-/

namespace Inlay

open CodeUnit

namespace Region

def codeLines (r : Region) : List Text := Text.splitOn lineFeed (unterminated r.code)

/-- The code has a unit that is not blank, no carriage return, and one line feed at its end. Its
lines are those of the region: the indentation in the code and the body, or nothing for a body of
white space. -/
structure CodeInvariant (r : Region) : Prop where
  carriageReturn : carriageReturn ∉ r.code
  lineFeed : ∃ front u, r.code = front ++ [u, lineFeed] ∧ u ≠ lineFeed
  isBlank : Text.isBlank r.code = false
  codeLines : r.codeLines = r.lines.map RegionLine.code

/-- The lines of a block follow their introducer and one another, the last of them is full, and they
stand to the right of the introducer. Only the end of the text can take the break from the last. -/
structure BlockInvariant (tabWidth : Nat) (t : Text) (r : Region) : Prop where
  startLine : r.startLine = r.introducer + 1
  index : ∀ k line, r.lines[k]? = some line → line.index = r.startLine + k
  last : ∃ line, r.lines.getLast? = some line ∧ line.raw.isBlank = false
  width : Indent.width tabWidth r.outerIndent < Indent.width tabWidth r.margin
  endsWithBreak : r.endsWithBreak = false → r.span.stop = t.length

/-- A statement is one line, the one that introduces it. On this stand white space, the marker and
spaces or tabs before the code, which begins with no such unit and ends with none that is blank,
and white space behind it. -/
structure StatementInvariant (t : Text) (r : Region) : Prop where
  line : ∃ line, r.lines = [line] ∧ line.index = r.introducer
  head : ∀ u, r.code.head? = some u → u ≠ space ∧ u ≠ tab
  last : ∃ front u, r.code = front ++ [u, lineFeed] ∧ u.isBlank = false
  around : ∃ line ∈ Line.scan t, line.index = r.introducer ∧ ∃ white gap behind,
    line.content = white ++ Introducer.marker :: gap ++ unterminated r.code ++ behind ∧
      (white ++ Introducer.marker :: gap).length = r.codeColumn ∧
      (∀ u ∈ white, u.isIndent) ∧ (∀ u ∈ gap, u = space ∨ u = tab) ∧ Text.isBlank behind

-- ---------------------------------------------------------------------------
-- The code
-- ---------------------------------------------------------------------------

variable {r : Region} {line : Line} {last : Text}

theorem codeInvariant_of_blockCode (hcode : r.code = blockCode r.lines)
    (hunbroken : ∀ piece ∈ r.lines.map RegionLine.code, piece.Unbroken)
    (hlast : (r.lines.map RegionLine.code).getLast? = some last) (hfull : last.isBlank = false) :
    r.CodeInvariant := by
  obtain ⟨u, hu, hublank⟩ := List.all_eq_false.mp hfull
  obtain ⟨v, hv⟩ := Option.ne_none_iff_exists'.mp
    (mt List.getLast?_eq_none_iff.mp (List.ne_nil_of_mem hu))
  have hmem := List.mem_of_getLast? hlast
  have hjoined := Text.getLast?_joinWith (t := [CodeUnit.lineFeed]) hlast hv
  obtain ⟨front, hfront⟩ := List.getLast?_eq_some_iff.mp hjoined
  refine ⟨?_, ⟨front, v, ?_, (hunbroken last hmem v (List.mem_of_getLast? hv)).1⟩, ?_, ?_⟩
  · rw [hcode, blockCode, List.mem_append, not_or]
    refine ⟨Text.not_mem_joinWith (by decide) fun piece hpiece hm => ?_, by decide⟩
    exact (hunbroken piece hpiece _ hm).2 rfl
  · rw [hcode, blockCode, hfront]
    simp
  · rw [hcode, blockCode]
    exact Text.isBlank_eq_false_of_mem (List.mem_append_left _ (Text.mem_joinWith hmem hu))
      (Bool.eq_false_iff.mpr hublank)
  · rw [codeLines, hcode, blockCode, unterminated_concat]
    exact Text.splitOn_joinWith (List.ne_nil_of_mem hmem)
      fun piece hpiece hm => (hunbroken piece hpiece _ hm).1 rfl

theorem CodeInvariant.isEmpty_unterminated (h : r.CodeInvariant) :
    (unterminated r.code).isEmpty = false := by
  obtain ⟨front, u, hcode, -⟩ := h.lineFeed
  rw [hcode, List.append_cons, unterminated_concat]
  simp

theorem Taken.codeInvariant {indentation : Indentation} {style : LineStyle} {above : Line}
    {variant : BlockVariant} {header : Header} {body blanks left : List Line} {tabWidth width : Nat}
    (h : Taken indentation style above variant header body r)
    (he : Extent tabWidth width body blanks left) (hu : ∀ line ∈ body, line.content.Unbroken) :
    r.CodeInvariant := by
  obtain ⟨hunbroken, last, hlast, hfull⟩ := h.lines_of_code he hu
  exact codeInvariant_of_blockCode h.code hunbroken hlast hfull

theorem codeInvariant_ofStatement {s : LexState} {column code stop : Nat}
    (h : Introducer.recognize line s (lexLine .host s line.content).tokens =
      .ok (.statement column code stop)) (hu : line.content.Unbroken) :
    (ofStatement line code stop).CodeInvariant := by
  obtain ⟨u, hlast, hfull⟩ := Introducer.getLast?_statement h
  have hblank : Text.isBlank (Text.slice line.content code stop) = false :=
    Text.isBlank_eq_false_of_mem (List.mem_of_getLast? hlast) hfull
  have hlines : (ofStatement line code stop).lines.map RegionLine.code =
      [Text.slice line.content code stop] := by
    simp [ofStatement, RegionLine.code, hblank]
  have hend : ((ofStatement line code stop).lines.map RegionLine.code).getLast? =
      some (Text.slice line.content code stop) := by
    rw [hlines]
    rfl
  refine codeInvariant_of_blockCode ?_ ?_ hend hblank
  · rw [blockCode, hlines]
    rfl
  · rw [hlines, List.forall_mem_singleton]
    exact fun u hm => hu u (List.mem_of_mem_drop (List.mem_of_mem_take hm))

-- ---------------------------------------------------------------------------
-- The lines of a block
-- ---------------------------------------------------------------------------

theorem Taken.blockInvariant {indentation : Indentation} {style : LineStyle} {introducer : Line}
    {variant : BlockVariant} {header : Header} {body blanks left : List Line} {t : Text}
    (h : Taken indentation style introducer variant header body r)
    (he : Extent indentation.tabWidth (Indent.width indentation.tabWidth introducer.indent)
      body blanks left)
    (hp : Line.Placed (introducer.index + 1) offset body)
    (hbelow : (Line.scan t).drop (introducer.index + 1) = body ++ blanks ++ left) :
    r.BlockInvariant indentation.tabWidth t := by
  have hstart := h.startLine hp
  have hlines := h.forall₂_lines
  refine ⟨by rw [hstart, h.introducer], fun k line hk => ?_, ?_, ?_, fun hends => ?_⟩
  · obtain ⟨hlt, rfl⟩ := List.getElem?_eq_some_iff.mp hk
    have hlt' : k < body.length := hlines.length_eq ▸ hlt
    rw [hstart, ← hp.index_getElem (List.getElem?_eq_getElem hlt')]
    exact (hlines.get hlt hlt').1
  · obtain ⟨last, hlast, hfull⟩ := he.last
    obtain ⟨line, hline, -, hraw⟩ := exists_getLast?_of_forall₂ hlines.flip hlast
    exact ⟨line, hline, by rwa [hraw]⟩
  · rw [h.outerIndent, h.margin]
    exact he.lt_width_bodyMargin
  · -- a line without a break is the last of the text
    have hscan := Line.scannable_scan t
    rw [← List.take_append_drop (introducer.index + 1) (Line.scan t), hbelow, List.map_append,
      List.append_assoc, List.map_append] at hscan
    have hrest := List.map_eq_nil_iff.mp (h.eq_nil_of_endsWithBreak hscan.right hends)
    obtain ⟨last, hlast, hstop⟩ := Option.map_eq_some_iff.mp h.stop
    rw [List.append_assoc, hrest, List.append_nil] at hbelow
    have hend : (Line.scan t).getLast? = some last := by
      rw [← hbelow, List.getLast?_drop] at hlast
      exact (Option.ite_none_left_eq_some.mp hlast).2
    rw [← hstop, (Line.placed_scan t).next_getLast hend, Line.joined_scan, Nat.zero_add]

-- ---------------------------------------------------------------------------
-- The line of a statement
-- ---------------------------------------------------------------------------

theorem statementInvariant_ofStatement {t : Text} {s : LexState} {column code stop : Nat}
    (hline : line ∈ Line.scan t)
    (h : Introducer.recognize line s (lexLine .host s line.content).tokens =
      .ok (.statement column code stop)) :
    (ofStatement line code stop).StatementInvariant t := by
  obtain ⟨-, -, -, -, hlt⟩ := Introducer.recognize_eq_statement_iff.mp h
  obtain ⟨-, white, gap, rest, hcontent, hwhite, hgap, hrest, -, hcode, hstop⟩ :=
    Introducer.exists_marker h
  obtain ⟨u, hlast, hfull⟩ := Introducer.getLast?_statement h
  have hcode : (white ++ Introducer.marker :: gap).length = code := by
    rw [hcode, List.length_append, List.length_cons]
    omega
  have hcontent : line.content = white ++ Introducer.marker :: gap ++ rest := by
    rw [hcontent, List.append_assoc, List.cons_append]
  have hdrop : line.content.drop code = rest := by
    rw [hcontent, ← hcode, List.drop_left]
  have hbody : Text.slice line.content code stop ++ line.content.drop stop = rest := by
    rw [Text.slice_append_drop hlt.le, hdrop]
  refine ⟨⟨_, rfl, rfl⟩, fun v hv => hrest v ?_, ?_,
    line, hline, rfl, white, gap, line.content.drop stop, ?_, hcode, hwhite, hgap, ?_⟩
  · -- the code is not empty, so the unit it begins with is that behind the gap
    obtain ⟨w, more, hw⟩ :=
      List.exists_cons_of_ne_nil (List.ne_nil_of_mem (List.mem_of_getLast? hlast))
    rw [← hbody, hw]
    rw [ofStatement, hw] at hv
    exact hv
  · obtain ⟨front, hfront⟩ := List.getLast?_eq_some_iff.mp hlast
    refine ⟨front, u, ?_, hfull⟩
    rw [ofStatement, hfront]
    simp
  · rw [ofStatement, unterminated_concat, List.append_assoc _ _ (line.content.drop stop), hbody]
    exact hcontent
  · rw [hstop]
    exact Text.isBlank_drop_trimEnd _

end Region

namespace Partition

variable {indentation : Indentation} {t : Text} {p : Partition} {r : Region}

theorem exists_statement (h : build indentation (.ofText t) = .ok p) (hr : r ∈ p.regions)
    (hs : r.isStatement) :
    ∃ line ∈ Line.scan t, ∃ s column code stop,
      Introducer.recognize line s (lexLine .host s line.content).tokens =
        .ok (.statement column code stop) ∧ r = Region.ofStatement line code stop := by
  obtain ⟨rs, hreads, rfl⟩ := build_eq_ok_iff.mp h
  obtain ⟨rd, hm, hregion⟩ := List.mem_filterMap.mp hr
  have hline : rd.line ∈ Line.scan t := by
    have hmap := List.mem_map_of_mem (f := Reading.line) hm
    rw [hreads.map_line (Line.placed_scan t) .of_filterMap] at hmap
    exact List.mem_of_mem_filter hmap
  obtain ⟨i, hi, hintroduces⟩ := hreads.introduces rd hm
  cases i with
  | none => cases hregion.symm.trans hintroduces
  | statement column code stop =>
    exact ⟨rd.line, hline, rd.start, column, code, stop, hi,
      Option.some.inj (hregion.symm.trans hintroduces)⟩
  | block header colon =>
    obtain ⟨r', hr', hform, -⟩ := hintroduces
    cases hregion.symm.trans hr'
    rw [Region.isStatement, hform] at hs
    cases hs

theorem codeInvariant (h : build indentation (.ofText t) = .ok p) (hr : r ∈ p.regions) :
    r.CodeInvariant := by
  cases hs : r.isStatement with
  | true =>
    obtain ⟨line, hline, s, column, code, stop, hrecognize, rfl⟩ := exists_statement h hr hs
    exact Region.codeInvariant_ofStatement hrecognize (Line.unbroken_of_mem_scan hline)
  | false =>
    obtain ⟨introducer, header, body, blanks, left, -, -, hbelow, -, -, he, ht⟩ :=
      exists_below h hr hs
    refine ht.codeInvariant he fun line hm => Line.unbroken_of_mem_scan (t := t) ?_
    refine List.mem_of_mem_drop (i := r.introducer + 1) ?_
    rw [hbelow, List.append_assoc]
    exact List.mem_append_left _ hm

theorem blockInvariant (h : build indentation (.ofText t) = .ok p) (hr : r ∈ p.regions)
    (hb : r.isStatement = false) : r.BlockInvariant indentation.tabWidth t := by
  obtain ⟨introducer, header, body, blanks, left, -, hindex, hbelow, hp, -, he, ht⟩ :=
    exists_below h hr hb
  rw [← hindex] at hbelow hp
  rw [List.append_assoc] at hp
  exact ht.blockInvariant he (Line.placed_append.mp hp).1 hbelow

theorem statementInvariant (h : build indentation (.ofText t) = .ok p) (hr : r ∈ p.regions)
    (hs : r.isStatement) : r.StatementInvariant t := by
  obtain ⟨line, hline, s, column, code, stop, hrecognize, rfl⟩ := exists_statement h hr hs
  exact Region.statementInvariant_ofStatement hline hrecognize

end Partition

/-- Every region of a document has code of one shape, and is a block or a statement as it should
be. -/
theorem Partition.regions_invariant {indentation : Indentation} {t : Text} {p : Partition}
    (h : build indentation (.ofText t) = .ok p) :
    ∀ r ∈ p.regions, r.CodeInvariant ∧ r.codeLines.length = r.lines.length ∧
      (r.isStatement = false → r.BlockInvariant indentation.tabWidth t) ∧
      (r.isStatement → r.StatementInvariant t) := by
  intro r hr
  have hcode := codeInvariant h hr
  refine ⟨hcode, ?_, blockInvariant h hr, statementInvariant h hr⟩
  rw [hcode.codeLines, List.length_map]

theorem Partition.regions_invariant_statement_block :
    ∃ p, build ⟨.expandTabs, 4⟩ (.ofText (text " $ \tx = 1 \npython:\n\ty\n \n     z")) = .ok p ∧
      p.regions.map (fun r => (r.isStatement, r.code)) =
        [(true, text "x = 1\n"), (false, text "y\n\n z\n")] ∧
      ∀ r ∈ p.regions, r.CodeInvariant ∧ r.codeLines.length = r.lines.length ∧
        (r.isStatement = false →
          r.BlockInvariant 4 (text " $ \tx = 1 \npython:\n\ty\n \n     z")) ∧
        (r.isStatement →
          r.StatementInvariant (text " $ \tx = 1 \npython:\n\ty\n \n     z")) := by
  have hbuild : (build ⟨.expandTabs, 4⟩
        (.ofText (text " $ \tx = 1 \npython:\n\ty\n \n     z"))).map
      (fun p => p.regions.map fun r => (r.isStatement, r.code)) =
      .ok [(true, text "x = 1\n"), (false, text "y\n\n z\n")] := by cbv
  obtain ⟨p, hp, hregions⟩ := map_eq_ok_iff.mp hbuild
  exact ⟨p, hp, hregions, regions_invariant hp⟩

end Inlay
