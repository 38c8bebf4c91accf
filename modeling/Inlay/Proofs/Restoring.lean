import Inlay.Proofs.Relining
import Inlay.Proofs.Strings

/-!
# Regions that come back as they were

The lines of a region hold its text, whatever was taken off them: the lines of all regions, between
the host segments, are the document (`restored_eq_document`). Code is less than that. Where lines
are compared by their text, a block comes back from its own code exactly if its lines are
`Regular`, and a statement always does (`reindent_code_eq_slice_iff`).
-/

namespace Inlay

open CodeUnit

section

variable {indentation : Indentation} {style : LineStyle} {s : LexState} {line : Line}
  {lines : List Line} {rs : List Reading} {r : Region} {t rest : Text} {index offset : Nat}

-- ---------------------------------------------------------------------------
-- The text of a region
-- ---------------------------------------------------------------------------

theorem Line.slice_content {a b : Nat} (ht : t.drop line.start = line.text ++ rest)
    (hab : a ≤ b) (hb : b ≤ line.content.length) :
    Text.slice t (line.start + a) (line.start + b) = Text.slice line.content a b := by
  have ha : a ≤ line.content.length := Nat.le_trans hab hb
  have hdrop : t.drop (line.start + a) =
      line.content.drop a ++ (endingText line.ending ++ rest) := by
    rw [← List.drop_drop, ht, RawLine.text, List.append_assoc, List.drop_append_of_le_length ha]
  rw [Text.slice, hdrop, Nat.add_sub_add_left, List.take_append_of_le_length, Text.slice]
  rw [List.length_drop]
  exact Nat.sub_le_sub_right hb a

theorem Region.restored_ofStatement (code stop : Nat) :
    (ofStatement line code stop).restored = Text.slice line.content code stop := by
  simp [restored, ofStatement, RegionLine.restored, endingText]

theorem Region.reindent_ofStatement (code stop : Nat) :
    (ofStatement line code stop).reindent (ofStatement line code stop).code =
      (ofStatement line code stop).restored := by
  have hs : (ofStatement line code stop).isStatement := rfl
  rw [restored_ofStatement, reindent, if_pos hs, ofStatement, unterminated_concat]

/-- The lines of a region, with what was taken off them, are the text of its span. -/
theorem Reads.restored_eq_slice (h : Reads indentation style s lines rs)
    (hp : Line.Placed index offset lines) (ht : t.drop offset = Line.joined lines) :
    ∀ r ∈ rs.filterMap Reading.region, r.restored = Text.slice t r.span.start r.span.stop := by
  induction h generalizing index offset with
  | nil => simp
  | host _ _ ih =>
    obtain ⟨-, rfl, hp⟩ := hp
    rw [Line.joined_cons] at ht
    exact ih hp (Text.drop_add_of_drop ht)
  | @statement s line column code stop below rs hr _ ih =>
    obtain ⟨-, rfl, hp⟩ := hp
    rw [Line.joined_cons] at ht
    obtain ⟨-, -, -, hstop, hlt⟩ := Introducer.recognize_eq_statement_iff.mp hr
    have hle : stop ≤ line.content.length := hstop ▸ length_dropEndWhile_le ..
    refine List.forall_mem_cons.mpr ⟨?_, ih hp (Text.drop_add_of_drop ht)⟩
    rw [Region.restored_ofStatement]
    exact (Line.slice_content ht (Nat.le_of_lt hlt) hle).symm
  | @block s line header colon body blanks left region rs hr he ht' _ ih =>
    obtain ⟨-, rfl, hp⟩ := hp
    rw [List.append_assoc, Line.placed_append] at hp
    rw [Line.joined_cons, List.append_assoc, Line.joined_append] at ht
    have hdrop : t.drop line.next = Line.joined body ++ Line.joined (blanks ++ left) :=
      Text.drop_add_of_drop ht
    refine List.forall_mem_cons.mpr ⟨?_, ih hp.2 (Text.drop_add_of_drop hdrop)⟩
    rw [ht'.span hp.1, Text.slice_of_drop hdrop, ht'.restored]

theorem Partition.restored_eq_slice {p : Partition}
    (h : build indentation (.ofText t) = .ok p) (hr : r ∈ p.regions) :
    r.restored = Text.slice t r.span.start r.span.stop := by
  obtain ⟨rs, hreads, rfl⟩ := build_eq_ok_iff.mp h
  exact hreads.restored_eq_slice (Line.placed_scan t) (Line.joined_scan t).symm r hr

end

/-- The document, from its host segments and the lines of its regions. -/
def Partition.restored (p : Partition) : Text :=
  p.segments.flatMap fun
    | .host span => Text.slice p.document.text span.start span.stop
    | .embedded _ region => region.restored

theorem Partition.mem_regions_of_embedded {indentation : Indentation} {document : Document}
    {p : Partition} {id : Nat} {r : Region} (h : build indentation document = .ok p)
    (hm : .embedded id r ∈ p.segments) : r ∈ p.regions := by
  obtain ⟨rs, -, rfl⟩ := build_eq_ok_iff.mp h
  have hzip : (r, id) ∈ (rs.filterMap Reading.region).zipIdx 0 := by
    rw [← embedded?_segmentsFrom document.text.length 0]
    exact List.mem_filterMap.mpr ⟨_, hm, rfl⟩
  exact List.fst_mem_of_mem_zipIdx hzip

/-- What was taken off the lines of a region is kept with them: they hold the text of the region,
and with the host segments the text of the document. -/
theorem Partition.restored_eq_document {indentation : Indentation} {t : Text} {p : Partition}
    (h : build indentation (.ofText t) = .ok p) :
    (∀ r ∈ p.regions, r.restored = Text.slice t r.span.start r.span.stop) ∧ p.restored = t := by
  have hregions : ∀ r ∈ p.regions, r.restored = Text.slice t r.span.start r.span.stop :=
    fun r hr => restored_eq_slice h hr
  refine ⟨hregions, ?_⟩
  have hdocument : p.document.text = t := by
    obtain ⟨rs, -, rfl⟩ := build_eq_ok_iff.mp h
    rfl
  have hsplice : p.splice [] = t := by
    rw [splice_eq h, (regions_apart h).spliceFrom_kept (by simp)]
    rfl
  rw [← hsplice, restored, splice]
  refine List.flatMap_congr fun segment hm => ?_
  cases segment with
  | host span => rfl
  | embedded id r =>
    rw [hdocument]
    exact hregions r (mem_regions_of_embedded h hm)

theorem Partition.restored_eq_document_mixed :
    ∃ p, build ⟨.reject, 4⟩ (.ofText (text "$ x=1 \r\npython:\r\ty\n \n\tz")) = .ok p ∧
      p.regions.map Region.restored = [text "x=1", text "\ty\n \n\tz"] ∧
      p.restored = text "$ x=1 \r\npython:\r\ty\n \n\tz" := by
  have hrestored :
      (build ⟨.reject, 4⟩ (.ofText (text "$ x=1 \r\npython:\r\ty\n \n\tz"))).map
        (fun p => p.regions.map Region.restored) = .ok [text "x=1", text "\ty\n \n\tz"] := by cbv
  obtain ⟨p, hp, hregions⟩ := map_eq_ok_iff.mp hrestored
  exact ⟨p, hp, hregions, (restored_eq_document hp).2⟩

-- ---------------------------------------------------------------------------
-- Lines that come back from their code
-- ---------------------------------------------------------------------------

/-- Nothing but the margin is taken off a line of the block, and the break is that of the block.
White space on a blank line is kept if it belongs to a string and goes on past the margin. -/
structure Region.Regular (r : Region) (b : Region.BodyLine) : Prop where
  indent : b.isBlank = false → r.margin <+: b.line.indent
  blank : b.isBlank → b.line.content = [] ∨
    b.inString ∧ ∃ w, w ≠ [] ∧ (∀ u ∈ w, u.isIndent) ∧ b.line.content = r.margin ++ w
  ending : ∀ e, b.line.ending = some e → e = r.lineBreak

def Region.bodyLines (r : Region) (t : Text) : List Region.BodyLine :=
  lexedFrom .initial ((Line.scan t).filter fun line => r.hasBodyLine line.index)

namespace Region

variable {tabWidth : Nat} {margin : Text} {b : BodyLine} {line : RegionLine}

theorem restores_iff (hm : ∀ u ∈ margin, u.isIndent) :
    Restores ⟨.reject, tabWidth⟩ margin b ↔
      (b.isBlank = false → margin <+: b.line.indent) ∧
      (b.isBlank → b.line.content = [] ∨
        ∃ w, w ≠ [] ∧ (∀ u ∈ w, u.isIndent) ∧ b.line.content = margin ++ w) := by
  cases hb : b.isBlank with
  | false =>
    have hne : b.line.content ≠ [] := RawLine.content_ne_nil hb
    simp only [Restores, hne, hb, false_or, Bool.false_eq_true, false_imp_iff, forall_const,
      and_true, reduceCtorEq]
    exact exists_congr fun w => eq_comm
  | true =>
    simp only [Restores, hb, forall_const, reduceCtorEq, false_imp_iff, and_true, true_and]
    refine or_congr_right (exists_congr fun w => ?_)
    constructor
    · rintro ⟨hi, hw, hc⟩
      refine ⟨hw, fun u hu => ?_, hc.trans hi⟩
      refine RawLine.isIndent_of_mem_indent b.line.toRawLine u ?_
      rw [hi]
      exact List.mem_append_right _ hu
    · rintro ⟨hne, hw, hc⟩
      have hindent : b.line.indent = b.line.content := by
        rw [RawLine.indent, hc]
        exact Text.indentation_of_isIndent (List.forall_mem_append.mpr ⟨hm, hw⟩)
      exact ⟨hindent.trans hc, hne, hindent.symm⟩

theorem atMargin_code_eq_iff_of_reject
    (h : dedentLine ⟨.reject, tabWidth⟩ margin b = .ok line) (hm : ∀ u ∈ margin, u.isIndent) :
    atMargin margin b.start line.code = b.line.content ↔
      (b.isBlank = false → margin <+: b.line.indent) ∧
      (b.isBlank → b.line.content = [] ∨
        b.inString ∧ ∃ w, w ≠ [] ∧ (∀ u ∈ w, u.isIndent) ∧ b.line.content = margin ++ w) := by
  cases hs : b.inString with
  | true => simp [atMargin_code_eq_iff h hs hm, restores_iff hm]
  | false =>
    have hblank := isBlank_code h
    obtain ⟨w, hw, hcode⟩ := code_of_dedentLine h
    cases hb : b.isBlank with
    | false =>
      rw [hb, if_neg Bool.false_ne_true] at hcode
      rw [atMargin_of_not_isBlank (hblank.trans hb), hcode,
        ← RawLine.indent_append_body b.line.toRawLine, ← List.append_assoc,
        List.append_cancel_right_eq]
      simp only [forall_const, Bool.false_eq_true, false_imp_iff, and_true]
      constructor
      · exact fun hi => ⟨w, hi⟩
      · rintro ⟨w', hi⟩
        have hw' : dedented? ⟨.reject, tabWidth⟩ margin b = some w' :=
          dedented?_append (by simp [hb]) hi.symm fun hp => nomatch hp
        rw [← hi, Option.some.inj (hw.symm.trans hw')]
    | true =>
      obtain rfl : w = [] := by simpa [dedented?, hb, hs] using hw.symm
      rw [hb, if_pos rfl] at hcode
      rw [hcode, List.nil_append, atMargin_nil]
      simp only [forall_const, reduceCtorEq, false_imp_iff, true_and, Bool.false_eq_true, false_and,
        or_false]
      exact eq_comm

end Region

-- ---------------------------------------------------------------------------
-- Blocks that come back from their code
-- ---------------------------------------------------------------------------

theorem terminated_of_uniform {e : LineBreak} {raws : List RawLine} (h : RawLine.Scannable raws)
    (hu : RawLine.Uniform e raws) (hends : raws.getLast?.map (·.ending.isSome) = some ends) :
    terminated e ends (raws.map (·.content)) = raws := by
  induction raws with
  | nil => rfl
  | cons line rest ih =>
    obtain ⟨hline, hmore⟩ := List.forall_mem_cons.mp hu
    obtain ⟨-, hrest, hlast⟩ := h
    obtain ⟨content, ending⟩ := line
    cases rest with
    | nil =>
      obtain rfl : ending.isSome = ends := by simpa using hends
      rcases hline with rfl | rfl <;> rfl
    | cons next rest =>
      have hending : ending = some e := by
        refine hline.resolve_left ?_
        rintro rfl
        exact absurd hlast.2 (by simp)
      rw [List.map_cons, terminated_cons (by simp), ih hrest hmore (by simpa using hends), hending]

namespace Region

variable {tabWidth : Nat} {style : LineStyle} {above : Line} {variant : BlockVariant}
  {header : Header} {body blanks left : List Line} {r : Region}

theorem Taken.margined_code_eq_iff
    (h : Taken ⟨.reject, tabWidth⟩ style above variant header body r) :
    margined r.margin .initial (r.lines.map RegionLine.code) = body.map (·.content) ↔
      ∀ b ∈ lexedFrom .initial body, (b.isBlank = false → r.margin <+: b.line.indent) ∧
        (b.isBlank → b.line.content = [] ∨
          b.inString ∧ ∃ w, w ≠ [] ∧ (∀ u ∈ w, u.isIndent) ∧ b.line.content = r.margin ++ w) := by
  have hm : ∀ u ∈ r.margin, u.isIndent := h.margin ▸ isIndent_of_mem_bodyMargin
  rw [← map_content_lexedFrom]
  refine eq_map_iff_of_forall₂ ((margined_code h.lines r.margin).imp fun b t ht => ?_)
  obtain ⟨line, hline, rfl⟩ := ht
  exact atMargin_code_eq_iff_of_reject hline hm

theorem forall_ending_iff {e : LineBreak} :
    (∀ b ∈ lexedFrom .initial body, ∀ e', b.line.ending = some e' → e' = e) ↔
      RawLine.Uniform e (body.map Line.toRawLine) := by
  have hbody : (lexedFrom .initial body).map (·.line) = body := map_line_lexedFrom
  rw [RawLine.Uniform, ← hbody, List.map_map, List.forall_mem_map, hbody]
  refine forall₂_congr fun b _ => ?_
  change _ ↔ b.line.ending = none ∨ b.line.ending = some e
  cases b.line.ending <;> simp

theorem Taken.reindent_code_eq_iff
    (h : Taken ⟨.reject, tabWidth⟩ style above variant header body r)
    (he : Extent tabWidth width body blanks left)
    (hscan : RawLine.Scannable (body.map Line.toRawLine)) :
    r.reindent r.code = r.restored ↔ ∀ b ∈ lexedFrom .initial body, r.Regular b := by
  have hm : ∀ u ∈ r.margin, u.isIndent := h.margin ▸ isIndent_of_mem_bodyMargin
  have hu : ∀ line ∈ body, line.content.Unbroken :=
    fun line hl => hscan.unbroken (List.mem_map_of_mem hl)
  obtain ⟨hunbroken, last, hlast, hblank⟩ := h.lines_of_code he hu
  have hcode : RawLine.Scannable (terminated r.lineBreak r.endsWithBreak
      (margined r.margin .initial (r.lines.map RegionLine.code)) ++ []) :=
    scannable_margined_append hm hunbroken hlast hblank (fun _ => rfl) trivial
      (by simp [RawLine.Uniform])
  rw [List.append_nil] at hcode
  have hends : (body.map Line.toRawLine).getLast?.map (·.ending.isSome) =
      some r.endsWithBreak := by
    rw [List.getLast?_map, Option.map_map]
    exact h.endsWithBreak
  have hlines : terminated r.lineBreak r.endsWithBreak
        (margined r.margin .initial (r.lines.map RegionLine.code)) = body.map Line.toRawLine ↔
      margined r.margin .initial (r.lines.map RegionLine.code) = body.map (·.content) ∧
        RawLine.Uniform r.lineBreak (body.map Line.toRawLine) := by
    rw [← Line.map_content_toRawLine]
    constructor
    · intro heq
      rw [← heq, map_content_terminated]
      exact ⟨rfl, uniform_terminated⟩
    · rintro ⟨hcontent, huniform⟩
      rw [hcontent, terminated_of_uniform hscan huniform hends]
  rw [h.restored, Line.joined, h.code, blockCode, reindent_joinWith h.isStatement hunbroken hlast
    hblank, RawLine.join_eq_join_iff hcode hscan, hlines, h.margined_code_eq_iff,
    ← forall_ending_iff, ← forall₂_and]
  refine forall₂_congr fun b _ => ?_
  constructor
  · rintro ⟨⟨hindent, hblank⟩, hending⟩
    exact ⟨hindent, hblank, hending⟩
  · exact fun hb => ⟨⟨hb.indent, hb.blank⟩, hb.ending⟩

end Region

/-- Where lines are compared by their text, a statement comes back from its own code, and a block
does exactly if its lines are regular. A document all of whose blocks have regular lines is not
changed by splicing every region with its own code. -/
theorem Partition.reindent_code_eq_slice_iff {tabWidth : Nat} {t : Text} {p : Partition}
    (h : build ⟨.reject, tabWidth⟩ (.ofText t) = .ok p) :
    (∀ r ∈ p.regions, r.isStatement →
      r.reindent r.code = Text.slice t r.span.start r.span.stop) ∧
    (∀ r ∈ p.regions, r.isStatement = false →
      (r.reindent r.code = Text.slice t r.span.start r.span.stop ↔
        ∀ b ∈ r.bodyLines t, r.Regular b)) ∧
    ((∀ r ∈ p.regions, r.isStatement = false → ∀ b ∈ r.bodyLines t, r.Regular b) →
      p.splice (p.regions.map fun r => some (.formatted r.code)) = t) := by
  have hstatement : ∀ r ∈ p.regions, r.isStatement →
      r.reindent r.code = Text.slice t r.span.start r.span.stop := by
    intro r hr hs
    rw [← restored_eq_slice h hr]
    obtain ⟨line, -, -, code, stop, -, rfl⟩ := statement_of_mem h hr hs
    exact Region.reindent_ofStatement code stop
  have hblock : ∀ r ∈ p.regions, r.isStatement = false →
      (r.reindent r.code = Text.slice t r.span.start r.span.stop ↔
        ∀ b ∈ r.bodyLines t, r.Regular b) := by
    intro r hr hb
    obtain ⟨above, line, header, body, blanks, left, hlines, he, ht⟩ := block_of_mem h hr hb
    change Line.scan t = _ at hlines
    have hscan := RawLine.scannable_split t
    have hplaced := Line.placed_scan t
    rw [← Line.map_toRawLine_scan, hlines, List.map_append, List.map_cons, List.map_append] at hscan
    rw [hlines] at hplaced
    rw [← restored_eq_slice h hr, Region.bodyLines, hlines, ht.filter_hasBodyLine hplaced]
    exact ht.reindent_code_eq_iff he hscan.right.2.1.left
  refine ⟨hstatement, hblock, fun hregular => ?_⟩
  rw [splice_eq h, (regions_apart h).spliceFrom_of_render fun x hx => ?_]
  · rfl
  · obtain ⟨r, id⟩ := x
    have hget : p.regions[id]? = some r := List.mem_zipIdx_iff_getElem?.mp hx
    have hmem := List.mem_of_getElem? hget
    rw [List.getElem?_map, hget, Option.map_some, Option.join_some, Region.render]
    cases hs : r.isStatement with
    | true => exact hstatement r hmem hs
    | false => exact (hblock r hmem hs).mpr (hregular r hmem hs)

theorem Partition.reindent_code_eq_slice_iff_string :
    ∃ p, build ⟨.reject, 4⟩
        (.ofText (text "$ x=1\npython:\n\ts = \"\"\"\n\t \n\t\"\"\"\n\n\ty")) = .ok p ∧
      p.regions.map Region.isStatement = [true, false] ∧
      (∀ r ∈ p.regions, r.isStatement = false →
        ∀ b ∈ r.bodyLines
          (text "$ x=1\npython:\n\ts = \"\"\"\n\t \n\t\"\"\"\n\n\ty"), r.Regular b) ∧
      p.splice (p.regions.map fun r => some (.formatted r.code)) =
        text "$ x=1\npython:\n\ts = \"\"\"\n\t \n\t\"\"\"\n\n\ty" := by
  have hbuild : (build ⟨.reject, 4⟩
        (.ofText (text "$ x=1\npython:\n\ts = \"\"\"\n\t \n\t\"\"\"\n\n\ty"))).map
      (fun p => (p.regions.map Region.isStatement, p.regions.all fun r =>
        r.reindent r.code = Text.slice
          (text "$ x=1\npython:\n\ts = \"\"\"\n\t \n\t\"\"\"\n\n\ty")
          r.span.start r.span.stop)) = .ok ([true, false], true) := by cbv
  obtain ⟨p, hp, hregions⟩ := map_eq_ok_iff.mp hbuild
  obtain ⟨hkinds, hall⟩ := Prod.mk.inj hregions
  have hregular : ∀ r ∈ p.regions, r.isStatement = false → ∀ b ∈ r.bodyLines _, r.Regular b :=
    fun r hr hb => ((reindent_code_eq_slice_iff hp).2.1 r hr hb).mp
      (of_decide_eq_true (List.all_eq_true.mp hall r hr))
  exact ⟨p, hp, hkinds, hregular, (reindent_code_eq_slice_iff hp).2.2 hregular⟩

end Inlay
