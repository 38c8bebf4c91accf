import Inlay.Proofs.Readings

/-!
# Segments tile a document

The regions of a document stand one behind the other with host text before each of them
(`regions_apart`), so the segments cover the text in order, without gap or overlap, and are host
and embedded by turns. Between two regions a line of the document ends, and no line holds units of
both.
-/

namespace Inlay

def Segment.isHost : Segment → Bool
  | host _ => true
  | embedded _ _ => false

def Segment.embedded? : Segment → Option (Region × Nat)
  | host _ => none
  | embedded id region => some (region, id)

/-- Spans that follow one another from an offset to another, none of them empty. -/
def Tiles (start stop : Nat) : List Span → Prop
  | [] => start = stop
  | span :: spans => span.start = start ∧ span.start < span.stop ∧ Tiles span.stop stop spans

/-- Regions behind an offset, with something before each of them, in a text of some length. -/
def Apart (length start : Nat) : List Region → Prop
  | [] => start ≤ length
  | region :: regions =>
    start < region.span.start ∧ region.span.start < region.span.stop ∧
      Apart length region.span.stop regions

namespace Apart

variable {length start id : Nat} {regions : List Region}

theorem lt_start (h : Apart length start regions) (hm : region ∈ regions) :
    start < region.span.start := by
  induction regions generalizing start with
  | nil => simp at hm
  | cons first regions ih =>
    obtain ⟨hlt, hne, h⟩ := h
    rcases List.mem_cons.mp hm with rfl | hm
    · exact hlt
    · have := ih h hm
      omega

open Inlay.Partition

theorem segmentsFrom_cons (h : Apart length start (region :: regions)) :
    segmentsFrom length start id (region :: regions) =
      .host ⟨start, region.span.start⟩ :: .embedded id region ::
        segmentsFrom length region.span.stop (id + 1) regions := by
  simp [segmentsFrom, h.1]

theorem tiles (h : Apart length start regions) (id : Nat) :
    Tiles start length ((segmentsFrom length start id regions).map Segment.span) := by
  induction regions generalizing start id with
  | nil =>
    have hle : start ≤ length := h
    rw [segmentsFrom]
    split
    · next hlt => exact ⟨rfl, hlt, rfl⟩
    · next hge => exact Nat.le_antisymm hle (Nat.le_of_not_lt hge)
  | cons region regions ih =>
    rw [segmentsFrom_cons h]
    exact ⟨rfl, h.1, rfl, h.2.1, ih h.2.2 (id + 1)⟩

theorem isChain_embedded (h : Apart length start regions) :
    (Segment.embedded id region :: segmentsFrom length start (id + 1) regions).IsChain
      fun a b => a.isHost = !b.isHost := by
  induction regions generalizing start id region with
  | nil =>
    rw [segmentsFrom]
    split <;> simp [Segment.isHost]
  | cons next regions ih =>
    rw [segmentsFrom_cons h]
    exact .cons_cons rfl (.cons_cons rfl (ih h.2.2))

theorem isChain (h : Apart length start regions) :
    (segmentsFrom length start id regions).IsChain fun a b => a.isHost = !b.isHost := by
  cases regions with
  | nil =>
    rw [segmentsFrom]
    split <;> simp
  | cons region regions =>
    rw [segmentsFrom_cons h]
    exact .cons_cons rfl (isChain_embedded h.2.2)

end Apart

theorem Partition.embedded?_segmentsFrom (length start id : Nat) (regions : List Region) :
    (segmentsFrom length start id regions).filterMap Segment.embedded? = regions.zipIdx id := by
  induction regions generalizing start id with
  | nil =>
    rw [segmentsFrom]
    split <;> simp [Segment.embedded?]
  | cons region regions ih =>
    rw [segmentsFrom, List.filterMap_append, List.filterMap_cons]
    simp only [Segment.embedded?, ih, List.zipIdx_cons]
    split <;> simp [Segment.embedded?]

theorem Tiles.checkTilingFrom {spans : List Span} (h : Tiles start length spans) :
    checkTilingFrom length start (spans.map fun span => (↑span.start, ↑span.stop)) = .ok () := by
  induction spans generalizing start with
  | nil =>
    obtain rfl : start = length := h
    simp [Inlay.checkTilingFrom]
  | cons span spans ih =>
    obtain ⟨rfl, hlt, h⟩ := h
    rw [List.map_cons, Inlay.checkTilingFrom, if_pos ⟨rfl, by omega⟩, ih h]

theorem Tiles.start_lt_stop {spans : List Span} (h : Tiles start length spans) (hm : span ∈ spans) :
    span.start < span.stop := by
  induction spans generalizing start with
  | nil => simp at hm
  | cons first spans ih =>
    obtain ⟨-, hlt, h⟩ := h
    rcases List.mem_cons.mp hm with rfl | hm
    · exact hlt
    · exact ih h hm

-- ---------------------------------------------------------------------------
-- The regions that are read
-- ---------------------------------------------------------------------------

section

variable {indentation : Indentation} {style : LineStyle} {s : LexState} {line : Line}
  {lines : List Line} {rs : List Reading} {index offset start column code stop : Nat}
  {i : Introducer}

theorem Line.lt_next_of_recognize
    (hr : Introducer.recognize line s (lexLine .host s line.content).tokens = .ok i)
    (hi : i ≠ .none) : line.start < line.next := by
  have := List.length_pos_iff.mpr (Introducer.content_ne_nil_of_recognize hi hr)
  simp only [next, RawLine.text, List.length_append]
  omega

theorem Line.span_ofStatement
    (hr : Introducer.recognize line s (lexLine .host s line.content).tokens =
      .ok (.statement column code stop)) :
    line.start < (Region.ofStatement line code stop).span.start ∧
      (Region.ofStatement line code stop).span.start <
        (Region.ofStatement line code stop).span.stop ∧
      (Region.ofStatement line code stop).span.stop ≤ line.next := by
  obtain ⟨-, -, rfl, rfl, hlt⟩ := Introducer.recognize_eq_statement_iff.mp hr
  have := length_dropEndWhile_le CodeUnit.isBlank line.content
  simp only [Region.ofStatement, next, RawLine.text, List.length_append, Text.trimEnd] at hlt ⊢
  omega

theorem Reads.apart (h : Reads indentation style s lines rs) (hp : Line.Placed index offset lines)
    (hle : start ≤ offset) :
    Apart (offset + (Line.joined lines).length) start (rs.filterMap Reading.region) := by
  induction h generalizing index offset start with
  | nil => simpa [Apart] using hle
  | @host s line below rs hr _ ih =>
    obtain ⟨-, rfl, hp⟩ := hp
    have hnext : start ≤ line.next := Nat.le_trans hle (Nat.le_add_right ..)
    simpa [Line.next, Nat.add_assoc] using ih hp hnext
  | @statement s line column code stop below rs hr _ ih =>
    obtain ⟨-, rfl, hp⟩ := hp
    obtain ⟨hstart, hlt, hstop⟩ := Line.span_ofStatement hr
    refine ⟨Nat.lt_of_le_of_lt hle hstart, hlt, ?_⟩
    simpa [Line.next, Nat.add_assoc] using ih hp hstop
  | @block s line header colon body blanks left region rs hr he ht _ ih =>
    obtain ⟨-, rfl, hp⟩ := hp
    rw [List.append_assoc, Line.placed_append] at hp
    have hspan := ht.span hp.1
    have hlt := Line.lt_next_of_recognize hr (by simp)
    have hbody := List.length_pos_iff.mpr he.joined_ne_nil
    refine ⟨?_, ?_, ?_⟩
    · rw [hspan]
      exact Nat.lt_of_le_of_lt hle hlt
    · rw [hspan]
      exact Nat.lt_add_of_pos_right hbody
    · have hstop : region.span.stop ≤ line.next + (Line.joined body).length := by simp [hspan]
      have := ih hp.2 hstop
      simpa [Line.next, Nat.add_assoc] using this

/-- The line holds units of the span. -/
def Line.Meets (line : Line) (span : Span) : Prop :=
  line.start < span.stop ∧ span.start < line.next

/-- A line of the document ends between two spans. -/
def BreakBetween (lines : List Line) (before after : Span) : Prop :=
  ∃ offset, before.stop ≤ offset ∧ offset ≤ after.start ∧
    ∀ line ∈ lines, line.next ≤ offset ∨ offset ≤ line.start

theorem BreakBetween.not_meets {before after : Span} (h : BreakBetween lines before after)
    (hm : line ∈ lines) : ¬ (line.Meets before ∧ line.Meets after) := by
  rintro ⟨⟨hb, -⟩, -, ha⟩
  obtain ⟨offset, hstop, hstart, hends⟩ := h
  rcases hends line hm with h | h <;> omega

theorem Reads.breakBetween_of_mem {above : List Line} {r r' : Region}
    (h : Reads indentation style s lines rs) (hp : Line.Placed index offset (above ++ lines))
    (hr : r.span.stop ≤ offset + (Line.joined above).length)
    (hm : r' ∈ rs.filterMap Reading.region) :
    BreakBetween (above ++ lines) r.span r'.span :=
  ⟨_, hr, Nat.le_of_lt ((h.apart (Line.placed_append.mp hp).2 (Nat.le_refl _)).lt_start hm),
    fun _ hl => hp.boundary hl⟩

theorem Reads.pairwise_breakBetween (above : List Line) (h : Reads indentation style s lines rs)
    (hp : Line.Placed index offset (above ++ lines)) :
    (rs.filterMap Reading.region).Pairwise
      fun r r' => BreakBetween (above ++ lines) r.span r'.span := by
  induction h generalizing above with
  | nil => simp
  | @host s line below rs hr _ ih =>
    rw [List.append_cons] at hp ⊢
    exact ih _ hp
  | @statement s line column code stop below rs hr h ih =>
    have hline := (Line.placed_append.mp hp).2
    obtain ⟨-, -, hstop⟩ := Line.span_ofStatement hr
    rw [List.append_cons] at hp ⊢
    refine .cons (fun r' hm => h.breakBetween_of_mem hp ?_ hm) (ih _ hp)
    rw [Line.next, hline.2.1] at hstop
    simpa [Nat.add_assoc] using hstop
  | @block s line header colon body blanks left region rs hr he ht h ih =>
    have hline := (Line.placed_append.mp hp).2
    -- the break is that of the last line of the body, with the blank lines below it
    have happend : above ++ line :: (body ++ blanks ++ left) =
        (above ++ line :: body) ++ (blanks ++ left) := by simp
    rw [happend] at hp ⊢
    refine .cons (fun r' hm => h.breakBetween_of_mem hp ?_ hm) (ih _ hp)
    rw [List.append_assoc, Line.Placed, Line.placed_append] at hline
    rw [ht.span hline.2.2.1, Line.next, hline.2.1]
    simp [Nat.add_assoc]

end

-- ---------------------------------------------------------------------------
-- The segments of a document
-- ---------------------------------------------------------------------------

theorem Partition.regions_apart {indentation : Indentation} {t : Text} {p : Partition}
    (h : build indentation (.ofText t) = .ok p) : Apart t.length 0 p.regions := by
  obtain ⟨rs, hreads, rfl⟩ := build_eq_ok_iff.mp h
  have hapart := hreads.apart (Line.placed_scan t) (Nat.le_refl 0)
  rwa [Document.ofText, Line.joined_scan, Nat.zero_add] at hapart

/-- The segments of a document cover its text in order, without gap or overlap and none of them
empty, and are host and embedded by turns. The embedded ones are the regions with their numbers,
and no line of the document holds units of two of them. -/
theorem Partition.segments_tile {indentation : Indentation} {t : Text} {p : Partition}
    (h : build indentation (.ofText t) = .ok p) :
    p.check = .ok () ∧
      Tiles 0 t.length (p.segments.map Segment.span) ∧
      (∀ segment ∈ p.segments, segment.span.start < segment.span.stop) ∧
      p.segments.IsChain (fun a b => a.isHost = !b.isHost) ∧
      p.segments.filterMap Segment.embedded? = p.regions.zipIdx ∧
      ∀ (i j : Nat) (r r' : Region), p.regions[i]? = some r → p.regions[j]? = some r' → i ≠ j →
        ∀ line ∈ Line.scan t, ¬ (line.Meets r.span ∧ line.Meets r'.span) := by
  have hapart := regions_apart h
  have htiles := hapart.tiles 0
  obtain ⟨rs, hreads, rfl⟩ := build_eq_ok_iff.mp h
  refine ⟨?_, htiles, ?_, ?_, embedded?_segmentsFrom .., ?_⟩
  · have := htiles.checkTilingFrom
    rwa [List.map_map] at this
  · intro segment hm
    exact htiles.start_lt_stop (List.mem_map_of_mem hm)
  · exact hapart.isChain
  · intro i j r r' hi hj hne line hm
    have hpair := hreads.pairwise_breakBetween [] (Line.placed_scan t)
    obtain ⟨hil, rfl⟩ := List.getElem?_eq_some_iff.mp hi
    obtain ⟨hjl, rfl⟩ := List.getElem?_eq_some_iff.mp hj
    rcases Nat.lt_or_gt_of_ne hne with hlt | hlt
    · exact (List.pairwise_iff_getElem.mp hpair i j hil hjl hlt).not_meets hm
    · rw [and_comm]
      exact (List.pairwise_iff_getElem.mp hpair j i hjl hil hlt).not_meets hm

theorem Partition.segments_tile_statement_block :
    ∃ p, build ⟨.reject, 4⟩ (.ofText (text "$ x = 1\n\npython:\n    y = 2\n\n")) = .ok p ∧
      p.segments.map Segment.span = [⟨0, 2⟩, ⟨2, 7⟩, ⟨7, 17⟩, ⟨17, 27⟩, ⟨27, 28⟩] ∧
      Tiles 0 28 (p.segments.map Segment.span) := by
  have hspans :
      (build ⟨.reject, 4⟩ (.ofText (text "$ x = 1\n\npython:\n    y = 2\n\n"))).map
        (fun p => p.segments.map Segment.span) =
      .ok [⟨0, 2⟩, ⟨2, 7⟩, ⟨7, 17⟩, ⟨17, 27⟩, ⟨27, 28⟩] := by cbv
  obtain ⟨p, hp, hspans⟩ := map_eq_ok_iff.mp hspans
  exact ⟨p, hp, hspans, (segments_tile hp).2.1⟩

end Inlay
