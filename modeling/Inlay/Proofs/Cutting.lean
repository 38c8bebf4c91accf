import Mathlib.Data.List.Chain
import Inlay.Proofs.Lexing
import Inlay.Proofs.Lines

/-!
# The lines of a text

A text is cut into lines in one way only. What lines have in common, whichever text they make up, is
`RawLine.Delimited`; lines that are so are those of the text they make up, and of no other
(`Line.scan_eq_iff`). The places of a line are counted from the lines before it, and its indentation
is the longest that its content begins with.
-/

namespace Inlay

open CodeUnit

-- ---------------------------------------------------------------------------
-- Lines that are told apart
-- ---------------------------------------------------------------------------

/-- Where each line ends can be told: no content holds a unit that ends a line, none but the last
line is without a break, and only if it is not empty, and no lone CR stands before a lone line feed
with nothing between them. -/
structure RawLine.Delimited (lines : List RawLine) : Prop where
  unbroken : ∀ line ∈ lines, lineFeed ∉ line.content ∧ carriageReturn ∉ line.content
  ended : ∀ line ∈ lines.dropLast, line.ending ≠ none
  filled : ∀ line ∈ lines, line.ending = none → line.content ≠ []
  apart : lines.IsChain fun line next =>
    line.ending = some .cr → ¬ (next.content = [] ∧ next.ending = some .lf)

/-- The longest indentation that a text begins with. -/
structure Text.LongestIndent (indent t : Text) : Prop where
  begins : indent <+: t
  white : ∀ u ∈ indent, u = space ∨ u = tab ∨ u = formFeed
  longest : ∀ w, w <+: t → (∀ u ∈ w, u = space ∨ u = tab ∨ u = formFeed) → w <+: indent

section

variable {t : Text} {line : RawLine} {lines rest : List RawLine}

namespace RawLine

theorem unbroken_iff_not_mem : t.Unbroken ↔ lineFeed ∉ t ∧ carriageReturn ∉ t := by
  refine ⟨fun h => ⟨fun hm => (h _ hm).1 rfl, fun hm => (h _ hm).2 rfl⟩, fun h u hu => ?_⟩
  constructor
  · rintro rfl
    exact h.1 hu
  · rintro rfl
    exact h.2 hu

theorem joins_cons_iff {next : RawLine} :
    line.Joins (next :: rest) ↔ line.ending ≠ none ∧
      (line.ending = some .cr → ¬ (next.content = [] ∧ next.ending = some .lf)) := by
  obtain ⟨content, ending⟩ := next
  simp [Joins]

theorem delimited_cons_iff :
    Delimited (line :: rest) ↔
      line.content.Unbroken ∧ (line.ending = none → line.content ≠ []) ∧ Delimited rest ∧
        line.Joins rest := by
  rw [unbroken_iff_not_mem]
  constructor
  · rintro ⟨hunbroken, hended, hfilled, hapart⟩
    obtain ⟨hu, hunbroken⟩ := List.forall_mem_cons.mp hunbroken
    obtain ⟨hf, hfilled⟩ := List.forall_mem_cons.mp hfilled
    cases rest with
    | nil => exact ⟨hu, hf, ⟨hunbroken, by simp, hfilled, .nil⟩, by simp [Joins]⟩
    | cons next rest =>
      obtain ⟨he, hended⟩ := List.forall_mem_cons.mp hended
      obtain ⟨ha, hapart⟩ := List.isChain_cons_cons.mp hapart
      exact ⟨hu, hf, ⟨hunbroken, hended, hfilled, hapart⟩, joins_cons_iff.mpr ⟨he, ha⟩⟩
  · rintro ⟨hu, hf, ⟨hunbroken, hended, hfilled, hapart⟩, hjoins⟩
    refine ⟨List.forall_mem_cons.mpr ⟨hu, hunbroken⟩, ?_, List.forall_mem_cons.mpr ⟨hf, hfilled⟩, ?_⟩
    · cases rest with
      | nil => simp
      | cons next rest => exact List.forall_mem_cons.mpr ⟨(joins_cons_iff.mp hjoins).1, hended⟩
    · cases rest with
      | nil => exact .singleton _
      | cons next rest => exact .cons_cons (joins_cons_iff.mp hjoins).2 hapart

theorem scannable_iff_delimited : Scannable lines ↔ Delimited lines := by
  induction lines with
  | nil => exact iff_of_true trivial ⟨by simp, by simp, by simp, .nil⟩
  | cons line rest ih => rw [scannable_cons_iff, delimited_cons_iff, ih]

end RawLine

theorem Text.longestIndent_indentation (t : Text) : LongestIndent (indentation t) t where
  begins := List.takeWhile_prefix _
  white _ hu := isIndent_iff.mp (isIndent_of_mem_indentation hu)
  longest := by
    rintro w ⟨rest, rfl⟩ hw
    rw [indentation_append fun u hu => isIndent_iff.mpr (hw u hu)]
    exact List.prefix_append ..

theorem Line.slice_start_stop {line : Line} {k : Nat} (hk : (scan t)[k]? = some line) :
    Text.slice t line.start line.stop = line.content := by
  obtain ⟨hlt, hline⟩ := List.getElem?_eq_some_iff.mp hk
  have hscan : (scan t).take k ++ line :: (scan t).drop (k + 1) = scan t := by
    rw [← hline, ← List.drop_eq_getElem_cons hlt, List.take_append_drop]
  have hstart : (joined ((scan t).take k)).length = line.start := by
    rw [(placed_scan t).start_getElem hk, Nat.zero_add]
  have hdrop : t.drop line.start =
      line.content ++ (endingText line.ending ++ joined ((scan t).drop (k + 1))) :=
    calc t.drop line.start = (joined (scan t)).drop line.start := by rw [joined_scan]
      _ = line.text ++ joined ((scan t).drop (k + 1)) := by
        rw [← hscan, joined_append, joined_cons, hscan, List.drop_left' hstart]
      _ = _ := List.append_assoc ..
  rw [Text.slice, stop, Nat.add_sub_cancel_left, hdrop, List.take_left]

end

-- ---------------------------------------------------------------------------
-- The one way to cut a text
-- ---------------------------------------------------------------------------

/-- The lines of a text are those that make it up and are told apart, and there are no others. They
are numbered from 0, and each begins where the lines before it end, with their breaks. -/
theorem Line.scan_eq_iff (t : Text) (lines : List RawLine) :
    ((scan t).map toRawLine = lines ↔
      RawLine.Delimited lines ∧
        lines.flatMap (fun line => line.content ++ endingText line.ending) = t) ∧
    ∀ k line, (scan t)[k]? = some line →
      line.index = k ∧
      line.start = (((scan t).take k).flatMap fun above =>
        above.content ++ endingText above.ending).length ∧
      line.stop = line.start + line.content.length ∧
      Text.slice t line.start line.stop = line.content ∧
      Text.LongestIndent line.indent line.content := by
  constructor
  · rw [map_toRawLine_scan, RawLine.split_eq_iff, RawLine.scannable_iff_delimited]
    rfl
  · intro k line hk
    have hstart := (placed_scan t).start_getElem hk
    rw [Nat.zero_add, joined, RawLine.join, List.flatMap_map] at hstart
    refine ⟨?_, hstart, rfl, ?_, Text.longestIndent_indentation _⟩
    · rw [(placed_scan t).index_getElem hk, Nat.zero_add]
    · exact slice_start_stop hk

theorem Line.scan_eq_iff_each_break :
    RawLine.Delimited [⟨text "a", some .crlf⟩, ⟨text "\t b", some .lf⟩, ⟨[], some .cr⟩,
      ⟨text "c", none⟩] ∧
    (scan (text "a\r\n\t b\n\rc")).map toRawLine = [⟨text "a", some .crlf⟩,
      ⟨text "\t b", some .lf⟩, ⟨[], some .cr⟩, ⟨text "c", none⟩] := by
  have hlines : RawLine.Delimited [⟨text "a", some .crlf⟩, ⟨text "\t b", some .lf⟩,
      ⟨[], some .cr⟩, ⟨text "c", none⟩] :=
    ⟨by decide, by decide, by decide, by decide⟩
  exact ⟨hlines, (scan_eq_iff _ _).1.mpr ⟨hlines, by decide⟩⟩

end Inlay
