import Inlay.Proofs.Representation

/-!
# Units of the code in the document

A unit of the code that does not stand in the indentation of its line is one of the document, and
the place that its line and column are carried to is that of the same unit. Different units have
different places, in the order in which they stand on a line (`Partition.toDocument_unit`).
-/

namespace Inlay

open CodeUnit

section

variable {t : Text} {line : Line} {n : Nat} {u : CodeUnit}

theorem Line.getElem?_scan_index (hm : line ∈ scan t) : (scan t)[line.index]? = some line := by
  obtain ⟨k, hlt, hk⟩ := List.mem_iff_getElem.mp hm
  have hk := List.getElem?_eq_some_iff.mpr ⟨hlt, hk⟩
  rwa [(placed_scan t).index_getElem hk, Nat.zero_add]

theorem Line.getElem?_start_add (hm : line ∈ scan t) (hu : line.content[n]? = some u) :
    t[line.start + n]? = some u := by
  obtain ⟨above, below, hscan⟩ := List.append_of_mem hm
  obtain ⟨-, -, hstart, -⟩ := placed_append.mp (hscan ▸ placed_scan t)
  have ht : joined above ++ (line.content ++ (endingText line.ending ++ joined below)) = t := by
    rw [← joined_scan t, hscan, joined_append, joined_cons, RawLine.text, List.append_assoc]
  obtain ⟨hlt, -⟩ := List.getElem?_eq_some_iff.mp hu
  rw [hstart, Nat.zero_add, ← ht, List.getElem?_append_right (Nat.le_add_right ..),
    Nat.add_sub_cancel_left, List.getElem?_append_left hlt, hu]

end

namespace Region

variable {r : Region} {found : RegionLine} {line : Line} {n c k : Nat} {u : CodeUnit}

/-- The code has a unit on a line and in a column, both from 0, behind the indentation of the
line. -/
def HasUnit (r : Region) (n c : Nat) (u : CodeUnit) : Prop :=
  ∃ found piece, r.lines[n]? = some found ∧ r.codeLines[n]? = some piece ∧
    found.codeIndent.length ≤ c ∧ piece[c]? = some u

def bodyColumn (r : Region) (found : RegionLine) : Nat :=
  if r.isStatement then r.codeColumn else found.indent.length

theorem HasUnit.exists_body (h : r.HasUnit n c u) (hr : r.CodeInvariant) :
    ∃ found, r.lines[n]? = some found ∧ found.codeIndent.length ≤ c ∧
      found.body[c - found.codeIndent.length]? = some u := by
  obtain ⟨found, piece, hfound, hpiece, hle, hu⟩ := h
  rw [hr.codeLines, List.getElem?_map, hfound] at hpiece
  obtain rfl := Option.some.inj hpiece
  rw [RegionLine.code, List.getElem?_append_right hle] at hu
  split at hu
  · cases hu
  · exact ⟨found, hfound, hle, hu⟩

/-- A column behind the indentation of a line is moved by as much as its body is. -/
theorem toDocument?_of_le (hfound : r.lines[n]? = some found)
    (hindent : r.isStatement → found.codeIndent = []) (hle : found.codeIndent.length ≤ c) :
    r.toDocument? (n + 1) (c + 1) = some ⟨found.index + 1,
      ((r.bodyColumn found + (c - found.codeIndent.length) : Nat) : Rat) + 1⟩ := by
  obtain ⟨hlt, -⟩ := List.getElem?_eq_some_iff.mp hfound
  rw [toDocument?, lineAt?_succ, min_eq_left (by omega), hfound, Option.map_some, bodyColumn]
  simp only [Option.some.injEq, Position.mk.injEq, true_and]
  cases hs : r.isStatement with
  | true =>
    simp only [hindent hs, List.length_nil, Nat.sub_zero, if_true]
    push_cast
    ring
  | false =>
    have hcolumn : ¬ ((c : Rat) + 1 ≤ found.codeIndent.length) := by
      exact_mod_cast Nat.not_le_of_lt (Nat.lt_succ_of_le hle)
    simp only [Bool.false_eq_true, if_false, if_neg hcolumn]
    push_cast [Nat.cast_sub hle]
    ring

theorem StandsOn.getElem?_content (h : r.StandsOn found line)
    (hu : found.body[k]? = some u) : line.content[r.bodyColumn found + k]? = some u := by
  obtain ⟨-, before, after, hcontent, hstands⟩ := h
  obtain ⟨hlt, -⟩ := List.getElem?_eq_some_iff.mp hu
  have hlength : before.length = r.bodyColumn found := by
    rw [bodyColumn]
    split at hstands
    · next hs => rw [if_pos hs, hstands.1]
    · next hs => rw [if_neg hs, hstands.1]
  rw [hcontent, List.append_assoc, ← hlength, List.getElem?_append_right (Nat.le_add_right ..),
    Nat.add_sub_cancel_left, List.getElem?_append_left hlt, hu]

-- ---------------------------------------------------------------------------
-- Lines out of range
-- ---------------------------------------------------------------------------

theorem line_toDocument? (r : Region) (line column : Rat) :
    (r.toDocument? line column).map (·.line) =
      (r.lineAt? line).map fun found => (found.index : Int) + 1 := by
  rw [toDocument?, Option.map_map]
  rfl

theorem lineAt?_of_lt_one {line : Rat} (h : line < 1) : r.lineAt? line = r.lines.head? := by
  simp only [lineAt?, h, if_true, List.head?_eq_getElem?]

theorem lineAt?_of_length_lt {line : Rat} (h : (r.lines.length : Rat) < line) :
    r.lineAt? line = r.lines.getLast? := by
  by_cases hone : line < 1
  · have hlt : r.lines.length < 1 := by exact_mod_cast h.trans hone
    have hnil : r.lines = [] := List.length_eq_zero_iff.mp (Nat.lt_one_iff.mp hlt)
    rw [lineAt?_of_lt_one hone, hnil]
    rfl
  · simp only [lineAt?, hone, h, if_true, if_false, List.getLast?_eq_getElem?]

end Region

namespace Partition

variable {indentation : Indentation} {t : Text} {p : Partition} {r : Region} {found : RegionLine}
  {n c : Nat} {u : CodeUnit}

theorem index_of_getElem? (h : build indentation (.ofText t) = .ok p) (hr : r ∈ p.regions)
    (hfound : r.lines[n]? = some found) : found.index = r.startLine + n := by
  cases hs : r.isStatement with
  | true =>
    obtain ⟨⟨line, hline, -⟩, -, -, -⟩ := statementInvariant h hr hs
    rw [hline, List.getElem?_singleton] at hfound
    obtain ⟨rfl, hfound⟩ := Option.ite_none_right_eq_some.mp hfound
    simp [Region.startLine, hline, Option.some.inj hfound]
  | false => exact (blockInvariant h hr hs).index n found hfound

theorem exists_place (h : build indentation (.ofText t) = .ok p) (hr : r ∈ p.regions)
    (hu : r.HasUnit n c u) :
    ∃ found line, r.lines[n]? = some found ∧ line ∈ Line.scan t ∧ found.index = line.index ∧
      found.codeIndent.length ≤ c ∧
      r.toDocument? (n + 1) (c + 1) = some ⟨found.index + 1,
        ((r.bodyColumn found + (c - found.codeIndent.length) : Nat) : Rat) + 1⟩ ∧
      line.content[r.bodyColumn found + (c - found.codeIndent.length)]? = some u := by
  obtain ⟨found, hfound, hle, hbody⟩ := hu.exists_body (codeInvariant h hr)
  obtain ⟨line, hline, hstands⟩ := standsOn h hr (List.mem_of_getElem? hfound)
  refine ⟨found, line, hfound, hline, hstands.1, hle, Region.toDocument?_of_le hfound ?_ hle,
    hstands.getElem?_content hbody⟩
  intro hs
  obtain ⟨-, before, after, -, hcode⟩ := hstands
  rw [if_pos hs] at hcode
  exact hcode.2

end Partition

/-- A unit of the code behind the indentation of its line is carried to the place of the same unit
in the document, units of different places to different places, and those of one line to one line
in their order. Lines out of range are carried to the first line of the region or the last. -/
theorem Partition.toDocument_unit {indentation : Indentation} {t : Text} {p : Partition}
    (h : build indentation (.ofText t) = .ok p) :
    ∀ r ∈ p.regions,
      r.codeLines.length = r.lines.length ∧
      (∀ n c u, r.HasUnit n c u → ∃ (k column : Nat) (line : Line),
        r.toDocument? (n + 1) (c + 1) = some ⟨k + 1, column + 1⟩ ∧
        (Line.scan t)[k]? = some line ∧ line.content[column]? = some u ∧
        t[line.start + column]? = some u) ∧
      (∀ n c u n' c' u', r.HasUnit n c u → r.HasUnit n' c' u' →
        r.toDocument? (n + 1) (c + 1) = r.toDocument? (n' + 1) (c' + 1) → n = n' ∧ c = c') ∧
      (∀ n c u c' u', r.HasUnit n c u → r.HasUnit n c' u' → c < c' → ∃ place place',
        r.toDocument? (n + 1) (c + 1) = some place ∧
        r.toDocument? (n + 1) (c' + 1) = some place' ∧
        place.line = place'.line ∧ place.column < place'.column) ∧
      ∀ (line : Int) (column : Rat),
        (line < 1 → ∃ first, r.lines.head? = some first ∧
          (r.toDocument? line column).map (·.line) = some (first.index + 1)) ∧
        (r.lines.length < line → ∃ last, r.lines.getLast? = some last ∧
          (r.toDocument? line column).map (·.line) = some (last.index + 1)) := by
  intro r hr
  refine ⟨?_, fun n c u hu => ?_, fun n c u n' c' u' hu hu' heq => ?_,
    fun n c u c' u' hu hu' hlt => ?_, fun line column => ⟨fun hline => ?_, fun hline => ?_⟩⟩
  · rw [(codeInvariant h hr).codeLines, List.length_map]
  · obtain ⟨found, line, -, hline, hindex, -, hplace, hcontent⟩ := exists_place h hr hu
    exact ⟨line.index, _, line, hindex ▸ hplace, Line.getElem?_scan_index hline, hcontent,
      Line.getElem?_start_add hline hcontent⟩
  · obtain ⟨found, -, hfound, -, -, hle, hplace, -⟩ := exists_place h hr hu
    obtain ⟨found', -, hfound', -, -, hle', hplace', -⟩ := exists_place h hr hu'
    rw [hplace, hplace'] at heq
    simp only [Option.some.injEq, Position.mk.injEq, add_left_inj, Nat.cast_inj] at heq
    obtain ⟨hindex, hcolumn⟩ := heq
    have hindex : found.index = found'.index := by exact_mod_cast hindex
    rw [index_of_getElem? h hr hfound, index_of_getElem? h hr hfound'] at hindex
    obtain rfl : n = n' := Nat.add_left_cancel hindex
    cases hfound.symm.trans hfound'
    exact ⟨rfl, by omega⟩
  · obtain ⟨found, -, hfound, -, -, hle, hplace, -⟩ := exists_place h hr hu
    obtain ⟨found', -, hfound', -, -, hle', hplace', -⟩ := exists_place h hr hu'
    cases hfound.symm.trans hfound'
    refine ⟨_, _, hplace, hplace', rfl, ?_⟩
    simp only [add_lt_add_iff_right, Nat.cast_lt]
    omega
  · obtain ⟨first, hfirst⟩ := Option.ne_none_iff_exists'.mp
      (mt List.head?_eq_none_iff.mp (lines_ne_nil h hr))
    refine ⟨first, hfirst, ?_⟩
    rw [Region.line_toDocument?, Region.lineAt?_of_lt_one (by exact_mod_cast hline), hfirst]
    rfl
  · obtain ⟨last, hlast⟩ := Option.ne_none_iff_exists'.mp
      (mt List.getLast?_eq_none_iff.mp (lines_ne_nil h hr))
    refine ⟨last, hlast, ?_⟩
    rw [Region.line_toDocument?, Region.lineAt?_of_length_lt (by exact_mod_cast hline), hlast]
    rfl

theorem Partition.toDocument_unit_tab :
    ∃ p r, build ⟨.expandTabs, 4⟩ (.ofText (text "python:\n\tif a:\n\t\tbc\n")) = .ok p ∧
      r ∈ p.regions ∧ r.HasUnit 1 4 (ofChar 'b') ∧ r.HasUnit 1 5 (ofChar 'c') ∧
      (∃ (k column : Nat) (line : Line),
        r.toDocument? ((1 : Nat) + 1) ((4 : Nat) + 1) = some ⟨k + 1, column + 1⟩ ∧
        (Line.scan (text "python:\n\tif a:\n\t\tbc\n"))[k]? = some line ∧
        line.content[column]? = some (ofChar 'b')) ∧
      r.toDocument? ((1 : Nat) + 1) ((4 : Nat) + 1) ≠
        r.toDocument? ((1 : Nat) + 1) ((5 : Nat) + 1) ∧
      (∃ place place', r.toDocument? ((1 : Nat) + 1) ((4 : Nat) + 1) = some place ∧
        r.toDocument? ((1 : Nat) + 1) ((5 : Nat) + 1) = some place' ∧
        place.line = place'.line ∧ place.column < place'.column) ∧
      (∃ first, r.lines.head? = some first ∧
        (r.toDocument? (0 : Int) 7).map (·.line) = some (first.index + 1)) ∧
      ∃ last, r.lines.getLast? = some last ∧
        (r.toDocument? (3 : Int) 7).map (·.line) = some (last.index + 1) := by
  have hbuild : (build ⟨.expandTabs, 4⟩
        (.ofText (text "python:\n\tif a:\n\t\tbc\n"))).map
      (fun p => p.regions.map fun r => (r.lines, r.codeLines)) =
      .ok [([⟨1, text "\t", [], text "if a:", some .lf⟩,
          ⟨2, text "\t\t", text "    ", text "bc", some .lf⟩],
        [text "if a:", text "    bc"])] := by cbv
  obtain ⟨p, hp, hregions⟩ := map_eq_ok_iff.mp hbuild
  obtain ⟨r, rs, hp', hr, -⟩ := List.map_eq_cons_iff.mp hregions
  obtain ⟨hlines, hcode⟩ := Prod.mk.inj hr
  have hmem : r ∈ p.regions := hp' ▸ List.mem_cons_self
  have hb : r.HasUnit 1 4 (ofChar 'b') :=
    ⟨_, _, by rw [hlines]; rfl, by rw [hcode]; rfl, by decide, by decide⟩
  have hc : r.HasUnit 1 5 (ofChar 'c') :=
    ⟨_, _, by rw [hlines]; rfl, by rw [hcode]; rfl, by decide, by decide⟩
  obtain ⟨-, hunit, hinjective, hincreasing, hrange⟩ := toDocument_unit hp r hmem
  obtain ⟨k, column, line, hplace, hline, hcontent, -⟩ := hunit 1 4 _ hb
  refine ⟨p, r, hp, hmem, hb, hc, ⟨k, column, line, hplace, hline, hcontent⟩, fun heq => ?_,
    hincreasing 1 4 _ 5 _ hb hc (by decide), (hrange 0 7).1 (by decide), (hrange 3 7).2 ?_⟩
  · exact absurd (hinjective 1 4 _ 1 5 _ hb hc heq).2 (by decide)
  · rw [hlines]
    decide

end Inlay
