import Inlay.Proofs.Margins
import Inlay.Proofs.Splicing

/-!
# The lines of a spliced document

Splicing seen line by line. Every line that is read comes back, with the formatted statement in
place of its own or followed by the lines of the formatted block (`relined`), and the spliced text
is these lines joined (`Reads.splice_eq_join`).
-/

namespace Inlay

open CodeUnit

namespace Region

def blockLines (r : Region) : Option RegionResult → List RawLine
  | some (.formatted code) =>
    terminated r.lineBreak r.endsWithBreak
      (margined r.margin .initial (Text.splitOn lineFeed (unterminated code)))
  | _ => r.lines.map RegionLine.raw

def statementLine (r : Region) (line : RawLine) : Option RegionResult → RawLine
  | some (.formatted code) =>
    ⟨line.content.take r.codeColumn ++ unterminated code ++
      line.content.drop line.content.trimEnd.length, line.ending⟩
  | _ => line

/-- The line that introduces a region, and the lines of the region, with a result. -/
def relined (r : Region) (line : RawLine) (result : Option RegionResult) : List RawLine :=
  if r.isStatement then [r.statementLine line result] else line :: r.blockLines result

end Region

/-- Lines that are read, with the results of their regions, which are numbered from `id` on. -/
def relined (results : List (Option RegionResult)) (id : Nat) : List Reading → List RawLine
  | [] => []
  | rd :: rs =>
    match rd.region with
    | none => rd.line.toRawLine :: relined results id rs
    | some r => r.relined rd.line.toRawLine results[id]?.join ++ relined results (id + 1) rs

section

variable {indentation : Indentation} {style : LineStyle} {s : LexState} {line : Line}
  {lines blanks left : List Line} {rs : List Reading} {index offset id : Nat} {r : Region}
  {results : List (Option RegionResult)} {result : Option RegionResult} {t : Text}

@[simp] theorem filterMap_region :
    (⟨line, s, some r⟩ :: rs).filterMap Reading.region = r :: rs.filterMap Reading.region := rfl

theorem Region.relined_statement {raw : RawLine} (h : r.isStatement) :
    r.relined raw result = [r.statementLine raw result] := if_pos h

theorem Region.relined_block {raw : RawLine} (h : r.isStatement = false) :
    r.relined raw result = raw :: r.blockLines result := by
  rw [relined, h, if_neg Bool.false_ne_true]

@[simp] theorem relined_host :
    relined results id (⟨line, s, none⟩ :: rs) = line.toRawLine :: relined results id rs := rfl

@[simp] theorem relined_region :
    relined results id (⟨line, s, some r⟩ :: rs) =
      r.relined line.toRawLine results[id]?.join ++ relined results (id + 1) rs := rfl

-- ---------------------------------------------------------------------------
-- Slices along the lines
-- ---------------------------------------------------------------------------

namespace Text

variable {a b : Text} {start : Nat}

theorem drop_add_of_drop (h : t.drop start = a ++ b) : t.drop (start + a.length) = b := by
  rw [← List.drop_drop, h, List.drop_left]

theorem slice_of_drop (h : t.drop start = a ++ b) : slice t start (start + a.length) = a := by
  rw [slice, h, Nat.add_sub_cancel_left, List.take_left]

end Text

-- ---------------------------------------------------------------------------
-- The text of the lines of a region
-- ---------------------------------------------------------------------------

namespace Region

theorem blockLines_of_ne_formatted (h : ∀ code, result ≠ some (.formatted code)) :
    r.blockLines result = r.lines.map RegionLine.raw := by
  unfold blockLines
  split
  · next code => exact absurd rfl (h code)
  · rfl

theorem statementLine_of_ne_formatted {raw : RawLine}
    (h : ∀ code, result ≠ some (.formatted code)) : r.statementLine raw result = raw := by
  unfold statementLine
  split
  · next code => exact absurd rfl (h code)
  · rfl

theorem ending_statementLine {raw : RawLine} :
    (r.statementLine raw result).ending = raw.ending := by
  unfold statementLine
  split <;> rfl

theorem join_map_raw (lines : List RegionLine) :
    RawLine.join (lines.map RegionLine.raw) = lines.flatMap RegionLine.restored := by
  induction lines with
  | nil => rfl
  | cons line lines ih => rw [List.map_cons, RawLine.join_cons, ih]; rfl

theorem join_blockLines (hr : r.isStatement = false)
    (hslice : Text.slice t r.span.start r.span.stop = r.restored)
    (hcode : ∀ code, result = some (.formatted code) → unterminated code ≠ []) :
    RawLine.join (r.blockLines result) = r.render t result := by
  rcases RegionResult.formatted_or_kept result with ⟨code, rfl⟩ | hkept
  · have hbody : (unterminated code).isEmpty = false := by simpa using hcode code rfl
    rw [blockLines, render, join_terminated (margined_ne_nil (Text.splitOn_ne_nil _ _)), reindent,
      hr, hbody]
    simp
  · rw [blockLines_of_ne_formatted hkept, render_of_ne_formatted hkept, join_map_raw, hslice,
      restored]

theorem text_statementLine {code stop : Nat} {rest : Text} (hcode : code ≤ stop)
    (hstop : stop = line.content.trimEnd.length) (ht : t.drop line.start = line.text ++ rest) :
    Text.slice t line.start (line.start + code) ++ (ofStatement line code stop).render t result ++
        Text.slice t (line.start + stop) line.next =
      ((ofStatement line code stop).statementLine line.toRawLine result).text := by
  have hle : stop ≤ line.content.length := hstop ▸ length_dropEndWhile_le ..
  have hnext : line.start + stop ≤ line.next := by
    rw [Line.next, RawLine.text, List.length_append]
    omega
  rcases RegionResult.formatted_or_kept result with ⟨formatted, rfl⟩ | hkept
  · have hbefore : Text.slice t line.start (line.start + code) = line.content.take code := by
      rw [Text.slice, ht, Nat.add_sub_cancel_left, RawLine.text, List.append_assoc,
        List.take_append_of_le_length (Nat.le_trans hcode hle)]
    have hbehind : Text.slice t (line.start + stop) line.next =
        line.content.drop stop ++ endingText line.ending := by
      have hdrop : t.drop (line.start + stop) =
          (line.content.drop stop ++ endingText line.ending) ++ rest := by
        rw [← List.drop_drop, ht, RawLine.text, List.append_assoc,
          List.drop_append_of_le_length hle, List.append_assoc]
      have hlength : line.next = line.start + stop +
          (line.content.drop stop ++ endingText line.ending).length := by
        rw [Line.next, RawLine.text, List.length_append, List.length_append, List.length_drop]
        omega
      rw [hlength, Text.slice_of_drop hdrop]
    rw [hbefore, hbehind, hstop, render, statementLine]
    simp [reindent, ofStatement, isStatement, RegionForm.isStatement, RawLine.text]
  · rw [statementLine_of_ne_formatted hkept, render_of_ne_formatted hkept, ofStatement,
      Text.slice_append (Nat.le_add_right ..) (Nat.add_le_add_left hcode _),
      Text.slice_append (Nat.le_add_right ..) hnext, Line.next, Text.slice_of_drop ht]

end Region

-- ---------------------------------------------------------------------------
-- The text of a document
-- ---------------------------------------------------------------------------

/-- No block is formatted to nothing. -/
def Substantial (results : List (Option RegionResult)) (id : Nat) (regions : List Region) : Prop :=
  ∀ x ∈ regions.zipIdx id, x.1.isStatement = false →
    ∀ code, results[x.2]?.join = some (.formatted code) → Region.unterminated code ≠ []

theorem substantial_cons {regions : List Region} :
    Substantial results id (r :: regions) ↔
      (r.isStatement = false → ∀ code, results[id]?.join = some (.formatted code) →
        Region.unterminated code ≠ []) ∧
      Substantial results (id + 1) regions := by
  simp only [Substantial, List.zipIdx_cons, List.forall_mem_cons]

theorem Reads.splice_eq_join {start : Nat} (h : Reads indentation style s lines rs)
    (hp : Line.Placed index offset lines) (ht : t.drop offset = Line.joined lines)
    (hle : start ≤ offset) (hcode : Substantial results id (rs.filterMap Reading.region)) :
    spliceFrom t results start id (rs.filterMap Reading.region) =
      Text.slice t start offset ++ RawLine.join (relined results id rs) := by
  -- `start` is where the region above ends, which is before the end of its line for a statement
  induction h generalizing index offset start id with
  | nil =>
    rw [relined, RawLine.join_nil, ← Line.joined_nil, ← ht, Text.slice_append_drop hle]
    rfl
  | @host s line below rs hr _ ih =>
    obtain ⟨-, rfl, hp⟩ := hp
    rw [Line.joined_cons] at ht
    have hnext : line.start ≤ line.next := Nat.le_add_right ..
    have hline : Text.slice t line.start line.next = line.text := Text.slice_of_drop ht
    rw [relined_host, RawLine.join_cons, ← hline, ← List.append_assoc, Text.slice_append hle hnext]
    exact ih hp (Text.drop_add_of_drop ht) (Nat.le_trans hle hnext) hcode
  | @statement s line column code stop below rs hr _ ih =>
    obtain ⟨-, rfl, hp⟩ := hp
    rw [Line.joined_cons] at ht
    obtain ⟨-, -, -, hstop, hlt⟩ := Introducer.recognize_eq_statement_iff.mp hr
    obtain ⟨hstart, -, hnext⟩ := Line.span_ofStatement hr
    have hcode := (substantial_cons.mp hcode).2
    have hline : Text.slice t line.start (line.start + code) ++
          (Region.ofStatement line code stop).render t results[id]?.join ++
          Text.slice t (line.start + stop) line.next = _ :=
      Region.text_statementLine (Nat.le_of_lt hlt) hstop ht
    rw [filterMap_region, spliceFrom, ih hp (Text.drop_add_of_drop ht) hnext hcode, relined_region,
      Region.relined_statement rfl, RawLine.join_append, RawLine.join_cons, ← hline,
      ← Text.slice_append hle (Nat.le_of_lt hstart)]
    simp only [RawLine.join_nil, List.append_nil, List.append_assoc]
    rfl
  | @block s line header colon body blanks left region rs hr he ht' _ ih =>
    obtain ⟨-, rfl, hp⟩ := hp
    rw [List.append_assoc, Line.placed_append] at hp
    rw [Line.joined_cons, List.append_assoc, Line.joined_append] at ht
    have hnext : line.start ≤ line.next := Nat.le_add_right ..
    have hspan := ht'.span hp.1
    have hdrop : t.drop line.next = Line.joined body ++ Line.joined (blanks ++ left) :=
      Text.drop_add_of_drop ht
    have hslice : Text.slice t region.span.start region.span.stop = region.restored := by
      rw [hspan, Text.slice_of_drop hdrop, ht'.restored]
    obtain ⟨hcode, hcodes⟩ := substantial_cons.mp hcode
    have hline : Text.slice t line.start line.next = line.text := Text.slice_of_drop ht
    have hblock := Region.join_blockLines ht'.isStatement hslice (hcode ht'.isStatement)
    have hstop : region.span.stop = line.next + (Line.joined body).length := by rw [hspan]
    rw [filterMap_region, spliceFrom, ih hp.2 (Text.drop_add_of_drop hdrop) (Nat.le_of_eq hstop)
      hcodes, relined_region, Region.relined_block ht'.isStatement, RawLine.join_append,
      RawLine.join_cons, hblock, ← hline, hspan, ← Text.slice_append hle hnext]
    simp [Text.slice]

theorem Partition.splice_eq_join {p : Partition} (h : build indentation (.ofText t) = .ok p)
    (hreads : Reads indentation style s (Line.scan t) rs)
    (hregions : p.regions = rs.filterMap Reading.region) (hcode : Substantial results 0 p.regions) :
    p.splice results = RawLine.join (relined results 0 rs) := by
  rw [splice_eq h, hregions]
  exact hreads.splice_eq_join (Line.placed_scan t) (Line.joined_scan t).symm (Nat.le_refl _)
    (hregions ▸ hcode)

end

end Inlay
