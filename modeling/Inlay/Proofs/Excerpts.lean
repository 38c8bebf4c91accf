import Inlay.Fault
import Inlay.Proofs.Margins
import Inlay.Proofs.Places

/-!
# What an excerpt shows

An excerpt cuts a document into rows, which are the lines of the document and one more where it ends
in a line break (`rows_eq`). So the row of a number shows the line of that number, and a structure
error, which is on a line, is marked at this line (`Partition.splitOn_excerpt`).
-/

namespace Inlay

open CodeUnit

-- ---------------------------------------------------------------------------
-- Texts without line feeds
-- ---------------------------------------------------------------------------

namespace Text

theorem splitOn_flatMap {separator : CodeUnit} {pieces : List Text}
    (h : ∀ piece ∈ pieces, separator ∉ piece) :
    splitOn separator (pieces.flatMap (· ++ [separator])) = pieces ++ [[]] := by
  induction pieces with
  | nil => rfl
  | cons piece pieces ih =>
    obtain ⟨hpiece, h⟩ := List.forall_mem_cons.mp h
    simp [splitOn_append hpiece, ih h]

theorem lineFeed_not_mem_unitsOf {c : Char} (h : c ≠ '\n') : lineFeed ∉ unitsOf c := by
  have hne : c.toNat ≠ 10 := fun hfeed => h (Char.toNat_inj.mp hfeed)
  have hvalid : c.toNat < 0x110000 := by
    have hvalid : c.toNat.isValidChar := c.valid
    unfold Nat.isValidChar at hvalid
    omega
  have hunit {n : Nat} (hlt : n < 0x10000) (hn : n ≠ 10) : lineFeed ≠ n.toUInt16 := by
    intro h
    have h := congrArg UInt16.toNat h
    rw [Nat.toUInt16_eq, UInt16.toNat_ofNat_of_lt' hlt] at h
    exact hn h.symm
  unfold unitsOf
  split
  · next hlt => simpa using hunit hlt hne
  · simp only [List.mem_cons, List.not_mem_nil, or_false, not_or]
    exact ⟨hunit (by omega) (by omega), hunit (by omega) (by omega)⟩

theorem lineFeed_not_mem_ofString {s : String} (h : '\n' ∉ s.toList) : lineFeed ∉ ofString s := by
  simp only [ofString, List.mem_flatMap, not_exists, not_and]
  exact fun c hc => lineFeed_not_mem_unitsOf (ne_of_mem_of_not_mem hc h)

end Text

theorem Decimal.not_mem_write {d : Decimal} (h : '\n' ∉ d.digits) : '\n' ∉ d.write.toList := by
  have hdigits (n : Nat) : '\n' ∉ Nat.toDigits 10 n := fun hm =>
    absurd (Nat.isDigit_of_mem_toDigits (by decide) (by decide) hm) (by decide)
  have htake (n : Nat) : '\n' ∉ d.digits.take n := mt List.mem_of_mem_take h
  have hdrop (n : Nat) : '\n' ∉ d.digits.drop n := mt List.mem_of_mem_drop h
  unfold Decimal.write
  dsimp only
  split_ifs <;> simp [h, htake, hdrop, hdigits, -List.drop_one]

namespace Number

theorem not_mem_digits_shortest (q : Rat) : '\n' ∉ (shortest q).digits := by
  intro hm
  unfold shortest shortest.dropEnd at hm
  have hm := List.mem_reverse.mp ((List.dropWhile_sublist _).mem (List.mem_reverse.mp hm))
  exact absurd (Nat.isDigit_of_mem_toDigits (by decide) (by decide) hm) (by decide)

theorem lineFeed_not_mem_text (n : Number) : lineFeed ∉ n.text := by
  have hwritten (q : Rat) : '\n' ∉ (shortest q).write.toList :=
    Decimal.not_mem_write (not_mem_digits_shortest q)
  cases n with
  | infinite negative => cases negative <;> decide
  | finite q =>
    unfold text
    dsimp only
    split_ifs
    · decide
    · exact Text.lineFeed_not_mem_ofString (by simp [hwritten])
    · exact Text.lineFeed_not_mem_ofString (hwritten q)

end Number

-- ---------------------------------------------------------------------------
-- Rows and lines
-- ---------------------------------------------------------------------------

/-- What stands in the line with a number from 1, nothing behind the last line. -/
def Line.contentAt (t : Text) (number : Nat) : Text :=
  ((scan t)[number - 1]?.map (·.content)).getD []

namespace Excerpt

/-- A text is empty or ends in a line break. -/
def opensRow (t : Text) : Bool := t.getLast?.all fun u => u = lineFeed || u = carriageReturn

/-- How many rows a document has: its lines, and what is behind the break that ends it. -/
def rowCount (t : Text) : Nat := (Line.scan t).length + if opensRow t then 1 else 0

section

variable {e : LineBreak} {u : CodeUnit} {t behind : Text} {line column distance number : Nat}

theorem opensRow_break (e : LineBreak) (t : Text) : opensRow (e.text ++ t) = opensRow t := by
  cases t <;> cases e <;> simp [opensRow, LineBreak.text]

theorem opensRow_cons (hlf : u ≠ lineFeed) (hcr : u ≠ carriageReturn) :
    opensRow (u :: t) = (t != [] && opensRow t) := by
  cases t <;> simp [opensRow, hlf, hcr]

theorem rows_ne_nil (t : Text) : rows t ≠ [] := by
  fun_cases rows t <;> simp

theorem rows_break (hd : RawLine.Detached e behind)
    (h : rows behind =
      (RawLine.split behind).map (·.content) ++ if opensRow behind then [[]] else []) :
    [] :: rows behind =
      (RawLine.split (e.text ++ behind)).map (·.content) ++
        if opensRow (e.text ++ behind) then [[]] else [] := by
  rw [RawLine.split_break hd, opensRow_break, h]
  rfl

theorem rows_eq (t : Text) :
    rows t = (RawLine.split t).map (·.content) ++ if opensRow t then [[]] else [] := by
  fun_induction rows t with
  | case1 => rfl
  | case2 rest ih => exact rows_break (e := .lf) nofun ih
  | case3 behind _ ih => exact rows_break (e := .crlf) nofun ih
  | case4 v behind hv _ ih => exact rows_break (e := .cr) (fun _ => by simpa using hv) ih
  | case5 => rfl
  | case6 u rest hlf hcr row more hrows ih =>
    rw [RawLine.split_cons hlf hcr, opensRow_cons hlf hcr]
    cases hsplit : RawLine.split rest with
    | nil =>
      obtain rfl : rest = [] := by simpa [hsplit] using (RawLine.join_split rest).symm
      simp_all [rows, RawLine.consUnit]
    | cons line lines =>
      have hne : rest ≠ [] := by
        rintro rfl
        cases hsplit
      simp_all [RawLine.consUnit]
  | case7 _ rest _ _ hrows => exact absurd hrows (rows_ne_nil rest)

theorem length_rows (t : Text) : (rows t).length = rowCount t := by
  have hlength : (RawLine.split t).length = (Line.scan t).length := by
    rw [← Line.map_toRawLine_scan, List.length_map]
  rw [rows_eq, rowCount, List.length_append, List.length_map, hlength]
  split <;> rfl

theorem content?_rows (hone : 1 ≤ number) (hle : number ≤ rowCount t) :
    content? (rows t) number = some (Line.contentAt t number) := by
  have hrow : content? (rows t) number = (rows t)[number - 1]? := by simp [content?]
  have hsplit : (Line.scan t).map (·.content) = (RawLine.split t).map (·.content) := by
    rw [← Line.map_content_toRawLine, Line.map_toRawLine_scan]
  rw [hrow, rows_eq, ← hsplit, Line.contentAt, List.getElem?_append, List.length_map]
  unfold rowCount at hle
  split
  · next hlt => simp [hlt]
  · next hlt =>
    have hopens : opensRow t := by
      by_contra hopens
      rw [if_neg hopens] at hle
      omega
    rw [if_pos hopens] at hle ⊢
    have hindex : number - 1 = (Line.scan t).length := by omega
    simp [hindex]

-- ---------------------------------------------------------------------------
-- The lines of an excerpt
-- ---------------------------------------------------------------------------

def near (t : Text) (line distance : Nat) : List Nat :=
  let first := max 1 (line - distance)
  let last := min (rowCount t) (line + distance)
  List.range' first (last + 1 - first)

def shown (marked : Bool) (number : Nat) (content : Text) : Text :=
  text (if marked then "> " else "  ") ++ Text.padLeft 4 space (Number.nearest number).text ++
    text " | " ++ content

def caret (column : Nat) : Text :=
  text "       | " ++ List.replicate (column - 1) space ++ [ofChar '^']

/-- What an excerpt about a line shows for the row with a number. -/
def shownAt (t : Text) (line column number : Nat) : List Text :=
  shown (number = line) number (Line.contentAt t number) ::
    if number = line then [caret column] else []

theorem mem_near_iff :
    number ∈ near t line distance ↔
      1 ≤ number ∧ number ≤ rowCount t ∧ line ≤ number + distance ∧ number ≤ line + distance := by
  rw [near, List.mem_range'_1]
  omega

theorem row_eq (marked : Bool) (number : Nat) (content : Text) :
    row marked number (some content) = shown marked number content ++ [lineFeed] := rfl

theorem toNat_floor_natCast (n : Nat) : (n : Rat).floor.toNat = n := by
  have hfloor : (n : Rat).floor = ⌊(n : Rat)⌋ := rfl
  rw [hfloor, Int.floor_natCast, Int.toNat_natCast]

theorem pointer_eq (hone : 1 ≤ column) : pointer column = caret column ++ [lineFeed] := by
  rw [pointer, caret, ← Nat.cast_one, ← Nat.cast_sub hone, toNat_floor_natCast]
  simp

theorem first_eq (line distance : Nat) :
    (if (line : Rat) - distance < 1 then 1 else (line : Rat) - distance) =
      (max 1 (line - distance) : Nat) := by
  split
  · next h =>
    have h : line < 1 + distance := by exact_mod_cast sub_lt_iff_lt_add.mp h
    rw [max_eq_left (by omega), Nat.cast_one]
  · next h =>
    have h : 1 + distance ≤ line := by exact_mod_cast le_sub_iff_add_le.mp (not_lt.mp h)
    rw [max_eq_right (by omega), Nat.cast_sub (by omega)]

theorem last_eq (count line distance : Nat) :
    (if (count : Rat) < line + distance then (count : Rat) else (line : Rat) + distance) =
      (min count (line + distance) : Nat) := by
  norm_cast
  split <;> omega

theorem shownAt_eq (hone : 1 ≤ number) (hle : number ≤ rowCount t) (hcolumn : 1 ≤ column) :
    (row (decide ((number : Rat) = line)) number (content? (rows t) number) ++
      if (number : Rat) = line then pointer column else []) =
        (shownAt t line column number).flatMap (· ++ [lineFeed]) := by
  simp only [Nat.cast_inj, content?_rows hone hle, row_eq, shownAt]
  split <;> simp [pointer_eq hcolumn]

theorem around_eq (hone : 1 ≤ line) (hle : line ≤ rowCount t) (hcolumn : 1 ≤ column) :
    around t line column distance = some
      (((near t line distance).flatMap (shownAt t line column)).flatMap (· ++ [lineFeed])) := by
  have hnot : ¬ ((line : Rat) < 1 ∨ (rowCount t : Rat) + 1 ≤ line) := by
    norm_cast
    omega
  have hcount : (((min (rowCount t) (line + distance) : Nat) : Rat) -
      (max 1 (line - distance) : Nat) + 1).floor.toNat =
        min (rowCount t) (line + distance) + 1 - max 1 (line - distance) := by
    rw [sub_add_eq_add_sub, ← Nat.cast_one, ← Nat.cast_add, ← Nat.cast_sub (by omega),
      toNat_floor_natCast]
  unfold around
  simp only [length_rows, if_neg hnot, first_eq, last_eq, hcount]
  rw [List.flatMap_assoc, near, List.range'_eq_map_range, List.flatMap_map]
  refine congrArg some (List.flatMap_congr fun n hn => ?_)
  have hnear : max 1 (line - distance) + n ∈ near t line distance := by
    rw [near, List.range'_eq_map_range]
    exact List.mem_map_of_mem hn
  obtain ⟨hfirst, hlast, -⟩ := mem_near_iff.mp hnear
  rw [← Nat.cast_add, shownAt_eq hfirst hlast hcolumn]

theorem unbroken_contentAt (t : Text) (number : Nat) : (Line.contentAt t number).Unbroken := by
  unfold Line.contentAt
  cases hline : (Line.scan t)[number - 1]? with
  | none => exact fun _ hm => by simp at hm
  | some line => exact Line.unbroken_of_mem_scan (List.mem_of_getElem? hline)

theorem lineFeed_not_mem_shown {marked : Bool} {content : Text} (h : content.Unbroken) :
    lineFeed ∉ shown marked number content := by
  have hmark : lineFeed ∉ text (if marked then "> " else "  ") := by cases marked <;> decide
  have hspace : lineFeed ≠ space := by decide
  have hbar : lineFeed ∉ text " | " := by decide
  have hcontent : lineFeed ∉ content := fun hm => (h _ hm).1 rfl
  simp [shown, Text.padLeft, hmark, hspace, hbar, hcontent, Number.lineFeed_not_mem_text]

theorem lineFeed_not_mem_caret : lineFeed ∉ caret column := by
  have hgap : lineFeed ∉ text "       | " := by decide
  have hspace : lineFeed ≠ space := by decide
  have hpoint : lineFeed ≠ ofChar '^' := by decide
  simp [caret, hgap, hspace, hpoint]

theorem lineFeed_not_mem_shownAt : ∀ piece ∈ shownAt t line column number, lineFeed ∉ piece := by
  have hshown (marked : Bool) : lineFeed ∉ shown marked number (Line.contentAt t number) :=
    lineFeed_not_mem_shown (unbroken_contentAt t number)
  unfold shownAt
  split <;> simp [hshown, lineFeed_not_mem_caret]

theorem head?_shown (marked : Bool) (content : Text) :
    (shown marked number content).head? = some (ofChar (if marked then '>' else ' ')) := by
  cases marked <;> rfl

theorem filter_shownAt :
    (shownAt t line column number).filter (fun piece => piece.head? = some (ofChar '>')) =
      if number = line then [shown true line (Line.contentAt t line)] else [] := by
  have hblank : ofChar ' ' ≠ ofChar '>' := by decide
  have hcaret : (caret column).head? = some (ofChar ' ') := rfl
  unfold shownAt
  split
  · next h => simp [h, head?_shown, hcaret, hblank]
  · next h => simp [h, head?_shown, hblank]

theorem filter_near (hone : 1 ≤ line) (hle : line ≤ rowCount t) :
    ((near t line distance).flatMap (shownAt t line column)).filter
      (fun piece => piece.head? = some (ofChar '>')) =
        [shown true line (Line.contentAt t line)] := by
  have hnear : line ∈ near t line distance := mem_near_iff.mpr (by omega)
  obtain ⟨before, behind, hsplit⟩ := List.append_of_mem hnear
  have hnodup : (near t line distance).Nodup := List.nodup_range'
  rw [hsplit, List.nodup_middle, List.nodup_cons, List.mem_append, not_or] at hnodup
  have hother {numbers : List Nat} (hnot : line ∉ numbers) :
      (numbers.flatMap (shownAt t line column)).filter
        (fun piece => piece.head? = some (ofChar '>')) = [] := by
    refine List.filter_eq_nil_iff.mpr fun piece hpiece => ?_
    obtain ⟨number, hm, hpiece⟩ := List.mem_flatMap.mp hpiece
    have hnone : (shownAt t line column number).filter
        (fun piece => piece.head? = some (ofChar '>')) = [] :=
      filter_shownAt.trans (if_neg (ne_of_mem_of_not_mem hm hnot))
    exact List.filter_eq_nil_iff.mp hnone piece hpiece
  rw [hsplit, List.flatMap_append, List.flatMap_cons, List.filter_append, List.filter_append,
    hother hnodup.1.1, hother hnodup.1.2, filter_shownAt, if_pos rfl]
  rfl

end

end Excerpt

theorem Line.contentAt_of_mem {t : Text} {line : Line} (hm : line ∈ scan t) :
    contentAt t (line.index + 1) = line.content := by
  obtain ⟨k, hlt, hk⟩ := List.mem_iff_getElem.mp hm
  have hk := List.getElem?_eq_some_iff.mpr ⟨hlt, hk⟩
  obtain rfl : line.index = k := by simpa using (placed_scan t).index_getElem hk
  simp [contentAt, hk]

theorem Fault.excerpt_locate {e : StructureError} {t : Text} (hne : t ≠ []) (file : Text)
    (distance : Rat) :
    (e.toFault.locate file t).excerpt distance = Excerpt.around t e.line e.column distance := by
  simp [StructureError.toFault, locate, excerpt, source, location, hne]

/-- The excerpt about a structure error marks one row, the line on which the error is, and shows the
rows up to a distance from this line, which is counted in whole lines. -/
theorem Partition.splitOn_excerpt {indentation : Indentation} {t : Text} {e : StructureError}
    (h : build indentation (.ofText t) = .error e) (file : Text) (distance : Nat) :
    ∃ excerpt, ∃ line ∈ Line.scan t,
      (e.toFault.locate file t).excerpt distance = some excerpt ∧ e.line = line.index + 1 ∧
      (Text.splitOn lineFeed excerpt).filter (fun row => row.head? = some (ofChar '>')) =
        [Excerpt.shown true e.line line.content] ∧
      Text.splitOn lineFeed excerpt =
        (Excerpt.near t e.line distance).flatMap (Excerpt.shownAt t e.line e.column) ++ [[]] := by
  obtain ⟨line, hm, hon⟩ := exists_on_of_build h
  have hlt := ((Line.placed_scan t).index_of_mem hm).2
  have hle : e.line ≤ Excerpt.rowCount t := by
    rw [hon.line, Excerpt.rowCount]
    omega
  have hone : 1 ≤ e.line := by
    rw [hon.line]
    omega
  have hne : t ≠ [] := by
    rintro rfl
    cases hm
  have hpieces : ∀ piece ∈ (Excerpt.near t e.line distance).flatMap
      (Excerpt.shownAt t e.line e.column), lineFeed ∉ piece := fun piece hpiece => by
    obtain ⟨number, -, hpiece⟩ := List.mem_flatMap.mp hpiece
    exact Excerpt.lineFeed_not_mem_shownAt piece hpiece
  refine ⟨_, line, hm, ?_, hon.line, ?_, Text.splitOn_flatMap hpieces⟩
  · rw [Fault.excerpt_locate hne, Excerpt.around_eq hone hle hon.one_le]
  · rw [Text.splitOn_flatMap hpieces, List.filter_append, Excerpt.filter_near hone hle, hon.line,
      Line.contentAt_of_mem hm]
    rfl

theorem Partition.splitOn_excerpt_mixed :
    let t := text "\r\n$\rb\n"
    let e : StructureError := ⟨.introducer .missingCode, 2, 1⟩
    build ⟨.reject, 8⟩ (.ofText t) = .error e ∧
      ∃ excerpt, (e.toFault.locate (text "a.rpy") t).excerpt (2 : Nat) = some excerpt ∧
        Text.splitOn lineFeed excerpt = [text "     1 | ", text ">    2 | $", text "       | ^",
          text "     3 | b", text "     4 | ", []] := by
  have h : build ⟨.reject, 8⟩ (.ofText (text "\r\n$\rb\n")) =
      .error ⟨.introducer .missingCode, 2, 1⟩ := by cbv
  obtain ⟨excerpt, -, -, hexcerpt, -, -, hrows⟩ := splitOn_excerpt h (text "a.rpy") 2
  exact ⟨h, excerpt, hexcerpt, hrows.trans (by decide +kernel)⟩

end Inlay
