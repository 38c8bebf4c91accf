import Inlay.Dispatch
import Inlay.Proofs.Fitting
import Inlay.Proofs.Restoring

/-!
# Documents with cleaned code

Output that was cleaned has line feeds for breaks, and ends in a line that is not blank. A document
whose regions are given such code ends in a break exactly if it did before (`endsInBreak_splice`).
-/

namespace Inlay

open CodeUnit

-- ---------------------------------------------------------------------------
-- How a text ends
-- ---------------------------------------------------------------------------

/-- The last line of the text has a break. -/
def Text.EndsInBreak (t : Text) : Prop := ∃ e : LineBreak, e.text <:+ t

/-- Neither text ends in a break, or both do, and neither is empty, or both are. -/
structure Text.SameEnd (a b : Text) : Prop where
  nil : a = [] ↔ b = []
  ends : a.EndsInBreak ↔ b.EndsInBreak

section

variable {t a a' b b' : Text} {u separator : CodeUnit} {lines lines' : List RawLine}
  {line line' : RawLine}

namespace Text

theorem endsInBreak_iff :
    t.EndsInBreak ↔ t.getLast? = some lineFeed ∨ t.getLast? = some carriageReturn := by
  constructor
  · rintro ⟨e, front, rfl⟩
    cases e <;> simp [LineBreak.text]
  · rintro (h | h)
    · obtain ⟨front, rfl⟩ := List.getLast?_eq_some_iff.mp h
      exact ⟨.lf, front, rfl⟩
    · obtain ⟨front, rfl⟩ := List.getLast?_eq_some_iff.mp h
      exact ⟨.cr, front, rfl⟩

theorem endsInBreak_append (hb : b ≠ []) : (a ++ b).EndsInBreak ↔ b.EndsInBreak := by
  rw [endsInBreak_iff, endsInBreak_iff, List.getLast?_append_of_ne_nil a hb]

theorem not_endsInBreak (h : t.getLast? = some u) (hu : u.isBlank = false) : ¬ t.EndsInBreak := by
  rw [endsInBreak_iff, h]
  rintro (heq | heq) <;> cases heq <;> revert hu <;> decide

theorem isBlank_eq_false_of_mem (h : u ∈ t) (hu : u.isBlank = false) : t.isBlank = false :=
  Bool.eq_false_iff.mpr fun hb => Bool.eq_false_iff.mp hu (List.all_eq_true.mp hb u h)

namespace SameEnd

theorem refl (t : Text) : SameEnd t t := ⟨Iff.rfl, Iff.rfl⟩

theorem append (ha : SameEnd a a') (hb : SameEnd b b') : SameEnd (a ++ b) (a' ++ b') where
  nil := by rw [List.append_eq_nil_iff, List.append_eq_nil_iff, ha.nil, hb.nil]
  ends := by
    by_cases hnil : b = []
    · rw [hnil, hb.nil.mp hnil, List.append_nil, List.append_nil, ha.ends]
    · rw [endsInBreak_append hnil, endsInBreak_append (mt hb.nil.mpr hnil), hb.ends]

theorem of_getLast? (ha : a.getLast? = some u) (hu : u.isBlank = false) (hb : b.getLast? = some v)
    (hv : v.isBlank = false) : SameEnd a b where
  nil := by simp [← List.getLast?_eq_none_iff, ha, hb]
  ends := iff_of_false (not_endsInBreak ha hu) (not_endsInBreak hb hv)

end SameEnd

theorem getLast?_splitOn (h : t.getLast? = some u) (hu : u ≠ separator) :
    ∃ piece, (splitOn separator t).getLast? = some piece ∧ piece.getLast? = some u := by
  induction t with
  | nil => simp at h
  | cons v t ih =>
    rw [splitOn]
    cases t with
    | nil =>
      obtain rfl : v = u := by simpa using h
      rw [if_neg hu]
      exact ⟨[v], rfl, rfl⟩
    | cons w t =>
      obtain ⟨piece, hpiece, hlast⟩ := ih (by simpa using h)
      cases hsplit : splitOn separator (w :: t) with
      | nil => exact absurd hsplit (splitOn_ne_nil _ _)
      | cons first pieces =>
        rw [hsplit] at hpiece
        split
        · exact ⟨piece, by rw [List.getLast?_cons, hpiece]; rfl, hlast⟩
        · cases pieces with
          | nil =>
            obtain rfl : first = piece := by simpa using hpiece
            exact ⟨v :: first, rfl, by rw [List.getLast?_cons, hlast]; rfl⟩
          | cons next pieces => exact ⟨piece, by simpa using hpiece, hlast⟩

end Text

namespace RawLine

theorem endsInBreak_join (h : lines.getLast? = some line) (hu : line.content.Unbroken)
    (hne : line.content ≠ []) :
    join lines ≠ [] ∧ ((join lines).EndsInBreak ↔ line.ending.isSome) := by
  obtain ⟨front, rfl⟩ := List.getLast?_eq_some_iff.mp h
  have htext : line.text ≠ [] := by simp [text, hne]
  rw [join_append, join_cons, join_nil, List.append_nil, Text.endsInBreak_append htext]
  refine ⟨List.append_ne_nil_of_right_ne_nil _ htext, ?_⟩
  cases he : line.ending with
  | some e => simpa [text, he, endingText] using ⟨e, List.suffix_append line.content e.text⟩
  | none =>
    obtain ⟨u, hlast⟩ := Option.ne_none_iff_exists'.mp (mt List.getLast?_eq_none_iff.mp hne)
    obtain ⟨hlf, hcr⟩ := hu u (List.mem_of_getLast? hlast)
    rw [text, he, Text.endsInBreak_iff]
    simp [endingText, hlast, hlf, hcr]

theorem sameEnd_join (h : lines.getLast? = some line) (hu : line.content.Unbroken)
    (hne : line.content ≠ []) (h' : lines'.getLast? = some line') (hu' : line'.content.Unbroken)
    (hne' : line'.content ≠ []) (hends : line.ending.isSome = line'.ending.isSome) :
    Text.SameEnd (join lines) (join lines') := by
  obtain ⟨hnil, hbreak⟩ := endsInBreak_join h hu hne
  obtain ⟨hnil', hbreak'⟩ := endsInBreak_join h' hu' hne'
  exact ⟨iff_of_false hnil hnil', by rw [hbreak, hbreak', hends]⟩

end RawLine

end

-- ---------------------------------------------------------------------------
-- Cleaned code
-- ---------------------------------------------------------------------------

/-- Code as cleaning leaves it. -/
structure Region.Cleaned (r : Region) (code : Text) : Prop where
  breaks : carriageReturn ∉ code
  ends : code.getLast? = some lineFeed
  last : ∃ u, (unterminated code).getLast? = some u ∧ u.isBlank = false
  line : r.isStatement → lineFeed ∉ unterminated code

section

variable {t output code : Text} {r : Region} {u : CodeUnit}

theorem Text.not_mem_unifyBreaks (t : Text) : carriageReturn ∉ unifyBreaks t := by
  have hne : carriageReturn ≠ lineFeed := by decide
  fun_induction unifyBreaks t <;> simp_all [eq_comm]

theorem Text.trimEnd_prefix (t : Text) : trimEnd t <+: t := by
  obtain ⟨dropped, ht, -⟩ := dropEndWhile_append_dropped CodeUnit.isBlank t
  exact ⟨dropped, ht.symm⟩

theorem Region.cleaned_of_clean (h : r.clean output = .ok code)
    (hr : Text.isBlank r.code = false) : r.Cleaned code := by
  rw [clean, cleanOutput] at h
  have hcr : carriageReturn ∉ (Text.unifyBreaks output).trimEnd :=
    fun hm => Text.not_mem_unifyBreaks output ((Text.trimEnd_prefix _).mem hm)
  have hlast : ∀ u, (Text.unifyBreaks output).trimEnd.getLast? = some u → u.isBlank = false :=
    fun _ => getLast?_dropEndWhile
  generalize (Text.unifyBreaks output).trimEnd = trimmed at h hcr hlast
  split at h
  · rw [if_neg (Bool.eq_false_iff.mp hr)] at h
    cases h
  · next hne =>
    split at h
    · cases h
    · next hlines =>
      cases h
      obtain ⟨u, hu⟩ := Option.ne_none_iff_exists'.mp
        (mt List.getLast?_eq_none_iff.mp (by simpa using hne))
      refine ⟨?_, by simp, ⟨u, by rw [unterminated_concat, hu], hlast u hu⟩, fun hs => ?_⟩
      · rw [List.mem_append, List.mem_singleton]
        rintro (hm | hm)
        · exact hcr hm
        · exact absurd hm (by decide)
      · rw [unterminated_concat]
        simpa [hs] using hlines

theorem Text.unifyBreaks_of_not_mem (h : carriageReturn ∉ t) : unifyBreaks t = t := by
  fun_induction unifyBreaks t <;> simp_all

theorem Region.clean_of_cleaned (h : r.Cleaned code) : r.clean code = .ok code := by
  obtain ⟨u, hlast, hu⟩ := h.last
  have htrim : Text.trimEnd (Text.unifyBreaks code) = unterminated code := by
    rw [Text.unifyBreaks_of_not_mem h.breaks]
    conv => lhs; rw [← unterminated_append h.ends]
    exact Text.trimEnd_append (v := []) hlast hu (by decide)
  have hne : unterminated code ≠ [] := by
    intro hnil
    rw [hnil] at hlast
    cases hlast
  have hline : (r.isStatement && (unterminated code).contains lineFeed) = false := by
    simpa using h.line
  simp only [clean, cleanOutput, htrim, hline, unterminated_append h.ends]
  simp [hne]

end

-- ---------------------------------------------------------------------------
-- How a region ends
-- ---------------------------------------------------------------------------

section

variable {indentation : Indentation} {style : LineStyle} {above line : Line}
  {variant : BlockVariant} {header : Header} {body blanks left lines : List Line} {s : LexState}
  {rs : List Reading} {r : Region} {t code : Text} {column start stop tabWidth width : Nat}
  {p : Partition} {results : List (Option RegionResult)} {result : Option RegionResult}

theorem Introducer.getLast?_statement
    (h : recognize line s (lexLine .host s line.content).tokens =
      .ok (.statement column start stop)) :
    ∃ u, (Text.slice line.content start stop).getLast? = some u ∧ u.isBlank = false := by
  obtain ⟨-, -, -, rfl, hlt⟩ := recognize_eq_statement_iff.mp h
  have htake : line.content.take line.content.trimEnd.length = line.content.trimEnd :=
    (List.prefix_iff_eq_take.mp (Text.trimEnd_prefix _)).symm
  have hne : line.content.trimEnd ≠ [] := by
    intro hnil
    rw [hnil] at hlt
    exact absurd hlt (Nat.not_lt_zero _)
  obtain ⟨u, hu⟩ := Option.ne_none_iff_exists'.mp (mt List.getLast?_eq_none_iff.mp hne)
  refine ⟨u, ?_, getLast?_dropEndWhile hu⟩
  rw [Text.slice, ← List.drop_take, htake, List.getLast?_drop, if_neg (Nat.not_le_of_lt hlt), hu]

namespace Region

theorem Taken.sameEnd (ht : Taken indentation style above variant header body r)
    (he : Extent tabWidth width body blanks left) (hu : ∀ line ∈ body, line.content.Unbroken)
    (hcode : r.Cleaned code) : Text.SameEnd (r.reindent code) r.restored := by
  obtain ⟨hunbroken, -⟩ := Region.lines_of_code hcode.breaks hcode.ends
  obtain ⟨u, hend, hu'⟩ := hcode.last
  have hlf : u ≠ lineFeed := by
    rintro rfl
    cases hu'
  obtain ⟨piece, hpiece, hend⟩ := Text.getLast?_splitOn hend hlf
  have hblank : piece.isBlank = false :=
    Text.isBlank_eq_false_of_mem (List.mem_of_getLast? hend) hu'
  obtain ⟨last, hlast, hlastBlank⟩ := he.last
  have hm : ∀ u ∈ r.margin, u.isIndent := ht.margin ▸ isIndent_of_mem_bodyMargin
  have hmargined : (margined r.margin .initial _).getLast? = some (r.margin ++ piece) :=
    getLast?_margined hpiece hblank
  have hbody : (body.map Line.toRawLine).getLast? = some last.toRawLine := by
    rw [List.getLast?_map, hlast]
    rfl
  have hends := ht.endsWithBreak
  rw [hlast, Option.map_some] at hends
  have hreindent := reindent_joinWith ht.isStatement hunbroken hpiece hblank
  rw [Text.join_splitOn, unterminated_append hcode.ends] at hreindent
  rw [hreindent, ht.restored, Line.joined]
  refine RawLine.sameEnd_join (getLast?_terminated hmargined) ?_ ?_ hbody
    (hu last (List.mem_of_getLast? hlast)) (RawLine.content_ne_nil hlastBlank) ?_
  · exact unbroken_of_mem_margined hm hunbroken (List.mem_of_getLast? hmargined)
  · intro hnil
    rw [(List.append_eq_nil_iff.mp hnil).2] at hblank
    cases hblank
  · rw [Option.some.inj hends]
    cases r.endsWithBreak <;> rfl

theorem sameEnd_ofStatement {column : Nat}
    (h : Introducer.recognize line s (lexLine .host s line.content).tokens =
      .ok (.statement column start stop)) (hcode : (ofStatement line start stop).Cleaned code) :
    Text.SameEnd ((ofStatement line start stop).reindent code)
      (ofStatement line start stop).restored := by
  obtain ⟨u, hlast, hu⟩ := Introducer.getLast?_statement h
  obtain ⟨v, hlast', hv⟩ := hcode.last
  exact Text.SameEnd.of_getLast? hlast' hv (by rwa [restored_ofStatement]) hu

theorem isBlank_code_ofStatement {column : Nat}
    (h : Introducer.recognize line s (lexLine .host s line.content).tokens =
      .ok (.statement column start stop)) :
    Text.isBlank (ofStatement line start stop).code = false := by
  obtain ⟨u, hlast, hu⟩ := Introducer.getLast?_statement h
  exact Text.isBlank_eq_false_of_mem
    (List.mem_append_left _ (List.mem_of_getLast? hlast)) hu

theorem Taken.isBlank_code (ht : Taken indentation style above variant header body r)
    (he : Extent tabWidth width body blanks left) (hu : ∀ line ∈ body, line.content.Unbroken) :
    Text.isBlank r.code = false := by
  obtain ⟨-, last, hlast, hblank⟩ := ht.lines_of_code he hu
  obtain ⟨u, hm, hu⟩ := List.all_eq_false.mp hblank
  rw [ht.code, blockCode]
  exact Text.isBlank_eq_false_of_mem
    (List.mem_append_left _ (Text.mem_joinWith (List.mem_of_getLast? hlast) hm))
    (Bool.eq_false_iff.mpr hu)

end Region

namespace Partition

variable (h : build indentation (.ofText t) = .ok p) (hr : r ∈ p.regions)

include h hr

theorem isBlank_code : Text.isBlank r.code = false := by
  cases hs : r.isStatement with
  | true =>
    obtain ⟨line, s, column, start, stop, hrecognize, rfl⟩ := statement_of_mem h hr hs
    exact Region.isBlank_code_ofStatement hrecognize
  | false =>
    obtain ⟨above, line, header, body, blanks, left, hlines, he, ht⟩ := block_of_mem h hr hs
    change Line.scan t = _ at hlines
    exact ht.isBlank_code he
      fun line hm => Line.unbroken_of_mem_scan (t := t) (by simp [hlines, hm])

theorem sameEnd_reindent (hcode : r.Cleaned code) :
    Text.SameEnd (r.reindent code) (Text.slice t r.span.start r.span.stop) := by
  rw [← restored_eq_slice h hr]
  cases hs : r.isStatement with
  | true =>
    obtain ⟨line, s, column, start, stop, hrecognize, rfl⟩ := statement_of_mem h hr hs
    exact Region.sameEnd_ofStatement hrecognize hcode
  | false =>
    obtain ⟨above, line, header, body, blanks, left, hlines, he, ht⟩ := block_of_mem h hr hs
    change Line.scan t = _ at hlines
    exact ht.sameEnd he
      (fun line hm => Line.unbroken_of_mem_scan (t := t) (by simp [hlines, hm])) hcode

omit hr

theorem cleaned_of_clean
    (hclean : Given (fun r code => ∃ output, r.clean output = .ok code) results 0 p.regions) :
    Given Region.Cleaned results 0 p.regions := by
  intro x hx code hcode
  obtain ⟨output, houtput⟩ := hclean x hx code hcode
  exact Region.cleaned_of_clean houtput (isBlank_code h (List.fst_mem_of_mem_zipIdx hx))

/-- A document ends in a break exactly if it did before its regions were given cleaned code. -/
theorem endsInBreak_splice (hcode : Given Region.Cleaned results 0 p.regions) :
    (p.splice results).EndsInBreak ↔ t.EndsInBreak := by
  have hsame : Text.SameEnd (spliceFrom t results 0 0 p.regions) (t.drop 0) := by
    refine (regions_apart h).spliceFrom_lift Text.SameEnd.refl Text.SameEnd.append fun x hx => ?_
    rcases RegionResult.formatted_or_kept results[x.2]?.join with ⟨code, hgiven⟩ | hkept
    · rw [hgiven]
      exact sameEnd_reindent h (List.fst_mem_of_mem_zipIdx hx) (hcode x hx code hgiven)
    · rw [Region.render_of_ne_formatted hkept]
      exact .refl _
  rw [splice_eq h]
  exact hsame.ends

end Partition

end

end Inlay
