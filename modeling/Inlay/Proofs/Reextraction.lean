import Inlay.Proofs.Continuations
import Inlay.Proofs.Fitting

/-!
# Reading a spliced document

A document whose regions were given code that fits is cut into the same regions again. The lines
of the spliced text are those that were read, with the results in place, and every one of them is
read in the state in which its original was (`Reads.again`). So each region is found with the code
it was given, and splicing the same results once more changes nothing (`build_splice`).
-/

namespace Inlay

open CodeUnit

/-- Formatted code fits its region, with the lines of the document that stand behind it. -/
def Fitting (tabWidth : Nat) (lines : List Line) (results : List (Option RegionResult)) (id : Nat)
    (regions : List Region) : Prop :=
  ∀ x ∈ regions.zipIdx id, ∀ code, results[x.2]?.join = some (.formatted code) →
    x.1.Fits tabWidth (lines.drop x.1.nextLine) code

section

variable {indentation : Indentation} {style style' : LineStyle} {s : LexState} {line : Line}
  {lines below below' blanks left : List Line} {rs : List Reading}
  {index offset id n tabWidth : Nat}
  {r : Region} {regions : List Region} {results : List (Option RegionResult)} {e : LineBreak}

theorem fitting_cons :
    Fitting tabWidth lines results id (r :: regions) ↔
      (∀ code, results[id]?.join = some (.formatted code) →
        r.Fits tabWidth (lines.drop r.nextLine) code) ∧
      Fitting tabWidth lines results (id + 1) regions := by
  simp only [Fitting, List.zipIdx_cons, List.forall_mem_cons]

theorem Region.FitsBlock.unterminated_ne_nil {behind : List Line} {code : Text}
    (h : FitsBlock tabWidth behind code) : Region.unterminated code ≠ [] := by
  intro hnil
  obtain ⟨-, hcontents⟩ := Region.lines_of_code h.unbroken h.ends
  obtain ⟨last, hlast, hblank⟩ := h.last
  have hcontent : ((Line.scan code).map (·.content)).getLast? = some last.content := by
    rw [List.getLast?_map, hlast]
    rfl
  rw [hcontents, hnil] at hcontent
  have hlast : [] = last.content := by simpa [Text.splitOn] using hcontent
  rw [RawLine.isBlank, ← hlast] at hblank
  cases hblank

theorem Fitting.substantial (h : Fitting tabWidth lines results id regions) :
    Substantial results id regions := by
  intro x hx hblock code hcode
  exact ((Region.fits_block hblock).mp (h x hx code hcode)).unterminated_ne_nil

-- ---------------------------------------------------------------------------
-- The lines that come back
-- ---------------------------------------------------------------------------

theorem Reads.relined_nil (h : Reads indentation style s [] rs) : relined results id rs = [] := by
  cases h
  rfl

theorem Region.indent_statementLine {column code stop : Nat} (r : Region)
    (h : Introducer.recognize line s (lexLine .host s line.content).tokens =
      .ok (.statement column code stop)) (hr : r.codeColumn = code) :
    (r.statementLine line.toRawLine result).indent = line.indent ∧
      (r.statementLine line.toRawLine result).isBlank = line.isBlank := by
  rcases RegionResult.formatted_or_kept result with ⟨formatted, rfl⟩ | hkept
  · obtain ⟨-, w, g, rest, hc, hw, -, -, -, hcode, -⟩ := Introducer.exists_marker h
    have htake : line.content.take code = w ++ Introducer.marker :: g := by
      rw [hc, hcode, ← List.cons_append, ← List.append_assoc]
      exact List.take_left' (by simp [Nat.add_assoc, Nat.add_comm 1])
    rw [statementLine, hr, htake]
    simp only [RawLine.indent, RawLine.isBlank, hc, List.append_assoc, List.cons_append,
      Introducer.indentation_marker hw, Introducer.isBlank_marker, and_self]
  · rw [statementLine_of_ne_formatted hkept]
    exact ⟨rfl, rfl⟩

theorem Reads.relined_cons (results : List (Option RegionResult)) (id : Nat)
    (h : Reads indentation style s (line :: below) rs) :
    ∃ raw more, relined results id rs = raw :: more ∧ raw.indent = line.indent ∧
      raw.isBlank = line.isBlank ∧ raw.ending = line.ending ∧ (below = [] → more = []) := by
  generalize hlines : line :: below = all at h
  cases h with
  | nil => cases hlines
  | host _ h =>
    cases hlines
    exact ⟨_, _, rfl, rfl, rfl, rfl, fun hnil => (hnil ▸ h).relined_nil⟩
  | block _ he ht =>
    cases hlines
    rw [relined_region, Region.relined_block ht.isStatement]
    exact ⟨_, _, rfl, rfl, rfl, rfl, fun hnil => by simp [he.ne_nil] at hnil⟩
  | @statement s line column code stop below rs hr h =>
    cases hlines
    rw [relined_region, Region.relined_statement rfl]
    obtain ⟨hindent, hblank⟩ := Region.indent_statementLine (.ofStatement line code stop) hr rfl
    exact ⟨_, _, rfl, hindent, hblank, Region.ending_statementLine,
      fun hnil => (hnil ▸ h).relined_nil⟩

theorem Reads.relined_blanks (results : List (Option RegionResult)) (id : Nat)
    (h : Reads indentation style s (blanks ++ left) rs)
    (hb : ∀ line ∈ blanks, line.isBlank) :
    ∃ s' rs', Reads indentation style s' left rs' ∧
      rs'.filterMap Reading.region = rs.filterMap Reading.region ∧
      relined results id rs = blanks.map Line.toRawLine ++ relined results id rs' := by
  induction blanks generalizing s rs with
  | nil => exact ⟨s, rs, h, rfl, rfl⟩
  | cons line blanks ih =>
    obtain ⟨hline, hb⟩ := List.forall_mem_cons.mp hb
    have hnone := Introducer.recognize_of_isBlank (s := s) hline
    generalize hlines : (line :: blanks) ++ left = all at h
    cases h with
    | nil => cases hlines
    | host _ h =>
      cases hlines
      obtain ⟨s', rs', hr, hregions, heq⟩ := ih h hb
      exact ⟨s', rs', hr, hregions, by rw [relined_host, heq]; rfl⟩
    | statement hr =>
      cases hlines
      cases hnone.symm.trans hr
    | block hr =>
      obtain ⟨rfl, -⟩ := List.cons.inj hlines
      cases hnone.symm.trans hr

-- ---------------------------------------------------------------------------
-- The breaks of the lines that come back
-- ---------------------------------------------------------------------------

variable {result : Option RegionResult} {body behind : List Line} {above : Line}
  {variant : BlockVariant} {header : Header}

theorem Region.Taken.uniform_blockLines (ht : Taken indentation style above variant header body r)
    (hu : RawLine.Uniform e (body.map Line.toRawLine)) (hs : style.dominant = e) :
    RawLine.Uniform e (r.blockLines result) := by
  rcases RegionResult.formatted_or_kept result with ⟨code, rfl⟩ | hkept
  · rw [blockLines, ht.lineBreak, breakOf_of_uniform hu fun _ => hs]
    exact uniform_terminated
  · rwa [blockLines_of_ne_formatted hkept, ht.map_raw]

theorem Reads.uniform_relined (h : Reads indentation style s lines rs)
    (hu : RawLine.Uniform e (lines.map Line.toRawLine)) (hs : style.dominant = e) :
    RawLine.Uniform e (relined results id rs) := by
  induction h generalizing id with
  | nil => exact hu
  | host _ _ ih =>
    obtain ⟨hline, hu⟩ := List.forall_mem_cons.mp hu
    exact List.forall_mem_cons.mpr ⟨hline, ih hu⟩
  | statement _ _ ih =>
    obtain ⟨hline, hu⟩ := List.forall_mem_cons.mp hu
    rw [relined_region, Region.relined_statement rfl]
    refine List.forall_mem_cons.mpr ⟨?_, ih hu⟩
    rwa [Region.ending_statementLine]
  | block _ _ ht _ ih =>
    rw [List.map_cons, List.append_assoc, List.map_append] at hu
    obtain ⟨hline, hu⟩ := List.forall_mem_cons.mp hu
    obtain ⟨hbody, hu⟩ := List.forall_mem_append.mp hu
    rw [relined_region, Region.relined_block ht.isStatement]
    refine List.forall_mem_cons.mpr ⟨hline, List.forall_mem_append.mpr ⟨?_, ih hu⟩⟩
    exact ht.uniform_blockLines hbody hs

theorem Region.Taken.eq_nil_of_endsWithBreak {rest : List RawLine}
    (ht : Taken indentation style above variant header body r)
    (hscan : RawLine.Scannable (body.map Line.toRawLine ++ rest)) (he : r.endsWithBreak = false) :
    rest = [] := by
  have hlast := ht.endsWithBreak
  rw [he] at hlast
  obtain ⟨last, hl, hending⟩ := Option.map_eq_some_iff.mp hlast
  obtain ⟨front, rfl⟩ := List.getLast?_eq_some_iff.mp hl
  rw [List.map_append, List.append_assoc] at hscan
  obtain ⟨-, -, hrest⟩ := hscan.right
  have hnone : last.ending = none := by simpa using hending
  rw [hnone] at hrest
  exact hrest.2

theorem Region.unbroken_statementLine {raw : RawLine}
    (hfits : ∀ code, result = some (.formatted code) → FitsStatement code)
    (hu : raw.content.Unbroken) (hne : raw.content ≠ []) :
    (r.statementLine raw result).content.Unbroken ∧ (r.statementLine raw result).content ≠ [] := by
  rcases RegionResult.formatted_or_kept result with ⟨code, rfl⟩ | hkept
  · obtain ⟨t, rfl, ht, ⟨first, hfirst, -⟩, -⟩ := hfits code rfl
    rw [statementLine, unterminated_concat]
    constructor
    · rw [Text.unbroken_append, Text.unbroken_append]
      exact ⟨⟨fun u hu' => hu u (List.mem_of_mem_take hu'), ht⟩,
        fun u hu' => hu u (List.mem_of_mem_drop hu')⟩
    · intro hnil
      simp only [List.append_eq_nil_iff] at hnil
      rw [hnil.1.2] at hfirst
      cases hfirst
  · rw [statementLine_of_ne_formatted hkept]
    exact ⟨hu, hne⟩

theorem Region.Taken.scannable_blockLines_append {rest rest' : List RawLine}
    (ht : Taken indentation style above variant header body r)
    (hu : RawLine.Uniform e (body.map Line.toRawLine)) (hs : style.dominant = e)
    (hfits : ∀ code, result = some (.formatted code) → FitsBlock tabWidth behind code)
    (hscan : RawLine.Scannable (body.map Line.toRawLine ++ rest))
    (hrest : RawLine.Scannable rest') (he : RawLine.Uniform e rest')
    (hnil : rest = [] → rest' = []) : RawLine.Scannable (r.blockLines result ++ rest') := by
  rcases RegionResult.formatted_or_kept result with ⟨code, rfl⟩ | hkept
  · have hfits := hfits code rfl
    obtain ⟨hunbroken, hcontents⟩ := lines_of_code hfits.unbroken hfits.ends
    obtain ⟨last, hlast, hblank⟩ := hfits.last
    have hgetLast : (Text.splitOn lineFeed (unterminated code)).getLast? = some last.content := by
      rw [← hcontents, List.getLast?_map, hlast]
      rfl
    have hm : ∀ u ∈ r.margin, u.isIndent := ht.margin ▸ isIndent_of_mem_bodyMargin
    have hbreak : r.lineBreak = e := ht.lineBreak.trans (breakOf_of_uniform hu fun _ => hs)
    exact scannable_margined_append hm hunbroken hgetLast hblank
      (fun hends => hnil (ht.eq_nil_of_endsWithBreak hscan hends)) hrest (hbreak ▸ he)
  · rw [blockLines_of_ne_formatted hkept, ht.map_raw]
    exact hscan.append_congr hrest (List.forall_mem_append.mpr ⟨hu, he⟩) hnil

theorem Reads.scannable_relined (h : Reads indentation style s below rs)
    (hu : RawLine.Uniform e (below.map Line.toRawLine)) (hs : style.dominant = e)
    (hscan : RawLine.Scannable (below.map Line.toRawLine))
    (hfits : Fitting tabWidth lines results id (rs.filterMap Reading.region)) :
    RawLine.Scannable (relined results id rs) := by
  induction h generalizing id with
  | nil => exact hscan
  | @host s line below rs hr h ih =>
    have hreads : Reads indentation style s (line :: below) _ := .host hr h
    have huniform : RawLine.Uniform e (relined results id _) := hreads.uniform_relined hu hs
    obtain ⟨-, hu⟩ := List.forall_mem_cons.mp hu
    refine RawLine.Scannable.append_congr (a := [line.toRawLine]) hscan
      (ih hu hscan.2.1 hfits) huniform fun hnil => ?_
    rw [List.map_eq_nil_iff] at hnil
    subst hnil
    exact h.relined_nil
  | @statement s line column code stop below rs hr h ih =>
    have hreads : Reads indentation style s (line :: below) _ := .statement hr h
    have huniform : RawLine.Uniform e (relined results id _) := hreads.uniform_relined hu hs
    obtain ⟨-, hu⟩ := List.forall_mem_cons.mp hu
    obtain ⟨hfit, hfits⟩ := fitting_cons.mp hfits
    obtain ⟨hline, hscan, hending⟩ := hscan
    rw [relined_region, Region.relined_statement rfl] at huniform ⊢
    obtain ⟨hunbroken, hne⟩ := Region.unbroken_statementLine
      (r := .ofStatement line code stop)
      (fun code hcode => (Region.fits_statement rfl).mp (hfit code hcode)) hline
      (Introducer.content_ne_nil_of_recognize (by simp) hr)
    refine RawLine.scannable_cons hunbroken (fun hn => ⟨hne, ?_⟩) (ih hu hscan hfits) huniform
    have hnone : line.ending = none := Region.ending_statementLine.symm.trans hn
    rw [hnone] at hending
    obtain rfl := List.map_eq_nil_iff.mp hending.2
    exact h.relined_nil
  | @block s line header colon body blanks left region rs hr he ht h ih =>
    have hreads : Reads indentation style s (line :: (body ++ blanks ++ left)) _ :=
      .block hr he ht h
    have huniform : RawLine.Uniform e (relined results id _) := hreads.uniform_relined hu hs
    obtain ⟨hfit, hfits⟩ := fitting_cons.mp hfits
    rw [List.map_cons, List.append_assoc, List.map_append] at hu hscan
    obtain ⟨-, hu⟩ := List.forall_mem_cons.mp hu
    obtain ⟨hbody, hu⟩ := List.forall_mem_append.mp hu
    have hrest := ih hu hscan.2.1.right hfits
    have hnil : (blanks ++ left).map Line.toRawLine = [] → relined results (id + 1) rs = [] := by
      intro hnil
      rw [List.map_eq_nil_iff.mp hnil] at h
      exact h.relined_nil
    rw [relined_region, Region.relined_block ht.isStatement] at huniform ⊢
    have hbehind := ht.scannable_blockLines_append hbody hs
      (fun code hcode => (Region.fits_block ht.isStatement).mp (hfit code hcode)) hscan.2.1 hrest
      (h.uniform_relined hu hs) hnil
    refine RawLine.Scannable.append_congr (a := [line.toRawLine]) hscan hbehind huniform ?_
    intro hnone
    exact absurd (List.map_eq_nil_iff.mp (List.append_eq_nil_iff.mp hnone).1) he.ne_nil

-- ---------------------------------------------------------------------------
-- Reading the lines that come back
-- ---------------------------------------------------------------------------

theorem Reads.exists_blanks (h : Reads indentation style s (blanks ++ left) rs)
    (hb : ∀ line ∈ blanks, line.isBlank) (hbelow : below'.map Line.toRawLine = relined results id rs) :
    ∃ blanks' left', below' = blanks' ++ left' ∧
      blanks'.map Line.toRawLine = blanks.map Line.toRawLine ∧ Region.SameHead left left' := by
  obtain ⟨s', rs', hr, -, heq⟩ := h.relined_blanks results id hb
  rw [heq] at hbelow
  obtain ⟨blanks', left', rfl, hblanks, hleft⟩ := List.map_eq_append_iff.mp hbelow
  refine ⟨blanks', left', rfl, hblanks, ?_⟩
  cases left with
  | nil =>
    rw [hr.relined_nil, List.map_eq_nil_iff] at hleft
    rw [hleft, Region.SameHead]
  | cons line left =>
    obtain ⟨raw, more, hraw, hindent, hblank, -⟩ := hr.relined_cons results id
    rw [hraw] at hleft
    obtain ⟨line', left', rfl, rfl, -⟩ := List.map_eq_cons_iff.mp hleft
    simp [Region.SameHead, hindent, hblank]

/-- The lines of a document with results that fit are read as they were, wherever they stand. -/
theorem Reads.again (h : Reads indentation style s below rs) (hl : lines.drop n = below)
    (hp : Line.Placed n offset below)
    (hfits : Fitting indentation.tabWidth lines results id (rs.filterMap Reading.region))
    (hbelow : below'.map Line.toRawLine = relined results id rs) :
    ∃ rs', Reads indentation style' s below' rs' ∧
      relined results id rs' = relined results id rs ∧
      List.Forall₂ (fun x r' => Region.Refound results[x.2]?.join x.1 r')
        ((rs.filterMap Reading.region).zipIdx id) (rs'.filterMap Reading.region) := by
  induction h generalizing n offset id below' with
  | nil =>
    obtain rfl := List.map_eq_nil_iff.mp hbelow
    exact ⟨[], .nil, rfl, .nil⟩
  | @host s line below rs hr h ih =>
    obtain ⟨rfl, -, hp⟩ := hp
    obtain ⟨-, hl⟩ := drop_eq_cons_iff.mp hl
    obtain ⟨line', below', rfl, hline, hbelow⟩ := List.map_eq_cons_iff.mp hbelow
    obtain ⟨rs', hreads, hrelined, hregions⟩ := ih hl hp hfits hbelow
    have hcontent : line'.content = line.content := by rw [hline]
    refine ⟨⟨line', s, none⟩ :: rs', .host ?_ ?_, ?_, hregions⟩
    · rw [hcontent]
      exact Introducer.recognize_congr hcontent.symm hr
    · rwa [hcontent]
    · rw [relined_host, relined_host, hline, hrelined]
  | @statement s line column code stop below rs hr h ih =>
    obtain ⟨rfl, -, hp⟩ := hp
    obtain ⟨-, hl⟩ := drop_eq_cons_iff.mp hl
    obtain ⟨hfit, hfits⟩ := fitting_cons.mp hfits
    rw [relined_region, Region.relined_statement rfl] at hbelow
    obtain ⟨line', below', rfl, hline, hbelow⟩ := List.map_eq_cons_iff.mp hbelow
    obtain ⟨rs', hreads, hrelined, hregions⟩ := ih hl hp hfits hbelow
    obtain ⟨stop', hrecognize, hrefound, hsame, -, -⟩ := Region.refound_statement
      (fun code hcode => (Region.fits_statement rfl).mp (hfit code hcode)) hr hline
    refine ⟨⟨line', s, some (.ofStatement line' code stop')⟩ :: rs', .statement hrecognize hreads,
      ?_, .cons hrefound hregions⟩
    rw [relined_region, relined_region, Region.relined_statement rfl, Region.relined_statement rfl,
      hsame, hline, hrelined]
  | @block s line header colon body blanks left region rs hr he ht h ih =>
    obtain ⟨rfl, -, hp⟩ := hp
    obtain ⟨-, hl⟩ := drop_eq_cons_iff.mp hl
    obtain ⟨hfit, hfits⟩ := fitting_cons.mp hfits
    rw [List.append_assoc] at hl hp
    obtain ⟨hbody, hp⟩ := Line.placed_append.mp hp
    have hbehind := ht.drop_nextLine hbody hl
    rw [← ht.nextLine hbody] at hp
    rw [relined_region, Region.relined_block ht.isStatement] at hbelow
    obtain ⟨line', below', rfl, hline, hbelow⟩ := List.map_eq_cons_iff.mp hbelow
    obtain ⟨body', rest', rfl, hbody', hrest⟩ := List.map_eq_append_iff.mp hbelow
    -- the lines below come first, since the block ends where they leave it
    obtain ⟨rs', hreads, hrelined, hregions⟩ := ih hbehind hp hfits hrest
    obtain ⟨blanks', left', rfl, hblanks, hleft⟩ := h.exists_blanks he.blank hrest
    have hindent : line'.indent = line.indent := by rw [hline]
    have hcontent : line'.content = line.content := by rw [hline]
    rw [hbehind] at hfit
    obtain ⟨r', ht', he', hrefound, hlines⟩ := ht.again he
      (fun code hcode => (Region.fits_block ht.isStatement).mp (hfit code hcode)) hindent hbody'
      hblanks hleft
    have hrecognize : Introducer.recognize line' s (lexLine .host s line'.content).tokens =
        .ok (.block header colon) := by
      rw [hcontent]
      exact Introducer.recognize_congr hcontent.symm hr
    refine ⟨⟨line', s, some r'⟩ :: rs', ?_, ?_, .cons hrefound hregions⟩
    · rw [← List.append_assoc]
      exact .block hrecognize (hindent ▸ he') ht' hreads
    · rw [relined_region, relined_region, Region.relined_block ht.isStatement,
        Region.relined_block ht'.isStatement, hline, hlines, hrelined]

-- ---------------------------------------------------------------------------
-- Splicing and reading again
-- ---------------------------------------------------------------------------

theorem Substantial.refound {regions' : List Region} (h : Substantial results id regions)
    (hregions : List.Forall₂ (fun x r' => Region.Refound results[x.2]?.join x.1 r')
      (regions.zipIdx id) regions') : Substantial results id regions' := by
  induction regions generalizing id regions' with
  | nil =>
    cases hregions
    exact h
  | cons r regions ih =>
    rw [List.zipIdx_cons] at hregions
    obtain ⟨hr, h⟩ := substantial_cons.mp h
    cases hregions with
    | cons hrefound hregions =>
      refine substantial_cons.mpr ⟨fun hb => hr ?_, ih h hregions⟩
      rwa [Region.isStatement, ← hrefound.form]

end

/-- A document whose breaks are of one kind is cut into the same regions again after its regions
were given code that fits: each has the form, the indentation of its introducer, and the margin
that it had, and its code is the code it was given, or that it had if it was given none. Splicing
the same results once more gives the same text. -/
theorem Partition.build_splice {indentation : Indentation} {t : Text} {p : Partition}
    {results : List (Option RegionResult)} (h : build indentation (.ofText t) = .ok p)
    (hmixed : (Document.ofText t).style.mixed = false)
    (hfits : ∀ (i : Nat) (r : Region) (code : Text), p.regions[i]? = some r →
      results[i]? = some (some (.formatted code)) →
      r.Fits indentation.tabWidth ((Line.scan t).drop r.nextLine) code) :
    ∃ p', build indentation (.ofText (p.splice results)) = .ok p' ∧
      p'.regions.length = p.regions.length ∧
      (∀ (i : Nat) (r r' : Region), p.regions[i]? = some r → p'.regions[i]? = some r' →
        Region.Refound results[i]?.join r r') ∧
      p'.splice results = p.splice results := by
  have hfitting : Fitting indentation.tabWidth (Line.scan t) results 0 p.regions := by
    intro x hx code hcode
    exact hfits x.2 x.1 code (List.mem_zipIdx_iff_getElem?.mp hx) (Option.join_eq_some_iff.mp hcode)
  have hsubstantial := hfitting.substantial
  obtain ⟨rs, hreads, hp⟩ := build_eq_ok_iff.mp h
  have hregions : p.regions = rs.filterMap Reading.region := by rw [hp]
  have hsplice := splice_eq_join h hreads hregions hsubstantial
  rw [hregions] at hfitting hsubstantial
  have hu := LineStyle.uniform_dominant hmixed
  have hscan := Line.scannable_scan t
  have hlines : (Line.scan (p.splice results)).map Line.toRawLine = relined results 0 rs := by
    rw [Line.map_toRawLine_scan, hsplice]
    exact RawLine.split_join (hreads.scannable_relined hu rfl hscan hfitting)
  obtain ⟨rs', hreads', hrelined, hrefound⟩ : ∃ rs',
      Reads indentation (Document.ofText (p.splice results)).style .initial
        (Line.scan (p.splice results)) rs' ∧ _ :=
    hreads.again rfl (Line.placed_scan t) hfitting hlines
  have hbuild := build_eq_ok_iff.mpr ⟨rs', hreads', rfl⟩
  refine ⟨_, hbuild, ?_, ?_, ?_⟩
  · rw [hregions]
    simpa using hrefound.length_eq.symm
  · intro i r r' hr hr'
    rw [hregions] at hr
    have hzip : ((rs.filterMap Reading.region).zipIdx 0)[i]? = some (r, i) := by
      simp [List.getElem?_zipIdx, hr]
    obtain ⟨hlt, hget⟩ := List.getElem?_eq_some_iff.mp hzip
    obtain ⟨hlt', hget'⟩ := List.getElem?_eq_some_iff.mp hr'
    have hrefound := hrefound.get hlt hlt'
    rw [List.get_eq_getElem, List.get_eq_getElem, hget, hget'] at hrefound
    exact hrefound
  · rw [splice_eq_join hbuild hreads' rfl (hsubstantial.refound hrefound), hrelined, hsplice]

theorem Partition.build_splice_statement_block :
    ∃ p p', build ⟨.reject, 4⟩ (.ofText (text "$ a=1\npython:\n    b=2\n")) = .ok p ∧
      build ⟨.reject, 4⟩ (.ofText (text "$ a = 1\npython:\n    b = 2\n")) = .ok p' ∧
      p'.regions.length = 2 ∧
      p'.splice [some (.formatted (text "a = 1\n")), some (.formatted (text "b = 2\n"))] =
        text "$ a = 1\npython:\n    b = 2\n" := by
  have hbuild : (build ⟨.reject, 4⟩ (.ofText (text "$ a=1\npython:\n    b=2\n"))).map
      (fun p => (p.regions.map fun r => (r.isStatement, r.nextLine),
        p.splice [some (.formatted (text "a = 1\n")), some (.formatted (text "b = 2\n"))])) =
      .ok ([(true, 1), (false, 3)], text "$ a = 1\npython:\n    b = 2\n") := by cbv
  obtain ⟨p, hp, hregions⟩ := map_eq_ok_iff.mp hbuild
  obtain ⟨hregions, hsplice⟩ := Prod.mk.inj hregions
  have hlength : p.regions.length = 2 := by simpa using congrArg List.length hregions
  have hfits : ∀ (i : Nat) (r : Region) (code : Text), p.regions[i]? = some r →
      [some (RegionResult.formatted (text "a = 1\n")), some (.formatted (text "b = 2\n"))][i]? =
        some (some (.formatted code)) →
      r.Fits 4 ((Line.scan (text "$ a=1\npython:\n    b=2\n")).drop r.nextLine) code := by
    intro i r code hr hcode
    have hregion := congrArg (·[i]?) hregions
    simp only [List.getElem?_map, hr, Option.map_some] at hregion
    rcases i with _ | _ | i
    · obtain ⟨hstatement, -⟩ := Prod.mk.inj (Option.some.inj hregion)
      cases hcode
      exact (Region.fits_statement hstatement).mpr
        ⟨text "a = 1", rfl, by decide, ⟨_, rfl, by decide, by decide⟩, _, rfl, by decide⟩
    · obtain ⟨hblock, hnext⟩ := Prod.mk.inj (Option.some.inj hregion)
      cases hcode
      have hcode : Region.BlockCode (text "b = 2" ++ [lineFeed]) :=
        Region.blockCode_line (by decide) (by decide) (by decide)
      refine (Region.fits_block hblock).mpr ⟨hcode, by cbv, ?_⟩
      have hbehind : (Line.scan (text "$ a=1\npython:\n    b=2\n")).drop 3 = [] := by cbv
      rw [hnext, hbehind]
      rintro ⟨line, hm, -⟩
      cases hm
    · cases hcode
  obtain ⟨p', hp', hlength', -, hagain⟩ := build_splice hp (by cbv) hfits
  rw [hsplice] at hp' hagain
  exact ⟨p, p', hp, hp', hlength'.trans hlength, hagain⟩

/-- Code that is all indented is found at a wider margin, and code that leaves a bracket open makes
the line that leaves the block an error. -/
theorem Partition.blockCode_not_refound :
    (Region.BlockCode (text "  x\n") ∧
      ∃ p p', build ⟨.reject, 4⟩ (.ofText (text "python:\n    a\n")) = .ok p ∧
        build ⟨.reject, 4⟩ (.ofText (p.splice [some (.formatted (text "  x\n"))])) = .ok p' ∧
        p.regions.map (·.margin) = [text "    "] ∧
        p'.regions.map (·.margin) = [text "      "]) ∧
    (Region.BlockCode (text "x = (\n") ∧
      ∃ p, build ⟨.reject, 4⟩ (.ofText (text "python:\n    a\n$ b\n")) = .ok p ∧
        p.regions.length = 2 ∧
        build ⟨.reject, 4⟩ (.ofText (p.splice [some (.formatted (text "x = (\n"))])) =
          .error ⟨.indentation .openDedent, 3, 1⟩) := by
  have hindented : Region.BlockCode (text "  x" ++ [lineFeed]) :=
    Region.blockCode_line (by decide) (by decide) (by decide)
  have hopen : Region.BlockCode (text "x = (" ++ [lineFeed]) :=
    Region.blockCode_line (by decide) (by decide) (by decide)
  refine ⟨⟨hindented, ?_⟩, hopen, ?_⟩
  · have hbuild : (build ⟨.reject, 4⟩ (.ofText (text "python:\n    a\n"))).map
        (fun p => (p.regions.map (·.margin), p.splice [some (.formatted (text "  x\n"))])) =
        .ok ([text "    "], text "python:\n      x\n") := by cbv
    have hagain : (build ⟨.reject, 4⟩ (.ofText (text "python:\n      x\n"))).map
        (fun p => p.regions.map (·.margin)) = .ok [text "      "] := by cbv
    obtain ⟨p, hp, hregions⟩ := map_eq_ok_iff.mp hbuild
    obtain ⟨hmargin, hsplice⟩ := Prod.mk.inj hregions
    obtain ⟨p', hp', hmargin'⟩ := map_eq_ok_iff.mp hagain
    exact ⟨p, p', hp, by rw [hsplice, hp'], hmargin, hmargin'⟩
  · have hbuild : (build ⟨.reject, 4⟩ (.ofText (text "python:\n    a\n$ b\n"))).map
        (fun p => (p.regions.length, p.splice [some (.formatted (text "x = (\n"))])) =
        .ok (2, text "python:\n    x = (\n$ b\n") := by cbv
    have hagain : build ⟨.reject, 4⟩ (.ofText (text "python:\n    x = (\n$ b\n")) =
        .error ⟨.indentation .openDedent, 3, 1⟩ := by cbv
    obtain ⟨p, hp, hregions⟩ := map_eq_ok_iff.mp hbuild
    obtain ⟨hlength, hsplice⟩ := Prod.mk.inj hregions
    exact ⟨p, hp, hlength, by rw [hsplice, hagain]⟩

end Inlay
