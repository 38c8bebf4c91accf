import Inlay.Proofs.Batches
import Inlay.Proofs.Changes
import Inlay.Proofs.Places
import Inlay.Proofs.Spacing

/-!
# Formatting again

What the engine that spaces assignments makes of a document is formatted once more. A region that
the engine failed on is found as it was and fails again. One that was formatted comes back as it is
exactly if its code rests where it was put (`Region.Rests`): the code of a statement does not begin
with a space, which would become part of the gap behind the marker, and the code of a block is at
its own margin and closes the block. A region is `Steady` if the engine leaves it as it is, so what
is to be shown is that the regions found in the output are steady exactly if those they come from
rest (`Reads.readsAll_steady_iff`). A document is left as it is exactly if its regions are steady
(`formatDocument_unchanged_iff`), and `formatText_again_iff` puts both together.
-/

namespace Inlay

open CodeUnit

-- ---------------------------------------------------------------------------
-- Reading regions with a property
-- ---------------------------------------------------------------------------

/-- Lines that are read, all of their regions with a property. -/
def ReadsAll (P : Region → Prop) (indentation : Indentation) (style : LineStyle) (s : LexState)
    (lines : List Line) : Prop :=
  ∃ rs, Reads indentation style s lines rs ∧ ∀ r ∈ rs.filterMap Reading.region, P r

section

variable {P : Region → Prop} {indentation : Indentation} {style : LineStyle} {s : LexState}
  {line : Line} {below body blanks left : List Line} {header : Header} {column code stop colon : Nat}

theorem readsAll_nil : ReadsAll P indentation style s [] := ⟨[], .nil, by simp⟩

theorem readsAll_host
    (h : Introducer.recognize line s (lexLine .host s line.content).tokens = .ok .none) :
    ReadsAll P indentation style s (line :: below) ↔
      ReadsAll P indentation style (s.after .host line.content) below := by
  constructor
  · rintro ⟨rs, hreads, hall⟩
    generalize hlines : line :: below = lines at hreads
    cases hreads with
    | nil => cases hlines
    | host _ hreads =>
      cases hlines
      exact ⟨_, hreads, hall⟩
    | statement hr =>
      cases hlines
      cases h.symm.trans hr
    | block hr =>
      obtain ⟨rfl, -⟩ := List.cons.inj hlines
      cases h.symm.trans hr
  · rintro ⟨rs, hreads, hall⟩
    exact ⟨_, .host h hreads, hall⟩

theorem readsAll_statement
    (h : Introducer.recognize line s (lexLine .host s line.content).tokens =
      .ok (.statement column code stop)) :
    ReadsAll P indentation style s (line :: below) ↔
      P (.ofStatement line code stop) ∧ ReadsAll P indentation style .initial below := by
  constructor
  · rintro ⟨rs, hreads, hall⟩
    generalize hlines : line :: below = lines at hreads
    cases hreads with
    | nil => cases hlines
    | host hr =>
      cases hlines
      cases h.symm.trans hr
    | statement hr hreads =>
      cases hlines
      cases h.symm.trans hr
      obtain ⟨hfirst, hall⟩ := List.forall_mem_cons.mp hall
      exact ⟨hfirst, _, hreads, hall⟩
    | block hr =>
      obtain ⟨rfl, -⟩ := List.cons.inj hlines
      cases h.symm.trans hr
  · rintro ⟨hfirst, rs, hreads, hall⟩
    exact ⟨_, .statement h hreads, List.forall_mem_cons.mpr ⟨hfirst, hall⟩⟩

theorem readsAll_block
    (h : Introducer.recognize line s (lexLine .host s line.content).tokens =
      .ok (.block header colon))
    (hb : Region.Bounds indentation.tabWidth (Indent.width indentation.tabWidth line.indent)
      body blanks left) :
    ReadsAll P indentation style s (line :: (body ++ blanks ++ left)) ↔
      (∃ r, Region.Extent indentation.tabWidth (Indent.width indentation.tabWidth line.indent)
          body blanks left ∧
        Region.Taken indentation style line header.variant header body r ∧ P r) ∧
      ReadsAll P indentation style .initial (blanks ++ left) := by
  constructor
  · rintro ⟨rs, hreads, hall⟩
    generalize hlines : line :: (body ++ blanks ++ left) = lines at hreads
    cases hreads with
    | nil => cases hlines
    | host hr =>
      cases hlines
      cases h.symm.trans hr
    | statement hr =>
      cases hlines
      cases h.symm.trans hr
    | block hr he ht hreads =>
      obtain ⟨rfl, hbelow⟩ := List.cons.inj hlines
      cases h.symm.trans hr
      obtain ⟨rfl, rfl, rfl⟩ := hb.unique he.bounds hbelow.symm
      obtain ⟨hfirst, hall⟩ := List.forall_mem_cons.mp hall
      exact ⟨⟨_, he, ht, hfirst⟩, _, hreads, hall⟩
  · rintro ⟨⟨r, he, ht, hfirst⟩, rs, hreads, hall⟩
    exact ⟨_, .block h he ht hreads, List.forall_mem_cons.mpr ⟨hfirst, hall⟩⟩

end

namespace Region

open Assignments (formatLine equals)
open StandIn (Unmarked)

-- ---------------------------------------------------------------------------
-- Regions at rest
-- ---------------------------------------------------------------------------

/-- Code that stands where a region was, with some lines behind it, is found there again as it is.
-/
def Rests (r : Region) (tabWidth : Nat) (behind : List Line) (code : Text) : Prop :=
  if r.isStatement then code.head? ≠ some space
  else bodyMargin tabWidth (lexedFrom .initial (Line.scan code)) = [] ∧ Closes behind code

/-- The engine that spaces assignments fails on the region, or leaves it as it is. -/
def Steady (r : Region) : Prop :=
  Unmarked r.code → r.reindent (Assignments.format r.code) = r.restored

/-- The result is what the engine that spaces assignments makes of the region. -/
structure Assigned (r : Region) (result : Option RegionResult) : Prop where
  formatted : Unmarked r.code → result = some (.formatted (Assignments.format r.code))
  kept : ¬ Unmarked r.code → ∀ code, result ≠ some (.formatted code)

section

variable {r : Region} {tabWidth : Nat} {behind : List Line} {code : Text}

theorem rests_statement (h : r.isStatement) :
    r.Rests tabWidth behind code ↔ code.head? ≠ some space := by
  rw [Rests, if_pos h]

theorem rests_block (h : r.isStatement = false) :
    r.Rests tabWidth behind code ↔
      bodyMargin tabWidth (lexedFrom .initial (Line.scan code)) = [] ∧ Closes behind code := by
  rw [Rests, h, if_neg Bool.false_ne_true]

end

-- ---------------------------------------------------------------------------
-- Statements
-- ---------------------------------------------------------------------------

section

variable {line line' : Line} {s : LexState} {column code stop : Nat} {tabWidth : Nat}
  {behind : List Line} {result : Option RegionResult}

theorem head?_statement
    (h : Introducer.recognize line s (lexLine .host s line.content).tokens =
      .ok (.statement column code stop)) {u : CodeUnit}
    (hu : (Text.slice line.content code stop).head? = some u) : u ≠ space ∧ u ≠ tab := by
  obtain ⟨-, w, g, rest, hc, -, -, hrest, -, rfl, -⟩ := Introducer.exists_marker h
  have hdrop : line.content.drop (w.length + 1 + g.length) = rest := by
    rw [hc, ← List.cons_append, ← List.append_assoc]
    exact List.drop_left' (by simp [Nat.add_assoc, Nat.add_comm 1])
  rw [Text.slice, hdrop] at hu
  obtain ⟨behind, hbehind⟩ := List.head?_eq_some_iff.mp hu
  have hprefix := List.take_prefix (stop - (w.length + 1 + g.length)) rest
  rw [hbehind] at hprefix
  obtain ⟨more, rfl⟩ := hprefix
  exact hrest u rfl

theorem code_ofStatement (line : Line) (code stop : Nat) :
    (ofStatement line code stop).code =
      Text.joinWith [lineFeed] [Text.slice line.content code stop] ++ [lineFeed] := rfl

theorem unmarked_ofStatement :
    Unmarked (ofStatement line code stop).code ↔ Unmarked (Text.slice line.content code stop) := by
  rw [code_ofStatement, StandIn.unmarked_joinWith, List.forall_mem_singleton]

theorem isBlank_statement
    (h : Introducer.recognize line s (lexLine .host s line.content).tokens =
      .ok (.statement column code stop)) :
    Text.isBlank (Text.slice line.content code stop) = false := by
  obtain ⟨u, hlast, hu⟩ := Introducer.getLast?_statement h
  exact Text.isBlank_eq_false_of_mem (List.mem_of_getLast? hlast) hu

theorem unbroken_statement (hu : line.content.Unbroken) :
    (Text.slice line.content code stop).Unbroken :=
  fun u hm => hu u (List.mem_of_mem_drop (List.mem_of_mem_take hm))

theorem format_ofStatement (hu : line.content.Unbroken)
    (h : Introducer.recognize line s (lexLine .host s line.content).tokens =
      .ok (.statement column code stop)) :
    Assignments.format (ofStatement line code stop).code =
      formatLine (Text.slice line.content code stop) ++ [lineFeed] := by
  have hline : (Text.slice line.content code stop).Unbroken := unbroken_statement hu
  rw [code_ofStatement, Assignments.format_joinWith _ List.getLast?_singleton (isBlank_statement h)]
  · rfl
  · exact List.forall_mem_singleton.mpr fun hm => (hline _ hm).1 rfl

theorem steady_ofStatement_iff (hu : line.content.Unbroken)
    (h : Introducer.recognize line s (lexLine .host s line.content).tokens =
      .ok (.statement column code stop)) :
    (ofStatement line code stop).Steady ↔ (Unmarked (Text.slice line.content code stop) →
      formatLine (Text.slice line.content code stop) = Text.slice line.content code stop) := by
  have hstatement : (ofStatement line code stop).isStatement := rfl
  rw [Steady, unmarked_ofStatement, format_ofStatement hu h, reindent, unterminated_concat,
    if_pos hstatement, restored_ofStatement]

/-- A statement that was formatted is steady exactly if its code does not begin with a space: that
space would become part of the gap, and formatting puts another one there. -/
theorem exists_steady_iff (hu' : line'.content.Unbroken)
    (h : Introducer.recognize line s (lexLine .host s line.content).tokens =
      .ok (.statement column code stop))
    (hmarked : Unmarked (Text.slice line.content code stop))
    (hline : line'.toRawLine = (ofStatement line code stop).statementLine line.toRawLine
      (some (.formatted (formatLine (Text.slice line.content code stop) ++ [lineFeed])))) :
    ∃ code' stop', Introducer.recognize line' s (lexLine .host s line'.content).tokens =
        .ok (.statement column code' stop') ∧
      ((ofStatement line' code' stop').Steady ↔
        (formatLine (Text.slice line.content code stop)).head? ≠ some space) := by
  have hlast := Assignments.exists_getLast?_formatLine (isBlank_statement h)
  have hmarked := hmarked.formatLine
  have htwice := Assignments.formatLine_formatLine (Text.slice line.content code stop)
  cases hformatted : formatLine (Text.slice line.content code stop) with
  | nil => simp [hformatted] at hlast
  | cons u behind =>
    have hu : u = space ∨ (u ≠ space ∧ u ≠ tab) := by
      refine (Assignments.head?_formatLine (congrArg List.head? hformatted)).imp_right ?_
      exact head?_statement h
    rw [hformatted] at hlast hmarked htwice hline
    rcases hu with rfl | hu
    · obtain ⟨rest, rfl, hrest⟩ := Assignments.exists_of_formatLine
        (fun hhead => (head?_statement h hhead).1 rfl) hformatted
      have hlast : ∃ u, (equals :: rest).getLast? = some u ∧ u.isBlank = false := by
        simpa using hlast
      obtain ⟨hrecognize, hslice, -⟩ := recognize_statementLine (x := [space]) (by simp)
        ⟨equals, rfl, by decide, by decide⟩ hlast h hline
      refine ⟨_, _, hrecognize, ?_⟩
      rw [steady_ofStatement_iff hu' hrecognize, hslice]
      refine iff_of_false (fun hsteady => hrest ?_) (by simp)
      exact Assignments.head?_of_formatLine
        (hsteady (hmarked.mono (List.suffix_cons space _).isInfix))
    · obtain ⟨hrecognize, hslice, -⟩ := recognize_statementLine (x := []) (by simp)
        ⟨u, rfl, hu⟩ hlast h hline
      refine ⟨_, _, hrecognize, ?_⟩
      rw [steady_ofStatement_iff hu' hrecognize, hslice]
      exact iff_of_true (fun _ => htwice) (by simpa using hu.1)

theorem readsAll_steady_statement {indentation : Indentation} {style : LineStyle} {below : List Line}
    (hu : line.content.Unbroken) (hu' : line'.content.Unbroken)
    (h : Introducer.recognize line s (lexLine .host s line.content).tokens =
      .ok (.statement column code stop))
    (hassigned : (ofStatement line code stop).Assigned result)
    (hline : line'.toRawLine = (ofStatement line code stop).statementLine line.toRawLine result) :
    ReadsAll Steady indentation style s (line' :: below) ↔
      (∀ formatted, result = some (.formatted formatted) →
        (ofStatement line code stop).Rests tabWidth behind formatted) ∧
      ReadsAll Steady indentation style .initial below := by
  by_cases hmarked : Unmarked (ofStatement line code stop).code
  · obtain rfl := hassigned.formatted hmarked
    rw [format_ofStatement hu h] at hline ⊢
    obtain ⟨code', stop', hrecognize, hsteady⟩ :=
      exists_steady_iff hu' h (unmarked_ofStatement.mp hmarked) hline
    have hstatement : (ofStatement line code stop).isStatement := rfl
    have hne : formatLine (Text.slice line.content code stop) ≠ [] := by
      simp [Assignments.formatLine_eq_nil_iff, isBlank_statement h]
    rw [readsAll_statement hrecognize, hsteady]
    simp only [Option.some.injEq, RegionResult.formatted.injEq, forall_eq',
      rests_statement hstatement, List.head?_append_of_ne_nil _ hne]
  · have hkept := hassigned.kept hmarked
    obtain ⟨hrecognize, hrefound, -⟩ := refound_statement_kept hkept h hline
    have hsteady : (ofStatement line' code stop).Steady := fun hunmarked =>
      absurd (hrefound.code ▸ hunmarked) (by rwa [resultCode_of_ne_formatted hkept])
    rw [readsAll_statement hrecognize, and_iff_right hsteady,
      and_iff_right fun code hcode => absurd hcode (hkept code)]

end

-- ---------------------------------------------------------------------------
-- Blocks
-- ---------------------------------------------------------------------------

section

variable {indentation : Indentation} {style style' : LineStyle} {above above' : Line}
  {variant : BlockVariant} {header : Header} {body body' blanks blanks' left left' : List Line}
  {lines : List Line} {r r' : Region} {result : Option RegionResult} {width width' : Nat}
  {margin t w : Text} {ts : List Text} {s : LexState} {b : BodyLine} {line : RegionLine}

theorem forall₂_margined (margin : Text) (s : LexState) (ts : List Text) :
    List.Forall₂ (fun t m => ∃ s, m = atMargin margin s t) ts (margined margin s ts) := by
  induction ts generalizing s with
  | nil => exact .nil
  | cons t ts ih => exact .cons ⟨s, rfl⟩ (ih _)

theorem unmarked_atMargin (hm : ∀ u ∈ margin, u.isIndent) (h : Unmarked t) :
    Unmarked (atMargin margin s t) := by
  rw [atMargin]
  split
  · exact (StandIn.unmarked_append_of_isBlank (Text.isBlank_of_isIndent hm)).mpr h
  · exact StandIn.unmarked_nil

theorem Taken.unmarked_code (ht : Taken indentation style above variant header body r)
    (h : ∀ line ∈ body, Unmarked line.content) : Unmarked r.code := by
  rw [ht.code, blockCode, StandIn.unmarked_joinWith, List.forall_mem_map]
  intro line hline
  obtain ⟨b, hb, hdedented⟩ := exists_mem_of_forall₂ ht.lines hline
  obtain ⟨w, hw, hcode⟩ := code_of_dedentLine hdedented
  rw [hcode, StandIn.unmarked_append_of_isBlank (Text.isBlank_of_isIndent (isIndent_of_dedented? hw))]
  split
  · exact StandIn.unmarked_nil
  · exact (h _ (line_mem_of_mem_lexedFrom hb)).mono (List.dropWhile_suffix _).isInfix

theorem spaces_of_dedented? (hp : indentation.policy = .expandTabs)
    (h : dedented? indentation margin b = some w) : ∀ u ∈ w, u = space := by
  obtain hextends | rfl := extends_or_eq_nil h
  · exact hextends.eq_space hp
  · simp

theorem indentation_code (h : dedentLine indentation margin b = .ok line) :
    ∃ w, dedented? indentation margin b = some w ∧ Text.indentation line.code = w := by
  obtain ⟨w, hw, hcode⟩ := code_of_dedentLine h
  refine ⟨w, hw, ?_⟩
  rw [hcode, Text.indentation_append (isIndent_of_dedented? hw)]
  split
  · exact List.append_nil w
  · rw [RawLine.body, Text.indentation_unindented, List.append_nil]

def formattedLines (r : Region) : List Text := (r.lines.map RegionLine.code).map formatLine

theorem Taken.format_code (ht : Taken indentation style above variant header body r)
    (he : Extent indentation.tabWidth width body blanks left)
    (hu : ∀ line ∈ body, line.content.Unbroken) :
    Assignments.format r.code = Text.joinWith [lineFeed] r.formattedLines ++ [lineFeed] := by
  obtain ⟨hunbroken, last, hlast, hblank⟩ := ht.lines_of_code he hu
  rw [ht.code, blockCode]
  exact Assignments.format_joinWith (fun line hline hm => (hunbroken line hline _ hm).1 rfl) hlast
    hblank

theorem Taken.last_formatted (ht : Taken indentation style above variant header body r)
    (he : Extent indentation.tabWidth width body blanks left)
    (hu : ∀ line ∈ body, line.content.Unbroken) :
    (∀ t ∈ r.formattedLines, t.Unbroken) ∧
      ∃ last, r.formattedLines.getLast? = some last ∧ last.isBlank = false := by
  obtain ⟨hunbroken, last, hlast, hblank⟩ := ht.lines_of_code he hu
  refine ⟨List.forall_mem_map.mpr fun t ht => Assignments.unbroken_formatLine (hunbroken t ht),
    formatLine last, ?_, ?_⟩
  · rw [formattedLines, List.getLast?_map, hlast]
    rfl
  · rw [Assignments.isBlank_formatLine, hblank]

theorem Taken.unmarked_formatted (ht : Taken indentation style above variant header body r)
    (h : Unmarked r.code) : ∀ t ∈ r.formattedLines, Unmarked t := by
  rw [ht.code, blockCode, StandIn.unmarked_joinWith] at h
  exact List.forall_mem_map.mpr fun t ht => (h t ht).formatLine

theorem Taken.unmarked_margined (ht : Taken indentation style above variant header body r)
    (h : Unmarked r.code)
    (hcontent : body'.map (·.content) = margined r.margin .initial r.formattedLines) :
    ∀ line ∈ body', Unmarked line.content := by
  intro line hline
  have hmem : line.content ∈ margined r.margin .initial r.formattedLines :=
    hcontent ▸ List.mem_map_of_mem (f := fun line : Line => line.content) hline
  obtain ⟨t, ht', s, hat⟩ :=
    exists_mem_of_forall₂ (forall₂_margined r.margin .initial r.formattedLines) hmem
  rw [hat]
  exact unmarked_atMargin (ht.margin ▸ isIndent_of_mem_bodyMargin) (ht.unmarked_formatted h t ht')

theorem Taken.movable_formatted (ht : Taken indentation style above variant header body r) :
    ∀ b : BodyLine, b.line.content ∈ r.formattedLines → Movable indentation b := by
  intro b hb
  obtain ⟨t, ht', hcontent⟩ := List.mem_map.mp hb
  obtain ⟨line, hline, rfl⟩ := List.mem_map.mp ht'
  obtain ⟨b', -, hdedented⟩ := exists_mem_of_forall₂ ht.lines hline
  obtain ⟨w, hw, hindent⟩ := indentation_code hdedented
  constructor
  · intro hp u hu
    rw [RawLine.indent, ← hcontent] at hu
    refine (Assignments.mem_indentation_formatLine hu).elim id fun hu => ?_
    exact spaces_of_dedented? hp hw u (hindent ▸ hu)
  · intro hblank
    rw [BodyLine.isBlank, RawLine.isBlank, ← hcontent, Assignments.isBlank_formatLine] at hblank
    rw [← hcontent]
    exact .inl (Assignments.formatLine_eq_nil_iff.mpr hblank)

theorem Taken.steady_iff (ht : Taken indentation style above variant header body r)
    (he : Extent indentation.tabWidth width body blanks left)
    (hscan : RawLine.Scannable (body.map Line.toRawLine)) (hunmarked : Unmarked r.code) :
    r.Steady ↔ terminated r.lineBreak r.endsWithBreak
      (margined r.margin .initial r.formattedLines) = body.map Line.toRawLine := by
  have hu : ∀ line ∈ body, line.content.Unbroken :=
    fun line hl => hscan.unbroken (List.mem_map_of_mem hl)
  have hm : ∀ u ∈ r.margin, u.isIndent := ht.margin ▸ isIndent_of_mem_bodyMargin
  obtain ⟨hunbroken, last, hlast, hblank⟩ := ht.last_formatted he hu
  have hcode := scannable_margined_append (r := r) hm hunbroken hlast hblank (fun _ => rfl) trivial
    (by simp [RawLine.Uniform])
  rw [List.append_nil] at hcode
  rw [Steady, imp_iff_right hunmarked, ht.format_code he hu,
    reindent_joinWith ht.isStatement hunbroken hlast hblank, ht.restored, Line.joined,
    RawLine.join_eq_join_iff hcode hscan]

theorem exists_of_margined_eq {margin' t' : Text} {s' : LexState} {ts' : List Text}
    (h : margined margin s ts = margined margin' s' ts') (ht : t' ∈ ts') :
    ∃ t ∈ ts, ∃ s s', atMargin margin s t = atMargin margin' s' t' := by
  have hnew := forall₂_margined margin s ts
  have hold := forall₂_margined margin' s' ts'
  rw [h] at hnew
  have hboth : List.Forall₂ (fun t t' => ∃ s s', atMargin margin s t = atMargin margin' s' t')
      ts ts' := by
    refine forall₂_of_common hnew.flip hold.flip ?_
    rintro m t t' ⟨s, h⟩ ⟨s', h'⟩
    exact ⟨s, s', h.symm.trans h'⟩
  exact exists_mem_of_forall₂ hboth ht

theorem Taken.exists_flush (ht : Taken indentation style above variant header body r)
    (he : Extent indentation.tabWidth width body blanks left) :
    ∃ line ∈ r.lines, Text.isBlank line.code = false ∧
      ∀ u, line.code.head? = some u → u.isIndent = false := by
  obtain ⟨b, hb, hblank, hindent⟩ := he.bounds.exists_bodyMargin
  rw [← ht.margin] at hindent
  obtain ⟨line, hline, hdedented⟩ := exists_mem_of_forall₂ ht.lines.flip hb
  refine ⟨line, hline, (Region.isBlank_code hdedented).trans hblank, fun u hu => ?_⟩
  have hw : dedented? indentation r.margin b = some [] :=
    dedented?_append (by simp [hblank]) (by rw [hindent, List.append_nil]) (by simp)
  obtain ⟨w, hw', hcode⟩ := code_of_dedentLine hdedented
  cases hw.symm.trans hw'
  rw [hblank, if_neg Bool.false_ne_true, List.nil_append] at hcode
  rw [hcode] at hu
  obtain ⟨behind, hbehind⟩ := List.head?_eq_some_iff.mp hu
  exact Text.not_isIndent_of_unindented hbehind

/-- No line of a block can be given more of a margin than it had, for the line that the margin is of
has nothing of its own in front. -/
theorem Taken.margin_eq_of_margined (ht : Taken indentation style above variant header body r)
    (he : Extent indentation.tabWidth width body blanks left)
    {margin x : Text} {lines : List Text} (hx : ∀ u ∈ x, u.isIndent) (hmargin : margin = r.margin ++ x)
    (hsame : margined margin .initial (lines.map formatLine) =
      margined r.margin .initial r.formattedLines) : margin = r.margin := by
  have hm : ∀ u ∈ margin, u.isIndent := by
    rw [hmargin, List.forall_mem_append]
    exact ⟨ht.margin ▸ isIndent_of_mem_bodyMargin, hx⟩
  obtain ⟨line, hline, hfull, hfirst⟩ := ht.exists_flush he
  have hmem : formatLine line.code ∈ r.formattedLines :=
    List.mem_map_of_mem (List.mem_map_of_mem hline)
  obtain ⟨formatted, hformatted, s, s', hat⟩ := exists_of_margined_eq hsame hmem
  obtain ⟨t, -, rfl⟩ := List.mem_map.mp hformatted
  have hfull : Text.isBlank (formatLine line.code) = false :=
    (Assignments.isBlank_formatLine _).trans hfull
  rw [atMargin_of_not_isBlank hfull] at hat
  have hfull' : Text.isBlank (formatLine t) = false := by
    rw [← isBlank_atMargin (s := s) hm, hat, Text.isBlank_append, hfull, Bool.and_false]
  rw [atMargin_of_not_isBlank hfull', hmargin, List.append_assoc] at hat
  have hnil := Assignments.eq_nil_of_formatLine_append hx hfirst (List.append_cancel_left hat).symm
  rw [hmargin, hnil, List.append_nil]

theorem Taken.margin_of_steady (ht : Taken indentation style above variant header body r)
    (he : Extent indentation.tabWidth width body blanks left)
    (ht' : Taken indentation style' above' variant header body' r')
    (he' : Extent indentation.tabWidth width' body' blanks' left')
    (hscan' : RawLine.Scannable (body'.map Line.toRawLine))
    (hcontent : body'.map (·.content) = margined r.margin .initial r.formattedLines)
    (hmoved : List.Forall₂ (Remargined r.margin) (lexedFrom .initial lines)
      (lexedFrom .initial body'))
    (hunmarked : Unmarked r'.code) (hsteady : r'.Steady) : r'.margin = r.margin := by
  have hm : ∀ u ∈ r.margin, u.isIndent := ht.margin ▸ isIndent_of_mem_bodyMargin
  have hsame := congrArg (List.map RawLine.content)
    ((ht'.steady_iff he' hscan' hunmarked).mp hsteady)
  rw [map_content_terminated, Line.map_content_toRawLine, hcontent] at hsame
  obtain ⟨b', hb', hblank, hindent⟩ := he'.bounds.exists_bodyMargin
  obtain ⟨b, -, hb⟩ := exists_mem_of_forall₂ hmoved hb'
  rw [hb.indent hm ((hb.isBlank hm).symm.trans hblank), ← ht'.margin] at hindent
  exact ht.margin_eq_of_margined he (RawLine.isIndent_of_mem_indent _) hindent hsame

theorem Taken.exists_steady (ht : Taken indentation style above variant header body r)
    (he' : Extent indentation.tabWidth width body' blanks' left')
    (hscan' : RawLine.Scannable (body'.map Line.toRawLine))
    (hbody : body'.map Line.toRawLine =
      terminated r.lineBreak r.endsWithBreak (margined r.margin .initial r.formattedLines))
    (hlines : lines.map (·.content) = r.formattedLines)
    (hmoved : List.Forall₂ (Remargined r.margin) (lexedFrom .initial lines)
      (lexedFrom .initial body'))
    (hmargin : bodyMargin indentation.tabWidth (lexedFrom .initial body') = r.margin)
    (hmarks : ∀ line ∈ body', Unmarked line.content) :
    ∃ r', Taken indentation style' above' variant header body' r' ∧ r'.Steady := by
  have hm : ∀ u ∈ r.margin, u.isIndent := ht.margin ▸ isIndent_of_mem_bodyMargin
  have hyields : List.Forall₂ (Yields indentation r.margin) (lexedFrom .initial body')
      r.formattedLines := by
    have hcontents : (lexedFrom .initial lines).map (·.line.content) = r.formattedLines := by
      rw [map_content_lexedFrom, hlines]
    have hmovable : ∀ b ∈ lexedFrom .initial lines, Movable indentation b := fun b hb =>
      ht.movable_formatted b (hcontents ▸ List.mem_map_of_mem hb)
    rw [← hcontents]
    exact yields_of_movable hm hmovable hmoved
  have hne : r.formattedLines ≠ [] := by
    intro hnil
    rw [hnil, List.forall₂_nil_right_iff, ← List.map_eq_nil_iff, map_line_lexedFrom] at hyields
    exact he'.ne_nil hyields
  obtain ⟨r', ht', -, hlines', hback⟩ : ∃ r', Taken indentation style' above' variant header body'
      r' ∧ _ := exists_margined r hne hbody hmargin hyields
  refine ⟨r', ht', (ht'.steady_iff he' hscan' (ht'.unmarked_code hmarks)).mpr ?_⟩
  have htwice : r'.formattedLines = r.formattedLines := by
    rw [formattedLines, hlines', formattedLines, List.map_map, List.map_map, List.map_map]
    exact List.map_congr_left fun line _ => Assignments.formatLine_formatLine line.code
  rw [htwice, hback]

/-- A block that was formatted is found again and steady exactly if its code rests. -/
theorem Taken.exists_steady_iff (ht : Taken indentation style above variant header body r)
    (he : Extent indentation.tabWidth width body blanks left)
    (hu : ∀ line ∈ body, line.content.Unbroken)
    (hscan' : RawLine.Scannable (body'.map Line.toRawLine)) (hunmarked : Unmarked r.code)
    (hbody : body'.map Line.toRawLine = r.blockLines (some (.formatted (Assignments.format r.code))))
    (hblanks : blanks'.map Line.toRawLine = blanks.map Line.toRawLine)
    (hleft : SameHead left left') :
    Bounds indentation.tabWidth width body' blanks' left' ∧
      ((∃ r', Extent indentation.tabWidth width body' blanks' left' ∧
          Taken indentation style' above' variant header body' r' ∧ r'.Steady) ↔
        r.Rests indentation.tabWidth (blanks ++ left) (Assignments.format r.code)) := by
  have hm : ∀ u ∈ r.margin, u.isIndent := ht.margin ▸ isIndent_of_mem_bodyMargin
  have hlt := he.lt_width_bodyMargin
  rw [← ht.margin] at hlt
  obtain ⟨hunbroken, last, hlast, hblank⟩ := ht.last_formatted he hu
  have hne : r.formattedLines ≠ [] := List.ne_nil_of_mem (List.mem_of_getLast? hlast)
  have hcode := ht.format_code he hu
  have hlines : (Line.scan (Assignments.format r.code)).map (·.content) = r.formattedLines := by
    rw [hcode, map_content_scan_joinWith hne hunbroken]
  obtain ⟨line, hline, hfull⟩ : ∃ line, (Line.scan (Assignments.format r.code)).getLast? =
      some line ∧ line.isBlank = false := by
    rw [← hlines, List.getLast?_map] at hlast
    obtain ⟨line, hline, rfl⟩ := Option.map_eq_some_iff.mp hlast
    exact ⟨line, hline, hblank⟩
  rw [blockLines, hcode, unterminated_concat,
    Text.splitOn_joinWith hne fun t ht hm => (hunbroken t ht _ hm).1 rfl] at hbody
  have hcontent : body'.map (·.content) = margined r.margin .initial r.formattedLines := by
    rw [← Line.map_content_toRawLine, hbody, map_content_terminated]
  have hmarks := ht.unmarked_margined hunmarked hcontent
  have hbounds := he.bounds.again_margined hm hlt hlast hblank hcontent hblanks hleft
  have hscanned := hcontent
  rw [← hlines] at hscanned
  have hmoved := remargined_lexedFrom hm hscanned
  have hmargin : bodyMargin indentation.tabWidth (lexedFrom .initial body') = r.margin ↔ _ :=
    Remargined.bodyMargin_eq_iff hmoved hm (exists_full_lexedFrom hline hfull)
  refine ⟨hbounds, ?_⟩
  rw [rests_block ht.isStatement, ← hmargin,
    ← he.bounds.extent_margined_iff hm hlt hline hfull hscanned hblanks hleft]
  constructor
  · rintro ⟨r', he', ht', hsteady⟩
    refine ⟨?_, he'⟩
    rw [← ht'.margin]
    exact ht.margin_of_steady he ht' he' hscan' hcontent hmoved (ht'.unmarked_code hmarks) hsteady
  · rintro ⟨hmargin, he'⟩
    obtain ⟨r', ht', hsteady⟩ : ∃ r', Taken indentation style' above' variant header body' r' ∧ _ :=
      ht.exists_steady he' hscan' hbody hlines hmoved hmargin hmarks
    exact ⟨r', he', ht', hsteady⟩

theorem Taken.exists_steady_iff_rests (style' : LineStyle)
    (ht : Taken indentation style above variant header body r)
    (he : Extent indentation.tabWidth width body blanks left)
    (hu : ∀ line ∈ body, line.content.Unbroken)
    (hscan' : RawLine.Scannable (body'.map Line.toRawLine)) (hassigned : r.Assigned result)
    (habove : above'.indent = above.indent)
    (hbody : body'.map Line.toRawLine = r.blockLines result)
    (hblanks : blanks'.map Line.toRawLine = blanks.map Line.toRawLine)
    (hleft : SameHead left left') :
    Bounds indentation.tabWidth width body' blanks' left' ∧
      ((∃ r', Extent indentation.tabWidth width body' blanks' left' ∧
          Taken indentation style' above' variant header body' r' ∧ r'.Steady) ↔
        ∀ code, result = some (.formatted code) →
          r.Rests indentation.tabWidth (blanks ++ left) code) := by
  by_cases hmarked : Unmarked r.code
  · obtain rfl := hassigned.formatted hmarked
    simp only [Option.some.injEq, RegionResult.formatted.injEq, forall_eq']
    exact ht.exists_steady_iff he hu hscan' hmarked hbody hblanks hleft
  · have hkept := hassigned.kept hmarked
    obtain ⟨r', ht', he', hrefound, -⟩ : ∃ r', Taken indentation style' above' variant header body'
        r' ∧ _ := ht.again_kept he hkept habove hbody hblanks hleft
    have hsteady : r'.Steady := fun hunmarked =>
      absurd (hrefound.code ▸ hunmarked) (by rwa [resultCode_of_ne_formatted hkept])
    exact ⟨he'.bounds, iff_of_true ⟨r', he', ht', hsteady⟩
      fun code hcode => absurd hcode (hkept code)⟩

end

end Region

-- ---------------------------------------------------------------------------
-- Documents at rest
-- ---------------------------------------------------------------------------

section

variable {indentation : Indentation} {style style' : LineStyle} {s : LexState}
  {lines below below' : List Line} {rs : List Reading} {n offset id : Nat}
  {results : List (Option RegionResult)}

/-- The lines that come out of formatting are read again, and their regions are all steady, exactly
if the formatted ones rest. -/
theorem Reads.readsAll_steady_iff (h : Reads indentation style s below rs)
    (hl : lines.drop n = below) (hp : Line.Placed n offset below)
    (hscan : RawLine.Scannable (below.map Line.toRawLine))
    (hscan' : RawLine.Scannable (relined results id rs))
    (hassigned : ∀ x ∈ (rs.filterMap Reading.region).zipIdx id,
      x.1.Assigned results[x.2]?.join)
    (hbelow : below'.map Line.toRawLine = relined results id rs) :
    ReadsAll Region.Steady indentation style' s below' ↔
      Given (fun r code => r.Rests indentation.tabWidth (lines.drop r.nextLine) code) results id
        (rs.filterMap Reading.region) := by
  induction h generalizing n offset id below' with
  | nil =>
    obtain rfl := List.map_eq_nil_iff.mp hbelow
    exact iff_of_true readsAll_nil (by simp [Given])
  | @host s line below rs hr h ih =>
    obtain ⟨rfl, -, hp⟩ := hp
    obtain ⟨-, hl⟩ := drop_eq_cons_iff.mp hl
    obtain ⟨line', below', rfl, hline, hbelow⟩ := List.map_eq_cons_iff.mp hbelow
    have hcontent : line'.content = line.content := by rw [hline]
    have hrecognize : Introducer.recognize line' s (lexLine .host s line'.content).tokens =
        .ok .none := by
      rw [hcontent]
      exact Introducer.recognize_congr hcontent.symm hr
    rw [readsAll_host hrecognize, hcontent]
    exact ih hl hp hscan.2.1 hscan'.2.1 hassigned hbelow
  | @statement s line column code stop below rs hr h ih =>
    obtain ⟨rfl, -, hp⟩ := hp
    obtain ⟨-, hl⟩ := drop_eq_cons_iff.mp hl
    rw [filterMap_region, List.zipIdx_cons] at hassigned
    obtain ⟨hfirst, hassigned⟩ := List.forall_mem_cons.mp hassigned
    rw [relined_region, Region.relined_statement rfl] at hbelow hscan'
    obtain ⟨line', below', rfl, hline, hbelow⟩ := List.map_eq_cons_iff.mp hbelow
    have hu' : line'.content.Unbroken := by
      rw [hline]
      exact hscan'.1
    rw [filterMap_region, given_cons, Region.readsAll_steady_statement hscan.1 hu' hr hfirst hline,
      ih hl hp hscan.2.1 hscan'.2.1 hassigned hbelow]
  | @block s line header colon body blanks left region rs hr he ht h ih =>
    obtain ⟨rfl, -, hp⟩ := hp
    obtain ⟨-, hl⟩ := drop_eq_cons_iff.mp hl
    rw [filterMap_region, List.zipIdx_cons] at hassigned
    obtain ⟨hfirst, hassigned⟩ := List.forall_mem_cons.mp hassigned
    rw [List.map_cons, List.append_assoc, List.map_append] at hscan
    rw [List.append_assoc] at hl hp
    obtain ⟨hbody, hp⟩ := Line.placed_append.mp hp
    have hbehind := ht.drop_nextLine hbody hl
    rw [← ht.nextLine hbody] at hp
    rw [relined_region, Region.relined_block ht.isStatement] at hbelow hscan'
    obtain ⟨line', below', rfl, hline, hbelow⟩ := List.map_eq_cons_iff.mp hbelow
    obtain ⟨body', rest', rfl, hbody', hrest⟩ := List.map_eq_append_iff.mp hbelow
    obtain ⟨blanks', left', rfl, hblanks, hleft⟩ := h.exists_blanks he.blank hrest
    have hu : ∀ line ∈ body, line.content.Unbroken :=
      fun line hm => hscan.2.1.left.unbroken (List.mem_map_of_mem hm)
    have hscanned : RawLine.Scannable (body'.map Line.toRawLine) := hbody' ▸ hscan'.2.1.left
    have hindent : line'.indent = line.indent := by rw [hline]
    have hcontent : line'.content = line.content := by rw [hline]
    have hrecognize : Introducer.recognize line' s (lexLine .host s line'.content).tokens =
        .ok (.block header colon) := by
      rw [hcontent]
      exact Introducer.recognize_congr hcontent.symm hr
    obtain ⟨hbounds, hsteady⟩ :=
      ht.exists_steady_iff_rests style' he hu hscanned hfirst hindent hbody' hblanks hleft
    rw [← hindent] at hbounds hsteady
    rw [filterMap_region, given_cons, ← List.append_assoc, readsAll_block hrecognize hbounds,
      hsteady, ih hbehind hp hscan.2.1.right hscan'.2.1.right hassigned hrest, hbehind]

end

-- ---------------------------------------------------------------------------
-- What the engine makes of a document
-- ---------------------------------------------------------------------------

section

variable {indentation : Indentation} {t : Text} {p : Partition} {r : Region}
  {results : List (Option RegionResult)} {result : RegionResult} {transform : Text → Answer}
  {call : EngineCall} {limit : PoolLimit} {options : PipelineOptions} {file : Text}

theorem Region.cleaned_format {lines : List Text} {last : Text}
    (hcode : r.code = Text.joinWith [lineFeed] lines ++ [lineFeed])
    (hu : ∀ line ∈ lines, line.Unbroken) (hlast : lines.getLast? = some last)
    (hblank : last.isBlank = false) (hline : r.isStatement → lines = [last]) :
    r.Cleaned (Assignments.format r.code) := by
  have hformatted : ∀ t ∈ lines.map Assignments.formatLine, t.Unbroken :=
    List.forall_mem_map.mpr fun line hm => Assignments.unbroken_formatLine (hu line hm)
  obtain ⟨u, hlast', hu'⟩ := Assignments.exists_getLast?_formatLine hblank
  rw [hcode, Assignments.format_joinWith (fun line hm hbreak => (hu line hm _ hbreak).1 rfl) hlast
    hblank]
  refine ⟨?_, by simp, ⟨u, ?_, hu'⟩, fun hs => ?_⟩
  · rw [List.mem_append, not_or]
    exact ⟨Text.not_mem_joinWith (by decide) fun t ht hm => (hformatted t ht _ hm).2 rfl, by decide⟩
  · rw [unterminated_concat]
    refine Text.getLast?_joinWith ?_ hlast'
    rw [List.getLast?_map, hlast]
    rfl
  · obtain rfl := hline hs
    rw [unterminated_concat]
    exact fun hm => (hformatted _ (List.mem_singleton_self _) _ hm).1 rfl

theorem Partition.cleaned_format (h : build indentation (.ofText t) = .ok p) (hr : r ∈ p.regions) :
    r.Cleaned (Assignments.format r.code) := by
  cases hs : r.isStatement with
  | true =>
    obtain ⟨line, s, column, code, stop, hrecognize, rfl⟩ := statement_of_mem h hr hs
    have hbody := unbroken_body h hr (List.mem_singleton_self _)
    exact Region.cleaned_format (Region.code_ofStatement line code stop)
      (List.forall_mem_singleton.mpr hbody) List.getLast?_singleton
      (Region.isBlank_statement hrecognize) fun _ => rfl
  | false =>
    obtain ⟨above, line, header, body, blanks, left, hlines, he, ht⟩ := block_of_mem h hr hs
    change Line.scan t = _ at hlines
    obtain ⟨hunbroken, last, hlast, hblank⟩ := ht.lines_of_code he
      fun line hm => Line.unbroken_of_mem_scan (t := t) (by simp [hlines, hm])
    refine Region.cleaned_format (ht.code.trans (Region.blockCode.eq_1 _)) hunbroken hlast hblank ?_
    simp [hs]

theorem Engine.answer_assignments (call : EngineCall) : Engine.assignments.answer call =
    StandIn.answer (fun source => .output (Assignments.format source)) call := rfl

theorem Region.reports_refusal {lines : List Text} {number : Nat} {error : EngineError}
    (h : StandIn.refusal? number lines = some error) : r.Reports error := by
  induction lines generalizing number with
  | nil => cases h
  | cons line lines ih =>
    rw [StandIn.refusal?] at h
    split at h
    · cases h
      exact .inl (Rat.den_natCast number)
    · exact ih h

theorem Region.canReport_assignments : r.CanReport (Engine.assignments.answer call) := by
  rw [Engine.answer_assignments, StandIn.answer]
  split
  · simp [CanReport]
  · split
    · trivial
    · split
      · next herror => exact reports_refusal herror
      · trivial

theorem Region.assigned_of_resultOf {engine : Text} {timeout : Number} (hcall : call.source = r.code)
    (hclean : r.clean (Assignments.format r.code) = .ok (Assignments.format r.code))
    (h : r.resultOf engine timeout (Engine.assignments.answer call) = .ok result) :
    r.Assigned (some result) := by
  rw [← hcall] at hclean
  constructor
  · intro hunmarked
    rw [← hcall] at hunmarked ⊢
    rw [Engine.answer_assignments, StandIn.answer_of_unmarked hunmarked, resultOf, hclean] at h
    cases h
    rfl
  · intro hmarked code hcode
    cases hcode
    obtain ⟨output, houtput, -⟩ := clean_of_resultOf h
    rw [Engine.answer_assignments] at houtput
    exact StandIn.answer_ne_output (hcall ▸ hmarked) output houtput

namespace Partition

theorem assigned_of_dispatch {results : List RegionResult}
    (h : build options.indentation (.ofText t) = .ok p)
    (hresults : (dispatch Engine.assignments.behaviour limit options.dispatch p.regions).results =
      .ok results) :
    ∀ x ∈ p.regions.zipIdx, x.1.Assigned (results.map some)[x.2]?.join := by
  obtain ⟨-, heach⟩ := (dispatchIn_results_eq_ok_iff fun _ => List.mem_range.mpr).mp hresults
  rintro ⟨r, id⟩ hx
  obtain ⟨result, hresult, hformat⟩ := heach id r (List.mem_zipIdx_iff_getElem?.mp hx)
  rw [List.getElem?_map, hresult]
  refine Region.assigned_of_resultOf rfl ?_ hformat
  exact Region.clean_of_cleaned (cleaned_format h (List.fst_mem_of_mem_zipIdx hx))

theorem splice_eq_text_iff_steady (h : build indentation (.ofText t) = .ok p)
    (hcode : Given Region.Cleaned results 0 p.regions)
    (hassigned : ∀ x ∈ p.regions.zipIdx, x.1.Assigned results[x.2]?.join) :
    p.splice results = t ↔ ∀ r ∈ p.regions, r.Steady := by
  rw [splice_eq_text_iff h hcode]
  constructor
  · intro hrender r hr hunmarked
    obtain ⟨id, hid⟩ := List.mem_iff_getElem?.mp hr
    have hx : (r, id) ∈ p.regions.zipIdx := List.mem_zipIdx_iff_getElem?.mpr hid
    have hsame := hrender (r, id) hx
    rwa [(hassigned _ hx).formatted hunmarked, Region.render, ← restored_eq_slice h hr] at hsame
  · intro hsteady x hx
    have hr := List.fst_mem_of_mem_zipIdx hx
    by_cases hunmarked : StandIn.Unmarked x.1.code
    · rw [(hassigned x hx).formatted hunmarked, Region.render, hsteady _ hr hunmarked,
        restored_eq_slice h hr]
    · rw [Region.render_of_ne_formatted ((hassigned x hx).kept hunmarked)]

theorem readsAll_iff {P : Region → Prop} :
    ReadsAll P indentation (Document.ofText t).style .initial (Line.scan t) ↔
      ∃ p, build indentation (.ofText t) = .ok p ∧ ∀ r ∈ p.regions, P r := by
  constructor
  · rintro ⟨rs, hreads, hall⟩
    exact ⟨_, build_eq_ok_iff.mpr ⟨rs, hreads, rfl⟩, hall⟩
  · rintro ⟨p, hp, hall⟩
    obtain ⟨rs, hreads, rfl⟩ := build_eq_ok_iff.mp hp
    exact ⟨rs, hreads, hall⟩

end Partition

theorem exists_results_of_build (hp : Partition.build options.indentation (.ofText t) = .ok p) :
    ∃ results, (dispatch Engine.assignments.behaviour limit options.dispatch p.regions).results =
        .ok results ∧
      formatDocument Engine.assignments.behaviour limit options file t =
        .ok (.ofResults file p results
          (dispatch Engine.assignments.behaviour limit options.dispatch p.regions).calls) := by
  obtain ⟨results, hresults⟩ : ∃ results,
      (dispatch Engine.assignments.behaviour limit options.dispatch p.regions).results =
        .ok results :=
    (Partition.exists_results_iff hp fun _ => List.mem_range.mpr).mpr fun _ _ _ =>
      Region.canReport_assignments
  refine ⟨results, hresults, ?_⟩
  simp only [formatDocument_eq hp, hresults]
  rfl

theorem formatDocument_unchanged_iff :
    (∃ d, formatDocument Engine.assignments.behaviour limit options file t = .ok (.done d) ∧
        d.output = t ∧ d.changed = false) ↔
      ReadsAll Region.Steady options.indentation (Document.ofText t).style .initial
        (Line.scan t) := by
  rw [Partition.readsAll_iff]
  constructor
  · rintro ⟨d, hd, houtput, -⟩
    obtain ⟨p, results, hp, hresults, hdone⟩ := exists_results_of_done hd
    cases hdone
    exact ⟨p, hp, (Partition.splice_eq_text_iff_steady hp (given_cleaned_of_dispatch hp hresults)
      (Partition.assigned_of_dispatch hp hresults)).mp houtput⟩
  · rintro ⟨p, hp, hsteady⟩
    obtain ⟨results, hresults, hdone⟩ := exists_results_of_build hp
    have houtput : p.splice (results.map some) = t :=
      (Partition.splice_eq_text_iff_steady hp (given_cleaned_of_dispatch hp hresults)
        (Partition.assigned_of_dispatch hp hresults)).mpr hsteady
    refine ⟨_, hdone, houtput, ?_⟩
    exact Bool.eq_false_iff.mpr fun hchanged => (changed_iff_of_done hdone).mp hchanged houtput

theorem Outcome.given_ofResults_iff {P : Region → Text → Prop} {results : List RegionResult}
    {calls : List EngineCall} {d : DoneDocument} (h : ofResults file p results calls = .done d) :
    Given P (results.map some) 0 p.regions ↔
      ∀ report ∈ d.regions, ∀ code, report.result = .formatted code → P report.region code := by
  cases h
  constructor
  · intro hgiven report hreport code hcode
    obtain ⟨⟨r, result⟩, hzip, rfl⟩ := List.mem_map.mp hreport
    obtain ⟨id, hid⟩ := List.mem_iff_getElem?.mp hzip
    obtain ⟨hr, hresult⟩ := List.getElem?_zip_eq_some.mp hid
    refine hgiven (r, id) (List.mem_zipIdx_iff_getElem?.mpr hr) code ?_
    rw [List.getElem?_map, hresult, show result = _ from hcode]
    rfl
  · rintro hreports ⟨r, id⟩ hx code hcode
    have hr : p.regions[id]? = some r := List.mem_zipIdx_iff_getElem?.mp hx
    obtain ⟨result, hresult, rfl⟩ : ∃ result, results[id]? = some result ∧
        result = .formatted code := by
      simpa [Option.join_eq_some_iff] using hcode
    have hzip : (r, .formatted code) ∈ p.regions.zip results :=
      List.mem_of_getElem? (List.getElem?_zip_eq_some.mpr ⟨hr, hresult⟩)
    exact hreports _ (List.mem_map_of_mem hzip) code rfl

theorem formatDocument_again_iff {d : DoneDocument}
    (h : formatDocument Engine.assignments.behaviour limit options file t = .ok (.done d))
    (hfuses : ∀ report ∈ d.regions, ∀ code, report.result = .formatted code →
      ¬ report.region.Fuses t code) :
    (∃ d', formatDocument Engine.assignments.behaviour limit options file d.output =
        .ok (.done d') ∧ d'.output = d.output ∧ d'.changed = false) ↔
      ∀ report ∈ d.regions, ∀ code, report.result = .formatted code →
        report.region.Rests options.indentation.tabWidth
          ((Line.scan t).drop report.region.nextLine) code := by
  obtain ⟨p, results, hp, hresults, hdone⟩ := exists_results_of_done h
  rw [← Outcome.given_ofResults_iff (P := fun r code => ¬ r.Fuses t code) hdone] at hfuses
  rw [← Outcome.given_ofResults_iff (P := fun r code =>
    r.Rests options.indentation.tabWidth ((Line.scan t).drop r.nextLine) code) hdone]
  have hcode := given_cleaned_of_dispatch hp hresults
  have hassigned := Partition.assigned_of_dispatch hp hresults
  have houtput : d.output = p.splice (results.map some) := by cases hdone; rfl
  obtain ⟨rs, hreads, heq⟩ := Partition.build_eq_ok_iff.mp hp
  have hregions : p.regions = rs.filterMap Reading.region := by rw [heq]
  have hsplice := Partition.splice_eq_join hp hreads hregions hcode.substantial
  rw [hregions] at hcode hassigned hfuses
  have hscan := Line.scannable_scan t
  have hscan' := (hreads.scannable_relined_iff (Line.placed_scan t) (Line.joined_scan t).symm hscan
    hcode).mpr hfuses
  have hlines : (Line.scan d.output).map Line.toRawLine = relined (results.map some) 0 rs := by
    rw [Line.map_toRawLine_scan, houtput, hsplice]
    exact RawLine.split_join hscan'
  rw [formatDocument_unchanged_iff, hregions]
  exact hreads.readsAll_steady_iff List.drop_zero (Line.placed_scan t) hscan hscan' hassigned hlines

/-- What came of a text is left as it is by the same options exactly if the code of its formatted
regions rests where it was put, unless a break that came out with one of them ran into another. -/
theorem formatText_again_iff {formatOptions : FormatOptions} {shared : Option PoolLimit}
    {d : DoneDocument}
    (h : formatText Engine.assignments formatOptions shared file t = .ok (.done d))
    (hfuses : ∀ report ∈ d.regions, ∀ code, report.result = .formatted code →
      ¬ report.region.Fuses t code) :
    (∃ d', formatText Engine.assignments formatOptions shared file d.output = .ok (.done d') ∧
        d'.output = d.output ∧ d'.changed = false) ↔
      ∀ report ∈ d.regions, ∀ code, report.result = .formatted code →
        report.region.Rests
          (formatOptions.tabWidth.getD ResolvedConfig.default.indentation.tabWidth)
          ((Line.scan t).drop report.region.nextLine) code := by
  cases hresolve : formatOptions.resolve shared with
  | error e =>
    rw [formatText, formatTextBy, hresolve] at h
    cases h
  | ok resolved =>
    obtain ⟨limit, options⟩ := resolved
    simp only [formatText, formatTextBy_eq_ok_iff hresolve] at h ⊢
    rw [formatDocument_again_iff h hfuses, FormatOptions.indentation_of_resolve hresolve]

end

instance (behind : List Line) (code : Text) : Decidable (Region.Closes behind code) :=
  inferInstanceAs (Decidable (_ → _))

instance (r : Region) (tabWidth : Nat) (behind : List Line) (code : Text) :
    Decidable (r.Rests tabWidth behind code) :=
  inferInstanceAs (Decidable (ite _ _ _))

instance {P : Text → Prop} [DecidablePred P] :
    (result : RegionResult) → Decidable (∀ code, result = .formatted code → P code)
  | .formatted code => decidable_of_iff (P code) (by simp)
  | .failed _ => .isTrue nofun

theorem exists_done_of_decide {q : DoneDocument → Prop} [DecidablePred q]
    {result : Except FormatError Outcome}
    (h : (match result with | .ok (.done d) => decide (q d) | _ => false) = true) :
    ∃ d, result = .ok (.done d) ∧ q d := by
  split at h
  · exact ⟨_, rfl, of_decide_eq_true h⟩
  · cases h

theorem formatText_again_iff_block_statement :
    let t := text "init python:\n    a=1\n    if a:\n        b =2\n$ c=3\n"
    ∃ d d', formatText Engine.assignments .empty none (text "a.rpy") t = .ok (.done d) ∧
      d.output = text "init python:\n    a = 1\n    if a:\n        b = 2\n$ c = 3\n" ∧
      formatText Engine.assignments .empty none (text "a.rpy") d.output = .ok (.done d') ∧
      d'.output = d.output ∧ d'.changed = false := by
  intro t
  obtain ⟨d, hd, houtput, hfuses, hrests⟩ :
      ∃ d, formatText Engine.assignments .empty none (text "a.rpy") t = .ok (.done d) ∧
        d.output = text "init python:\n    a = 1\n    if a:\n        b = 2\n$ c = 3\n" ∧
        (∀ report ∈ d.regions, ∀ code, report.result = .formatted code →
          ¬ report.region.Fuses t code) ∧
        ∀ report ∈ d.regions, ∀ code, report.result = .formatted code →
          report.region.Rests 8 ((Line.scan t).drop report.region.nextLine) code :=
    exists_done_of_decide (by decide +kernel)
  obtain ⟨d', hd', hsame⟩ := (formatText_again_iff hd hfuses).mpr hrests
  exact ⟨d, d', hd, houtput, hd', hsame⟩

/-- A space in front of the code of a statement becomes part of the gap behind the marker, and the
next time another space is put there. -/
theorem formatText_ne_of_space :
    ∃ d d', formatText Engine.assignments .empty none (text "a.rpy") (text "$ =x\n") = .ok (.done d) ∧
      d.output = text "$  = x\n" ∧
      formatText Engine.assignments .empty none (text "a.rpy") d.output = .ok (.done d') ∧
      d'.output = text "$   = x\n" ∧ d'.changed = true := by
  obtain ⟨d, hd, houtput⟩ : ∃ d, formatText Engine.assignments .empty none (text "a.rpy")
      (text "$ =x\n") = .ok (.done d) ∧ d.output = text "$  = x\n" :=
    exists_done_of_decide (by decide +kernel)
  obtain ⟨d', hd', hchanged⟩ : ∃ d', formatText Engine.assignments .empty none (text "a.rpy")
      (text "$  = x\n") = .ok (.done d') ∧ d'.output = text "$   = x\n" ∧ d'.changed = true :=
    exists_done_of_decide (by decide +kernel)
  exact ⟨d, d', hd, houtput, houtput ▸ hd', hchanged⟩

end Inlay
