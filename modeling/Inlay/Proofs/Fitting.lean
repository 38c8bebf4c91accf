import Inlay.Proofs.Relining

/-!
# Code that fits a region

What formatted code must be like for the region to be found again with this code: a statement
stays on its line (`FitsStatement`), and the lines of a block are indented by spaces only and end
what they open (`FitsBlock`). A region that is given such code is taken from its new lines with
the margin it had (`Taken.again`), and with the code it was given. Code that is put at a margin is
found there exactly if it has none of its own (`Remargined.bodyMargin_eq_iff`), and it ends where
the block did exactly if it closes it (`Bounds.extent_margined_iff`).
-/

namespace Inlay

open CodeUnit

namespace Region

open Introducer (marker)

/-- A statement is one line that is not indented and does not end in white space. -/
def FitsStatement (code : Text) : Prop :=
  ∃ t, code = t ++ [lineFeed] ∧ t.Unbroken ∧ (∃ u, t.head? = some u ∧ u ≠ space ∧ u ≠ tab) ∧
    ∃ u, t.getLast? = some u ∧ u.isBlank = false

/-- Code whose lines end in line feeds, the last of them not blank, and are indented by spaces.
White space on a blank line belongs to a string. -/
structure BlockCode (code : Text) : Prop where
  unbroken : carriageReturn ∉ code
  ends : code.getLast? = some lineFeed
  last : ∃ line, (Line.scan code).getLast? = some line ∧ line.isBlank = false
  spaces : ∀ line ∈ Line.scan code, ∀ u ∈ line.indent, u = space
  blank : ∀ b ∈ lexedFrom .initial (Line.scan code), b.isBlank →
    b.line.content = [] ∨ b.inString ∧ ∀ u ∈ b.line.content, u = space

/-- Code of a block that is at its margin. Where another line follows in the document, the code and
the blank lines behind it leave no logical line open. -/
structure FitsBlock (tabWidth : Nat) (behind : List Line) (code : Text) : Prop
    extends BlockCode code where
  margin : bodyMargin tabWidth (lexedFrom .initial (Line.scan code)) = []
  closed : (∃ line ∈ behind, line.isBlank = false) →
    (LexState.afterAll .embedded .initial
      ((Line.scan code ++ behind.takeWhile (·.isBlank)).map (·.content))).isOpen = false

/-- The code can stand in place of the region, with some lines behind it. -/
def Fits (r : Region) (tabWidth : Nat) (behind : List Line) (code : Text) : Prop :=
  if r.isStatement then FitsStatement code else FitsBlock tabWidth behind code

variable {code : Text} {tabWidth : Nat} {behind : List Line}

theorem fits_statement {r : Region} (h : r.isStatement) :
    r.Fits tabWidth behind code ↔ FitsStatement code := by
  rw [Fits, if_pos h]

theorem fits_block {r : Region} (h : r.isStatement = false) :
    r.Fits tabWidth behind code ↔ FitsBlock tabWidth behind code := by
  rw [Fits, h, if_neg Bool.false_ne_true]

def resultCode (r : Region) : Option RegionResult → Text
  | some (.formatted code) => code
  | _ => r.code

theorem resultCode_of_ne_formatted {r : Region} {result : Option RegionResult}
    (h : ∀ code, result ≠ some (.formatted code)) : r.resultCode result = r.code := by
  unfold resultCode
  split
  · next code => exact absurd rfl (h code)
  · rfl

-- ---------------------------------------------------------------------------
-- The lines of code
-- ---------------------------------------------------------------------------

theorem unterminated_append (h : code.getLast? = some lineFeed) :
    unterminated code ++ [lineFeed] = code := by
  rw [unterminated, if_pos h]
  obtain ⟨t, rfl⟩ := List.getLast?_eq_some_iff.mp h
  rw [List.dropLast_concat]

theorem map_content_scan_joinWith {ts : List Text} (hne : ts ≠ []) (hts : ∀ t ∈ ts, t.Unbroken) :
    (Line.scan (Text.joinWith [lineFeed] ts ++ [lineFeed])).map (·.content) = ts := by
  have hscannable : RawLine.Scannable (terminated .lf true ts ++ []) :=
    scannable_terminated_append hts (fun hn => nomatch hn) trivial (by simp [RawLine.Uniform])
  rw [List.append_nil] at hscannable
  have hsplit := RawLine.split_join hscannable
  rw [join_terminated hne, if_pos rfl, LineBreak.text] at hsplit
  rw [← Line.map_content_toRawLine, Line.map_toRawLine_scan, hsplit, map_content_terminated]

theorem lines_of_code (hcr : carriageReturn ∉ code) (hends : code.getLast? = some lineFeed) :
    (∀ t ∈ Text.splitOn lineFeed (unterminated code), t.Unbroken) ∧
      (Line.scan code).map (·.content) = Text.splitOn lineFeed (unterminated code) := by
  have happend := unterminated_append hends
  have hunbroken : ∀ t ∈ Text.splitOn lineFeed (unterminated code), t.Unbroken := by
    intro t ht u hu
    constructor
    · rintro rfl
      exact Text.not_mem_of_mem_splitOn ht hu
    · rintro rfl
      refine hcr ?_
      rw [← happend]
      exact List.mem_append_left _ (Text.mem_of_mem_splitOn ht hu)
  refine ⟨hunbroken, ?_⟩
  have hlines := map_content_scan_joinWith (Text.splitOn_ne_nil lineFeed _) hunbroken
  rwa [Text.join_splitOn, happend] at hlines

theorem scan_line {t : Text} (hu : t.Unbroken) :
    Line.scan (t ++ [lineFeed]) = [⟨⟨t, some .lf⟩, 0, 0⟩] := by
  have hsplit : RawLine.split (t ++ [lineFeed]) = [⟨t, some .lf⟩] :=
    RawLine.split_append (e := .lf) hu fun h => nomatch h
  rw [Line.scan, hsplit]
  rfl

theorem blockCode_line {t : Text} (hu : t.Unbroken) (hb : t.isBlank = false)
    (hs : (Text.indentation t).all (· = space)) : BlockCode (t ++ [lineFeed]) := by
  have hscan := scan_line hu
  refine ⟨?_, by simp, ?_, ?_, ?_⟩
  · rw [List.mem_append, List.mem_singleton]
    rintro (hm | hm)
    · exact (hu _ hm).2 rfl
    · exact absurd hm (by decide)
  · rw [hscan]
    exact ⟨_, rfl, hb⟩
  · rw [hscan]
    exact List.forall_mem_singleton.mpr fun u hu => of_decide_eq_true (List.all_eq_true.mp hs u hu)
  · rw [hscan]
    intro b hm hblank
    obtain rfl := List.mem_singleton.mp hm
    exact absurd hblank (Bool.eq_false_iff.mp hb)

variable {indentation : Indentation} {margin : Text} {b b' : BodyLine} {bs bs' : List BodyLine}

-- ---------------------------------------------------------------------------
-- Taking a region from its new lines
-- ---------------------------------------------------------------------------

variable {style : LineStyle} {above : Line} {variant : BlockVariant} {header : Header}
  {body body' : List Line} {ts : List Text} {s : LexState}

/-- The margin comes off the line and leaves a line of code. -/
def Yields (indentation : Indentation) (margin : Text) (b : BodyLine) (t : Text) : Prop :=
  ∃ line, dedentLine indentation margin b = .ok line ∧ line.code = t

theorem yields_of_dedented? {w : Text} (h : dedented? indentation margin b = some w) :
    Yields indentation margin b (w ++ if b.isBlank then [] else b.line.body) := by
  have hline := dedentLine_eq_ok_iff.mpr ⟨w, h, rfl⟩
  obtain ⟨w', hw', hcode⟩ := code_of_dedentLine hline
  cases h.symm.trans hw'
  exact ⟨_, hline, hcode⟩

theorem exists_lines_of_yields (h : List.Forall₂ (Yields indentation margin) bs ts) :
    ∃ lines, List.Forall₂ (fun b line => dedentLine indentation margin b = .ok line) bs lines ∧
      lines.map RegionLine.code = ts := by
  induction h with
  | nil => exact ⟨[], .nil, rfl⟩
  | cons hb _ ih =>
    obtain ⟨line, hline, rfl⟩ := hb
    obtain ⟨lines, hlines, rfl⟩ := ih
    exact ⟨line :: lines, .cons hline hlines, rfl⟩

theorem exists_taken (hne : body ≠ [])
    (hmargin : bodyMargin indentation.tabWidth (lexedFrom .initial body) = margin)
    (hlines : List.Forall₂ (Yields indentation margin) (lexedFrom .initial body) ts) :
    ∃ r, Taken indentation style above variant header body r ∧
      r.lines.map RegionLine.code = ts := by
  obtain ⟨lines, hlines, hcode⟩ := exists_lines_of_yields hlines
  obtain ⟨last, hlast⟩ := Option.ne_none_iff_exists'.mp (mt List.getLast?_eq_none_iff.mp hne)
  cases body with
  | nil => contradiction
  | cons first more =>
    exact ⟨⟨.block variant header, ⟨first.start, last.next⟩, above.index, above.indent, margin, 0,
      lines, blockCode lines, breakOf style (first :: more), last.ending.isSome⟩,
      { form := rfl, start := rfl, stop := by rw [hlast]; rfl, introducer := rfl
        outerIndent := rfl, margin := hmargin.symm, codeColumn := rfl, lines := hlines, code := rfl
        lineBreak := rfl, endsWithBreak := by rw [hlast]; rfl }, hcode⟩

-- ---------------------------------------------------------------------------
-- Lines that are kept
-- ---------------------------------------------------------------------------

structure SameLine (b b' : BodyLine) : Prop where
  start : b'.start = b.start
  raw : b'.line.toRawLine = b.line.toRawLine

theorem sameLine_lexedFrom (h : body'.map Line.toRawLine = body.map Line.toRawLine) :
    List.Forall₂ SameLine (lexedFrom s body) (lexedFrom s body') := by
  induction body generalizing s body' with
  | nil =>
    obtain rfl : body' = [] := by simpa using h
    exact .nil
  | cons line body ih =>
    obtain ⟨line', body', rfl, hline, h⟩ := List.map_eq_cons_iff.mp h
    refine .cons ⟨rfl, hline⟩ ?_
    rw [show line'.content = line.content by rw [hline]]
    exact ih h

theorem SameLine.comparable : Comparable tabWidth tabWidth SameLine where
  isBlank h := congrArg RawLine.isBlank h.raw
  isAnchor h := isAnchor_congr h.start (congrArg RawLine.isBlank h.raw)
    (isComment_congr h.start (by rw [h.start, h.raw]))
  width ha hb _ _ := by rw [ha.raw, hb.raw]

theorem SameLine.bodyMargin (h : List.Forall₂ SameLine bs bs')
    (hne : ∃ b ∈ bs, b.isBlank = false) : bodyMargin tabWidth bs' = bodyMargin tabWidth bs := by
  obtain ⟨b, b', -, hb, hmargin, hmargin'⟩ := SameLine.comparable.bodyMargin h hne
  rw [hmargin, hmargin', hb.raw]

theorem SameLine.yields {line : RegionLine} (h : SameLine b b')
    (hline : dedentLine indentation margin b = .ok line) :
    Yields indentation margin b' line.code := by
  obtain ⟨⟨raw, index, start⟩, s⟩ := b
  obtain ⟨⟨raw', index', start'⟩, s'⟩ := b'
  obtain ⟨rfl, rfl⟩ := h
  obtain ⟨w, hw, rfl⟩ := dedentLine_eq_ok_iff.mp hline
  exact ⟨_, dedentLine_eq_ok_iff.mpr ⟨w, hw, rfl⟩, rfl⟩

-- ---------------------------------------------------------------------------
-- Lines of formatted code
-- ---------------------------------------------------------------------------

/-- A line of code, and the line it becomes behind the margin. -/
structure Remargined (margin : Text) (b b' : BodyLine) : Prop where
  start : b'.start = b.start
  content : b'.line.content = atMargin margin b.start b.line.content

theorem remargined_lexedFrom (hm : ∀ u ∈ margin, u.isIndent)
    (h : body'.map (·.content) = margined margin s (body.map (·.content))) :
    List.Forall₂ (Remargined margin) (lexedFrom s body) (lexedFrom s body') := by
  induction body generalizing s body' with
  | nil =>
    obtain rfl : body' = [] := by simpa [margined] using h
    exact .nil
  | cons line body ih =>
    rw [List.map_cons, margined_cons] at h
    obtain ⟨line', body', rfl, hline, h⟩ := List.map_eq_cons_iff.mp h
    refine .cons ⟨rfl, hline⟩ ?_
    rw [hline, after_atMargin hm]
    exact ih h

/-- The indentation of a line of code can be told from the margin before it: white space on a blank
line belongs to a string, and lines that are compared by width are indented by spaces. -/
structure Movable (indentation : Indentation) (b : BodyLine) : Prop where
  spaces : indentation.policy = .expandTabs → ∀ u ∈ b.line.indent, u = space
  blank : b.isBlank → b.line.content = [] ∨ b.inString ∧ ∀ u ∈ b.line.content, u = space

theorem BlockCode.movable (h : BlockCode code) :
    ∀ b ∈ lexedFrom .initial (Line.scan code), Movable indentation b :=
  fun b hb => ⟨fun _ => h.spaces b.line (line_mem_of_mem_lexedFrom hb), h.blank b hb⟩

theorem isBlank_atMargin {t : Text} (hm : ∀ u ∈ margin, u.isIndent) :
    Text.isBlank (atMargin margin s t) = Text.isBlank t := by
  rw [atMargin]
  split
  · rw [Text.isBlank_append, Text.isBlank_of_isIndent hm, Bool.true_and]
  · next h =>
    simp only [Bool.or_eq_true, Bool.not_eq_true', not_or, Bool.not_eq_false] at h
    exact h.1.symm

theorem dedented?_of_content_eq_nil (h : b.line.content = []) :
    dedented? indentation margin b = some [] := by
  have hb : b.isBlank := by simp [BodyLine.isBlank, RawLine.isBlank, h, Text.isBlank]
  have hi : b.line.indent = [] := by rw [RawLine.indent, h]; rfl
  obtain ⟨rest, hrest⟩ := exists_dedented?_of_isBlank indentation margin hb
  rw [hrest, dedented?_of_indent_eq_nil hrest hi]

namespace Remargined

theorem isBlank (h : Remargined margin b b') (hm : ∀ u ∈ margin, u.isIndent) :
    b'.isBlank = b.isBlank := by
  rw [BodyLine.isBlank, RawLine.isBlank, h.content, isBlank_atMargin hm]
  rfl

theorem content_of_not_isBlank (h : Remargined margin b b') (hb : b.isBlank = false) :
    b'.line.content = margin ++ b.line.content :=
  h.content.trans (atMargin_of_not_isBlank hb)

theorem indent (h : Remargined margin b b') (hm : ∀ u ∈ margin, u.isIndent)
    (hb : b.isBlank = false) : b'.line.indent = margin ++ b.line.indent := by
  rw [RawLine.indent, h.content_of_not_isBlank hb, Text.indentation_append hm]
  rfl

theorem isAnchor (h : Remargined margin b b') (hm : ∀ u ∈ margin, u.isIndent) :
    b'.isAnchor = b.isAnchor := by
  cases hb : b.isBlank with
  | true => simp [BodyLine.isAnchor, h.isBlank hm, hb]
  | false =>
    refine isAnchor_congr h.start (h.isBlank hm) (isComment_congr h.start ?_)
    rw [h.start, h.content_of_not_isBlank hb, LexState.kinds_indent _ hm]

theorem yields (h : Remargined margin b b') (hm : ∀ u ∈ margin, u.isIndent)
    (hb : Movable indentation b) : Yields indentation margin b' b.line.content := by
  cases hblank : b.isBlank with
  | false =>
    have hb' := (h.isBlank hm).trans hblank
    have hbody : b'.line.body = b.line.body := by
      rw [RawLine.body, h.content_of_not_isBlank hblank, Text.unindented_append hm]
      rfl
    have hw : dedented? indentation margin b' = some b.line.indent :=
      dedented?_append (by simp [hb']) (h.indent hm hblank) hb.spaces
    have hyields := yields_of_dedented? hw
    rwa [hb', if_neg Bool.false_ne_true, hbody, RawLine.indent_append_body] at hyields
  | true =>
    have hb' := (h.isBlank hm).trans hblank
    by_cases hnil : b.line.content = []
    · have hnil' : b'.line.content = [] := by rw [h.content, hnil, atMargin_nil]
      have hw : dedented? indentation margin b' = some [] := dedented?_of_content_eq_nil hnil'
      have hyields := yields_of_dedented? hw
      rwa [hb', if_pos rfl, List.append_nil, ← hnil] at hyields
    · obtain ⟨hs, hspaces⟩ := (hb.blank hblank).resolve_left hnil
      have hindent : ∀ u ∈ b.line.content, u.isIndent := by
        intro u hu
        rw [hspaces u hu]
        decide
      have hi : b'.line.indent = margin ++ b.line.content := by
        rw [RawLine.indent, h.content, atMargin_of_inString hs hnil, Text.indentation_append hm,
          Text.indentation_of_isIndent hindent]
      have hs' : b'.inString := by rwa [BodyLine.inString, h.start]
      have hw : dedented? indentation margin b' = some b.line.content :=
        dedented?_append (fun _ => hs') hi fun _ => hspaces
      have hyields := yields_of_dedented? hw
      rwa [hb', if_pos rfl, List.append_nil] at hyields

end Remargined

theorem yields_of_movable (hm : ∀ u ∈ margin, u.isIndent)
    (hmovable : ∀ b ∈ bs, Movable indentation b) (h : List.Forall₂ (Remargined margin) bs bs') :
    List.Forall₂ (Yields indentation margin) bs' (bs.map (·.line.content)) := by
  rw [List.forall₂_map_right_iff]
  exact (((List.forall₂_and_left _ _).mpr ⟨hmovable, h⟩).imp fun _ _ h => h.2.yields hm h.1).flip

-- ---------------------------------------------------------------------------
-- The margin of formatted code
-- ---------------------------------------------------------------------------

/-- A line of code and one of those that the code becomes. Either they stand for one another and the
first has no width, or both are wider than the margins of their blocks might be. -/
inductive Level (tabWidth : Nat) (margin : Text) (b b' : BodyLine) : Prop
  | flush : Indent.width tabWidth b.line.indent = 0 →
    b'.line.indent = margin ++ b.line.indent → Level tabWidth margin b b'
  | deep : 0 < Indent.width tabWidth b.line.indent →
    Indent.width tabWidth margin < Indent.width tabWidth b'.line.indent → Level tabWidth margin b b'

theorem level_of_indent (h : b'.line.indent = margin ++ b.line.indent) :
    Level tabWidth margin b b' := by
  have hle := Indent.le_width_append tabWidth margin b.line.indent
  have hiff : Indent.width tabWidth (margin ++ b.line.indent) = Indent.width tabWidth margin ↔ _ :=
    Indent.width_append_eq_iff
  rw [← h] at hle hiff
  by_cases hflush : Indent.width tabWidth b.line.indent = 0
  · exact .flush hflush h
  · exact .deep (Nat.pos_of_ne_zero hflush) (Nat.lt_of_le_of_ne hle (Ne.symm (mt hiff.mp hflush)))

theorem Level.indent_eq_iff (h : Level tabWidth margin b b') :
    b'.line.indent = margin ↔ b.line.indent = [] := by
  cases h with
  | flush _ hindent => simp [hindent]
  | deep hpos hlt =>
    refine iff_of_false (fun heq => ?_) fun heq => ?_
    · exact absurd hlt (heq ▸ Nat.lt_irrefl _)
    · rw [heq] at hpos
      exact absurd hpos (Nat.lt_irrefl 0)

theorem Level.narrower {least least' : Option BodyLine}
    (h : Option.Rel (Level tabWidth margin) least least') (hb : Remargined margin b b')
    (hm : ∀ u ∈ margin, u.isIndent) :
    Option.Rel (Level tabWidth margin) (narrower tabWidth least b) (narrower tabWidth least' b') := by
  unfold Region.narrower
  rw [hb.isAnchor hm]
  split
  · exact h
  · next ha =>
    have hblank : b.isBlank = false := by
      simp only [BodyLine.isAnchor, Bool.not_eq_true', Bool.not_eq_false, Bool.and_eq_true] at ha
      exact ha.1.1
    have hindent := hb.indent hm hblank
    have hlevel : Level tabWidth margin b b' := level_of_indent hindent
    have hle := Indent.le_width_append tabWidth margin b.line.indent
    rw [← hindent] at hle
    cases h with
    | none => exact .some hlevel
    | some ha =>
      simp only
      cases ha with
      | flush hzero ha' =>
        -- nothing is less wide than a line without width
        have hsame := (Indent.width_append_eq_iff (a := margin)).mpr hzero
        rw [← ha'] at hsame
        rw [if_neg (by omega), if_neg (by omega)]
        exact .some (.flush hzero ha')
      | deep hpos hlt =>
        cases hlevel with
        | flush hzero _ =>
          have hsame := (Indent.width_append_eq_iff (a := margin)).mpr hzero
          rw [← hindent] at hsame
          rw [if_pos (by omega), if_pos (by omega)]
          exact .some (.flush hzero hindent)
        | deep hpos' hlt' =>
          split <;> split <;> exact .some (.deep (by assumption) (by assumption))

/-- Lines of code have the margin behind which they were put exactly if the code has none. -/
theorem Remargined.bodyMargin_eq_iff (h : List.Forall₂ (Remargined margin) bs bs')
    (hm : ∀ u ∈ margin, u.isIndent) (hne : ∃ b ∈ bs, b.isBlank = false) :
    Region.bodyMargin tabWidth bs' = margin ↔ Region.bodyMargin tabWidth bs = [] := by
  have hleast : Option.Rel (Level tabWidth margin) (leastAnchor tabWidth bs)
      (leastAnchor tabWidth bs') := by
    refine List.rel_foldl ?_ .none h
    exact fun _ _ hleast _ _ hb => Level.narrower hleast hb hm
  have hfind : Option.Rel (Level tabWidth margin) (bs.find? (!·.isBlank)) (bs'.find? (!·.isBlank)) := by
    have hfound := rel_find? (fun hb => hb.isBlank hm) h
    generalize bs.find? (!·.isBlank) = found at hfound ⊢
    generalize bs'.find? (!·.isBlank) = found' at hfound ⊢
    cases hfound with
    | none => exact .none
    | some hb => exact .some (level_of_indent (hb.2.indent hm hb.1))
  obtain ⟨b, b', hlevel, hmargin, hmargin'⟩ := exists_of_rel hleast hfind hne
  rw [hmargin, hmargin', hlevel.indent_eq_iff]

-- ---------------------------------------------------------------------------
-- A block is found again
-- ---------------------------------------------------------------------------

/-- The region found in place of another with a result. -/
structure Refound (result : Option RegionResult) (r r' : Region) : Prop where
  form : r'.form = r.form
  outerIndent : r'.outerIndent = r.outerIndent
  margin : r'.margin = r.margin
  code : r'.code = r.resultCode result

/-- Lines that begin alike, as far as a block above them is concerned. -/
def SameHead (left left' : List Line) : Prop :=
  left'.head?.map (fun line => (line.indent, line.isBlank)) =
    left.head?.map (fun line => (line.indent, line.isBlank))

variable {left left' blanks blanks' : List Line} {width : Nat} {e : LineBreak} {ends : Bool}
  {above' : Line} {style' : LineStyle} {r r' : Region} {result : Option RegionResult}

theorem SameHead.exists_of_head? (h : SameHead left left') (hl : left'.head? = some line') :
    ∃ line, left.head? = some line ∧ line.indent = line'.indent ∧ line.isBlank = line'.isBlank := by
  rw [SameHead, hl, Option.map_some] at h
  obtain ⟨line, hline, heq⟩ := Option.map_eq_some_iff.mp h.symm
  obtain ⟨hindent, hblank⟩ := Prod.mk.inj heq
  exact ⟨line, hline, hindent, hblank⟩

theorem SameHead.ne_nil_iff (h : SameHead left left') : left' ≠ [] ↔ left ≠ [] := by
  have hnone := congrArg Option.isSome h
  cases left <;> cases left' <;> simp_all

theorem Taken.refound (ht : Taken indentation style above variant header body r)
    (ht' : Taken indentation style' above' variant header body' r')
    (habove : above'.indent = above.indent) (hmargin : r'.margin = r.margin)
    (hcode : r'.code = r.resultCode result) : Refound result r r' where
  form := ht'.form.trans ht.form.symm
  outerIndent := by rw [ht'.outerIndent, habove, ht.outerIndent]
  margin := hmargin
  code := hcode

-- ---------------------------------------------------------------------------
-- The breaks of a block
-- ---------------------------------------------------------------------------

theorem getLast?_of_terminated (h : body.map Line.toRawLine = terminated e ends ts)
    (hne : ts ≠ []) : body.getLast?.map (·.ending.isSome) = some ends := by
  obtain ⟨t, hlast⟩ := Option.ne_none_iff_exists'.mp (mt List.getLast?_eq_none_iff.mp hne)
  have hraw : (body.map Line.toRawLine).getLast? = some ⟨t, if ends then some e else none⟩ := by
    rw [h, getLast?_terminated hlast]
  rw [List.getLast?_map] at hraw
  obtain ⟨line, hline, heq⟩ := Option.map_eq_some_iff.mp hraw
  rw [hline, Option.map_some, heq]
  cases ends <;> rfl

theorem terminated_breakOf (h : body.map Line.toRawLine = terminated e ends ts) :
    terminated (breakOf style body) ends ts = terminated e ends ts := by
  by_cases hnone : ∀ line ∈ body, line.ending = none
  · refine terminated_congr fun raw hraw => ?_
    rw [← h] at hraw
    obtain ⟨line, hline, rfl⟩ := List.mem_map.mp hraw
    exact hnone line hline
  · rw [breakOf_of_uniform (h ▸ uniform_terminated) fun h => absurd h hnone]

-- ---------------------------------------------------------------------------
-- The extent of a block
-- ---------------------------------------------------------------------------

theorem afterAll_margined (hm : ∀ u ∈ margin, u.isIndent) :
    s.afterAll .embedded (margined margin s ts) = s.afterAll .embedded ts := by
  induction ts generalizing s with
  | nil => rfl
  | cons t ts ih =>
    rw [margined_cons, LexState.afterAll_cons, LexState.afterAll_cons, after_atMargin hm, ih]

/-- A line with this content stays inside a block whose introducer has the given width. -/
def contentStays (tabWidth width : Nat) (content : Text) : Bool :=
  Text.isBlank content || width < Indent.width tabWidth (Text.indentation content)

theorem contentStays_of_mem_margined (hm : ∀ u ∈ margin, u.isIndent)
    (hlt : width < Indent.width tabWidth margin) (h : t ∈ margined margin s ts) :
    contentStays tabWidth width t := by
  induction ts generalizing s with
  | nil => simp [margined] at h
  | cons first ts ih =>
    rw [margined_cons] at h
    rcases List.mem_cons.mp h with rfl | h
    · rw [atMargin]
      split
      · have hle := Indent.le_width_append tabWidth margin (Text.indentation first)
        rw [contentStays, Text.indentation_append hm, Bool.or_eq_true, decide_eq_true_eq]
        exact .inr (Nat.lt_of_lt_of_le hlt hle)
      · rfl
    · exact ih h

theorem Bounds.again (he : Bounds tabWidth width body blanks left)
    (hstays : ∀ line ∈ body', Region.stays tabWidth width line)
    (hlast : ∃ line, body'.getLast? = some line ∧ line.isBlank = false)
    (hblanks : blanks'.map Line.toRawLine = blanks.map Line.toRawLine)
    (hleft : SameHead left left') : Bounds tabWidth width body' blanks' left' where
  stays := hstays
  last := hlast
  blank line hm := by
    obtain ⟨line', hm', hline⟩ := Line.exists_mem_of_map_eq hblanks hm
    rw [← hline]
    exact he.blank line' hm'
  leaves line' hl := by
    obtain ⟨line, hline, hindent, hblank⟩ := hleft.exists_of_head? hl
    rw [Region.stays, ← hindent, ← hblank]
    exact he.leaves line hline

theorem Extent.again_kept (he : Extent tabWidth width body blanks left)
    (hbody : body'.map Line.toRawLine = body.map Line.toRawLine)
    (hblanks : blanks'.map Line.toRawLine = blanks.map Line.toRawLine)
    (hleft : SameHead left left') : Extent tabWidth width body' blanks' left' := by
  refine extent_iff.mpr ⟨he.bounds.again ?_ ?_ hblanks hleft, fun hne => ?_⟩
  · intro line hm
    obtain ⟨line', hm', hline⟩ := Line.exists_mem_of_map_eq hbody hm
    have hstays := he.stays line' hm'
    rwa [Region.stays, hline] at hstays
  · obtain ⟨last, hlast, hblank⟩ := he.last
    have hlast' : (body'.map Line.toRawLine).getLast? = some last.toRawLine := by
      rw [hbody, List.getLast?_map, hlast]
      rfl
    rw [List.getLast?_map] at hlast'
    obtain ⟨line, hline, heq⟩ := Option.map_eq_some_iff.mp hlast'
    exact ⟨line, hline, by rw [heq, hblank]⟩
  · rw [List.map_append, Line.map_content_congr hbody, Line.map_content_congr hblanks,
      ← List.map_append]
    exact he.closed (hleft.ne_nil_iff.mp hne)

theorem Bounds.again_margined (he : Bounds tabWidth width body blanks left)
    (hm : ∀ u ∈ margin, u.isIndent) (hlt : width < Indent.width tabWidth margin)
    (hlast : ts.getLast? = some t) (hblank : t.isBlank = false)
    (hbody : body'.map (·.content) = margined margin .initial ts)
    (hblanks : blanks'.map Line.toRawLine = blanks.map Line.toRawLine)
    (hleft : SameHead left left') : Bounds tabWidth width body' blanks' left' := by
  refine he.again ?_ ?_ hblanks hleft
  · intro line hl
    have hcontent : line.content ∈ margined margin .initial ts :=
      hbody ▸ List.mem_map_of_mem (f := fun line : Line => line.content) hl
    exact contentStays_of_mem_margined hm hlt hcontent
  · have hgetLast : (body'.map (·.content)).getLast? = some (margin ++ t) :=
      hbody ▸ getLast?_margined hlast hblank
    rw [List.getLast?_map] at hgetLast
    obtain ⟨line, hline, heq⟩ := Option.map_eq_some_iff.mp hgetLast
    refine ⟨line, hline, ?_⟩
    rw [RawLine.isBlank, heq, Text.isBlank_append, Text.isBlank_of_isIndent hm, Bool.true_and]
    exact hblank

/-- Code closes a block that is followed by some lines: where one of them is not blank, the code and
the blank lines behind it leave no logical line open. -/
def Closes (behind : List Line) (code : Text) : Prop :=
  (∃ line ∈ behind, line.isBlank = false) →
    (LexState.afterAll .embedded .initial
      ((Line.scan code ++ behind.takeWhile (·.isBlank)).map (·.content))).isOpen = false

theorem Bounds.closes_iff (he : Bounds tabWidth width body blanks left) :
    Closes (blanks ++ left) code ↔
      (left ≠ [] → LexState.afterAll .embedded .initial
        ((Line.scan code).map (·.content) ++ blanks.map (·.content)) = .initial) := by
  have hleft : (∃ line ∈ blanks ++ left, line.isBlank = false) ↔ left ≠ [] := by
    constructor
    · rintro ⟨line, hline, hblank⟩ rfl
      rw [List.append_nil] at hline
      exact Bool.eq_false_iff.mp hblank (he.blank line hline)
    · intro hne
      obtain ⟨line, hline, hblank⟩ := he.exists_mem_left hne
      exact ⟨line, List.mem_append_right _ hline, hblank⟩
  rw [Closes, hleft, he.takeWhile_isBlank, LexState.isOpen_eq_false_iff, List.map_append]

/-- Code that is put at the margin of a block has the extent of the block exactly if it closes it.
-/
theorem Bounds.extent_margined_iff (he : Bounds tabWidth width body blanks left)
    (hm : ∀ u ∈ margin, u.isIndent) (hlt : width < Indent.width tabWidth margin)
    (hlast : (Line.scan code).getLast? = some line) (hblank : line.isBlank = false)
    (hbody : body'.map (·.content) = margined margin .initial ((Line.scan code).map (·.content)))
    (hblanks : blanks'.map Line.toRawLine = blanks.map Line.toRawLine)
    (hleft : SameHead left left') :
    Extent tabWidth width body' blanks' left' ↔ Closes (blanks ++ left) code := by
  have hgetLast : ((Line.scan code).map (·.content)).getLast? = some line.content := by
    rw [List.getLast?_map, hlast]
    rfl
  rw [extent_iff, and_iff_right (he.again_margined hm hlt hgetLast hblank hbody hblanks hleft),
    he.closes_iff, hleft.ne_nil_iff, List.map_append, hbody, Line.map_content_congr hblanks,
    LexState.afterAll_append, afterAll_margined hm, LexState.afterAll_append]

-- ---------------------------------------------------------------------------
-- The region of a block
-- ---------------------------------------------------------------------------

theorem Taken.again_kept (ht : Taken indentation style above variant header body r)
    (he : Extent indentation.tabWidth width body blanks left)
    (hr : ∀ code, result ≠ some (.formatted code)) (habove : above'.indent = above.indent)
    (hbody : body'.map Line.toRawLine = r.blockLines result)
    (hblanks : blanks'.map Line.toRawLine = blanks.map Line.toRawLine)
    (hleft : SameHead left left') :
    ∃ r', Taken indentation style' above' variant header body' r' ∧
      Extent indentation.tabWidth width body' blanks' left' ∧ Refound result r r' ∧
      r'.blockLines result = r.blockLines result := by
  rw [blockLines_of_ne_formatted hr, ht.map_raw] at hbody
  have hsame := sameLine_lexedFrom (s := .initial) hbody
  obtain ⟨last, hlast, hblank⟩ := he.last
  have hmargin : bodyMargin indentation.tabWidth (lexedFrom .initial body') = r.margin := by
    rw [SameLine.bodyMargin hsame (exists_full_lexedFrom hlast hblank), ht.margin]
  have hlines : List.Forall₂ (Yields indentation r.margin) (lexedFrom .initial body')
      (r.lines.map RegionLine.code) := by
    rw [List.forall₂_map_right_iff]
    exact forall₂_of_common hsame ht.lines fun _ _ _ h hline => h.yields hline
  have hextent := he.again_kept hbody hblanks hleft
  obtain ⟨r', ht', hcode⟩ := exists_taken hextent.ne_nil hmargin hlines
  refine ⟨r', ht', hextent, ht.refound ht' habove (ht'.margin.trans hmargin) ?_, ?_⟩
  · rw [ht'.code, blockCode, hcode, ← blockCode, ← ht.code, resultCode_of_ne_formatted hr]
  · rw [blockLines_of_ne_formatted hr, blockLines_of_ne_formatted hr, ht'.map_raw, ht.map_raw,
      hbody]

/-- Lines of code at the margin of a region make a region with this code, if they have the margin
and it comes off all of them. The code comes back from the region as these lines. -/
theorem exists_margined (r : Region) (hne : ts ≠ [])
    (hbody : body'.map Line.toRawLine =
      terminated r.lineBreak r.endsWithBreak (margined r.margin .initial ts))
    (hmargin : bodyMargin indentation.tabWidth (lexedFrom .initial body') = r.margin)
    (hlines : List.Forall₂ (Yields indentation r.margin) (lexedFrom .initial body') ts) :
    ∃ r', Taken indentation style' above' variant header body' r' ∧ r'.margin = r.margin ∧
      r'.lines.map RegionLine.code = ts ∧
      terminated r'.lineBreak r'.endsWithBreak (margined r'.margin .initial ts) =
        body'.map Line.toRawLine := by
  have hmargined : margined r.margin .initial ts ≠ [] := margined_ne_nil hne
  have hne' : body' ≠ [] := by
    rintro rfl
    have hlength := congrArg List.length hbody
    rw [length_terminated] at hlength
    exact hmargined (List.eq_nil_of_length_eq_zero hlength.symm)
  obtain ⟨r', ht', hcode⟩ : ∃ r', Taken indentation style' above' variant header body' r' ∧
      r'.lines.map RegionLine.code = ts := exists_taken hne' hmargin hlines
  have hends : r'.endsWithBreak = r.endsWithBreak :=
    Option.some.inj (ht'.endsWithBreak.symm.trans (getLast?_of_terminated hbody hmargined))
  refine ⟨r', ht', ht'.margin.trans hmargin, hcode, ?_⟩
  rw [hends, ht'.margin.trans hmargin, ht'.lineBreak, terminated_breakOf hbody, hbody]

theorem Taken.again_formatted (ht : Taken indentation style above variant header body r)
    (he : Extent indentation.tabWidth width body blanks left)
    (hfits : FitsBlock indentation.tabWidth (blanks ++ left) code)
    (habove : above'.indent = above.indent)
    (hbody : body'.map Line.toRawLine = r.blockLines (some (.formatted code)))
    (hblanks : blanks'.map Line.toRawLine = blanks.map Line.toRawLine)
    (hleft : SameHead left left') :
    ∃ r', Taken indentation style' above' variant header body' r' ∧
      Extent indentation.tabWidth width body' blanks' left' ∧
      Refound (some (.formatted code)) r r' ∧
      r'.blockLines (some (.formatted code)) = r.blockLines (some (.formatted code)) := by
  obtain ⟨-, hcontents⟩ := lines_of_code hfits.unbroken hfits.ends
  obtain ⟨last, hlast, hblank⟩ := hfits.last
  have hm : ∀ u ∈ r.margin, u.isIndent := ht.margin ▸ isIndent_of_mem_bodyMargin
  have hcontent : body'.map (·.content) =
      margined r.margin .initial ((Line.scan code).map (·.content)) := by
    rw [← Line.map_content_toRawLine, hbody, blockLines, map_content_terminated, hcontents]
  have hmoved := remargined_lexedFrom hm hcontent
  have hmargin : bodyMargin indentation.tabWidth (lexedFrom .initial body') = r.margin :=
    (Remargined.bodyMargin_eq_iff hmoved hm (exists_full_lexedFrom hlast hblank)).mpr hfits.margin
  have hlines : List.Forall₂ (Yields indentation r.margin) (lexedFrom .initial body')
      ((Line.scan code).map (·.content)) := by
    rw [← map_content_lexedFrom (s := .initial)]
    exact yields_of_movable hm hfits.movable hmoved
  have hlt := he.lt_width_bodyMargin
  rw [← ht.margin] at hlt
  have hextent := (he.bounds.extent_margined_iff hm hlt hlast hblank hcontent hblanks hleft).mpr
    hfits.closed
  have hne : (Line.scan code).map (·.content) ≠ [] := by
    simpa using List.ne_nil_of_mem (List.mem_of_getLast? hlast)
  rw [blockLines, ← hcontents] at hbody
  obtain ⟨r', ht', hmargin', hcode, hback⟩ : ∃ r', Taken indentation style' above' variant header
      body' r' ∧ _ := exists_margined r hne hbody
    hmargin hlines
  refine ⟨r', ht', hextent, ht.refound ht' habove hmargin' ?_, ?_⟩
  · rw [ht'.code, blockCode, hcode, hcontents, Text.join_splitOn, unterminated_append hfits.ends]
    rfl
  · rw [blockLines, blockLines, ← hcontents, hback, hbody]

theorem Taken.again (ht : Taken indentation style above variant header body r)
    (he : Extent indentation.tabWidth width body blanks left)
    (hfits : ∀ code, result = some (.formatted code) →
      FitsBlock indentation.tabWidth (blanks ++ left) code)
    (habove : above'.indent = above.indent)
    (hbody : body'.map Line.toRawLine = r.blockLines result)
    (hblanks : blanks'.map Line.toRawLine = blanks.map Line.toRawLine)
    (hleft : SameHead left left') :
    ∃ r', Taken indentation style' above' variant header body' r' ∧
      Extent indentation.tabWidth width body' blanks' left' ∧ Refound result r r' ∧
      r'.blockLines result = r.blockLines result := by
  rcases RegionResult.formatted_or_kept result with ⟨code, rfl⟩ | hkept
  · exact ht.again_formatted he (hfits code rfl) habove hbody hblanks hleft
  · exact ht.again_kept he hkept habove hbody hblanks hleft

-- ---------------------------------------------------------------------------
-- A statement is found again
-- ---------------------------------------------------------------------------

variable {line line' : Line} {column code stop : Nat}

theorem refound_statement_kept (hr : ∀ code, result ≠ some (.formatted code))
    (hrecognize : Introducer.recognize line s (lexLine .host s line.content).tokens =
      .ok (.statement column code stop))
    (hline : line'.toRawLine = (ofStatement line code stop).statementLine line.toRawLine result) :
    Introducer.recognize line' s (lexLine .host s line'.content).tokens =
        .ok (.statement column code stop) ∧
      Refound result (ofStatement line code stop) (ofStatement line' code stop) ∧
      (ofStatement line' code stop).statementLine line'.toRawLine result = line'.toRawLine ∧
      line'.indent = line.indent ∧ line'.isBlank = line.isBlank := by
  rw [statementLine_of_ne_formatted hr] at hline
  refine ⟨?_, ?_, statementLine_of_ne_formatted hr, by rw [hline], by rw [hline]⟩
  · rw [hline]
    exact Introducer.recognize_congr (by rw [hline]) hrecognize
  · constructor
    · rfl
    · rw [ofStatement, hline]; rfl
    · rw [ofStatement, hline]; rfl
    · rw [resultCode_of_ne_formatted hr, ofStatement, hline]; rfl

theorem recognize_statementLine {x t : Text} (hx : ∀ u ∈ x, u = space ∨ u = tab)
    (hhead : ∃ u, t.head? = some u ∧ u ≠ space ∧ u ≠ tab)
    (hlast : ∃ u, t.getLast? = some u ∧ u.isBlank = false)
    (hrecognize : Introducer.recognize line s (lexLine .host s line.content).tokens =
      .ok (.statement column code stop))
    (hline : line'.toRawLine = (ofStatement line code stop).statementLine line.toRawLine
      (some (.formatted (x ++ t ++ [lineFeed])))) :
    Introducer.recognize line' s (lexLine .host s line'.content).tokens =
        .ok (.statement column (code + x.length) line'.content.trimEnd.length) ∧
      Text.slice line'.content (code + x.length) line'.content.trimEnd.length = t ∧
      line'.indent = line.indent ∧ line'.isBlank = line.isBlank := by
  obtain ⟨first, hfirst, hspace, htab⟩ := hhead
  obtain ⟨last, hlast, hblank⟩ := hlast
  obtain ⟨rfl, w, g, rest, hc, hw, hg, -, rfl, rfl, rfl⟩ := Introducer.exists_marker hrecognize
  -- the white space that trimming takes off stays behind the new statement
  have hz := Text.isBlank_drop_trimEnd line.content
  rw [statementLine, unterminated_concat] at hline
  generalize line.content.drop line.content.trimEnd.length = z at hline hz
  have hlength : (w ++ marker :: g).length = w.length + 1 + g.length := by
    simp only [List.length_append, List.length_cons]
    omega
  have hcode : line.content.take (w.length + 1 + g.length) = w ++ marker :: g := by
    rw [hc, ← hlength, ← List.cons_append, ← List.append_assoc, List.take_left]
  have hc' : line'.content = (w ++ marker :: (g ++ x)) ++ (t ++ z) := by
    have hcontent : line'.content = line.content.take (w.length + 1 + g.length) ++ (x ++ t) ++ z := by
      rw [hline]
      rfl
    rw [hcontent, hcode]
    simp only [List.append_assoc, List.cons_append]
  have hlength' : (w ++ marker :: (g ++ x)).length = w.length + 1 + g.length + x.length := by
    simp only [List.length_append, List.length_cons]
    omega
  have hmarker : line'.content = w ++ marker :: ((g ++ x) ++ (t ++ z)) := by
    rw [hc', List.append_assoc, List.cons_append]
  have hpos : 0 < t.length := by
    cases t with
    | nil => simp at hfirst
    | cons u t => simp
  have hstop : line'.content.trimEnd.length = w.length + 1 + g.length + x.length + t.length := by
    rw [hc', Text.trimEnd_append hlast hblank hz, List.length_append, hlength']
  have hgap : ∀ u ∈ g ++ x, u = space ∨ u = tab := fun u hu =>
    (List.mem_append.mp hu).elim (hg u) (hx u)
  have hhead : ∀ u, (t ++ z).head? = some u → u ≠ space ∧ u ≠ tab := by
    intro u hu
    rw [List.head?_append, hfirst] at hu
    cases hu
    exact ⟨hspace, htab⟩
  have hrecognized := Introducer.recognize_marker hmarker hw hgap hhead
    (by rw [hstop, List.length_append]; omega)
  rw [List.length_append, ← Nat.add_assoc] at hrecognized
  refine ⟨hrecognized, ?_, ?_, ?_⟩
  · have hdrop : line'.content.drop (w.length + 1 + g.length + x.length) = t ++ z := by
      rw [hc', ← hlength', List.drop_left]
    rw [hstop, Text.slice_of_drop hdrop]
  · rw [RawLine.indent, RawLine.indent, hmarker, hc, Introducer.indentation_marker hw,
      Introducer.indentation_marker hw]
  · rw [RawLine.isBlank, RawLine.isBlank, hmarker, hc, Introducer.isBlank_marker,
      Introducer.isBlank_marker]

theorem refound_statement_formatted {formatted : Text} (hfits : FitsStatement formatted)
    (hrecognize : Introducer.recognize line s (lexLine .host s line.content).tokens =
      .ok (.statement column code stop))
    (hline : line'.toRawLine =
      (ofStatement line code stop).statementLine line.toRawLine (some (.formatted formatted))) :
    ∃ stop', Introducer.recognize line' s (lexLine .host s line'.content).tokens =
        .ok (.statement column code stop') ∧
      Refound (some (.formatted formatted)) (ofStatement line code stop)
        (ofStatement line' code stop') ∧
      (ofStatement line' code stop').statementLine line'.toRawLine (some (.formatted formatted)) =
        line'.toRawLine ∧
      line'.indent = line.indent ∧ line'.isBlank = line.isBlank := by
  obtain ⟨t, rfl, -, hhead, hlast⟩ := hfits
  obtain ⟨hrecognized, hslice, hindent, hblank⟩ :=
    recognize_statementLine (x := []) (by simp) hhead hlast hrecognize hline
  rw [List.length_nil, Nat.add_zero] at hrecognized hslice
  obtain ⟨-, -, -, -, hlt⟩ := Introducer.recognize_eq_statement_iff.mp hrecognized
  refine ⟨line'.content.trimEnd.length, hrecognized, ⟨rfl, hindent, hindent, ?_⟩, ?_, hindent, hblank⟩
  · rw [ofStatement, hslice]
    rfl
  · have hcontent : line'.content.take code ++ t ++
        line'.content.drop line'.content.trimEnd.length = line'.content := by
      rw [← hslice, List.append_assoc, Text.slice_append_drop (Nat.le_of_lt hlt),
        List.take_append_drop]
    rw [statementLine, unterminated_concat]
    exact congrArg (RawLine.mk · line'.ending) hcontent

theorem refound_statement (hfits : ∀ code, result = some (.formatted code) → FitsStatement code)
    (hrecognize : Introducer.recognize line s (lexLine .host s line.content).tokens =
      .ok (.statement column code stop))
    (hline : line'.toRawLine = (ofStatement line code stop).statementLine line.toRawLine result) :
    ∃ stop', Introducer.recognize line' s (lexLine .host s line'.content).tokens =
        .ok (.statement column code stop') ∧
      Refound result (ofStatement line code stop) (ofStatement line' code stop') ∧
      (ofStatement line' code stop').statementLine line'.toRawLine result = line'.toRawLine ∧
      line'.indent = line.indent ∧ line'.isBlank = line.isBlank := by
  rcases RegionResult.formatted_or_kept result with ⟨formatted, rfl⟩ | hkept
  · exact refound_statement_formatted (hfits formatted rfl) hrecognize hline
  · exact ⟨stop, refound_statement_kept hkept hrecognize hline⟩

end Region

end Inlay
