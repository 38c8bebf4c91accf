import Inlay.Proofs.Agreement
import Inlay.Proofs.Continuations

/-!
# Where a block ends

Which of the lines below an introducer are its block is told by their widths alone. The lines that
stay inside come first (`Divides`); the lexer decides no more than whether the line that leaves them
may do so (`ofBlock_eq_of_divides`), and the lines that are blank at the end are left out.
`ofBlock_extent` says for every line of a document which block it has below it, and when it has
none.
-/

namespace Inlay

/-- The lines of a document from one number up to another. -/
def Line.between (lines : List Line) (first stop : Nat) : List Line :=
  (lines.drop first).take (stop - first)

theorem Line.between_eq {lines front rest : List Line} {n : Nat}
    (h : lines.drop n = front ++ rest) : between lines n (n + front.length) = front := by
  rw [between, h, Nat.add_sub_cancel_left, List.take_left]

namespace Region

variable {indentation : Indentation} {style : LineStyle} {above : Line} {variant : BlockVariant}
  {header : Header} {behind : Nat} {region : Region} {body below taken left : List Line}
  {tabWidth width : Nat} {e : StructureError}

-- ---------------------------------------------------------------------------
-- The lines that stay inside
-- ---------------------------------------------------------------------------

theorem stays_eq_false_iff {line : Line} :
    stays tabWidth width line = false ↔
      line.isBlank = false ∧ Indent.width tabWidth line.indent ≤ width := by
  simp [stays]

/-- Below an introducer of the given width stand lines that stay inside its block, and behind them
nothing, or a line that leaves it. -/
structure Divides (tabWidth width : Nat) (taken left : List Line) : Prop where
  stays : ∀ line ∈ taken, stays tabWidth width line
  leaves : ∀ line, left.head? = some line → Region.stays tabWidth width line = false

theorem exists_divides (tabWidth width : Nat) (below : List Line) :
    ∃ taken left, below = taken ++ left ∧ Divides tabWidth width taken left := by
  refine ⟨below.takeWhile (stays tabWidth width), below.dropWhile (stays tabWidth width),
    List.takeWhile_append_dropWhile.symm, List.all_eq_true.mp List.all_takeWhile, ?_⟩
  intro line hline
  simpa [hline] using List.head?_dropWhile_not (stays tabWidth width) below

namespace Divides

theorem find?_leaving (h : Divides tabWidth width taken left) :
    (taken ++ left).find? (fun line => !line.isBlank &&
      decide (Indent.width tabWidth line.indent ≤ width)) = left.head? := by
  have hpred : (fun line : Line => !line.isBlank &&
      decide (Indent.width tabWidth line.indent ≤ width)) =
        fun line => !Region.stays tabWidth width line := by
    funext line
    simp [Region.stays, ← decide_not]
  have htaken : taken.find? (fun line => !Region.stays tabWidth width line) = none :=
    List.find?_eq_none.mpr fun line hm => by simp [h.stays line hm]
  rw [hpred, List.find?_append, htaken, Option.none_or]
  cases left with
  | nil => rfl
  | cons line left => simp [h.leaves line rfl]

theorem find?_full (h : Divides tabWidth width taken left) :
    (∀ line, (taken ++ left).find? (!·.isBlank) = some line →
      Indent.width tabWidth line.indent ≤ width) ↔ ∀ line ∈ taken, line.isBlank := by
  rw [List.find?_append]
  constructor
  · intro hnarrow line hm
    by_contra hfull
    have hsome : (taken.find? (!·.isBlank)).isSome :=
      List.find?_isSome.mpr ⟨line, hm, by simpa using hfull⟩
    obtain ⟨first, hfirst⟩ := Option.isSome_iff_exists.mp hsome
    have hle := hnarrow first (by rw [hfirst]; rfl)
    have hblank : first.isBlank = false := by simpa using List.find?_some hfirst
    have hstay := h.stays first (List.mem_of_find?_eq_some hfirst)
    exact absurd hstay (by simp [stays_eq_false_iff.mpr ⟨hblank, hle⟩])
  · intro hblank line hline
    rw [List.find?_eq_none.mpr fun line hm => by simp [hblank line hm], Option.none_or] at hline
    cases left with
    | nil => cases hline
    | cons leaving left =>
      obtain ⟨hfull, hle⟩ := stays_eq_false_iff.mp (h.leaves leaving rfl)
      rw [List.find?_cons_of_pos (by simpa using hfull)] at hline
      cases hline
      exact hle

end Divides

theorem afterAll_of_isBlank (h : ∀ line ∈ taken, line.isBlank) :
    LexState.afterAll .embedded .initial (taken.map (·.content)) = .initial := by
  induction taken with
  | nil => rfl
  | cons line taken ih =>
    obtain ⟨hline, htaken⟩ := List.forall_mem_cons.mp h
    have hafter : LexState.initial.after .embedded line.content = .initial :=
      (LexState.after_blank .initial hline).trans (by cbv)
    rw [List.map_cons, LexState.afterAll_cons, hafter, ih htaken]

-- ---------------------------------------------------------------------------
-- Why there is no block
-- ---------------------------------------------------------------------------

theorem ofBlock_eq_of_divides
    (h : Divides indentation.tabWidth (Indent.width indentation.tabWidth above.indent) taken left) :
    ofBlock indentation style above variant header behind (taken ++ left) =
      match left.head? with
      | some leaving =>
        if (LexState.afterAll .embedded .initial (taken.map (·.content))).isOpen then
          .error ⟨.indentation .openDedent, leaving.index + 1, 1⟩
        else ofBody indentation style above variant header behind
          (lexedFrom .initial (dropEndWhile (·.isBlank) taken))
      | none => ofBody indentation style above variant header behind
          (lexedFrom .initial (dropEndWhile (·.isBlank) taken)) := by
  have hblock : ofBlock indentation style above variant header behind (taken ++ left) = _ :=
    ofBlock_eq (takeWhile_append_of_head h.stays h.leaves)
  rw [List.drop_left] at hblock
  exact hblock

theorem exists_mem_of_ofBody_eq_error (hne : body ≠ [])
    (h : ofBody indentation style above variant header behind (lexedFrom .initial body) =
      .error e) :
    ∃ b ∈ lexedFrom .initial body,
      dedentLine indentation (bodyMargin indentation.tabWidth (lexedFrom .initial body)) b =
        .error e := by
  obtain ⟨build, -, hbody⟩ := ofBody_eq indentation style above variant header behind hne
  rw [hbody] at h
  cases hlines : (lexedFrom .initial body).mapM (dedentLine indentation
      (bodyMargin indentation.tabWidth (lexedFrom .initial body))) with
  | ok lines =>
    rw [hlines] at h
    cases h
  | error e' =>
    rw [hlines] at h
    cases h
    exact exists_mem_of_mapM_eq_error hlines

theorem ofBody_eq_error
    (h : ofBody indentation style above variant header behind (lexedFrom .initial body) =
      .error e) :
    (body = [] ∧ e = ⟨.introducer .missingBlock, above.index + 1, behind + 1⟩) ∨
      body ≠ [] ∧ ∃ indent margin, e.cause = .indentation (.offMargin indent margin) := by
  by_cases hne : body = []
  · subst hne
    cases h
    exact .inl ⟨rfl, rfl⟩
  · obtain ⟨b, -, hb⟩ := exists_mem_of_ofBody_eq_error hne h
    obtain ⟨-, rfl⟩ := dedentLine_eq_error_iff.mp hb
    exact .inr ⟨hne, _, _, rfl⟩

theorem ofBlock_eq_openDedent_iff {line column : Nat}
    (h : Divides indentation.tabWidth (Indent.width indentation.tabWidth above.indent) taken left) :
    ofBlock indentation style above variant header behind (taken ++ left) =
        .error ⟨.indentation .openDedent, line, column⟩ ↔
      ∃ leaving, left.head? = some leaving ∧
        (LexState.afterAll .embedded .initial (taken.map (·.content))).isOpen ∧
        line = leaving.index + 1 ∧ column = 1 := by
  have hbody : ofBody indentation style above variant header behind
      (lexedFrom .initial (dropEndWhile (·.isBlank) taken)) ≠
        .error ⟨.indentation .openDedent, line, column⟩ := by
    intro hbody
    obtain ⟨-, he⟩ | ⟨-, _, _, he⟩ := ofBody_eq_error hbody <;> cases he
  rw [ofBlock_eq_of_divides h]
  cases left.head? with
  | none => simp [hbody]
  | some leaving =>
    dsimp only
    split
    · next hopen => simp [hopen, eq_comm]
    · next hclosed => simp [hbody, hclosed]

theorem ofBlock_eq_introducer_iff {fault : IntroducerFault} {line column : Nat}
    (h : Divides indentation.tabWidth (Indent.width indentation.tabWidth above.indent) taken left) :
    ofBlock indentation style above variant header behind (taken ++ left) =
        .error ⟨.introducer fault, line, column⟩ ↔
      (∀ line ∈ taken, line.isBlank) ∧
        (⟨.introducer fault, line, column⟩ : StructureError) =
          ⟨.introducer .missingBlock, above.index + 1, behind + 1⟩ := by
  rw [ofBlock_eq_of_divides h]
  constructor
  · intro hblock
    have hbody : ofBody indentation style above variant header behind
        (lexedFrom .initial (dropEndWhile (·.isBlank) taken)) =
          .error ⟨.introducer fault, line, column⟩ := by
      split at hblock
      · split at hblock
        · cases hblock
        · exact hblock
      · exact hblock
    obtain ⟨hnil, he⟩ | ⟨-, _, _, he⟩ := ofBody_eq_error hbody
    · exact ⟨List.all_eq_true.mp (dropEndWhile_eq_nil_iff.mp hnil), he⟩
    · cases he
  · rintro ⟨hblank, he⟩
    have hnil : dropEndWhile (fun line : Line => line.isBlank) taken = [] :=
      dropEndWhile_eq_nil_iff.mpr (List.all_eq_true.mpr hblank)
    have hclosed : LexState.initial.isOpen = false := by decide
    rw [afterAll_of_isBlank hblank, hclosed, hnil, he]
    cases left.head? <;> rfl

-- ---------------------------------------------------------------------------
-- The block below a line
-- ---------------------------------------------------------------------------

theorem Taken.forall₂_lines (h : Taken indentation style above variant header body region) :
    List.Forall₂ (fun line l => line.index = l.index ∧ line.raw = l.toRawLine)
      region.lines body := by
  have hlines : List.Forall₂ (fun l line => line.index = l.index ∧ line.raw = l.toRawLine)
      ((lexedFrom .initial body).map (·.line)) region.lines := by
    refine List.forall₂_map_left_iff.mpr (h.lines.imp fun b line hline => ?_)
    refine ⟨?_, raw_of_dedentLine hline⟩
    obtain ⟨_, -, rfl⟩ := dedentLine_eq_ok_iff.mp hline
    rfl
  rw [map_line_lexedFrom] at hlines
  exact hlines.flip

theorem Taken.extent {lines blanks : List Line} {offset : Nat}
    (h : Taken indentation style above variant header body region)
    (he : Extent indentation.tabWidth (Indent.width indentation.tabWidth above.indent)
      body blanks left)
    (hp : Line.Placed (above.index + 1) offset body)
    (hlines : lines.drop (above.index + 1) = body ++ blanks ++ left) :
    region.startLine = above.index + 1 ∧
    List.Forall₂ (fun line l => line.index = l.index ∧ line.raw = l.toRawLine) region.lines
      (Line.between lines region.startLine region.nextLine) ∧
    (∃ first last, (Line.between lines region.startLine region.nextLine).head? = some first ∧
      (Line.between lines region.startLine region.nextLine).getLast? = some last ∧
      last.isBlank = false ∧ region.span = ⟨first.start, last.next⟩) ∧
    (∀ line ∈ Line.between lines region.startLine region.nextLine, line.isBlank = false →
      Indent.width indentation.tabWidth above.indent <
        Indent.width indentation.tabWidth line.indent) ∧
    ∀ line, (lines.drop region.nextLine).find? (!·.isBlank) = some line →
      Indent.width indentation.tabWidth line.indent ≤
        Indent.width indentation.tabWidth above.indent := by
  rw [List.append_assoc] at hlines
  have hstart := h.startLine hp
  have hbody : Line.between lines region.startLine region.nextLine = body := by
    rw [hstart, h.nextLine hp, Line.between_eq hlines]
  have hrest : lines.drop region.nextLine = blanks ++ left := h.drop_nextLine hp hlines
  rw [hbody, hrest]
  refine ⟨hstart, h.forall₂_lines, ?_, fun line hm hfull => ?_, ?_⟩
  · obtain ⟨first, hfirst, hstart⟩ := Option.map_eq_some_iff.mp h.start
    obtain ⟨last, hlast, hstop⟩ := Option.map_eq_some_iff.mp h.stop
    obtain ⟨_, hlast', hfull⟩ := he.last
    cases hlast.symm.trans hlast'
    exact ⟨first, last, hfirst, hlast, hfull, by rw [hstart, hstop]⟩
  · simpa [stays, hfull] using he.stays line hm
  · have hdivides : Divides indentation.tabWidth
        (Indent.width indentation.tabWidth above.indent) blanks left :=
      ⟨fun line hm => stays_of_isBlank (he.blank line hm), he.leaves⟩
    exact hdivides.find?_full.mpr he.blank

/-- The block below a line of a document. There is one unless no full line stands below or the
first is not wider, and unless the line that leaves it does so while a logical line is open; its
lines are those up to the last full one before the first that is not wider. -/
theorem ofBlock_extent (indentation : Indentation) (style : LineStyle) {t : Text}
    {introducer : Line} (variant : BlockVariant) (header : Header) (behind : Nat)
    (h : introducer ∈ Line.scan t) :
    let lines := Line.scan t
    let below := lines.drop (introducer.index + 1)
    let width (line : Line) := Indent.width indentation.tabWidth line.indent
    let block := ofBlock indentation style introducer variant header behind below
    (∀ r, block = .ok r →
      let body := Line.between lines r.startLine r.nextLine
      r.startLine = introducer.index + 1 ∧
      List.Forall₂ (fun line l => line.index = l.index ∧ line.raw = l.toRawLine) r.lines body ∧
      (∃ first last, body.head? = some first ∧ body.getLast? = some last ∧
        last.isBlank = false ∧ r.span = ⟨first.start, last.next⟩) ∧
      (∀ line ∈ body, line.isBlank = false → width introducer < width line) ∧
      ∀ line, (lines.drop r.nextLine).find? (!·.isBlank) = some line →
        width line ≤ width introducer) ∧
    (∀ fault line column, block = .error ⟨.introducer fault, line, column⟩ ↔
      (∀ l, below.find? (!·.isBlank) = some l → width l ≤ width introducer) ∧
        fault = .missingBlock ∧ line = introducer.index + 1 ∧ column = behind + 1) ∧
    ∀ line column, block = .error ⟨.indentation .openDedent, line, column⟩ ↔
      ∃ leaving,
        below.find? (fun l => !l.isBlank && decide (width l ≤ width introducer)) = some leaving ∧
        (LexState.afterAll .embedded .initial
          ((Line.between lines (introducer.index + 1) leaving.index).map (·.content))).isOpen ∧
        line = leaving.index + 1 ∧ column = 1 := by
  intro lines below width block
  obtain ⟨above, rest, hscan⟩ := List.append_of_mem h
  have hp : Line.Placed 0 0 (above ++ introducer :: rest) := hscan ▸ Line.placed_scan t
  obtain ⟨-, hindex, -, hrest⟩ := Line.placed_append.mp hp
  rw [Nat.zero_add] at hindex hrest
  rw [← hindex] at hrest
  have hbelow : below = rest := by
    change (Line.scan t).drop _ = rest
    rw [hscan, hindex, ← List.drop_drop, List.drop_left]
    rfl
  refine ⟨fun r hr => ?_, fun fault line column => ?_, fun line column => ?_⟩
  · obtain ⟨body, blanks, left, hsplit, he, ht⟩ := ofBlock_eq_ok_iff.mp hr
    rw [← hbelow, hsplit, List.append_assoc] at hrest
    exact ht.extent he (Line.placed_append.mp hrest).1 hsplit
  · obtain ⟨taken, left, hsplit, hdivides⟩ :=
      exists_divides indentation.tabWidth (width introducer) below
    simp only [block, hsplit, ofBlock_eq_introducer_iff hdivides, hdivides.find?_full, width,
      StructureError.mk.injEq, StructureCause.introducer.injEq]
  · obtain ⟨taken, left, hsplit, hdivides⟩ :=
      exists_divides indentation.tabWidth (width introducer) below
    have hbetween {leaving : Line} (hleaving : left.head? = some leaving) :
        Line.between lines (introducer.index + 1) leaving.index = taken := by
      obtain ⟨left, rfl⟩ := List.head?_eq_some_iff.mp hleaving
      rw [← hbelow, hsplit] at hrest
      obtain ⟨-, hleavingIndex, -⟩ := Line.placed_append.mp hrest
      rw [hleavingIndex, Line.between_eq hsplit]
    simp only [block, hsplit, ofBlock_eq_openDedent_iff hdivides, hdivides.find?_leaving, width]
    refine exists_congr fun leaving => and_congr_right fun hleaving => ?_
    rw [hbetween hleaving]

theorem ofBlock_extent_trimmed :
    let lines := Line.scan (text "python:\n  a\n\n    b\n\nc\n")
    let introducer : Line := ⟨⟨text "python:", some .lf⟩, 0, 0⟩
    let header : Header := ⟨false, none, false, false, none⟩
    introducer ∈ lines ∧
    ∃ r, ofBlock ⟨.reject, 4⟩ ⟨.lf, false⟩ introducer .block header 7
        (lines.drop (introducer.index + 1)) = .ok r ∧
      r.startLine = 1 ∧ r.nextLine = 4 ∧
      List.Forall₂ (fun line l => line.index = l.index ∧ line.raw = l.toRawLine) r.lines
        (Line.between lines 1 4) ∧
      r.span = ⟨8, 19⟩ := by
  intro lines introducer header
  have hmem : introducer ∈ lines := by decide +kernel
  have hrun : (ofBlock ⟨.reject, 4⟩ ⟨.lf, false⟩ ⟨⟨text "python:", some .lf⟩, 0, 0⟩ .block
      ⟨false, none, false, false, none⟩ 7
      ((Line.scan (text "python:\n  a\n\n    b\n\nc\n")).drop 1)).map
        (fun r => (r.nextLine, r.span)) = .ok (4, ⟨8, 19⟩) := by cbv
  obtain ⟨r, hr, hfound⟩ := map_eq_ok_iff.mp hrun
  obtain ⟨hnext, hspan⟩ := Prod.mk.inj hfound
  obtain ⟨hstart, hlines, -⟩ :=
    (ofBlock_extent ⟨.reject, 4⟩ ⟨.lf, false⟩ .block header 7 hmem).1 r hr
  have hfirst : r.startLine = 1 := hstart
  rw [hfirst, hnext] at hlines
  exact ⟨hmem, r, hr, hfirst, hnext, hlines, hspan⟩

end Region

end Inlay
