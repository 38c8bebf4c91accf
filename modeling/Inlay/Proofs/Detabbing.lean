import Inlay.Proofs.Shifting

/-!
# Documents without tabs

A document that is read with its tabs expanded is read like the document in which the indentation of
every line is replaced by as many spaces, and of that one the lines are compared by their text: the
same regions hold the same code, and where one is malformed the other is, on the same line
(`build_detab`). A document that is indented by spaces only is read alike in either way.
-/

namespace Inlay

open CodeUnit

-- ---------------------------------------------------------------------------
-- Spaces for tabs
-- ---------------------------------------------------------------------------

def RawLine.detab (tabWidth : Nat) (line : RawLine) : RawLine :=
  ⟨Indent.spaces (Indent.width tabWidth line.indent) ++ line.body, line.ending⟩

/-- The text with spaces for the indentation of every line. -/
def Text.detab (tabWidth : Nat) (t : Text) : Text :=
  RawLine.join ((RawLine.split t).map (RawLine.detab tabWidth))

/-- The line in the document without tabs. -/
structure Line.Detabbed (tabWidth : Nat) (line line' : Line) : Prop where
  index : line'.index = line.index
  raw : line'.toRawLine = line.toRawLine.detab tabWidth

namespace Indent

variable {m n : Nat}

theorem isIndent_of_mem_spaces (h : u ∈ spaces n) : u.isIndent := by
  rw [(List.mem_replicate.mp h).2]
  decide

theorem isPrefixOf_spaces_iff : (spaces m).isPrefixOf (spaces n) ↔ m ≤ n := by
  rw [List.isPrefixOf_iff_prefix, spaces, spaces, List.prefix_replicate_iff]
  simp

theorem drop_spaces : (spaces n).drop (spaces m).length = spaces (n - m) := by
  rw [spaces, spaces, List.length_replicate, List.drop_replicate]
  rfl

end Indent

section

variable {w v : Nat} {raw : RawLine} {raws : List RawLine} {line line' : Line} {e : LineBreak}

namespace Text

theorem unindented_unindented (t : Text) : unindented (unindented t) = unindented t := by
  have h := indentation_append_unindented (unindented t)
  rwa [indentation_unindented, List.nil_append] at h

end Text

namespace RawLine

theorem indent_detab : (raw.detab w).indent = Indent.spaces (Indent.width w raw.indent) := by
  rw [indent, detab, Text.indentation_append fun _ => Indent.isIndent_of_mem_spaces, body,
    Text.indentation_unindented, List.append_nil]

theorem body_detab : (raw.detab w).body = raw.body := by
  rw [body, detab, Text.unindented_append fun _ => Indent.isIndent_of_mem_spaces, body,
    Text.unindented_unindented]

theorem unbroken_detab (h : raw.content.Unbroken) : (raw.detab w).content.Unbroken := by
  rw [← indent_append_body raw, Text.unbroken_append] at h
  exact Text.unbroken_append.mpr
    ⟨Text.unbroken_of_isIndent fun _ => Indent.isIndent_of_mem_spaces, h.2⟩

end RawLine

namespace Line.Detabbed

theorem indent (h : Detabbed w line line') :
    line'.indent = Indent.spaces (Indent.width w line.indent) := by
  rw [h.raw, RawLine.indent_detab]

theorem alike (h : Detabbed w line line') : Line.Alike w v line line' where
  index := h.index
  body := by rw [h.raw, RawLine.body_detab]
  width := by rw [h.indent, Indent.width_spaces]

end Line.Detabbed

-- ---------------------------------------------------------------------------
-- Margins without tabs
-- ---------------------------------------------------------------------------

namespace Region

variable {margin : Text} {b b' : BodyLine} {bs bs' : List BodyLine}

theorem dedented?_detab (h : Beside (Line.Detabbed w) b b')
    (hle : b.isAnchor → Indent.width w margin ≤ Indent.width w b.line.indent) :
    dedented? ⟨.reject, v⟩ (Indent.spaces (Indent.width w margin)) b' =
      dedented? ⟨.expandTabs, w⟩ margin b := by
  have halike : Line.Alike w v b.line b'.line := h.line.alike
  simp only [dedented?, isBlank_of_alike halike, h.isComment halike, h.inString, h.startsStatement,
    h.line.indent, Indent.isPrefixOf_spaces_iff, Indent.drop_spaces, Indent.width_spaces]
  split
  · rfl
  · split
    · rfl
    · next hlt =>
      split
      · rfl
      · next hmeans =>
        obtain ⟨hb, hc⟩ := Bool.or_eq_false_iff.mp (Bool.eq_false_iff.mpr hmeans)
        have hstarts : b.startsStatement = false := by
          rw [Bool.eq_false_iff]
          intro hs
          exact hlt (hle (by rw [BodyLine.isAnchor, hb, hc, hs]; rfl))
        rw [hstarts, decide_eq_true (Nat.lt_of_not_le hlt)]
        cases b.inString <;> rfl

theorem bodyMargin_detab (h : List.Forall₂ (Beside (Line.Detabbed w)) bs bs')
    (hne : ∃ b ∈ bs, b.isBlank = false) :
    bodyMargin v bs' = Indent.spaces (Indent.width w (bodyMargin w bs)) := by
  have hcomparable : Comparable w v (Beside (Line.Detabbed w)) :=
    Beside.comparable fun hline => hline.alike
  obtain ⟨b, b', -, hb, hmargin, hmargin'⟩ := hcomparable.bodyMargin h hne
  rw [hmargin, hmargin', hb.line.indent]

theorem dedents_detab :
    Dedents ⟨.expandTabs, w⟩ ⟨.reject, v⟩ (Line.Detabbed w) StructureError.SameLine
      RegionLine.SameCode := by
  intro bs bs' h hne
  have hle : ∀ b ∈ bs, b.isAnchor →
      Indent.width w (bodyMargin w bs) ≤ Indent.width w b.line.indent :=
    fun b hm ha => width_bodyMargin_le hm ha
  refine ((List.forall₂_and_left _ _).mpr ⟨hle, h⟩).imp fun b b' ⟨hb, hbeside⟩ => ?_
  have halike : Line.Alike w v b.line b'.line := hbeside.line.alike
  have hmargin : bodyMargin v bs' = _ := bodyMargin_detab h hne
  dsimp only
  rw [dedentLine, dedentLine, hmargin, dedented?_detab hbeside hb]
  cases dedented? ⟨.expandTabs, w⟩ (bodyMargin w bs) b with
  | none => exact .error ⟨.offMargin, by rw [halike.index]⟩
  | some codeIndent => exact .ok ⟨halike.index, rfl, halike.body⟩

end Region

end

-- ---------------------------------------------------------------------------
-- Regions of side by side blocks
-- ---------------------------------------------------------------------------

section

variable {indentation indentation' : Indentation} {style style' : LineStyle} {above above' : Line}
  {variant : BlockVariant} {header : Header} {R : Line → Line → Prop} {r r' : Region} {w v : Nat}

theorem RegionLine.SameCode.code {line line' : RegionLine} (h : SameCode line line') :
    line'.code = line.code := by
  rw [RegionLine.code, RegionLine.code, h.codeIndent, h.body]

theorem Region.map_code_of_sameCode {lines lines' : List RegionLine}
    (h : List.Forall₂ RegionLine.SameCode lines lines') :
    lines'.map RegionLine.code = lines.map RegionLine.code := by
  induction h with
  | nil => rfl
  | cons hline _ ih => rw [List.map_cons, List.map_cons, ih, hline.code]

theorem Region.startLine_of_sameCode (h : List.Forall₂ RegionLine.SameCode r.lines r'.lines)
    (hi : r'.introducer = r.introducer) : r'.startLine = r.startLine := by
  rw [startLine, startLine, hi]
  generalize r.lines = lines at h ⊢
  generalize r'.lines = lines' at h ⊢
  cases h with
  | nil => rfl
  | cons hline _ => exact hline.index

theorem Region.SameCode.of_taken (hi : above'.index = above.index)
    (h : TakenBeside (Taken indentation style above variant header)
      (Taken indentation' style' above' variant header) R RegionLine.SameCode r r') :
    SameCode r r' := by
  obtain ⟨body, body', -, -, ht, ht', hlines⟩ := h
  have hintroducer : r'.introducer = r.introducer := by rw [ht'.introducer, hi, ht.introducer]
  exact
    { form := ht'.form.trans ht.form.symm
      introducer := hintroducer
      startLine := startLine_of_sameCode hlines hintroducer
      lines := hlines
      code := by rw [ht'.code, ht.code, blockCode, blockCode, map_code_of_sameCode hlines] }

theorem corresponding_detab :
    Corresponding ⟨.expandTabs, w⟩ ⟨.reject, v⟩ style style' (Line.Detabbed w)
      StructureError.SameLine RegionLine.SameCode Region.SameCode where
  alike h := h.alike
  recognize s h := Introducer.recognize_shifted h.index (by rw [h.raw, RawLine.body_detab]) s
  openDedent h := ⟨.openDedent, by rw [h.index]⟩
  dedents := Region.dedents_detab
  taken h := Region.SameCode.of_taken h.index

end

-- ---------------------------------------------------------------------------
-- Blank lines at the end
-- ---------------------------------------------------------------------------

section

variable {indentation : Indentation} {style : LineStyle} {above : Line} {variant : BlockVariant}
  {header : Header} {behind : Nat} {s : LexState} {lines below blanks : List Line}

theorem Region.ofBlock_append_blanks (hb : ∀ line ∈ blanks, line.isBlank) :
    ofBlock indentation style above variant header behind (below ++ blanks) =
      ofBlock indentation style above variant header behind below := by
  have hstay : ∀ line ∈ blanks, stays indentation.tabWidth
      (Indent.width indentation.tabWidth above.indent) line :=
    fun line hm => stays_of_isBlank (hb line hm)
  rw [ofBlock_eq rfl, ofBlock_eq rfl]
  generalize stays indentation.tabWidth _ = stay at hstay ⊢
  have hprefix : below.takeWhile stay <+: below := List.takeWhile_prefix _
  have htaken : (below ++ blanks).takeWhile stay = _ := List.takeWhile_append
  by_cases hall : (below.takeWhile stay).length = below.length
  · -- no line leaves the block
    rw [if_pos hall, List.takeWhile_eq_self_iff.mpr hstay] at htaken
    rw [htaken, hprefix.eq_of_length hall, List.drop_length, List.drop_length,
      dropEndWhile_append (List.all_eq_true.mpr hb)]
    rfl
  · rw [if_neg hall] at htaken
    have hlt : (below.takeWhile stay).length < below.length :=
      Nat.lt_of_le_of_ne hprefix.length_le hall
    rw [htaken, List.drop_append_of_le_length (Nat.le_of_lt hlt), List.head?_append_of_ne_nil]
    exact List.ne_nil_of_length_pos (by rw [List.length_drop]; omega)

theorem Partition.readFrom_of_isBlank (hb : ∀ line ∈ blanks, line.isBlank) :
    ∃ rs, readFrom indentation style s blanks = .ok rs ∧ rs.filterMap Reading.region = [] := by
  induction blanks generalizing s with
  | nil => exact ⟨[], by rw [readFrom], rfl⟩
  | cons line blanks ih =>
    obtain ⟨hline, hb⟩ := List.forall_mem_cons.mp hb
    obtain ⟨rs, hrs, hnone⟩ := ih (s := s.after .host line.content) hb
    refine ⟨⟨line, s, none⟩ :: rs, ?_, hnone⟩
    rw [readFrom_eq_ok_iff] at hrs ⊢
    exact .host (Introducer.recognize_of_isBlank hline) hrs

theorem Partition.readFrom_append_blanks (hb : ∀ line ∈ blanks, line.isBlank) :
    Agree Eq (fun rs rs' => rs'.filterMap Reading.region = rs.filterMap Reading.region)
      (readFrom indentation style s (lines ++ blanks)) (readFrom indentation style s lines) := by
  fun_induction readFrom indentation style s lines with
  | case1 =>
    obtain ⟨rs, hrs, hnone⟩ := readFrom_of_isBlank hb
    rw [List.nil_append, hrs]
    exact .ok hnone.symm
  | case2 =>
    rename_i s line below lexed hfinish hinitial hbehind
    rw [List.cons_append, readFrom]
    refine (Agree.refl (fun _ => rfl) (fun _ => rfl) _).bind fun i _ hi => ?_
    subst hi
    cases i with
    | none => exact hfinish.bind fun _ _ hrs => .ok hrs
    | statement => exact hinitial.bind fun _ _ hrs => .ok (congrArg (_ :: ·) hrs)
    | block header colon =>
      dsimp only
      rw [Region.ofBlock_append_blanks hb]
      refine (Agree.with_eq (Agree.refl (fun _ => rfl) (fun _ => rfl) _)).bind
        fun region region' h => ?_
      obtain ⟨rfl, hok, -⟩ : region = region' ∧ _ := h
      obtain ⟨body, behind, left, rfl, -, ht⟩ := Region.ofBlock_eq_ok_iff.mp hok
      have hlength : region.lines.length ≤ (body ++ behind ++ left).length := by
        rw [ht.length_lines, List.append_assoc, List.length_append]
        exact Nat.le_add_right ..
      rw [List.drop_append_of_le_length hlength]
      exact (hbehind region).bind fun _ _ hrs => .ok (congrArg (_ :: ·) hrs)

end

-- ---------------------------------------------------------------------------
-- The lines of the document without tabs
-- ---------------------------------------------------------------------------

section

variable {w v : Nat} {raws rear : List RawLine} {index start start' : Nat} {e : LineBreak}
  {t : Text}

namespace RawLine

theorem uniform_map_detab (h : Uniform e raws) : Uniform e (raws.map (detab w)) :=
  List.forall_mem_map.mpr h

/-- The last line, if it has no break, can be left without content. It is no line any more then. -/
theorem Scannable.exists_detab (h : Scannable raws) (he : Uniform e raws) :
    ∃ front rear, raws.map (detab w) = front ++ rear ∧ Scannable front ∧
      ∀ raw ∈ rear, raw = ⟨[], none⟩ := by
  induction raws with
  | nil => exact ⟨[], [], rfl, trivial, by simp⟩
  | cons raw raws ih =>
    obtain ⟨hu, hs, hl⟩ := h
    obtain ⟨front, rear, hmap, hfront, hrear⟩ := ih hs (List.forall_mem_cons.mp he).2
    by_cases hvanish : raw.detab w = ⟨[], none⟩
    · have hnone : raw.ending = none := congrArg RawLine.ending hvanish
      rw [hnone] at hl
      exact ⟨[], [raw.detab w], by rw [hl.2]; rfl, trivial, by simp [hvanish]⟩
    · have hall : (raw :: raws).map (detab w) = (raw.detab w :: front) ++ rear := by
        rw [List.map_cons, hmap, List.cons_append]
      have huniform : Uniform e (raw.detab w :: front) := fun line hm =>
        uniform_map_detab he line (hall ▸ List.mem_append_left rear hm)
      refine ⟨raw.detab w :: front, rear, hall,
        scannable_cons (unbroken_detab hu) ?_ hfront huniform, hrear⟩
      intro hnone
      have hending : raw.ending = none := hnone
      rw [hending] at hl
      rw [hl.2, List.map_nil] at hmap
      refine ⟨fun hc => hvanish ?_, (List.nil_eq_append_iff.mp hmap).1⟩
      rw [← hc, ← hnone]

theorem join_of_vanished (h : ∀ raw ∈ rear, raw = ⟨[], none⟩) : join rear = [] :=
  List.flatMap_eq_nil_iff.mpr fun raw hm => by rw [h raw hm]; rfl

end RawLine

namespace Line

theorem place_append (a b : List RawLine) : place index start (a ++ b) =
    place index start a ++ place (index + a.length) (start + (RawLine.join a).length) b := by
  induction a generalizing index start with
  | nil => simp [place]
  | cons raw a ih =>
    simp only [List.cons_append, place, ih, RawLine.join_cons, List.length_append, List.length_cons,
      Nat.add_assoc, Nat.add_comm 1]

theorem forall₂_place_detab :
    List.Forall₂ (Detabbed w) (place index start raws)
      (place index start' (raws.map (RawLine.detab w))) := by
  induction raws generalizing index start start' with
  | nil => exact .nil
  | cons raw raws ih => exact .cons ⟨rfl, rfl⟩ ih

theorem forall₂_scan_detab (h : (Document.ofText t).style.mixed = false) :
    ∃ blanks : List Line, (∀ line ∈ blanks, line.isBlank) ∧
      List.Forall₂ (Detabbed w) (scan t) (scan (t.detab w) ++ blanks) := by
  have hstyle : (LineStyle.ofLines (RawLine.split t)).mixed = false := by
    rw [← map_toRawLine_scan]
    exact h
  obtain ⟨front, rear, hmap, hfront, hrear⟩ :=
    (RawLine.scannable_split t).exists_detab (w := w) (LineStyle.uniform_dominant hstyle)
  have hsplit : RawLine.split (t.detab w) = front := by
    rw [Text.detab, hmap, RawLine.join_append, RawLine.join_of_vanished hrear, List.append_nil,
      RawLine.split_join hfront]
  refine ⟨place (0 + front.length) (0 + (RawLine.join front).length) rear, fun line hm => ?_, ?_⟩
  · have hraw : line.toRawLine ∈ rear := by
      rw [← map_toRawLine_place rear]
      exact List.mem_map_of_mem hm
    rw [RawLine.isBlank, hrear _ hraw]
    rfl
  · rw [scan, scan, hsplit, ← place_append, ← hmap]
    exact forall₂_place_detab

end Line

end

-- ---------------------------------------------------------------------------
-- Documents indented by spaces
-- ---------------------------------------------------------------------------

/-- The line, if it is indented by spaces only. -/
structure Line.Spaced (line line' : Line) : Prop where
  spaces : ∀ u ∈ line.indent, u = space
  eq : line' = line

section

variable {w w' : Nat} {indentation indentation' : Indentation} {style : LineStyle}
  {t margin : Text} {line line' above above' : Line} {b b' : Region.BodyLine}
  {bs bs' : List Region.BodyLine} {variant : BlockVariant} {header : Header} {r r' : Region}

namespace Line.Spaced

theorem detabbed (h : Spaced line line') : Detabbed w line line' where
  index := by rw [h.eq]
  raw := by
    rw [h.eq, RawLine.detab, Indent.width_of_spaces h.spaces, Indent.spaces_length h.spaces,
      RawLine.indent_append_body]

theorem alike (h : Spaced line line') : Alike w w' line line' := h.detabbed.alike

end Line.Spaced

namespace Region

theorem Beside.eq_of_spaced (h : Beside Line.Spaced b b') : b' = b := by
  obtain ⟨line, s⟩ := b
  obtain ⟨line', s'⟩ := b'
  rw [BodyLine.mk.injEq]
  exact ⟨h.line.eq, h.start⟩

theorem dedented?_spaces (h : Beside Line.Spaced b b) (hm : ∀ u ∈ margin, u = space)
    (hle : b.isAnchor → margin.length ≤ b.line.indent.length) :
    dedented? indentation margin b = dedented? ⟨.reject, 0⟩ margin b := by
  have hexpand : ∀ w v, dedented? ⟨.reject, v⟩ margin b = dedented? ⟨.expandTabs, w⟩ margin b := by
    intro w v
    have hdetab : Beside (Line.Detabbed w) b b := ⟨rfl, h.line.detabbed⟩
    have hmargin : Indent.spaces (Indent.width w margin) = margin := by
      rw [Indent.width_of_spaces hm, Indent.spaces_length hm]
    rw [← dedented?_detab hdetab (v := v), hmargin]
    rwa [Indent.width_of_spaces hm, Indent.width_of_spaces h.line.spaces]
  obtain ⟨policy, w⟩ := indentation
  cases policy with
  | reject => rw [hexpand 0 w, hexpand 0 0]
  | expandTabs => rw [← hexpand w 0]

theorem bodyMargin_spaced (h : List.Forall₂ (Beside Line.Spaced) bs bs')
    (hne : ∃ b ∈ bs, b.isBlank = false) :
    bodyMargin w' bs' = bodyMargin w bs ∧ ∀ u ∈ bodyMargin w bs, u = space := by
  have hcomparable : Comparable w w' (Beside Line.Spaced) := Beside.comparable fun hl => hl.alike
  obtain ⟨b, b', -, hb, hmargin, hmargin'⟩ := hcomparable.bodyMargin h hne
  rw [hmargin, hmargin', hb.line.eq]
  exact ⟨rfl, hb.line.spaces⟩

theorem dedents_spaced : Dedents indentation indentation' Line.Spaced Eq Eq := by
  intro bs bs' h hne
  obtain ⟨hmargin, hspaces⟩ : bodyMargin indentation'.tabWidth bs' =
    bodyMargin indentation.tabWidth bs ∧ _ := bodyMargin_spaced h hne
  have hle : ∀ b ∈ bs, b.isAnchor → Indent.width indentation.tabWidth
      (bodyMargin indentation.tabWidth bs) ≤ Indent.width indentation.tabWidth b.line.indent :=
    fun b hm ha => width_bodyMargin_le hm ha
  rw [hmargin]
  generalize bodyMargin indentation.tabWidth bs = margin at hle hspaces
  refine ((List.forall₂_and_left _ _).mpr ⟨hle, h⟩).imp fun b b' ⟨hb, hbeside⟩ => ?_
  obtain rfl := hbeside.eq_of_spaced
  rw [Indent.width_of_spaces hspaces, Indent.width_of_spaces hbeside.line.spaces] at hb
  have hsame : ∀ i, dedented? i margin b' = dedented? ⟨.reject, 0⟩ margin b' :=
    fun _ => dedented?_spaces hbeside hspaces hb
  rw [dedentLine, dedentLine, hsame indentation, hsame indentation']
  exact Agree.refl (fun _ => rfl) (fun _ => rfl) _

theorem eq_of_takenBeside (ha : Line.Spaced above above')
    (h : TakenBeside (Taken indentation style above variant header)
      (Taken indentation' style above' variant header) Line.Spaced Eq r r') : r' = r := by
  obtain ⟨body, body', hbody, ⟨line, hm, hb⟩, ht, ht', hlines⟩ := h
  have hsame : List.Forall₂ Eq body body' := hbody.imp fun _ _ hline => hline.eq.symm
  rw [List.forall₂_eq_eq_eq] at hsame hlines
  obtain ⟨b, hmem, rfl⟩ := exists_mem_lexedFrom (s := .initial) hm
  have halike : ∀ {line line'}, Line.Spaced line line' → Line.Alike 0 0 line line' :=
    fun h => h.alike
  have hbeside := forall₂_lexedFrom (s := .initial) halike hbody
  have hmargin : r'.margin = r.margin := by
    rw [ht.margin, ht'.margin]
    exact (bodyMargin_spaced hbeside ⟨b, hmem, hb⟩).1
  rw [ha.eq, ← hsame] at ht'
  have hagain : Taken indentation' style above variant header body r :=
    { ht with
      margin := hmargin ▸ ht'.margin
      lines := by
        rw [hlines, ← hmargin]
        exact ht'.lines }
  exact hagain.unique ht'

end Region

theorem corresponding_spaced :
    Corresponding indentation indentation' style style Line.Spaced Eq Eq Eq where
  alike h := h.alike
  recognize s h := by
    rw [h.eq]
    exact Agree.refl (fun _ => rfl) (Introducer.Beside.refl (fun _ => rfl) (fun _ => rfl) _) _
  openDedent h := by rw [h.eq]
  dedents := Region.dedents_spaced
  taken ha h := (Region.eq_of_takenBeside ha h).symm

end

/-- Where breaks are not mixed, a document is read with tabs expanded just as it is read, by the
text of its indentation, once spaces are put for the tabs: the same is malformed on the same line,
and otherwise the regions hold the same code. A document that is indented by spaces only is read
alike with either policy and with tabs of any width. -/
theorem Partition.build_detab (w v : Nat) :
    (∀ t, (Document.ofText t).style.mixed = false →
      Agree StructureError.SameLine
        (fun p p' => List.Forall₂ Region.SameCode p.regions p'.regions)
        (build ⟨.expandTabs, w⟩ (.ofText t)) (build ⟨.reject, v⟩ (.ofText (t.detab w)))) ∧
    ∀ t, (∀ line ∈ Line.scan t, ∀ u ∈ line.indent, u = space) →
      ∀ indentation indentation',
        build indentation (.ofText t) = build indentation' (.ofText t) := by
  constructor
  · intro t hmixed
    obtain ⟨blanks, hblank, hlines⟩ := Line.forall₂_scan_detab (w := w) hmixed
    have hread : Agree StructureError.SameLine
        (List.Forall₂ (Reading.Beside (Line.Detabbed w) Region.SameCode))
        (readFrom ⟨.expandTabs, w⟩ (Document.ofText t).style .initial (Line.scan t))
        (readFrom ⟨.reject, v⟩ (Document.ofText (t.detab w)).style .initial
          (Line.scan (t.detab w) ++ blanks)) :=
      readFrom_agree corresponding_detab hlines
    have hdetab : Agree StructureError.SameLine
        (fun rs rs' => List.Forall₂ Region.SameCode
          (rs.filterMap Reading.region) (rs'.filterMap Reading.region))
        (readings ⟨.expandTabs, w⟩ (.ofText t)) (readings ⟨.reject, v⟩ (.ofText (t.detab w))) := by
      refine hread.trans (readFrom_append_blanks hblank) ?_ ?_
      · rintro e e' _ he rfl
        exact he
      · intro rs rs' rs'' hrs hsame
        rw [hsame]
        exact forall₂_regions hrs
    exact hdetab.bind fun _ _ hregions => .ok hregions
  · intro t hspaces indentation indentation'
    have hlines : List.Forall₂ Line.Spaced (Line.scan t) (Line.scan t) :=
      List.forall₂_same.mpr fun line hm => ⟨hspaces line hm, rfl⟩
    have hread : Agree Eq (List.Forall₂ (Reading.Beside Line.Spaced Eq))
        (readings indentation' (.ofText t)) (readings indentation (.ofText t)) :=
      readFrom_agree corresponding_spaced hlines
    refine Agree.eq (hread.bind fun rs rs' hrs => .ok ?_)
    have hregions := forall₂_regions hrs
    rw [List.forall₂_eq_eq_eq] at hregions
    rw [hregions]

theorem Partition.build_detab_form_feed :
    ∃ p p', build ⟨.expandTabs, 4⟩
        (.ofText (text "python:\n\tx = 1\n    y = 2\n\x0c")) = .ok p ∧
      build ⟨.reject, 1⟩ (.ofText (text "python:\n    x = 1\n    y = 2\n")) = .ok p' ∧
      p.regions.map (·.code) = [text "x = 1\ny = 2\n"] ∧
      List.Forall₂ Region.SameCode p.regions p'.regions ∧
      build ⟨.expandTabs, 8⟩ (.ofText (text "python:\n    x = 1\n    y = 2\n")) = .ok p' := by
  have hbuild : (build ⟨.expandTabs, 4⟩
      (.ofText (text "python:\n\tx = 1\n    y = 2\n\x0c"))).map
        (fun p => p.regions.map (·.code)) = .ok [text "x = 1\ny = 2\n"] := by cbv
  obtain ⟨p, hp, hcode⟩ := map_eq_ok_iff.mp hbuild
  have hmixed : (Document.ofText
      (text "python:\n\tx = 1\n    y = 2\n\x0c")).style.mixed = false := by cbv
  have hdetab : Text.detab 4 (text "python:\n\tx = 1\n    y = 2\n\x0c") =
      text "python:\n    x = 1\n    y = 2\n" := by cbv
  have hall : ((Line.scan (text "python:\n    x = 1\n    y = 2\n")).all fun line =>
      line.indent.all (· == space)) = true := by cbv
  have hspaces : ∀ line ∈ Line.scan (text "python:\n    x = 1\n    y = 2\n"),
      ∀ u ∈ line.indent, u = space := fun line hm u hu =>
    eq_of_beq (List.all_eq_true.mp (List.all_eq_true.mp hall line hm) u hu)
  have hagree := (build_detab 4 1).1 _ hmixed
  rw [hp, hdetab] at hagree
  generalize hp' : build ⟨.reject, 1⟩ _ = result at hagree
  cases hagree with
  | ok hregions =>
    refine ⟨p, _, hp, rfl, hcode, hregions, ?_⟩
    rw [← hp']
    exact (build_detab 4 1).2 _ hspaces _ _

end Inlay
