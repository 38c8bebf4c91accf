import Inlay.Proofs.Agreement
import Inlay.Proofs.Cleaning

/-!
# Documents with another kind of break

A document whose lines end in line feeds, and the same document with another break in their place,
are cut alike: where one is malformed the other is, with the same error, and their regions hold the
same code (`Region.Rebroken`). What is spliced differs in its breaks only.
-/

namespace Inlay

open CodeUnit

-- ---------------------------------------------------------------------------
-- Another break in place of line feeds
-- ---------------------------------------------------------------------------

def Text.withBreak (e : LineBreak) (t : Text) : Text :=
  t.flatMap fun u => if u = lineFeed then e.text else [u]

/-- Where an offset of a text is once its line feeds are another break. -/
def Text.offsetWithBreak (e : LineBreak) (t : Text) (n : Nat) : Nat :=
  (withBreak e (t.take n)).length

/-- The line with another break, if it has one. -/
def RawLine.withBreak (e : LineBreak) (line : RawLine) : RawLine :=
  ⟨line.content, line.ending.map fun _ => e⟩

section

variable {e : LineBreak} {t a b : Text} {pieces : List Text} {lines : List RawLine}
  {line : RawLine} {m n : Nat}

namespace Text

@[simp] theorem withBreak_nil : withBreak e [] = [] := rfl

theorem withBreak_cons : withBreak e (u :: t) =
    (if u = lineFeed then e.text else [u]) ++ withBreak e t := List.flatMap_cons

@[simp] theorem withBreak_append : withBreak e (a ++ b) = withBreak e a ++ withBreak e b :=
  List.flatMap_append

theorem withBreak_of_not_mem (h : lineFeed ∉ t) : withBreak e t = t := by
  induction t with
  | nil => rfl
  | cons u t ih =>
    obtain ⟨hu, h⟩ := not_or.mp (mt List.mem_cons.mpr h)
    rw [withBreak_cons, if_neg (Ne.symm hu), ih h, List.singleton_append]

theorem withBreak_joinWith (h : ∀ piece ∈ pieces, lineFeed ∉ piece) :
    withBreak e (joinWith [lineFeed] pieces) = joinWith e.text pieces := by
  induction pieces with
  | nil => rfl
  | cons piece pieces ih =>
    obtain ⟨hpiece, h⟩ := List.forall_mem_cons.mp h
    cases pieces with
    | nil => exact withBreak_of_not_mem hpiece
    | cons next pieces =>
      have hne : next :: pieces ≠ [] := by simp
      rw [joinWith_cons hne, joinWith_cons hne, withBreak_append, withBreak_append, ih h,
        withBreak_of_not_mem hpiece, withBreak_cons, if_pos rfl, withBreak_nil, List.append_nil]

theorem offsetWithBreak_length_append :
    offsetWithBreak e (a ++ b) a.length = (withBreak e a).length := by
  rw [offsetWithBreak, List.take_left]

theorem withBreak_drop :
    (withBreak e t).drop (offsetWithBreak e t n) = withBreak e (t.drop n) := by
  conv => lhs; rw [← List.take_append_drop n t, withBreak_append]
  rw [List.take_append_drop, offsetWithBreak, List.drop_left]

theorem slice_withBreak (h : m ≤ n) :
    slice (withBreak e t) (offsetWithBreak e t m) (offsetWithBreak e t n) =
      withBreak e (slice t m n) := by
  have htake : t.take n = t.take m ++ slice t m n := by
    rw [← slice_zero, ← slice_append (Nat.zero_le m) h, slice_zero]
  have hsize : offsetWithBreak e t n - offsetWithBreak e t m =
      (withBreak e (slice t m n)).length := by
    rw [offsetWithBreak, htake, withBreak_append, List.length_append, offsetWithBreak,
      Nat.add_sub_cancel_left]
  have hdrop : t.drop m = slice t m n ++ t.drop n := (slice_append_drop h).symm
  rw [slice, withBreak_drop, hsize, hdrop, withBreak_append, List.take_left]

end Text

namespace RawLine

theorem uniform_split (h : carriageReturn ∉ t) : Uniform .lf (split t) := by
  intro line hm
  cases he : line.ending with
  | none => exact .inl rfl
  | some kind =>
    have hunit : ∀ u ∈ kind.text, u ∈ t := by
      intro u hu
      rw [← join_split t]
      refine List.mem_flatMap.mpr ⟨line, hm, List.mem_append_right _ ?_⟩
      rw [he]
      exact hu
    cases kind with
    | lf => exact .inr rfl
    | crlf => exact absurd (hunit _ (by simp [LineBreak.text])) h
    | cr => exact absurd (hunit _ (by simp [LineBreak.text])) h

theorem text_withBreak (hu : line.content.Unbroken)
    (he : line.ending = none ∨ line.ending = some .lf) :
    (line.withBreak e).text = Text.withBreak e line.text := by
  have hcontent : Text.withBreak e line.content = line.content :=
    Text.withBreak_of_not_mem fun hm => (hu _ hm).1 rfl
  rw [text, text, Text.withBreak_append, hcontent, withBreak]
  rcases he with he | he <;> simp [he, endingText, LineBreak.text, Text.withBreak_cons]

theorem join_withBreak (hu : ∀ line ∈ lines, line.content.Unbroken) (he : Uniform .lf lines) :
    join (lines.map (withBreak e)) = Text.withBreak e (join lines) := by
  induction lines with
  | nil => rfl
  | cons line lines ih =>
    obtain ⟨hline, hu⟩ := List.forall_mem_cons.mp hu
    obtain ⟨hending, he⟩ := List.forall_mem_cons.mp he
    rw [List.map_cons, join_cons, join_cons, Text.withBreak_append, ih hu he,
      text_withBreak hline hending]

theorem uniform_map_withBreak : Uniform e (lines.map (withBreak e)) := by
  refine List.forall_mem_map.mpr fun line _ => ?_
  rw [withBreak]
  cases line.ending with
  | none => exact .inl rfl
  | some kind => exact .inr rfl

theorem Scannable.map_withBreak (h : Scannable lines) : Scannable (lines.map (withBreak e)) := by
  induction lines with
  | nil => trivial
  | cons line lines ih =>
    have huniform : Uniform e ((line :: lines).map (withBreak e)) := uniform_map_withBreak
    obtain ⟨hu, hs, hl⟩ := h
    refine scannable_cons hu (fun hn => ?_) (ih hs) huniform
    have hnone : line.ending = none := Option.map_eq_none_iff.mp hn
    rw [hnone] at hl
    exact ⟨hl.1, List.map_eq_nil_iff.mpr hl.2⟩

theorem split_withBreak (h : carriageReturn ∉ t) :
    split (Text.withBreak e t) = (split t).map (withBreak e) := by
  have hs := scannable_split t
  conv => lhs; rw [← join_split t, ← join_withBreak (fun _ => hs.unbroken) (uniform_split h)]
  exact split_join hs.map_withBreak

end RawLine

end

-- ---------------------------------------------------------------------------
-- The lines of the document
-- ---------------------------------------------------------------------------

/-- The line in a document with another kind of break. -/
structure Line.Rebroken (e : LineBreak) (t : Text) (line line' : Line) : Prop where
  index : line'.index = line.index
  raw : line'.toRawLine = line.toRawLine.withBreak e
  start : ∀ k ≤ line.content.length,
    line'.start + k = Text.offsetWithBreak e t (line.start + k)
  next : line'.next = Text.offsetWithBreak e t line.next

section

variable {e : LineBreak} {t above : Text} {index : Nat} {raws : List RawLine} {line line' : Line}

theorem Line.forall₂_place (ht : t = above ++ RawLine.join raws)
    (hu : ∀ line ∈ raws, line.content.Unbroken) (he : RawLine.Uniform .lf raws) :
    List.Forall₂ (Rebroken e t) (place index above.length raws)
      (place index (above.withBreak e).length (raws.map (RawLine.withBreak e))) := by
  induction raws generalizing above index with
  | nil => exact .nil
  | cons raw raws ih =>
    obtain ⟨hraw, hu⟩ := List.forall_mem_cons.mp hu
    obtain ⟨hending, he⟩ := List.forall_mem_cons.mp he
    rw [RawLine.join_cons, ← List.append_assoc] at ht
    have htext : (raw.withBreak e).text = Text.withBreak e raw.text :=
      RawLine.text_withBreak hraw hending
    have hbehind : List.Forall₂ (Rebroken e t) (place (index + 1) _ raws) _ := ih ht hu he
    rw [Text.withBreak_append, List.length_append, List.length_append, ← htext] at hbehind
    refine .cons ⟨rfl, rfl, fun k hk => ?_, ?_⟩ hbehind
    · change (above.withBreak e).length + k = Text.offsetWithBreak e t (above.length + k)
      have hcontent : Text.withBreak e (raw.content.take k) = raw.content.take k :=
        Text.withBreak_of_not_mem fun hm => (hraw _ (List.mem_of_mem_take hm)).1 rfl
      rw [ht, Text.offsetWithBreak, List.append_assoc, List.take_length_add_append, RawLine.text,
        List.append_assoc, List.take_append_of_le_length hk, Text.withBreak_append, hcontent,
        List.length_append, List.length_take, Nat.min_eq_left hk]
    · change (above.withBreak e).length + (raw.withBreak e).text.length =
        Text.offsetWithBreak e t (above.length + raw.text.length)
      have hlength : above.length + raw.text.length = (above ++ raw.text).length :=
        List.length_append.symm
      rw [ht, hlength, Text.offsetWithBreak_length_append, Text.withBreak_append,
        List.length_append, htext]

theorem Line.forall₂_scan (h : carriageReturn ∉ t) :
    List.Forall₂ (Rebroken e t) (scan t) (scan (t.withBreak e)) := by
  have htext : t = [] ++ RawLine.join (RawLine.split t) := (RawLine.join_split t).symm
  rw [scan, scan, RawLine.split_withBreak h]
  exact forall₂_place htext (fun _ => (RawLine.scannable_split t).unbroken)
    (RawLine.uniform_split h)

end

-- ---------------------------------------------------------------------------
-- The regions of the document
-- ---------------------------------------------------------------------------

def RegionLine.withBreak (e : LineBreak) (line : RegionLine) : RegionLine :=
  { line with ending := line.ending.map fun _ => e }

/-- The region in a document with another kind of break: the same code from the same lines. -/
structure Region.Rebroken (e : LineBreak) (t : Text) (r r' : Region) : Prop where
  form : r'.form = r.form
  span : r'.span =
    ⟨Text.offsetWithBreak e t r.span.start, Text.offsetWithBreak e t r.span.stop⟩
  introducer : r'.introducer = r.introducer
  outerIndent : r'.outerIndent = r.outerIndent
  margin : r'.margin = r.margin
  codeColumn : r'.codeColumn = r.codeColumn
  lines : r'.lines = r.lines.map (RegionLine.withBreak e)
  code : r'.code = r.code
  endsWithBreak : r'.endsWithBreak = r.endsWithBreak

section

variable {e : LineBreak} {t : Text} {line line' above above' : Line} {s : LexState}
  {indentation : Indentation} {style style' : LineStyle} {variant : BlockVariant}
  {header : Header} {r r' : Region} {b b' : Region.BodyLine} {bs bs' : List Region.BodyLine}
  {margin : Text} {code stop : Nat}

theorem Line.Rebroken.content (h : Line.Rebroken e t line line') : line'.content = line.content :=
  (congrArg RawLine.content h.raw).trans rfl

theorem Line.Rebroken.indent (h : Line.Rebroken e t line line') : line'.indent = line.indent := by
  rw [RawLine.indent, h.content]
  rfl

theorem Line.Rebroken.alike (tabWidth : Nat) (h : Line.Rebroken e t line line') :
    Line.Alike tabWidth tabWidth line line' where
  index := h.index
  body := by
    rw [RawLine.body, h.content]
    rfl
  width := by rw [h.indent]

theorem Introducer.recognize_eq {tokens : List Token} (hi : line'.index = line.index)
    (hc : line'.content = line.content) : recognize line' s tokens = recognize line s tokens := by
  simp only [recognize, ofMarker, refusalError, hi, hc]

theorem Region.Rebroken.ofStatement (h : Line.Rebroken e t line line') (hcode : code ≤ stop)
    (hstop : stop ≤ line.content.length) :
    Region.Rebroken e t (.ofStatement line code stop) (.ofStatement line' code stop) where
  form := rfl
  span := by
    rw [Region.ofStatement, Region.ofStatement, h.start code (Nat.le_trans hcode hstop),
      h.start stop hstop]
  introducer := h.index
  outerIndent := h.indent
  margin := h.indent
  codeColumn := rfl
  lines := by
    rw [Region.ofStatement, Region.ofStatement, h.index, h.content]
    rfl
  code := by
    rw [Region.ofStatement, Region.ofStatement, h.content]
  endsWithBreak := rfl

namespace Region

theorem dedented?_of_rebroken (h : Beside (Line.Rebroken e t) b b') :
    dedented? indentation margin b' = dedented? indentation margin b := by
  have halike := h.line.alike indentation.tabWidth
  simp only [dedented?, isBlank_of_alike halike, h.isComment halike, h.inString, h.startsStatement,
    h.line.indent]

theorem dedentLine_withBreak (h : Beside (Line.Rebroken e t) b b') :
    dedentLine indentation margin b' =
      (dedentLine indentation margin b).map (RegionLine.withBreak e) := by
  have hbody : b'.line.body = b.line.body := (h.line.alike indentation.tabWidth).body
  have hending : b'.line.ending = b.line.ending.map fun _ => e := congrArg RawLine.ending h.line.raw
  rw [dedentLine, dedentLine, dedented?_of_rebroken h, h.line.index, h.line.indent, hbody, hending]
  cases dedented? indentation margin b <;> rfl

theorem bodyMargin_of_rebroken {tabWidth : Nat}
    (h : List.Forall₂ (Beside (Line.Rebroken e t)) bs bs')
    (hne : ∃ b ∈ bs, b.isBlank = false) : bodyMargin tabWidth bs' = bodyMargin tabWidth bs := by
  have hcomparable : Comparable tabWidth tabWidth (Beside (Line.Rebroken e t)) :=
    Beside.comparable fun hline => hline.alike tabWidth
  obtain ⟨b, b', -, hb, hmargin, hmargin'⟩ := hcomparable.bodyMargin h hne
  rw [hmargin, hmargin', hb.line.indent]

theorem dedents_of_rebroken :
    Dedents indentation indentation (Line.Rebroken e t) Eq
      (fun line line' => line' = line.withBreak e) := by
  intro bs bs' h hne
  rw [bodyMargin_of_rebroken h hne]
  refine h.imp fun b b' hb => ?_
  rw [dedentLine_withBreak hb]
  cases dedentLine indentation (bodyMargin indentation.tabWidth bs) b with
  | ok line => exact .ok rfl
  | error error => exact .error rfl

theorem Taken.span_of_rebroken {body body' : List Line}
    (ht : Taken indentation style above variant header body r)
    (ht' : Taken indentation style' above' variant header body' r')
    (h : List.Forall₂ (Line.Rebroken e t) body body') :
    r'.span = ⟨Text.offsetWithBreak e t r.span.start, Text.offsetWithBreak e t r.span.stop⟩ := by
  obtain ⟨last, hlast, hstop⟩ := Option.map_eq_some_iff.mp ht.stop
  obtain ⟨last', hlast', hline⟩ := exists_getLast?_of_forall₂ h hlast
  have hstop' : last'.next = r'.span.stop := by simpa [hlast'] using ht'.stop
  obtain ⟨first, hfirst, hstart⟩ := Option.map_eq_some_iff.mp ht.start
  have hstart' : some r'.span.start = some (Text.offsetWithBreak e t r.span.start) := by
    rw [← ht'.start, ← hstart]
    cases h with
    | nil => simp at hfirst
    | cons hline _ =>
      obtain rfl := Option.some.inj hfirst
      exact congrArg some (hline.start 0 (Nat.zero_le _))
  rw [← hstop, ← hline.next, hstop', ← Option.some.inj hstart']

theorem Rebroken.of_taken (habove : Line.Rebroken e t above above')
    (h : TakenBeside (Taken indentation style above variant header)
      (Taken indentation style' above' variant header) (Line.Rebroken e t)
      (fun line line' => line' = line.withBreak e) r r') : Rebroken e t r r' := by
  obtain ⟨body, body', hbody, ⟨line, hm, hblank⟩, ht, ht', hlines⟩ := h
  have hmap : r'.lines = r.lines.map (RegionLine.withBreak e) :=
    (eq_map_iff_of_forall₂ (hlines.imp fun _ _ hline => iff_true_intro hline)).mpr
      fun _ _ => trivial
  obtain ⟨b, hmem, rfl⟩ := exists_mem_lexedFrom hm
  obtain ⟨last, hlast, hends⟩ := Option.map_eq_some_iff.mp ht.endsWithBreak
  obtain ⟨last', hlast', hline⟩ := exists_getLast?_of_forall₂ hbody hlast
  have hending : last'.ending = last.ending.map fun _ => e := congrArg RawLine.ending hline.raw
  exact
    { form := ht'.form.trans ht.form.symm
      span := ht.span_of_rebroken ht' hbody
      introducer := by rw [ht'.introducer, habove.index, ht.introducer]
      outerIndent := by rw [ht'.outerIndent, habove.indent, ht.outerIndent]
      margin := by
        rw [ht'.margin, ht.margin]
        exact bodyMargin_of_rebroken
          (forall₂_lexedFrom (fun hline => hline.alike indentation.tabWidth) hbody)
          ⟨b, hmem, hblank⟩
      codeColumn := ht'.codeColumn.trans ht.codeColumn.symm
      lines := hmap
      code := by
        rw [ht'.code, ht.code, blockCode, blockCode, hmap, List.map_map]
        rfl
      endsWithBreak := by
        have hends' := ht'.endsWithBreak
        rw [hlast', Option.map_some, hending, Option.isSome_map, hends] at hends'
        exact (Option.some.inj hends').symm }

end Region

theorem corresponding_rebroken :
    Corresponding indentation indentation style style' (Line.Rebroken e t) Eq
      (fun line line' => line' = line.withBreak e) (Region.Rebroken e t) where
  alike h := h.alike indentation.tabWidth
  recognize {line line'} s h := by
    rw [h.content, Introducer.recognize_eq h.index h.content]
    cases hr : Introducer.recognize line s (lexLine .host s line.content).tokens with
    | error error => exact .error rfl
    | ok i =>
      refine .ok ?_
      cases i with
      | none => exact .none
      | block header colon => exact .block (by rw [h.index])
      | statement column code stop =>
        obtain ⟨-, -, -, hstop, hlt⟩ := Introducer.recognize_eq_statement_iff.mp hr
        have hle : stop ≤ line.content.length := hstop ▸ length_dropEndWhile_le ..
        exact .statement (Region.Rebroken.ofStatement h (Nat.le_of_lt hlt) hle)
  openDedent h := by rw [h.index]
  dedents := Region.dedents_of_rebroken
  taken h := Region.Rebroken.of_taken h

theorem Partition.build_rebroken (h : carriageReturn ∉ t) :
    Agree Eq (fun p p' => List.Forall₂ (Region.Rebroken e t) p.regions p'.regions)
      (build indentation (.ofText t)) (build indentation (.ofText (t.withBreak e))) :=
  build_agree corresponding_rebroken (Line.forall₂_scan h)

end

-- ---------------------------------------------------------------------------
-- Splicing the document
-- ---------------------------------------------------------------------------

section

variable {e : LineBreak} {t code margin : Text} {ts : List Text} {s : LexState} {r r' : Region}
  {regions regions' : List Region} {results : List (Option RegionResult)} {start id : Nat}
  {result : Option RegionResult} {indentation : Indentation} {p : Partition}
  {P : Region → Text → Prop}

namespace Region

theorem Rebroken.isStatement (h : Rebroken e t r r') : r'.isStatement = r.isStatement :=
  congrArg RegionForm.isStatement h.form

theorem Rebroken.cleaned (h : Rebroken e t r r') (hcode : r'.Cleaned code) : r.Cleaned code :=
  { hcode with line := fun hs => hcode.line (h.isStatement.trans hs) }

theorem Rebroken.reindent (h : Rebroken e t r r')
    (hlf : r.isStatement = false → r.lineBreak = .lf ∧ lineFeed ∉ r.margin)
    (he : r'.isStatement = false → r'.lineBreak = e)
    (hcode : r.isStatement → lineFeed ∉ unterminated code) :
    r'.reindent code = Text.withBreak e (r.reindent code) := by
  have hform := h.isStatement
  cases hs : r.isStatement with
  | true =>
    rw [Region.reindent, Region.reindent, hform, hs, if_pos rfl, if_pos rfl,
      Text.withBreak_of_not_mem (hcode hs)]
  | false =>
    obtain ⟨hbreak, hmargin⟩ := hlf hs
    have hlines : ∀ line ∈ margined r.margin .initial (Text.splitOn lineFeed (unterminated code)),
        lineFeed ∉ line :=
      fun line => not_mem_of_mem_margined hmargin fun _ => Text.not_mem_of_mem_splitOn
    simp only [Region.reindent, hform, hs, h.margin, h.endsWithBreak, he (hform.trans hs), hbreak,
      Bool.false_eq_true, if_false]
    split
    · rfl
    · split
      · rw [Text.withBreak_append, ← Text.withBreak_joinWith hlines]
        simp [LineBreak.text, Text.withBreak_cons]
      · rw [← Text.withBreak_joinWith hlines]
        rfl

theorem Rebroken.render (h : Rebroken e t r r') (hspan : r.span.start ≤ r.span.stop)
    (hlf : r.isStatement = false → r.lineBreak = .lf ∧ lineFeed ∉ r.margin)
    (he : r'.isStatement = false → r'.lineBreak = e)
    (hcode : ∀ code, result = some (.formatted code) →
      r.isStatement → lineFeed ∉ unterminated code) :
    r'.render (Text.withBreak e t) result = Text.withBreak e (r.render t result) := by
  rcases RegionResult.formatted_or_kept result with ⟨code, rfl⟩ | hkept
  · exact h.reindent hlf he (hcode code rfl)
  · rw [render_of_ne_formatted hkept, render_of_ne_formatted hkept, h.span,
      Text.slice_withBreak hspan]

end Region

theorem spliceFrom_withBreak (h : List.Forall₂ (Region.Rebroken e t) regions regions')
    (hapart : Apart t.length start regions)
    (hlf : ∀ r ∈ regions, r.isStatement = false → r.lineBreak = .lf ∧ lineFeed ∉ r.margin)
    (he : ∀ r ∈ regions', r.isStatement = false → r.lineBreak = e)
    (hcode : Given (fun r code => r.isStatement → lineFeed ∉ Region.unterminated code)
      results id regions) :
    spliceFrom (t.withBreak e) results (Text.offsetWithBreak e t start) id regions' =
      Text.withBreak e (spliceFrom t results start id regions) := by
  induction h generalizing start id with
  | nil => exact Text.withBreak_drop
  | cons hr _ ih =>
    obtain ⟨hstart, hspan, hapart⟩ := hapart
    obtain ⟨hrlf, hlf⟩ := List.forall_mem_cons.mp hlf
    obtain ⟨hre, he⟩ := List.forall_mem_cons.mp he
    obtain ⟨hrcode, hcode⟩ := given_cons.mp hcode
    have hbehind := ih hapart hlf he hcode
    have hrender := hr.render (Nat.le_of_lt hspan) hrlf hre hrcode
    rw [spliceFrom, spliceFrom, Text.withBreak_append, Text.withBreak_append, ← hbehind, ← hrender,
      hr.span, Text.slice_withBreak (Nat.le_of_lt hstart)]

theorem Text.not_mem_joinWith {separator : Text} {pieces : List Text} (hs : u ∉ separator)
    (h : ∀ piece ∈ pieces, u ∉ piece) : u ∉ joinWith separator pieces := by
  induction pieces with
  | nil => simp [joinWith]
  | cons piece pieces ih =>
    obtain ⟨hpiece, h⟩ := List.forall_mem_cons.mp h
    cases pieces with
    | nil => exact hpiece
    | cons next pieces =>
      rw [joinWith_cons (List.cons_ne_nil next pieces)]
      simp [hpiece, hs, ih h]

theorem Region.not_mem_reindent (hcode : u ∉ code)
    (hb : r.isStatement = false → u ∉ r.margin ∧ u ∉ r.lineBreak.text) : u ∉ r.reindent code := by
  have hbody : u ∉ unterminated code := by
    rw [unterminated]
    split
    · exact fun hm => hcode (List.mem_of_mem_dropLast hm)
    · exact hcode
  rw [Region.reindent]
  split
  · exact hbody
  · next hs =>
    obtain ⟨hmargin, hbreak⟩ := hb (Bool.eq_false_iff.mpr hs)
    have hjoined : u ∉ Text.joinWith r.lineBreak.text
        (margined r.margin .initial (Text.splitOn lineFeed (unterminated code))) :=
      Text.not_mem_joinWith hbreak fun line => not_mem_of_mem_margined hmargin
        fun piece hp hm => hbody (Text.mem_of_mem_splitOn hp hm)
    split
    · simp
    · simp only
      split
      · simp [hjoined, hbreak]
      · exact hjoined

namespace Partition

theorem lineBreak_of_uniform (h : build indentation (.ofText t) = .ok p)
    (hu : RawLine.Uniform e (RawLine.split t)) (hr : r ∈ p.regions)
    (hb : r.isStatement = false) : r.lineBreak = e := by
  obtain ⟨above, line, header, body, blanks, left, hlines, he, ht⟩ := block_of_mem h hr hb
  change Line.scan t = _ at hlines
  have hscan := RawLine.scannable_split t
  have hmem : line.toRawLine ∈ (Line.scan t).map Line.toRawLine :=
    List.mem_map_of_mem (by simp [hlines])
  -- the header is above the block, so its line has a break
  have hending : line.ending = some e := by
    rw [Line.map_toRawLine_scan] at hmem
    refine (hu _ hmem).resolve_left fun hnone => ?_
    rw [← Line.map_toRawLine_scan, hlines, List.map_append, List.map_cons] at hscan
    obtain ⟨-, -, hlast⟩ := hscan.right
    rw [hnone, List.map_eq_nil_iff] at hlast
    exact he.ne_nil (List.append_eq_nil_iff.mp hlast.2).1
  rw [← Line.map_toRawLine_scan] at hu
  have hdominant : (Document.ofText t).style.dominant = e :=
    LineStyle.dominant_of_only (LineStyle.count_pos hmem hending)
      fun k hk => LineStyle.count_of_uniform hu hk
  rw [ht.lineBreak]
  refine Region.breakOf_of_uniform (fun raw hraw => hu raw ?_) fun _ => hdominant
  rw [hlines]
  simp [hraw]

theorem isIndent_of_mem_margin (h : build indentation (.ofText t) = .ok p) (hr : r ∈ p.regions)
    (hb : r.isStatement = false) : ∀ u ∈ r.margin, u.isIndent := by
  obtain ⟨above, line, header, body, blanks, left, -, -, ht⟩ := block_of_mem h hr hb
  rw [ht.margin]
  exact Region.isIndent_of_mem_bodyMargin

theorem not_mem_splice (h : build indentation (.ofText t) = .ok p) (ht : carriageReturn ∉ t)
    (hcode : Given Region.Cleaned results 0 p.regions) : carriageReturn ∉ p.splice results := by
  have hmem : carriageReturn ∈ spliceFrom t results 0 0 p.regions →
      carriageReturn ∈ t.drop 0 := by
    refine (regions_apart h).spliceFrom_lift
      (S := fun a b => carriageReturn ∈ a → carriageReturn ∈ b)
      (fun _ => id) (fun ha hb => ?_) fun x hx => ?_
    · rw [List.mem_append, List.mem_append]
      exact Or.imp ha hb
    · rcases RegionResult.formatted_or_kept results[x.2]?.join with ⟨code, hgiven⟩ | hkept
      · have hr := List.fst_mem_of_mem_zipIdx hx
        rw [hgiven]
        intro hm
        have hbreaks := (hcode x hx code hgiven).breaks
        refine absurd hm (Region.not_mem_reindent hbreaks fun hb => ⟨?_, ?_⟩)
        · intro hm
          exact absurd (isIndent_of_mem_margin h hr hb _ hm) (by decide)
        · rw [lineBreak_of_uniform h (RawLine.uniform_split ht) hr hb]
          decide
      · rw [Region.render_of_ne_formatted hkept]
        exact id
  rw [splice_eq h]
  exact fun hm => ht (hmem hm)

theorem splice_withBreak {p' : Partition} (h : build indentation (.ofText t) = .ok p)
    (h' : build indentation (.ofText (t.withBreak e)) = .ok p') (ht : carriageReturn ∉ t)
    (hregions : List.Forall₂ (Region.Rebroken e t) p.regions p'.regions)
    (hcode : Given Region.Cleaned results 0 p.regions) :
    p'.splice results = Text.withBreak e (p.splice results) := by
  have hu := RawLine.uniform_split ht
  have hu' : RawLine.Uniform e (RawLine.split (t.withBreak e)) := by
    rw [RawLine.split_withBreak ht]
    exact RawLine.uniform_map_withBreak
  rw [splice_eq h, splice_eq h']
  refine spliceFrom_withBreak hregions (regions_apart h) (fun r hr hb => ?_)
    (fun r hr hb => lineBreak_of_uniform h' hu' hr hb) fun x hx code hgiven =>
      (hcode x hx code hgiven).line
  refine ⟨lineBreak_of_uniform h hu hr hb, fun hm => ?_⟩
  exact absurd (isIndent_of_mem_margin h hr hb _ hm) (by decide)

end Partition

-- ---------------------------------------------------------------------------
-- The kinds of breaks
-- ---------------------------------------------------------------------------

theorem RawLine.withBreak_withBreak {kind : LineBreak} {lines : List RawLine}
    (h : Uniform e lines) : (lines.map (withBreak kind)).map (withBreak e) = lines := by
  rw [List.map_map]
  refine (List.map_congr_left fun line hm => ?_).trans (List.map_id lines)
  obtain ⟨content, ending⟩ := line
  rcases h _ hm with hn | he
  · obtain rfl : ending = none := hn
    rfl
  · obtain rfl : ending = some e := he
    rfl

theorem Text.exists_withBreak (h : RawLine.Uniform e (RawLine.split t)) :
    ∃ t', carriageReturn ∉ t' ∧ t = Text.withBreak e t' := by
  have hu : ∀ line ∈ (RawLine.split t).map (RawLine.withBreak .lf), line.content.Unbroken :=
    fun line => (RawLine.scannable_split t).map_withBreak.unbroken
  refine ⟨RawLine.join ((RawLine.split t).map (RawLine.withBreak .lf)), ?_, ?_⟩
  · intro hm
    obtain ⟨line, hline, hm⟩ := List.mem_flatMap.mp hm
    rcases List.mem_append.mp hm with hm | hm
    · exact (hu line hline _ hm).2 rfl
    · rcases RawLine.uniform_map_withBreak line hline with hn | hlf
      · simp [hn, endingText] at hm
      · rw [hlf] at hm
        exact absurd hm (by decide)
  · rw [← RawLine.join_withBreak hu RawLine.uniform_map_withBreak, RawLine.withBreak_withBreak h,
      RawLine.join_split]

theorem LineStyle.mixed_of_uniform {lines : List RawLine} (h : RawLine.Uniform e lines) :
    (ofLines lines).mixed = false := by
  have honly : ∀ kind, decide (0 < count lines kind) → decide (kind = e) := by
    intro kind hpos
    by_contra hk
    rw [count_of_uniform h (by simpa using hk)] at hpos
    cases hpos
  have hone : ([LineBreak.lf, .crlf, .cr].filter (· = e)).length = 1 := by cases e <;> rfl
  have hle := (List.monotone_filter_right [LineBreak.lf, .crlf, .cr] honly).length_le
  rw [hone] at hle
  exact decide_eq_false (Nat.not_lt.mpr hle)

theorem RawLine.exists_ending (h : carriageReturn ∉ t) (hm : lineFeed ∈ t) :
    ∃ line ∈ split t, line.ending = some .lf := by
  rw [← join_split t] at hm
  obtain ⟨line, hline, hm⟩ := List.mem_flatMap.mp hm
  refine ⟨line, hline, (uniform_split h line hline).resolve_left fun hn => ?_⟩
  rw [text, hn] at hm
  have hu : line.content.Unbroken := (scannable_split t).unbroken hline
  exact (hu lineFeed (by simpa [endingText] using hm)).1 rfl

theorem Partition.mem_of_mem_splice (h : build indentation (.ofText t) = .ok p)
    (ht : carriageReturn ∉ t) (hcode : Given Region.Cleaned results 0 p.regions)
    (hm : lineFeed ∈ p.splice results) : lineFeed ∈ t := by
  -- without line feeds the document is the same with any break
  by_contra hlf
  have hsame : t.withBreak .crlf = t := Text.withBreak_of_not_mem hlf
  have hagree : Agree Eq _ (build indentation (.ofText t))
      (build indentation (.ofText (t.withBreak .crlf))) := build_rebroken ht
  have h' : build indentation (.ofText (t.withBreak .crlf)) = .ok p := by rw [hsame, h]
  rw [h', h] at hagree
  cases hagree with
  | ok hregions =>
    have hsplice := splice_withBreak h h' ht hregions hcode
    refine not_mem_splice h ht hcode ?_
    rw [hsplice]
    exact List.mem_flatMap.mpr ⟨lineFeed, hm, by decide⟩

theorem Partition.exists_ending_of_splice (h : build indentation (.ofText t) = .ok p)
    (ht : carriageReturn ∉ t) (hcode : Given Region.Cleaned results 0 p.regions)
    (hm : line ∈ RawLine.split (p.splice results)) (hending : line.ending ≠ none) :
    line.ending = some .lf ∧ ∃ line' ∈ RawLine.split t, line'.ending = some .lf := by
  have hlf : line.ending = some .lf :=
    (RawLine.uniform_split (not_mem_splice h ht hcode) line hm).resolve_left hending
  have hmem : lineFeed ∈ p.splice results := by
    rw [← RawLine.join_split (p.splice results)]
    refine List.mem_flatMap.mpr ⟨line, hm, List.mem_append_right _ ?_⟩
    rw [hlf]
    exact List.mem_singleton_self _
  exact ⟨hlf, RawLine.exists_ending ht (mem_of_mem_splice h ht hcode hmem)⟩

theorem Partition.breaks_splice (h : build indentation (.ofText t) = .ok p)
    (hmixed : (Document.ofText t).style.mixed = false)
    (hcode : Given Region.Cleaned results 0 p.regions) :
    (Document.ofText (p.splice results)).style.mixed = false ∧
      ∀ line ∈ RawLine.split (p.splice results), line.ending = none ∨
        ∃ line' ∈ RawLine.split t, line'.ending = line.ending := by
  have hu := LineStyle.uniform_dominant hmixed
  rw [Line.map_toRawLine_scan] at hu
  generalize (LineStyle.ofLines (RawLine.split t)).dominant = e at hu
  -- the document is one with line feeds, in which cleaned code brings no other breaks
  obtain ⟨t', ht', rfl⟩ := Text.exists_withBreak hu
  have hagree : Agree Eq _ (build indentation (.ofText t'))
      (build indentation (.ofText (t'.withBreak e))) := build_rebroken ht'
  rw [h] at hagree
  obtain ⟨p', hp', hregions⟩ := hagree.exists_left
  have hcode' : Given Region.Cleaned results 0 p'.regions :=
    hcode.of_forall₂ hregions.flip fun r r' code hr => hr.cleaned
  have hsplit : RawLine.split (p.splice results) =
      (RawLine.split (p'.splice results)).map (RawLine.withBreak e) := by
    rw [splice_withBreak hp' h ht' hregions hcode', RawLine.split_withBreak]
    exact not_mem_splice hp' ht' hcode'
  rw [Document.ofText, Line.map_toRawLine_scan, hsplit]
  refine ⟨LineStyle.mixed_of_uniform RawLine.uniform_map_withBreak,
    List.forall_mem_map.mpr fun line hm => ?_⟩
  by_cases hending : line.ending = none
  · exact .inl (by rw [RawLine.withBreak, hending]; rfl)
  · obtain ⟨hlf, line', hm', hlf'⟩ := exists_ending_of_splice hp' ht' hcode' hm hending
    refine .inr ⟨line'.withBreak e, ?_, by rw [RawLine.withBreak, RawLine.withBreak, hlf, hlf']⟩
    rw [RawLine.split_withBreak ht']
    exact List.mem_map_of_mem hm'

end

/-- A document without carriage returns, and the document with another break in place of its line
feeds, are both malformed in the same way, or their regions are alike, and what they become with the
cleaned output of an engine differs in the breaks only. So an unmixed document gets no second kind
of break, and whether the last line has a break is not changed. -/
theorem Partition.build_withBreak (indentation : Indentation) :
    (∀ t e, carriageReturn ∉ t →
      Agree Eq
        (fun p p' => List.Forall₂ (Region.Rebroken e t) p.regions p'.regions ∧
          ∀ results,
            Given (fun r code => ∃ output, r.clean output = .ok code) results 0 p.regions →
              p'.splice results = Text.withBreak e (p.splice results))
        (build indentation (.ofText t)) (build indentation (.ofText (Text.withBreak e t)))) ∧
    ∀ t p results, build indentation (.ofText t) = .ok p →
      Given (fun r code => ∃ output, r.clean output = .ok code) results 0 p.regions →
        ((Document.ofText t).style.mixed = false →
          (Document.ofText (p.splice results)).style.mixed = false ∧
            ∀ line ∈ RawLine.split (p.splice results), line.ending = none ∨
              ∃ line' ∈ RawLine.split t, line'.ending = line.ending) ∧
        ((p.splice results).EndsInBreak ↔ Text.EndsInBreak t) := by
  constructor
  · intro t e ht
    refine (build_rebroken ht).with_eq.imp (fun _ _ => id) fun p p' ⟨hregions, hp, hp'⟩ => ?_
    exact ⟨hregions, fun results hclean =>
      splice_withBreak hp hp' ht hregions (cleaned_of_clean hp hclean)⟩
  · intro t p results h hclean
    have hcode := cleaned_of_clean h hclean
    exact ⟨fun hmixed => breaks_splice h hmixed hcode, endsInBreak_splice h hcode⟩

theorem Partition.build_withBreak_crlf :
    ∃ p p', build ⟨.reject, 4⟩ (.ofText (text "python:\n    y=2\n$ z")) = .ok p ∧
      build ⟨.reject, 4⟩ (.ofText (text "python:\r\n    y=2\r\n$ z")) = .ok p' ∧
      p'.splice [some (.formatted (text "y = 2\n"))] = text "python:\r\n    y = 2\r\n$ z" ∧
      (Document.ofText (p'.splice [some (.formatted (text "y = 2\n"))])).style.mixed = false := by
  have hbuild : (build ⟨.reject, 4⟩ (.ofText (text "python:\n    y=2\n$ z"))).map
      (fun p => (p.regions.map fun r => r.clean (text "y = 2"),
        p.splice [some (.formatted (text "y = 2\n"))])) =
      .ok ([.ok (text "y = 2\n"), .ok (text "y = 2\n")], text "python:\n    y = 2\n$ z") := by cbv
  obtain ⟨p, hp, hregions⟩ := map_eq_ok_iff.mp hbuild
  obtain ⟨hclean, hsplice⟩ := Prod.mk.inj hregions
  have hcr : carriageReturn ∉ text "python:\n    y=2\n$ z" := by decide
  have hbreak : Text.withBreak .crlf (text "python:\n    y=2\n$ z") =
      text "python:\r\n    y=2\r\n$ z" := by decide
  have hgiven : Given (fun r code => ∃ output, r.clean output = .ok code)
      [some (.formatted (text "y = 2\n"))] 0 p.regions := by
    rintro ⟨r, id⟩ hx code hcode
    have hr : r.clean (text "y = 2") ∈ p.regions.map fun r => r.clean (text "y = 2") :=
      List.mem_map_of_mem (List.fst_mem_of_mem_zipIdx hx)
    have hclean : r.clean (text "y = 2") = .ok (text "y = 2\n") := by simpa [hclean] using hr
    cases id with
    | zero =>
      cases hcode
      exact ⟨_, hclean⟩
    | succ id => cases hcode
  have hagree := (build_withBreak ⟨.reject, 4⟩).1 _ .crlf hcr
  rw [hp, hbreak] at hagree
  generalize hp' : build ⟨.reject, 4⟩ _ = result at hagree
  cases hagree with
  | @ok _ p' h =>
    have hsplice' := h.2 _ hgiven
    rw [hsplice] at hsplice'
    have hgiven' := hgiven.of_forall₂ h.1 fun r r' code hr hclean =>
      hclean.imp fun output houtput => by
        rw [Region.clean, hr.isStatement, hr.code]
        exact houtput
    refine ⟨p, p', hp, rfl, hsplice'.trans (by decide), ?_⟩
    exact (((build_withBreak ⟨.reject, 4⟩).2 _ p' _ hp' hgiven').1 (by cbv)).1

end Inlay
