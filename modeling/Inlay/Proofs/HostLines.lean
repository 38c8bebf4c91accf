import Inlay.Proofs.Breaks
import Inlay.Proofs.Reextraction

/-!
# Host lines in a spliced document

Lines that hold nothing of a region come out of splicing as they are, with the lines of the regions
between them (`KeepsLines`), unless a break that is put back runs into one of the host text: a CR
that stands before a line feed is no longer a break of its own (`Region.Fuses`). Then a line is lost
or has another break (`Partition.keepsLines_iff`), which takes a document with breaks of more than
one kind.
-/

namespace Inlay

open CodeUnit

-- ---------------------------------------------------------------------------
-- Lines in front of others
-- ---------------------------------------------------------------------------

namespace RawLine

variable {t : Text} {lines a b : List RawLine} {line line' : RawLine}

theorem Joins.congr (h : line.Joins a) (hending : line'.ending = line.ending)
    (hnil : a = [] → b = [])
    (hhead : b.head? = some ⟨[], some .lf⟩ → a.head? = some ⟨[], some .lf⟩) : line'.Joins b := by
  refine ⟨fun hn => hnil (h.1 (hending ▸ hn)), fun hcr hb => ?_⟩
  exact h.2 (hending ▸ hcr) (hhead hb)

theorem Joins.append_congr (h : line.Joins (a ++ b)) (ha : a ≠ []) (c : List RawLine) :
    line.Joins (a ++ c) := by
  refine h.congr rfl (fun hnil => absurd (List.append_eq_nil_iff.mp hnil).1 ha) fun hhead => ?_
  rw [List.head?_append_of_ne_nil _ ha] at hhead ⊢
  exact hhead

theorem text_ne_nil (h : Scannable lines) (hm : line ∈ lines) : line.text ≠ [] := by
  induction lines with
  | nil => simp at hm
  | cons first lines ih =>
    obtain ⟨-, hne, hs, -⟩ := scannable_cons_iff.mp h
    rcases List.mem_cons.mp hm with rfl | hm
    · cases hending : line.ending with
      | none => simp [text, hne hending]
      | some e => cases e <;> simp [text, hending, endingText, LineBreak.text]
    · exact ih hs hm

theorem split_text (hu : line.content.Unbroken) (hne : line.content ≠ []) :
    split line.text = [line] := by
  refine split_eq_iff.mpr ⟨scannable_cons_iff.mpr ⟨hu, fun _ => hne, trivial, ?_⟩, ?_⟩
  · exact ⟨fun _ => rfl, fun _ => by simp⟩
  · simp [join_cons]

theorem head?_join_iff (h : Scannable lines) :
    (join lines).head? = some lineFeed ↔ lines.head? = some ⟨[], some .lf⟩ := by
  refine ⟨head?_join_eq_lineFeed h, fun hhead => ?_⟩
  obtain ⟨rest, rfl⟩ := List.head?_eq_some_iff.mp hhead
  simp [join_cons, text, endingText, LineBreak.text]

end RawLine

instance (line : Line) (span : Span) : Decidable (line.Meets span) :=
  inferInstanceAs (Decidable (_ ∧ _))

-- ---------------------------------------------------------------------------
-- Lines that come out
-- ---------------------------------------------------------------------------

/-- The lines of a document, with the regions among them numbered from `id` on, and the lines that
come out when the regions have results. A line that holds nothing of a region comes out as it is.
The lines that hold a region come out as the lines of their text with the region rendered. -/
inductive KeepsLines (t : Text) (results : List (Option RegionResult)) :
    Nat → List Region → List Line → List RawLine → Prop
  | nil {id} : KeepsLines t results id [] [] []
  | host {id regions line below out} :
    (∀ r ∈ regions, ¬ line.Meets r.span) →
    KeepsLines t results id regions below out →
    KeepsLines t results id regions (line :: below) (line.toRawLine :: out)
  | region {id r regions held first last below out} :
    held.head? = some first → held.getLast? = some last →
    (∀ line ∈ held, line.Meets r.span) → (∀ line ∈ below, ¬ line.Meets r.span) →
    KeepsLines t results (id + 1) regions below out →
    KeepsLines t results id (r :: regions) (held ++ below)
      (RawLine.split (Text.slice t first.start r.span.start ++ r.render t results[id]?.join ++
        Text.slice t r.span.stop last.next) ++ out)

namespace KeepsLines

variable {t : Text} {results : List (Option RegionResult)} {id : Nat} {regions : List Region}
  {lines : List Line} {out out' : List RawLine}

theorem of_split {r : Region} {held below : List Line} {first last : Line} {new : List RawLine}
    (hfirst : held.head? = some first) (hlast : held.getLast? = some last)
    (hheld : ∀ line ∈ held, line.Meets r.span) (hbelow : ∀ line ∈ below, ¬ line.Meets r.span)
    (hnew : RawLine.split (Text.slice t first.start r.span.start ++
      r.render t results[id]?.join ++ Text.slice t r.span.stop last.next) = new)
    (h : KeepsLines t results (id + 1) regions below out) :
    KeepsLines t results id (r :: regions) (held ++ below) (new ++ out) :=
  hnew ▸ .region hfirst hlast hheld hbelow h

theorem sublist (h : KeepsLines t results id regions lines out) :
    ((lines.filter fun line => ∀ r ∈ regions, ¬ line.Meets r.span).map Line.toRawLine).Sublist
      out := by
  induction h with
  | nil => simp
  | host hline _ ih =>
    rw [List.filter_cons_of_pos (by simpa using hline), List.map_cons]
    exact ih.cons_cons _
  | @region id r regions held first last below out _ _ hheld hbelow _ ih =>
    have hnone : held.filter (fun line => ∀ r' ∈ r :: regions, ¬ line.Meets r'.span) = [] := by
      apply List.filter_eq_nil_iff.mpr
      intro line hm
      simp [hheld line hm]
    have hsame : below.filter (fun line => ∀ r' ∈ r :: regions, ¬ line.Meets r'.span) =
        below.filter (fun line => ∀ r' ∈ regions, ¬ line.Meets r'.span) := by
      apply List.filter_congr
      intro line hm
      simp [hbelow line hm]
    rw [List.filter_append, hnone, hsame, List.nil_append]
    exact ih.trans (List.sublist_append_right _ _)

theorem unique (h : KeepsLines t results id regions lines out)
    (h' : KeepsLines t results id regions lines out') : out' = out := by
  induction h generalizing out' with
  | nil =>
    generalize hlines : ([] : List Line) = lines at h'
    cases h' with
    | nil => rfl
    | host => cases hlines
  | @host id regions line below out hline _ ih =>
    generalize hlines : line :: below = lines at h'
    cases h' with
    | nil => cases hlines
    | host _ h' =>
      cases hlines
      rw [ih h']
    | @region id r regions held first last below' out' hfirst _ hheld =>
      obtain ⟨held, rfl⟩ := List.head?_eq_some_iff.mp hfirst
      obtain ⟨rfl, -⟩ := List.cons.inj hlines
      exact absurd (hheld line List.mem_cons_self) (hline r List.mem_cons_self)
  | @region id r regions held first last below out hfirst hlast hheld hbelow _ ih =>
    generalize hlines : held ++ below = lines at h'
    cases h' with
    | @host _ _ line below' out' hline =>
      obtain ⟨held, rfl⟩ := List.head?_eq_some_iff.mp hfirst
      obtain ⟨rfl, -⟩ := List.cons.inj hlines
      exact absurd (hheld first List.mem_cons_self) (hline r List.mem_cons_self)
    | @region _ _ _ held' first' last' below' out' hfirst' hlast' hheld' hbelow' h' =>
      -- the lines of the region are those that hold something of it
      have htake : ∀ {a b : List Line}, (∀ line ∈ a, line.Meets r.span) →
          (∀ line ∈ b, ¬ line.Meets r.span) →
          (a ++ b).filter (fun line => line.Meets r.span) = a := by
        intro a b ha hb
        rw [List.filter_append, List.filter_eq_self.mpr (by simpa using ha),
          List.filter_eq_nil_iff.mpr (by simpa using hb), List.append_nil]
      obtain rfl : held = held' := by
        rw [← htake hheld hbelow, hlines, htake hheld' hbelow']
      obtain rfl := List.append_cancel_left hlines
      cases hfirst.symm.trans hfirst'
      cases hlast.symm.trans hlast'
      rw [ih h']

end KeepsLines

-- ---------------------------------------------------------------------------
-- What comes out, line by line
-- ---------------------------------------------------------------------------

section

variable {indentation : Indentation} {style : LineStyle} {s : LexState} {line above : Line}
  {lines body blanks left : List Line} {rs : List Reading} {index offset id : Nat} {r : Region}
  {regions : List Region} {results : List (Option RegionResult)} {result : Option RegionResult}
  {t code : Text} {variant : BlockVariant} {header : Header} {rest : List RawLine}

theorem Line.Placed.within (h : Line.Placed index offset lines) (hm : line ∈ lines) :
    offset ≤ line.start ∧ line.next ≤ offset + (Line.joined lines).length := by
  induction lines generalizing index offset with
  | nil => simp at hm
  | cons first lines ih =>
    obtain ⟨-, rfl, h⟩ := h
    rw [Line.joined_cons, List.length_append]
    rcases List.mem_cons.mp hm with rfl | hm
    · simp only [Line.next]
      omega
    · have := ih h hm
      simp only [Line.next] at this ⊢
      omega

namespace Region

theorem Cleaned.last_line (h : r.Cleaned code) :
    (∀ t ∈ Text.splitOn lineFeed (unterminated code), t.Unbroken) ∧
      ∃ last, (Text.splitOn lineFeed (unterminated code)).getLast? = some last ∧
        last.isBlank = false := by
  obtain ⟨u, hend, hu⟩ := h.last
  have hlf : u ≠ lineFeed := by
    rintro rfl
    cases hu
  obtain ⟨last, hlast, hend⟩ := Text.getLast?_splitOn hend hlf
  exact ⟨(lines_of_code h.breaks h.ends).1, last, hlast,
    Text.isBlank_eq_false_of_mem (List.mem_of_getLast? hend) hu⟩

theorem Cleaned.unterminated_ne_nil (h : r.Cleaned code) : unterminated code ≠ [] := by
  obtain ⟨u, hend, -⟩ := h.last
  intro hnil
  rw [hnil] at hend
  cases hend

theorem Taken.scannable_blockLines (ht : Taken indentation style above variant header body r)
    (hscan : RawLine.Scannable (body.map Line.toRawLine))
    (hcode : ∀ code, result = some (.formatted code) → r.Cleaned code) :
    RawLine.Scannable (r.blockLines result) := by
  rcases RegionResult.formatted_or_kept result with ⟨code, rfl⟩ | hkept
  · obtain ⟨hunbroken, last, hlast, hblank⟩ := (hcode code rfl).last_line
    have hm : ∀ u ∈ r.margin, u.isIndent := ht.margin ▸ isIndent_of_mem_bodyMargin
    rw [blockLines, ← List.append_nil (terminated ..)]
    exact scannable_margined_append hm hunbroken hlast hblank (fun _ => rfl) trivial
      (by simp [RawLine.Uniform])
  · rwa [blockLines_of_ne_formatted hkept, ht.map_raw]

theorem scannable_statementLine {raw : RawLine} (hr : r.isStatement)
    (hu : raw.content.Unbroken) (hne : raw.content ≠ [])
    (hcode : ∀ code, result = some (.formatted code) → r.Cleaned code) :
    (r.statementLine raw result).content.Unbroken ∧ (r.statementLine raw result).content ≠ [] := by
  rcases RegionResult.formatted_or_kept result with ⟨code, rfl⟩ | hkept
  · have hcode := hcode code rfl
    have hunbroken : Text.Unbroken (unterminated code) := by
      intro u hm
      refine ⟨fun hlf => hcode.line hr (hlf ▸ hm), fun hcr => hcode.breaks (hcr ▸ ?_)⟩
      rw [← unterminated_append hcode.ends]
      exact List.mem_append_left _ hm
    rw [statementLine, Text.unbroken_append, Text.unbroken_append]
    refine ⟨⟨⟨fun u hu' => hu u (List.mem_of_mem_take hu'), hunbroken⟩,
      fun u hu' => hu u (List.mem_of_mem_drop hu')⟩, ?_⟩
    simp [hcode.unterminated_ne_nil]
  · rw [statementLine_of_ne_formatted hkept]
    exact ⟨hu, hne⟩

end Region

theorem Given.substantial (h : Given Region.Cleaned results id regions) :
    Substantial results id regions :=
  fun x hx _ code hcode => (h x hx code hcode).unterminated_ne_nil

/-- Every line that is read comes out as it is, or with its region rendered. -/
theorem Reads.keepsLines (h : Reads indentation style s lines rs)
    (hp : Line.Placed index offset lines) (ht : t.drop offset = Line.joined lines)
    (hscan : RawLine.Scannable (lines.map Line.toRawLine))
    (hcode : Given Region.Cleaned results id (rs.filterMap Reading.region)) :
    KeepsLines t results id (rs.filterMap Reading.region) lines (relined results id rs) := by
  induction h generalizing index offset id with
  | nil => exact .nil
  | @host s line below rs hr h ih =>
    obtain ⟨-, rfl, hp⟩ := hp
    rw [Line.joined_cons] at ht
    have hapart := h.apart hp (Nat.le_refl _)
    refine .host (fun r hm hmeets => ?_) (ih hp (Text.drop_add_of_drop ht) hscan.2.1 hcode)
    exact absurd hmeets.2 (Nat.not_lt_of_lt (hapart.lt_start hm))
  | @statement s line column code stop below rs hr h ih =>
    obtain ⟨-, rfl, hp⟩ := hp
    rw [Line.joined_cons] at ht
    obtain ⟨hcode, hcodes⟩ := given_cons.mp hcode
    obtain ⟨hu, hscan, -⟩ := hscan
    obtain ⟨-, -, -, hstop, hlt⟩ := Introducer.recognize_eq_statement_iff.mp hr
    obtain ⟨hstart, hspan, hnext⟩ := Line.span_ofStatement hr
    have hne : line.content ≠ [] := Introducer.content_ne_nil_of_recognize (by simp) hr
    let r := Region.ofStatement line code stop
    obtain ⟨hunbroken, hnonempty⟩ :
        (r.statementLine line.toRawLine results[id]?.join).content.Unbroken ∧
          (r.statementLine line.toRawLine results[id]?.join).content ≠ [] :=
      Region.scannable_statementLine rfl hu hne hcode
    have hheld : ∀ held ∈ [line], held.Meets r.span :=
      List.forall_mem_singleton.mpr
        ⟨Nat.lt_trans hstart hspan, Nat.lt_of_lt_of_le hspan hnext⟩
    have hbelow : ∀ other ∈ below, ¬ other.Meets r.span := by
      intro other hm hmeets
      exact absurd hmeets.1 (Nat.not_lt_of_le (Nat.le_trans hnext (hp.within hm).1))
    have hkeeps : KeepsLines t results id (r :: rs.filterMap Reading.region) ([line] ++ below)
        ([r.statementLine line.toRawLine results[id]?.join] ++ relined results (id + 1) rs) := by
      refine .of_split rfl rfl hheld hbelow ?_ (ih hp (Text.drop_add_of_drop ht) hscan hcodes)
      rw [← RawLine.split_text hunbroken hnonempty]
      exact congrArg RawLine.split (Region.text_statementLine (Nat.le_of_lt hlt) hstop ht)
    exact hkeeps
  | @block s line header colon body blanks left region rs hr he ht' h ih =>
    obtain ⟨-, rfl, hp⟩ := hp
    rw [List.append_assoc, Line.placed_append] at hp
    obtain ⟨hbody, hp⟩ := hp
    rw [List.append_assoc, List.map_cons, List.map_append] at hscan
    obtain ⟨-, hscan, -⟩ := hscan
    rw [Line.joined_cons, List.append_assoc, Line.joined_append] at ht
    obtain ⟨hcode, hcodes⟩ := given_cons.mp hcode
    have hspan := ht'.span hbody
    have hdrop : t.drop line.next = Line.joined body ++ Line.joined (blanks ++ left) :=
      Text.drop_add_of_drop ht
    have hslice : Text.slice t region.span.start region.span.stop = region.restored := by
      rw [hspan, Text.slice_of_drop hdrop, ht'.restored]
    have hblock : RawLine.split (region.render t results[id]?.join) =
        region.blockLines results[id]?.join := by
      refine RawLine.split_eq_iff.mpr ⟨ht'.scannable_blockLines hscan.left hcode, ?_⟩
      exact Region.join_blockLines ht'.isStatement hslice
        fun code hgiven => (hcode code hgiven).unterminated_ne_nil
    have hheld : ∀ held ∈ body, held.Meets region.span := by
      intro held hm
      have hwithin := hbody.within hm
      have hne := List.length_pos_iff.mpr
        (RawLine.text_ne_nil hscan.left (List.mem_map_of_mem (f := Line.toRawLine) hm))
      rw [hspan]
      simp only [Line.Meets, Line.next] at hwithin ⊢
      omega
    have hbelow : ∀ other ∈ blanks ++ left, ¬ other.Meets region.span := by
      intro other hm hmeets
      rw [hspan] at hmeets
      exact absurd hmeets.1 (Nat.not_lt_of_le (hp.within hm).1)
    rw [filterMap_region, relined_region, Region.relined_block ht'.isStatement, List.append_assoc]
    refine .host ?_ ?_
    · -- the header ends where the first region behind it begins
      refine List.forall_mem_cons.mpr ⟨fun hmeets => ?_, fun r hm hmeets => ?_⟩
      · rw [hspan] at hmeets
        exact Nat.lt_irrefl _ hmeets.2
      · have hlt := (h.apart hp (Nat.le_refl _)).lt_start hm
        have := hmeets.2
        omega
    · obtain ⟨first, hfirst, hstart⟩ := Option.map_eq_some_iff.mp ht'.start
      obtain ⟨last, hlast, hstop⟩ := Option.map_eq_some_iff.mp ht'.stop
      refine .of_split hfirst hlast hheld hbelow ?_
        (ih hp (Text.drop_add_of_drop hdrop) hscan.right hcodes)
      rw [hstart, hstop, ← hblock]
      simp [Text.slice]

-- ---------------------------------------------------------------------------
-- Breaks that run into others
-- ---------------------------------------------------------------------------

/-- A break of the code that is put back runs into one of the host text: the first line of the
block is empty and its line feed stands behind a CR, or the last line of the block ends in a CR and
a line feed stands behind it. -/
def Region.Fuses (t : Text) (r : Region) (code : Text) : Prop :=
  r.isStatement = false ∧
    (r.lineBreak = .lf ∧ (t.take r.span.start).getLast? = some carriageReturn ∧
        Text.isBlank (code.takeWhile (· ≠ lineFeed)) ∨
      r.lineBreak = .cr ∧ r.endsWithBreak ∧ (t.drop r.span.stop).head? = some lineFeed)

instance (t : Text) (r : Region) (code : Text) : Decidable (r.Fuses t code) :=
  inferInstanceAs (Decidable (_ ∧ (_ ∨ _)))

theorem Text.head?_splitOn (separator : CodeUnit) (t : Text) :
    (splitOn separator t).head? = some (t.takeWhile (· ≠ separator)) := by
  induction t with
  | nil => rfl
  | cons u t ih =>
    rw [splitOn]
    split
    · next hu => simp [hu]
    · next hu =>
      split
      · next piece pieces hsplit =>
        rw [hsplit] at ih
        simp [hu, Option.some.inj ih]
      · next hsplit => exact absurd hsplit (splitOn_ne_nil _ _)

namespace Region

theorem takeWhile_unterminated (h : code.getLast? = some lineFeed) :
    (unterminated code).takeWhile (· ≠ lineFeed) = code.takeWhile (· ≠ lineFeed) := by
  conv => rhs; rw [← unterminated_append h]
  induction unterminated code with
  | nil => simp
  | cons u t ih => simp only [List.cons_append, List.takeWhile_cons, ih]

theorem atMargin_initial_eq_nil_iff {margin line : Text} :
    atMargin margin .initial line = [] ↔ line.isBlank := by
  cases hb : line.isBlank with
  | true => simp [atMargin, hb, LexState.initial, LexState.inString]
  | false =>
    have hne : line ≠ [] := by
      rintro rfl
      cases hb
    simp [atMargin_of_not_isBlank hb, hne]

theorem head?_blockLines (h : r.Cleaned code) :
    (r.blockLines (some (.formatted code))).head? = some ⟨[], some .lf⟩ ↔
      r.lineBreak = .lf ∧ Text.isBlank (code.takeWhile (· ≠ lineFeed)) := by
  obtain ⟨-, last, hlast, hblank⟩ := h.last_line
  have hhead := Text.head?_splitOn lineFeed (unterminated code)
  rw [takeWhile_unterminated h.ends] at hhead
  obtain ⟨more, hlines⟩ := List.head?_eq_some_iff.mp hhead
  rw [hlines] at hlast
  rw [blockLines, hlines, margined_cons]
  generalize code.takeWhile (· ≠ lineFeed) = first at hlast ⊢
  cases more with
  | nil =>
    obtain rfl : first = last := by simpa using hlast
    have hne : atMargin r.margin .initial first ≠ [] := by
      simp [atMargin_initial_eq_nil_iff, hblank]
    simp [margined, terminated, hne, hblank]
  | cons next more =>
    rw [terminated_cons (margined_ne_nil (List.cons_ne_nil next more)), List.head?_cons]
    simp [atMargin_initial_eq_nil_iff, and_comm]

theorem getLast?_blockLines (h : r.Cleaned code) :
    ∃ content, (r.blockLines (some (.formatted code))).getLast? =
      some ⟨content, if r.endsWithBreak then some r.lineBreak else none⟩ := by
  obtain ⟨-, last, hlast, hblank⟩ := h.last_line
  exact ⟨_, getLast?_terminated (getLast?_margined hlast hblank)⟩

theorem joins_blockLines_iff (h : r.Cleaned code) (hending : line.ending ≠ none) :
    line.Joins (r.blockLines (some (.formatted code)) ++ rest) ↔
      ¬ (r.lineBreak = .lf ∧ line.ending = some .cr ∧
        Text.isBlank (code.takeWhile (· ≠ lineFeed))) := by
  obtain ⟨content, hlast⟩ := getLast?_blockLines h
  have hne : r.blockLines (some (.formatted code)) ≠ [] := by
    intro hnil
    rw [hnil] at hlast
    cases hlast
  have hhead := head?_blockLines h
  rw [RawLine.Joins, List.head?_append_of_ne_nil _ hne, ne_eq, hhead]
  grind

theorem joins_of_blockLines_iff (h : r.Cleaned code) (hends : r.endsWithBreak = false → rest = []) :
    (∀ last, (r.blockLines (some (.formatted code))).getLast? = some last → last.Joins rest) ↔
      ¬ (r.lineBreak = .cr ∧ r.endsWithBreak ∧ rest.head? = some ⟨[], some .lf⟩) := by
  obtain ⟨content, hlast⟩ := getLast?_blockLines h
  rw [hlast]
  cases hbreak : r.endsWithBreak with
  | false => simp [RawLine.Joins, hends hbreak]
  | true => simp [RawLine.Joins]

/-- A block can stand between its header and the lines behind it unless a break runs into another.
-/
theorem joins_iff_not_fuses (h : r.Cleaned code) (hr : r.isStatement = false)
    (hending : line.ending ≠ none) (hends : r.endsWithBreak = false → rest = [])
    (hstart : (t.take r.span.start).getLast? = some carriageReturn ↔ line.ending = some .cr)
    (hstop : (t.drop r.span.stop).head? = some lineFeed ↔ rest.head? = some ⟨[], some .lf⟩) :
    (∀ last, (r.blockLines (some (.formatted code))).getLast? = some last → last.Joins rest) ∧
      line.Joins (r.blockLines (some (.formatted code)) ++ rest) ↔ ¬ r.Fuses t code := by
  rw [joins_of_blockLines_iff h hends, joins_blockLines_iff h hending, Fuses, hstart, hstop]
  simp only [hr, true_and, not_or]
  exact and_comm

end Region

theorem Reads.head?_relined (h : Reads indentation style s lines rs)
    (hscan : RawLine.Scannable (lines.map Line.toRawLine))
    (hcode : Given Region.Cleaned results id (rs.filterMap Reading.region)) :
    (relined results id rs).head? = some ⟨[], some .lf⟩ ↔
      (lines.map Line.toRawLine).head? = some ⟨[], some .lf⟩ := by
  cases h with
  | nil => rfl
  | host => simp
  | @statement s line column code stop below rs hr _ =>
    have hne : line.content ≠ [] := Introducer.content_ne_nil_of_recognize (by simp) hr
    obtain ⟨-, hne'⟩ := Region.scannable_statementLine (r := .ofStatement line code stop) rfl
      hscan.1 hne (given_cons.mp hcode).1
    rw [relined_region, Region.relined_statement rfl]
    exact iff_of_false (fun heq => hne' (congrArg RawLine.content (Option.some.inj heq)))
      (fun heq => hne (congrArg RawLine.content (Option.some.inj heq)))
  | block _ _ ht =>
    rw [relined_region, Region.relined_block ht.isStatement]
    rfl

theorem Reads.joins_relined {raw raw' : RawLine} (h : Reads indentation style s lines rs)
    (hscan : RawLine.Scannable (lines.map Line.toRawLine))
    (hcode : Given Region.Cleaned results id (rs.filterMap Reading.region))
    (hjoins : raw.Joins (lines.map Line.toRawLine)) (hending : raw'.ending = raw.ending) :
    raw'.Joins (relined results id rs) := by
  refine hjoins.congr hending (fun hnil => ?_) (h.head?_relined hscan hcode).mp
  rw [List.map_eq_nil_iff.mp hnil] at h
  exact h.relined_nil

theorem Line.getLast?_take_next {below : Text} (ht : t.drop line.start = line.text ++ below)
    (hending : line.ending ≠ none) :
    (t.take line.next).getLast? = some carriageReturn ↔ line.ending = some .cr := by
  obtain ⟨e, he⟩ := Option.ne_none_iff_exists'.mp hending
  have htext : line.text = line.content ++ e.text := by rw [RawLine.text, he]; rfl
  rw [Line.next, List.take_add, ht, List.take_left, htext, he]
  cases e <;> simp [LineBreak.text] <;> decide

theorem Reads.scannable_relined_iff (h : Reads indentation style s lines rs)
    (hp : Line.Placed index offset lines) (ht : t.drop offset = Line.joined lines)
    (hscan : RawLine.Scannable (lines.map Line.toRawLine))
    (hcode : Given Region.Cleaned results id (rs.filterMap Reading.region)) :
    RawLine.Scannable (relined results id rs) ↔
      Given (fun r code => ¬ r.Fuses t code) results id (rs.filterMap Reading.region) := by
  induction h generalizing index offset id with
  | nil => simp [relined, RawLine.Scannable, Given]
  | @host s line below rs hr h ih =>
    obtain ⟨-, rfl, hp⟩ := hp
    rw [Line.joined_cons] at ht
    obtain ⟨hu, hne, hscan, hjoins⟩ := RawLine.scannable_cons_iff.mp hscan
    have hjoins := h.joins_relined hscan hcode hjoins rfl
    have hbelow := ih hp (Text.drop_add_of_drop ht) hscan hcode
    rw [relined_host, RawLine.scannable_cons_iff]
    exact ⟨fun hall => hbelow.mp hall.2.2.1, fun hall => ⟨hu, hne, hbelow.mpr hall, hjoins⟩⟩
  | @statement s line column code stop below rs hr h ih =>
    obtain ⟨-, rfl, hp⟩ := hp
    rw [Line.joined_cons] at ht
    obtain ⟨hu, -, hscan, hjoins⟩ := RawLine.scannable_cons_iff.mp hscan
    obtain ⟨hcode, hcodes⟩ := given_cons.mp hcode
    have hne : line.content ≠ [] := Introducer.content_ne_nil_of_recognize (by simp) hr
    have hline := Region.scannable_statementLine (r := .ofStatement line code stop) rfl hu hne hcode
    have hjoins : ((Region.ofStatement line code stop).statementLine line.toRawLine
        results[id]?.join).Joins (relined results (id + 1) rs) :=
      h.joins_relined hscan hcodes hjoins Region.ending_statementLine
    have hfuses : ∀ code', ¬ (Region.ofStatement line code stop).Fuses t code' :=
      fun code' hfuses => Bool.noConfusion hfuses.1
    have hbelow := ih hp (Text.drop_add_of_drop ht) hscan hcodes
    rw [relined_region, Region.relined_statement rfl, List.singleton_append,
      RawLine.scannable_cons_iff, filterMap_region, given_cons]
    exact ⟨fun hall => ⟨fun code' _ => hfuses code', hbelow.mp hall.2.2.1⟩,
      fun hall => ⟨hline.1, fun _ => hline.2, hbelow.mpr hall.2, hjoins⟩⟩
  | @block s line header colon body blanks left region rs hr he ht' h ih =>
    obtain ⟨-, rfl, hp⟩ := hp
    rw [List.append_assoc, Line.placed_append] at hp
    rw [Line.joined_cons, List.append_assoc, Line.joined_append] at ht
    rw [List.append_assoc, List.map_cons, List.map_append] at hscan
    obtain ⟨hu, -, hscan, hjoins⟩ := RawLine.scannable_cons_iff.mp hscan
    obtain ⟨hbody, hbehind, hlast⟩ := RawLine.scannable_append_iff.mp hscan
    obtain ⟨hcode, hcodes⟩ := given_cons.mp hcode
    have hbelow := ih hp.2 (Text.drop_add_of_drop (Text.drop_add_of_drop ht)) hbehind hcodes
    have hne : body.map Line.toRawLine ≠ [] := fun hnil => he.ne_nil (List.map_eq_nil_iff.mp hnil)
    have hending : line.ending ≠ none := fun hnone =>
      hne (List.append_eq_nil_iff.mp (hjoins.1 hnone)).1
    have hlines := ht'.scannable_blockLines hbody hcode
    have hspan := ht'.span hp.1
    have hstart : (t.take region.span.start).getLast? = some carriageReturn ↔
        line.ending = some .cr := by
      rw [hspan]
      exact Line.getLast?_take_next ht hending
    have hstop : (t.drop region.span.stop).head? = some lineFeed ↔
        (relined results (id + 1) rs).head? = some ⟨[], some .lf⟩ := by
      rw [h.head?_relined hbehind hcodes, ← RawLine.head?_join_iff hbehind, hspan]
      exact iff_of_eq (congrArg (·.head? = some lineFeed)
        (Text.drop_add_of_drop (Text.drop_add_of_drop ht)))
    have hfuses : (∀ last, (region.blockLines results[id]?.join).getLast? = some last →
          last.Joins (relined results (id + 1) rs)) ∧
        line.Joins (region.blockLines results[id]?.join ++ relined results (id + 1) rs) ↔
        ∀ code, results[id]?.join = some (.formatted code) → ¬ region.Fuses t code := by
      rcases RegionResult.formatted_or_kept results[id]?.join with ⟨code, hgiven⟩ | hkept
      · have hends : region.endsWithBreak = false → relined results (id + 1) rs = [] := by
          intro hends
          rw [List.map_eq_nil_iff.mp (ht'.eq_nil_of_endsWithBreak hscan hends)] at h
          exact h.relined_nil
        rw [hgiven, Region.joins_iff_not_fuses (hcode code hgiven) ht'.isStatement hending hends
          hstart hstop]
        simp
      · rw [Region.blockLines_of_ne_formatted hkept, ht'.map_raw]
        exact ⟨fun _ code hgiven => absurd hgiven (hkept code),
          fun _ => ⟨fun last hm => h.joins_relined hbehind hcodes (hlast last hm) rfl,
            hjoins.append_congr hne _⟩⟩
    rw [relined_region, Region.relined_block ht'.isStatement, List.cons_append,
      RawLine.scannable_cons_iff, RawLine.scannable_append_iff, filterMap_region, given_cons, hbelow,
      ← hfuses]
    constructor
    · rintro ⟨-, -, ⟨-, hgiven, hlast⟩, hjoins⟩
      exact ⟨⟨hlast, hjoins⟩, hgiven⟩
    · rintro ⟨⟨hlast, hjoins⟩, hgiven⟩
      exact ⟨hu, fun hnone => absurd hnone hending, ⟨hlines, hgiven, hlast⟩, hjoins⟩

theorem Text.mem_of_uniform {e : LineBreak} {u : CodeUnit} (hu : RawLine.Uniform e (RawLine.split t))
    (hm : u ∈ t) (hbreak : u = lineFeed ∨ u = carriageReturn) : u ∈ e.text := by
  obtain ⟨t, ht, rfl⟩ := exists_withBreak hu
  obtain ⟨u', hm', hm⟩ := List.mem_flatMap.mp hm
  split at hm
  · exact hm
  · next hlf =>
    obtain rfl := List.mem_singleton.mp hm
    rcases hbreak with rfl | rfl
    · exact absurd rfl hlf
    · exact absurd hm' ht

namespace Partition

variable {p : Partition}

theorem not_fuses_of_uniform {e : LineBreak} (h : build indentation (.ofText t) = .ok p)
    (hu : RawLine.Uniform e (RawLine.split t)) (hr : r ∈ p.regions) : ¬ r.Fuses t code := by
  rintro ⟨hb, ⟨hlf, hcr, -⟩ | ⟨hcr, -, hlf⟩⟩
  · obtain rfl : e = .lf := (lineBreak_of_uniform h hu hr hb).symm.trans hlf
    have hm := Text.mem_of_uniform hu (List.mem_of_mem_take (List.mem_of_getLast? hcr)) (.inr rfl)
    exact absurd hm (by decide)
  · obtain rfl : e = .cr := (lineBreak_of_uniform h hu hr hb).symm.trans hcr
    have hm := Text.mem_of_uniform hu (List.mem_of_mem_drop (List.mem_of_head? hlf)) (.inl rfl)
    exact absurd hm (by decide)

/-- The lines that hold nothing of a region come out of splicing as they are, in their order, with
only lines of the regions between them, exactly if no break that is put back runs into one of the
host text. Where all breaks are of one kind, none does. -/
theorem keepsLines_iff (h : build indentation (.ofText t) = .ok p)
    (hclean : Given (fun r code => ∃ output, r.clean output = .ok code) results 0 p.regions) :
    (KeepsLines t results 0 p.regions (Line.scan t) (RawLine.split (p.splice results)) ↔
        Given (fun r code => ¬ r.Fuses t code) results 0 p.regions) ∧
      ((Document.ofText t).style.mixed = false →
        KeepsLines t results 0 p.regions (Line.scan t) (RawLine.split (p.splice results))) ∧
      (KeepsLines t results 0 p.regions (Line.scan t) (RawLine.split (p.splice results)) →
        (((Line.scan t).filter fun line => ∀ r ∈ p.regions, ¬ line.Meets r.span).map
          Line.toRawLine).Sublist (RawLine.split (p.splice results))) := by
  have hcode := cleaned_of_clean h hclean
  obtain ⟨rs, hreads, hp⟩ := build_eq_ok_iff.mp h
  have hregions : p.regions = rs.filterMap Reading.region := by rw [hp]
  have hscan := Line.scannable_scan t
  have hjoined : t.drop 0 = Line.joined (Line.scan t) := (Line.joined_scan t).symm
  have hsplice := splice_eq_join h hreads hregions hcode.substantial
  have hgiven := hcode
  rw [hregions] at hgiven
  have hkeeps := hreads.keepsLines (Line.placed_scan t) hjoined hscan hgiven
  have hiff := hreads.scannable_relined_iff (Line.placed_scan t) hjoined hscan hgiven
  rw [← hregions] at hkeeps hiff
  have hkept : KeepsLines t results 0 p.regions (Line.scan t) (RawLine.split (p.splice results)) ↔
      Given (fun r code => ¬ r.Fuses t code) results 0 p.regions := by
    rw [← hiff]
    constructor
    · intro hout
      rw [← hkeeps.unique hout]
      exact RawLine.scannable_split _
    · intro hscan
      rwa [hsplice, RawLine.split_join hscan]
  refine ⟨hkept, fun hmixed => hkept.mpr fun x hx code _ => ?_, KeepsLines.sublist⟩
  have hu := LineStyle.uniform_dominant hmixed
  rw [Line.map_toRawLine_scan] at hu
  exact not_fuses_of_uniform h hu (List.fst_mem_of_mem_zipIdx hx)

end Partition

end

/-- A blank line behind a block with carriage returns is lost: its line feed ends the block. -/
theorem Partition.not_keepsLines_of_cr_lf :
    ∃ p r, build ⟨.reject, 4⟩ (.ofText (text "\rpython:\r a\r b\n\n")) = .ok p ∧
      p.regions = [r] ∧ r.clean (text "a\nb") = .ok (text "a\nb\n") ∧
      p.splice [some (.formatted (text "a\nb\n"))] = text "\rpython:\r a\r b\r\n" ∧
      ¬ KeepsLines (text "\rpython:\r a\r b\n\n") [some (.formatted (text "a\nb\n"))] 0
        p.regions (Line.scan (text "\rpython:\r a\r b\n\n"))
        (RawLine.split (p.splice [some (.formatted (text "a\nb\n"))])) := by
  have hbuild : (build ⟨.reject, 4⟩ (.ofText (text "\rpython:\r a\r b\n\n"))).map
      (fun p => (p.regions.map fun r => (r.clean (text "a\nb"),
          decide (r.Fuses (text "\rpython:\r a\r b\n\n") (text "a\nb\n"))),
        p.splice [some (.formatted (text "a\nb\n"))])) =
      .ok ([(.ok (text "a\nb\n"), true)], text "\rpython:\r a\r b\r\n") := by cbv
  obtain ⟨p, hp, hpair⟩ := map_eq_ok_iff.mp hbuild
  obtain ⟨hregions, hsplice⟩ := Prod.mk.inj hpair
  obtain ⟨r, hregions, hpair⟩ := List.map_eq_singleton_iff.mp hregions
  obtain ⟨hclean, hfuses⟩ := Prod.mk.inj hpair
  have hgiven : Given (fun r code => ∃ output, r.clean output = .ok code)
      [some (.formatted (text "a\nb\n"))] 0 p.regions := by
    rw [hregions, given_cons]
    refine ⟨fun code hcode => ?_, by simp [Given]⟩
    cases hcode
    exact ⟨_, hclean⟩
  refine ⟨p, r, hp, hregions, hclean, hsplice, fun hkeeps => ?_⟩
  have hnone := (keepsLines_iff hp hgiven).1.mp hkeeps
  rw [hregions, given_cons] at hnone
  exact hnone.1 _ rfl (of_decide_eq_true hfuses)

end Inlay
