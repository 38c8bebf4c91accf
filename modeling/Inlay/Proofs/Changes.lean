import Inlay.Proofs.HostLines
import Inlay.Proofs.Outcomes

/-!
# Changes

A document changes exactly if one of its regions does. What the regions become cannot make up for
one another: every line of the host text says where the region above it ends. A statement ends where
its line does, and a block before the first line that is indented no more than its introducer, in
the formatted document as in the given one (`Reads.render_of_join`).
-/

namespace Inlay

open CodeUnit

-- ---------------------------------------------------------------------------
-- Lines in front of a text
-- ---------------------------------------------------------------------------

namespace RawLine

variable {t a b : Text} {line line' : RawLine} {lines lines' more : List RawLine} {e : LineBreak}

theorem takeWhile_unbroken (h : t.Unbroken) (e : LineBreak) (rest : Text) :
    (t ++ (e.text ++ rest)).takeWhile (fun u => u ≠ lineFeed ∧ u ≠ carriageReturn) = t := by
  refine takeWhile_append_of_head (fun u hm => by simpa using h u hm) fun u hu => ?_
  cases e <;> cases hu <;> decide

theorem text_append_cancel (hu : line.content.Unbroken) (hu' : line'.content.Unbroken)
    (hending : line'.ending = line.ending) (hnone : line.ending = none → a = [] ∧ b = [])
    (h : line'.text ++ a = line.text ++ b) : line' = line ∧ a = b := by
  obtain ⟨content, ending⟩ := line
  obtain ⟨content', ending'⟩ := line'
  obtain rfl : ending' = ending := hending
  cases ending' with
  | none =>
    obtain ⟨rfl, rfl⟩ := hnone rfl
    simpa [text, endingText] using h
  | some e =>
    simp only [text, endingText, Option.elim_some, List.append_assoc] at h
    obtain rfl : content' = content := by
      have htake := congrArg (List.takeWhile fun u => u ≠ lineFeed ∧ u ≠ carriageReturn) h
      rwa [takeWhile_unbroken hu', takeWhile_unbroken hu] at htake
    exact ⟨rfl, by simpa using h⟩

/-- The first line of a text, unless its CR takes a line feed that stands behind it. -/
theorem split_line (hu : t.Unbroken) (e : LineBreak) (rest : Text) :
    split (t ++ (e.text ++ rest)) = ⟨t, some e⟩ :: split rest ∨
      ∃ behind, rest = lineFeed :: behind ∧
        split (t ++ (e.text ++ rest)) = ⟨t, some .crlf⟩ :: split behind := by
  by_cases hd : Detached e rest
  · exact .inl (split_append hu hd)
  · obtain ⟨rfl, hhead⟩ : e = .cr ∧ rest.head? = some lineFeed := by simpa [Detached] using hd
    obtain ⟨behind, rfl⟩ := List.head?_eq_some_iff.mp hhead
    refine .inr ⟨behind, rfl, ?_⟩
    exact split_append (e := .crlf) hu fun h => by cases h

theorem head?_split_join (hu : line.content.Unbroken) (hne : line.content ≠ [])
    (hnone : line.ending = none → more = []) :
    ∃ e, (split (join (line :: more))).head? = some ⟨line.content, e⟩ := by
  obtain ⟨content, ending⟩ := line
  rw [join_cons, text]
  cases ending with
  | none =>
    obtain rfl := hnone rfl
    exact ⟨none, by simp [endingText, split_unbroken hu hne]⟩
  | some e =>
    rw [List.append_assoc]
    rcases split_line hu e (join more) with h | ⟨behind, -, h⟩
    · exact ⟨some e, congrArg List.head? h⟩
    · exact ⟨some .crlf, congrArg List.head? h⟩

theorem exists_of_mem_split_join
    (h : ∀ line ∈ lines, line.content.Unbroken ∧ line.ending ≠ none) :
    ∀ line ∈ split (join lines), line.ending ≠ none ∧
      ∃ line' ∈ lines, line'.content = line.content := by
  induction lines with
  | nil => simp [split]
  | cons first lines ih =>
    obtain ⟨content, ending⟩ := first
    obtain ⟨⟨hu, hne⟩, hrest⟩ := List.forall_mem_cons.mp h
    obtain ⟨e, rfl⟩ := Option.ne_none_iff_exists'.mp hne
    -- where the CR takes the line feed in front of the rest, one line of the rest is missing
    obtain ⟨e', behind, hsplit, hbehind⟩ : ∃ e' behind,
        split (join (⟨content, some e⟩ :: lines)) = ⟨content, some e'⟩ :: split behind ∧
          ∀ line ∈ split behind, line ∈ split (join lines) := by
      rw [join_cons, text, List.append_assoc]
      rcases split_line hu e (join lines) with hsplit | ⟨behind, hrest', hsplit⟩
      · exact ⟨e, _, hsplit, fun _ => id⟩
      · refine ⟨.crlf, behind, hsplit, fun line hm => ?_⟩
        have hlf : split (lineFeed :: behind) = ⟨[], some .lf⟩ :: split behind :=
          split_break (e := .lf) fun h => by cases h
        rw [hrest', hlf]
        exact List.mem_cons_of_mem _ hm
    rw [hsplit]
    refine List.forall_mem_cons.mpr ⟨⟨by simp, _, List.mem_cons_self, rfl⟩, fun line hm => ?_⟩
    obtain ⟨hending, line', hm', hline⟩ := ih hrest line (hbehind line hm)
    exact ⟨hending, line', List.mem_cons_of_mem _ hm', hline⟩

theorem split_append_of_ends (ha : ∀ line ∈ split a, line.ending ≠ none)
    (hb : (split b).head? ≠ some ⟨[], some .lf⟩) : split (a ++ b) = split a ++ split b := by
  refine split_eq_iff.mpr ⟨scannable_append_iff.mpr
    ⟨scannable_split a, scannable_split b, fun line hl => ⟨fun hn => ?_, fun _ => hb⟩⟩, ?_⟩
  · exact absurd hn (ha line (List.mem_of_getLast? hl))
  · rw [join_append, join_split, join_split]

theorem join_eq_of_leaves (inside : Text → Bool) (behind : Text) {left : List RawLine}
    (hempty : inside []) (hinside : ∀ line ∈ lines, inside line.content)
    (hlines : ∀ line ∈ lines, line.content.Unbroken ∧ line.ending ≠ none)
    (hleaves : ∀ line, (split behind).head? = some line → inside line.content = false)
    (hinside' : ∀ line ∈ lines', inside line.content) (hscan : Scannable (lines' ++ left))
    (hleaves' : ∀ line, left.head? = some line → inside line.content = false)
    (h : join lines ++ behind = join (lines' ++ left)) : join lines = join lines' := by
  have hparts := exists_of_mem_split_join hlines
  have hsplit : split (join lines) ++ split behind = lines' ++ left := by
    rw [← split_join hscan, ← h]
    refine (split_append_of_ends (fun line hm => (hparts line hm).1) fun hhead => ?_).symm
    exact absurd hempty (by simp [hleaves _ hhead])
  have htake := congrArg (List.takeWhile fun line => inside line.content) hsplit
  rw [takeWhile_append_of_head (fun line hm => ?_) hleaves,
    takeWhile_append_of_head hinside' hleaves'] at htake
  · rw [← htake, join_split]
  · obtain ⟨-, line', hm', hline⟩ := hparts line hm
    rw [← hline]
    exact hinside line' hm'

theorem ending_ne_none_of_append (h : Scannable (lines ++ more)) (hmore : more ≠ [])
    (hm : line ∈ lines) : line.ending ≠ none := by
  induction lines with
  | nil => simp at hm
  | cons first lines ih =>
    obtain ⟨-, -, hscan, hjoins⟩ := scannable_cons_iff.mp h
    rcases List.mem_cons.mp hm with rfl | hm
    · exact fun hnone => hmore (List.append_eq_nil_iff.mp (hjoins.1 hnone)).2
    · exact ih hscan hm

end RawLine

-- ---------------------------------------------------------------------------
-- Where a block ends
-- ---------------------------------------------------------------------------

section

variable {indentation : Indentation} {style : LineStyle} {s : LexState} {line above : Line}
  {lines below body blanks left : List Line} {rs : List Reading} {index offset id : Nat}
  {r : Region} {results : List (Option RegionResult)} {result : Option RegionResult}
  {t code margin : Text} {ts : List Text} {variant : BlockVariant} {header : Header}
  {tabWidth width : Nat}

namespace Region

theorem ending_of_mem_terminated {e : LineBreak} {raw : RawLine}
    (h : raw ∈ terminated e true ts) : raw.ending = some e := by
  induction ts with
  | nil => simp [terminated] at h
  | cons t ts ih =>
    cases ts with
    | nil => simpa [terminated] using congrArg RawLine.ending (List.mem_singleton.mp h)
    | cons next ts =>
      rcases List.mem_cons.mp h with rfl | h
      · rfl
      · exact ih h

end Region

theorem Reads.unbroken_head_relined (h : Reads indentation style s (line :: below) rs)
    (hu : line.content.Unbroken)
    (hcode : Given Region.Cleaned results id (rs.filterMap Reading.region)) {raw : RawLine}
    (hraw : (relined results id rs).head? = some raw) : raw.content.Unbroken := by
  generalize hlines : line :: below = all at h
  cases h with
  | nil => cases hlines
  | host =>
    cases hlines
    cases hraw
    exact hu
  | block _ _ ht =>
    cases hlines
    rw [relined_region, Region.relined_block ht.isStatement] at hraw
    cases hraw
    exact hu
  | statement hr =>
    cases hlines
    have hne := Introducer.content_ne_nil_of_recognize (by simp) hr
    cases hraw
    exact (Region.scannable_statementLine rfl hu hne (given_cons.mp hcode).1).1

theorem Reads.head_leaves (h : Reads indentation style s (line :: below) rs)
    (hscan : RawLine.Scannable ((line :: below).map Line.toRawLine))
    (hcode : Given Region.Cleaned results id (rs.filterMap Reading.region))
    (hleaves : Region.stays tabWidth width line = false) {raw : RawLine}
    (hraw : (RawLine.split (RawLine.join (relined results id rs))).head? = some raw) :
    Region.contentStays tabWidth width raw.content = false := by
  obtain ⟨hu, -, -, hjoins⟩ := RawLine.scannable_cons_iff.mp hscan
  obtain ⟨first, more, heq, hindent, hblank, hending, hnil⟩ := h.relined_cons results id
  have hfirst : Region.contentStays tabWidth width first.content = false := by
    have hleaves' := hleaves
    rw [Region.stays, ← hindent, ← hblank] at hleaves'
    exact hleaves'
  have hne : first.content ≠ [] := by
    intro hnil
    rw [hnil] at hfirst
    cases hfirst
  have hlast : first.ending = none → more = [] :=
    fun hnone => hnil (List.map_eq_nil_iff.mp (hjoins.1 (hending ▸ hnone)))
  obtain ⟨e, he⟩ :=
    RawLine.head?_split_join (h.unbroken_head_relined hu hcode (by rw [heq]; rfl)) hne hlast
  rw [heq, he] at hraw
  cases hraw
  exact hfirst

/-- Formatted lines of a block that make up the same text with what follows are the lines they stand
for: what follows says where the block ends. -/
theorem Region.Taken.join_blockLines_of_append
    (ht : Taken indentation style above variant header body r)
    (he : Extent indentation.tabWidth width body blanks left)
    (hscan : RawLine.Scannable ((body ++ (blanks ++ left)).map Line.toRawLine))
    (hreads : Reads indentation style s left rs) (hclean : r.Cleaned code)
    (hcode : Given Region.Cleaned results id (rs.filterMap Reading.region))
    (h : RawLine.join (r.blockLines (some (.formatted code))) ++
        (Line.joined blanks ++ RawLine.join (Inlay.relined results id rs)) =
      Line.joined body ++ (Line.joined blanks ++ Line.joined left)) :
    RawLine.join (r.blockLines (some (.formatted code))) = Line.joined body := by
  cases left with
  | nil =>
    rw [hreads.relined_nil] at h
    exact List.append_cancel_right h
  | cons line left =>
    rw [← List.append_assoc, List.map_append] at hscan
    have hm : ∀ u ∈ r.margin, u.isIndent := ht.margin ▸ isIndent_of_mem_bodyMargin
    have hlt : width < Indent.width indentation.tabWidth r.margin :=
      ht.margin ▸ he.lt_width_bodyMargin
    have hends : r.endsWithBreak = true := by
      by_contra hends
      rw [List.map_append, List.append_assoc] at hscan
      have hnil := ht.eq_nil_of_endsWithBreak hscan (Bool.eq_false_iff.mpr hends)
      simp at hnil
    obtain ⟨hunbroken, -⟩ := hclean.last_line
    have hblanks : ∀ blank ∈ blanks, contentStays indentation.tabWidth width blank.content :=
      fun blank hb => stays_of_isBlank (he.blank blank hb)
    have hcontent : ∀ raw ∈ r.blockLines (some (.formatted code)), raw.content ∈
        margined r.margin .initial (Text.splitOn lineFeed (unterminated code)) := by
      intro raw hraw
      have hmap := List.mem_map_of_mem (f := RawLine.content) hraw
      rwa [blockLines, map_content_terminated] at hmap
    have hjoin : RawLine.join (r.blockLines (some (.formatted code)) ++ blanks.map Line.toRawLine) =
        RawLine.join ((body ++ blanks).map Line.toRawLine) := by
      refine RawLine.join_eq_of_leaves (contentStays indentation.tabWidth width)
        (RawLine.join (Inlay.relined results id rs)) rfl ?_ ?_ ?_ ?_ hscan ?_ ?_
      · intro raw hraw
        rcases List.mem_append.mp hraw with hraw | hraw
        · exact contentStays_of_mem_margined hm hlt (hcontent raw hraw)
        · obtain ⟨blank, hb, rfl⟩ := List.mem_map.mp hraw
          exact hblanks blank hb
      · intro raw hraw
        rcases List.mem_append.mp hraw with hraw | hraw
        · refine ⟨unbroken_of_mem_margined hm hunbroken (hcontent raw hraw), ?_⟩
          rw [blockLines, hends] at hraw
          simp [ending_of_mem_terminated hraw]
        · have hraw : raw ∈ (body ++ blanks).map Line.toRawLine := by simp [hraw]
          exact ⟨hscan.left.unbroken hraw,
            RawLine.ending_ne_none_of_append hscan (List.cons_ne_nil _ _) hraw⟩
      · intro raw hraw
        exact hreads.head_leaves (hscan.right) hcode (he.leaves line rfl) hraw
      · intro raw hraw
        obtain ⟨inner, hinner, rfl⟩ := List.mem_map.mp hraw
        rcases List.mem_append.mp hinner with hb | hb
        · exact he.stays inner hb
        · exact hblanks inner hb
      · intro raw hraw
        cases hraw
        exact he.leaves line rfl
      · simpa [RawLine.join_append, Line.joined] using h
    rw [RawLine.join_append, List.map_append, RawLine.join_append] at hjoin
    exact List.append_cancel_right hjoin

-- ---------------------------------------------------------------------------
-- The regions of a text
-- ---------------------------------------------------------------------------

theorem Reads.render_of_join (h : Reads indentation style s lines rs)
    (hp : Line.Placed index offset lines) (ht : t.drop offset = Line.joined lines)
    (hscan : RawLine.Scannable (lines.map Line.toRawLine))
    (hcode : Given Region.Cleaned results id (rs.filterMap Reading.region))
    (hjoin : RawLine.join (relined results id rs) = Line.joined lines) :
    ∀ x ∈ (rs.filterMap Reading.region).zipIdx id,
      x.1.render t results[x.2]?.join = Text.slice t x.1.span.start x.1.span.stop := by
  -- the regions are taken off one by one, from the front
  induction h generalizing index offset id with
  | nil => simp
  | @host s line below rs hr _ ih =>
    obtain ⟨-, rfl, hp⟩ := hp
    rw [Line.joined_cons] at ht hjoin
    rw [relined_host, RawLine.join_cons] at hjoin
    exact ih hp (Text.drop_add_of_drop ht) hscan.2.1 hcode (List.append_cancel_left hjoin)
  | @statement s line column code stop below rs hr h ih =>
    obtain ⟨-, rfl, hp⟩ := hp
    rw [Line.joined_cons] at ht hjoin
    obtain ⟨hgiven, hcodes⟩ := given_cons.mp hcode
    obtain ⟨hu, -, hscan, hjoins⟩ := RawLine.scannable_cons_iff.mp hscan
    obtain ⟨-, -, -, hstop, hlt⟩ := Introducer.recognize_eq_statement_iff.mp hr
    have hne : line.content ≠ [] := Introducer.content_ne_nil_of_recognize (by simp) hr
    have hline := Region.scannable_statementLine (r := .ofStatement line code stop) rfl hu hne hgiven
    rw [relined_region, Region.relined_statement rfl, List.singleton_append,
      RawLine.join_cons] at hjoin
    have hlast : line.ending = none →
        RawLine.join (relined results (id + 1) rs) = [] ∧ Line.joined below = [] := by
      intro hnone
      rw [List.map_eq_nil_iff.mp (hjoins.1 hnone)] at h ⊢
      exact ⟨by rw [h.relined_nil]; rfl, rfl⟩
    obtain ⟨hsame, hbelow⟩ :=
      RawLine.text_append_cancel hu hline.1 Region.ending_statementLine hlast hjoin
    rw [filterMap_region, List.zipIdx_cons]
    refine List.forall_mem_cons.mpr
      ⟨?_, ih hp (Text.drop_add_of_drop ht) hscan hcodes hbelow⟩
    have htext : _ = ((Region.ofStatement line code stop).statementLine line.toRawLine
        results[id]?.join).text := Region.text_statementLine (Nat.le_of_lt hlt) hstop ht
    have hkept : _ = ((Region.ofStatement line code stop).statementLine line.toRawLine none).text :=
      Region.text_statementLine (Nat.le_of_lt hlt) hstop ht
    rw [hsame] at htext
    exact List.append_cancel_left (List.append_cancel_right (htext.trans hkept.symm))
  | @block s line header colon body blanks left region rs hr he ht' h ih =>
    obtain ⟨-, rfl, hp⟩ := hp
    rw [List.append_assoc, Line.placed_append] at hp
    rw [List.append_assoc, List.map_cons] at hscan
    rw [Line.joined_cons, List.append_assoc, Line.joined_append] at ht hjoin
    obtain ⟨hgiven, hcodes⟩ := given_cons.mp hcode
    have hbody := hscan.2.1
    rw [relined_region, Region.relined_block ht'.isStatement, List.cons_append, RawLine.join_cons,
      RawLine.join_append] at hjoin
    have hjoin := List.append_cancel_left hjoin
    have hblock : RawLine.join (region.blockLines results[id]?.join) = Line.joined body := by
      rcases RegionResult.formatted_or_kept results[id]?.join with ⟨code, hformatted⟩ | hkept
      · obtain ⟨s', rs', hleft, hregions, heq⟩ := h.relined_blanks results (id + 1) he.blank
        rw [hformatted, heq, RawLine.join_append, Line.joined_append] at hjoin
        rw [hformatted]
        exact ht'.join_blockLines_of_append he hbody hleft (hgiven code hformatted)
          (hregions ▸ hcodes) hjoin
      · rw [Region.blockLines_of_ne_formatted hkept, ht'.map_raw]
        rfl
    rw [hblock] at hjoin
    have hspan := ht'.span hp.1
    have hdrop : t.drop line.next = Line.joined body ++ Line.joined (blanks ++ left) :=
      Text.drop_add_of_drop ht
    have hslice : Text.slice t region.span.start region.span.stop = region.restored := by
      rw [hspan, Text.slice_of_drop hdrop, ht'.restored]
    rw [filterMap_region, List.zipIdx_cons]
    refine List.forall_mem_cons.mpr ⟨?_, ?_⟩
    · rw [← Region.join_blockLines ht'.isStatement hslice
        fun code hformatted => (hgiven code hformatted).unterminated_ne_nil, hblock, hslice,
        ht'.restored]
    · rw [List.map_append] at hbody
      exact ih hp.2 (Text.drop_add_of_drop hdrop) hbody.right hcodes (List.append_cancel_left hjoin)

namespace Partition

variable {p : Partition}

theorem splice_eq_text_iff (h : build indentation (.ofText t) = .ok p)
    (hcode : Given Region.Cleaned results 0 p.regions) :
    p.splice results = t ↔ ∀ x ∈ p.regions.zipIdx,
      x.1.render t results[x.2]?.join = Text.slice t x.1.span.start x.1.span.stop := by
  obtain ⟨rs, hreads, hp⟩ := build_eq_ok_iff.mp h
  have hregions : p.regions = rs.filterMap Reading.region := by rw [hp]
  have hscan := Line.scannable_scan t
  have hjoined : t.drop 0 = Line.joined (Line.scan t) := (Line.joined_scan t).symm
  constructor
  · intro hsplice
    rw [splice_eq_join h hreads hregions hcode.substantial] at hsplice
    rw [hregions] at hcode ⊢
    exact hreads.render_of_join (Line.placed_scan t) hjoined hscan hcode (hsplice.trans hjoined)
  · intro hrender
    rw [splice_eq h]
    exact (regions_apart h).spliceFrom_of_render hrender

end Partition

end

section

variable {engine : Behaviour} {limit : PoolLimit} {options : PipelineOptions} {file t : Text}
  {p : Partition} {d : DoneDocument}

theorem given_cleaned_of_dispatch {results : List RegionResult}
    (hp : Partition.build options.indentation (.ofText t) = .ok p)
    (hresults : (dispatch engine limit options.dispatch p.regions).results = .ok results) :
    Given Region.Cleaned (results.map some) 0 p.regions := by
  obtain ⟨-, heach⟩ := (dispatchIn_results_eq_ok_iff fun _ => List.mem_range.mpr).mp hresults
  refine Partition.cleaned_of_clean hp fun x hx code hgiven => ?_
  obtain ⟨result, hresult, hformat⟩ := heach x.2 x.1 (List.mem_zipIdx_iff_getElem?.mp hx)
  rw [List.getElem?_map, hresult] at hgiven
  cases hgiven
  obtain ⟨output, -, hclean⟩ := Region.clean_of_resultOf hformat
  exact ⟨output, hclean⟩

/-- A document that is done has changed exactly if one of its regions has. -/
theorem formatDocument_changed_iff
    (h : formatDocument engine limit options file t = .ok (.done d)) :
    (d.changed = true ↔ d.output ≠ t) ∧
      (d.changed = true ↔ ∃ report ∈ d.regions, report.changed = true) := by
  obtain ⟨p, results, hp, hresults, hd⟩ := exists_results_of_done h
  have hsource : p.document.text = t := by
    obtain ⟨rs, -, rfl⟩ := Partition.build_eq_ok_iff.mp hp
    rfl
  obtain ⟨-, heach⟩ := (dispatchIn_results_eq_ok_iff fun _ => List.mem_range.mpr).mp hresults
  have hcode := given_cleaned_of_dispatch hp hresults
  cases hd
  refine ⟨by simp [hsource], ?_⟩
  rw [bne_iff_ne, hsource, ne_eq, Partition.splice_eq_text_iff hp hcode]
  constructor
  · intro hchanged
    push Not at hchanged
    obtain ⟨⟨r, id⟩, hx, hrender⟩ := hchanged
    have hr : p.regions[id]? = some r := List.mem_zipIdx_iff_getElem?.mp hx
    obtain ⟨result, hresult, -⟩ := heach id r hr
    rw [List.getElem?_map, hresult] at hrender
    have hzip : (r, result) ∈ p.regions.zip results :=
      List.mem_of_getElem? (List.getElem?_zip_eq_some.mpr ⟨hr, hresult⟩)
    exact ⟨_, List.mem_map_of_mem hzip, by simpa using hrender⟩
  · rintro ⟨report, hreport, hchanged⟩ hrender
    obtain ⟨⟨r, result⟩, hzip, rfl⟩ := List.mem_map.mp hreport
    obtain ⟨id, hid⟩ := List.mem_iff_getElem?.mp hzip
    obtain ⟨hr, hresult⟩ := List.getElem?_zip_eq_some.mp hid
    have hkept := hrender (r, id) (List.mem_zipIdx_iff_getElem?.mpr hr)
    rw [List.getElem?_map, hresult] at hkept
    exact absurd hkept (by simpa using hchanged)

theorem formatDocument_changed_iff_cr_lf :
    let engine : Behaviour := ⟨text "engine", fun _ call => .output call.source⟩
    let options : PipelineOptions := ⟨⟨.ofNat 88, .ofNat 1000, .ofNat 1000⟩, ⟨.reject, 8⟩⟩
    ∃ d, formatDocument engine ⟨1, Nat.le_refl 1⟩ options (text "a.rpy")
        (text "\rpython:\r a\r b\n\n") = .ok (.done d) ∧
      d.changed = true ∧ ∃ report ∈ d.regions, report.changed = true := by
  intro engine options
  have hchanged : (formatDocument engine ⟨1, Nat.le_refl 1⟩ options (text "a.rpy")
      (text "\rpython:\r a\r b\n\n")).map (fun outcome =>
        (outcome.isAborted, outcome.isChanged)) = .ok (false, true) := by cbv
  obtain ⟨outcome, houtcome, hpair⟩ := map_eq_ok_iff.mp hchanged
  cases outcome with
  | aborted a => cases hpair
  | done d =>
    have hd : d.changed = true := (Prod.mk.inj hpair).2
    exact ⟨d, houtcome, hd, (formatDocument_changed_iff houtcome).2.mp hd⟩

end

end Inlay
