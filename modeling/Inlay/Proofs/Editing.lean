import Inlay.Proofs.Splicing

/-!
# Splicing as one edit of the document

Edits name spans of a text and what is to stand there, and are all made at once: the offsets are
those of the unedited text (`Text.edited`). Splicing makes the edits that the formatted results ask
for, whatever their code, and no others (`splice_eq_edited`). So a result that changes is seen at
its own region only.
-/

namespace Inlay

structure Edit where
  span : Span
  text : Text
  deriving DecidableEq, Repr

def Edit.covers (e : Edit) (offset : Nat) : Bool :=
  e.span.start ≤ offset && offset < e.span.stop

namespace Text

/-- What becomes of the unit at an offset: the texts of the edits that begin there are put before
it, and it is left out if an edit covers it. -/
def editedUnit (edits : List Edit) (unit : CodeUnit × Nat) : Text :=
  (edits.filter (·.span.start = unit.2)).flatMap Edit.text ++
    if edits.any (·.covers unit.2) then [] else [unit.1]

/-- A text, the first unit of which is at an offset, with all edits made at once. -/
def edited (edits : List Edit) (offset : Nat) (t : Text) : Text :=
  (t.zipIdx offset).flatMap (editedUnit edits)

variable {edits : List Edit} {e : Edit} {offset : Nat} {t a b : Text}

@[simp] theorem edited_nil : edited [] offset t = t := by
  induction t generalizing offset with
  | nil => rfl
  | cons u t ih => simpa [edited, editedUnit] using ih

theorem edited_append :
    edited edits offset (a ++ b) = edited edits offset a ++ edited edits (offset + a.length) b := by
  simp [edited, List.zipIdx_append]

theorem edited_congr {edits' : List Edit}
    (h : ∀ unit ∈ t.zipIdx offset, editedUnit edits' unit = editedUnit edits unit) :
    edited edits' offset t = edited edits offset t :=
  List.flatMap_congr h

theorem offset_of_mem_zipIdx {unit : CodeUnit × Nat} (h : unit ∈ t.zipIdx offset) :
    offset ≤ unit.2 ∧ unit.2 < offset + t.length :=
  ⟨List.le_snd_of_mem_zipIdx h, by have := List.snd_lt_add_of_mem_zipIdx h; omega⟩

theorem edited_cons_of_outside (hne : e.span.start < e.span.stop)
    (h : offset + t.length ≤ e.span.start ∨ e.span.stop ≤ offset) :
    edited (e :: edits) offset t = edited edits offset t := by
  apply edited_congr
  intro unit hm
  have hunit := offset_of_mem_zipIdx hm
  have hstart : e.span.start ≠ unit.2 := by omega
  have hcovers : e.covers unit.2 = false := by
    simp only [Edit.covers, Bool.and_eq_false_iff, decide_eq_false_iff_not]
    omega
  simp [editedUnit, hstart, hcovers]

theorem edited_of_behind (hne : ∀ e ∈ edits, e.span.start < e.span.stop)
    (h : ∀ e ∈ edits, offset + t.length ≤ e.span.start) : edited edits offset t = t := by
  induction edits with
  | nil => simp
  | cons e edits ih =>
    obtain ⟨hne', hne⟩ := List.forall_mem_cons.mp hne
    obtain ⟨he, h⟩ := List.forall_mem_cons.mp h
    rw [edited_cons_of_outside hne' (.inl he)]
    exact ih hne h

theorem edited_span (hne : e.span.start < e.span.stop)
    (hlength : e.span.start + t.length = e.span.stop)
    (h : ∀ e' ∈ edits, e.span.stop ≤ e'.span.start) :
    edited (e :: edits) e.span.start t = e.text := by
  have hfilter : ∀ offset, offset < e.span.stop →
      edits.filter (·.span.start = offset) = [] := by
    intro offset hlt
    apply List.filter_eq_nil_iff.mpr
    intro e' he'
    have := h e' he'
    simp
    omega
  cases t with
  | nil => simp at hlength; omega
  | cons u t =>
    -- the first unit makes place for the text, the others for nothing
    have hrest : edited (e :: edits) (e.span.start + 1) t = [] := by
      apply List.flatMap_eq_nil_iff.mpr
      intro unit hm
      have hunit := offset_of_mem_zipIdx hm
      rw [List.length_cons] at hlength
      have hcovers : e.covers unit.2 := by
        simp [Edit.covers]
        omega
      have hstart : e.span.start ≠ unit.2 := by omega
      simp [editedUnit, hcovers, hstart, hfilter unit.2 (by omega)]
    have hfirst : editedUnit (e :: edits) (u, e.span.start) = e.text := by
      simp [editedUnit, Edit.covers, hne, hfilter _ hne]
    rw [edited, List.zipIdx_cons, List.flatMap_cons, hfirst, ← edited, hrest, List.append_nil]

theorem length_slice {start stop : Nat} (h : stop ≤ t.length) :
    (slice t start stop).length = stop - start := by
  simp [slice]
  omega

end Text

-- ---------------------------------------------------------------------------
-- The edits of a partition
-- ---------------------------------------------------------------------------

def Region.edit? (r : Region) : Option RegionResult → Option Edit
  | some (.formatted code) => some ⟨r.span, r.reindent code⟩
  | _ => none

/-- The edits that the results of some regions ask for, which are numbered from `id` on. -/
def editsOf (results : List (Option RegionResult)) (id : Nat) (regions : List Region) :
    List Edit :=
  (regions.zipIdx id).filterMap fun x => x.1.edit? results[x.2]?.join

section

variable {t : Text} {results results' : List (Option RegionResult)} {start id i : Nat}
  {r : Region} {regions : List Region} {e : Edit} {result : Option RegionResult}

theorem Region.edit?_of_ne_formatted (h : ∀ code, result ≠ some (.formatted code)) :
    r.edit? result = none := by
  unfold edit?
  split
  · next code => exact absurd rfl (h code)
  · rfl

theorem Region.span_of_edit? (h : r.edit? result = some e) : e.span = r.span := by
  unfold edit? at h
  split at h
  · cases h; rfl
  · cases h

theorem editsOf_cons :
    editsOf results id (r :: regions) =
      (r.edit? results[id]?.join).toList ++ editsOf results (id + 1) regions := by
  rw [editsOf, List.zipIdx_cons, List.filterMap_cons, ← editsOf]
  cases r.edit? results[id]?.join <;> rfl

theorem Apart.le (h : Apart t.length start regions) : start ≤ t.length := by
  induction regions generalizing start with
  | nil => exact h
  | cons r regions ih =>
    have := ih h.2.2
    have := h.1
    have := h.2.1
    omega

theorem Apart.start_lt_stop (h : Apart t.length start regions) (hm : r ∈ regions) :
    r.span.start < r.span.stop := by
  induction regions generalizing start with
  | nil => simp at hm
  | cons first regions ih =>
    rcases List.mem_cons.mp hm with rfl | hm
    · exact h.2.1
    · exact ih h.2.2 hm

theorem Apart.of_mem_editsOf (h : Apart t.length start regions)
    (hm : e ∈ editsOf results id regions) :
    start < e.span.start ∧ e.span.start < e.span.stop := by
  obtain ⟨⟨r, id⟩, hr, he⟩ := List.mem_filterMap.mp hm
  have hr := List.fst_mem_of_mem_zipIdx hr
  rw [Region.span_of_edit? he]
  exact ⟨h.lt_start hr, h.start_lt_stop hr⟩

/-- Going through the regions in order makes all their edits. -/
theorem Apart.spliceFrom_eq_edited (h : Apart t.length start regions) :
    spliceFrom t results start id regions =
      Text.edited (editsOf results id regions) start (t.drop start) := by
  induction regions generalizing start id with
  | nil => simp [editsOf, spliceFrom]
  | cons r regions ih =>
    obtain ⟨hstart, hspan, hapart⟩ := h
    have hbehind : ∀ e ∈ editsOf results (id + 1) regions,
        r.span.stop < e.span.start ∧ e.span.start < e.span.stop :=
      fun e he => hapart.of_mem_editsOf he
    have hfront : start + (Text.slice t start r.span.start).length = r.span.start := by
      rw [Text.length_slice (by have := hapart.le; omega)]
      omega
    have hmiddle : r.span.start + (Text.slice t r.span.start r.span.stop).length = r.span.stop := by
      rw [Text.length_slice hapart.le]
      omega
    rw [spliceFrom, ih hapart, ← Text.slice_append_drop (Nat.le_of_lt hstart),
      ← Text.slice_append_drop (Nat.le_of_lt hspan), Text.edited_append, Text.edited_append, hfront,
      hmiddle, editsOf_cons, List.append_assoc]
    generalize editsOf results (id + 1) regions = edits at hbehind ⊢
    have hkeep : ∀ (a : Text) (offset : Nat), offset + a.length ≤ r.span.stop →
        Text.edited edits offset a = a := by
      intro a offset hle
      refine Text.edited_of_behind (fun e he => (hbehind e he).2) fun e he => ?_
      have := (hbehind e he).1
      omega
    have hbefore := hkeep (Text.slice t start r.span.start) start (by omega)
    rcases RegionResult.formatted_or_kept results[id]?.join with ⟨code, hcode⟩ | hkept
    · let e : Edit := ⟨r.span, r.reindent code⟩
      have hfirst : Text.edited (e :: edits) start (Text.slice t start r.span.start) =
          Text.slice t start r.span.start :=
        (Text.edited_cons_of_outside hspan (.inl (Nat.le_of_eq hfront))).trans hbefore
      have hplace : Text.edited (e :: edits) r.span.start (Text.slice t r.span.start r.span.stop) =
          r.reindent code :=
        Text.edited_span hspan hmiddle fun e' he' => Nat.le_of_lt (hbehind e' he').1
      have hrest : Text.edited (e :: edits) r.span.stop (t.drop r.span.stop) =
          Text.edited edits r.span.stop (t.drop r.span.stop) :=
        Text.edited_cons_of_outside hspan (.inr (Nat.le_refl _))
      rw [hcode, Region.edit?, Region.render, Option.toList_some, List.singleton_append, hfirst,
        hplace, hrest]
    · rw [Region.edit?_of_ne_formatted hkept, Region.render_of_ne_formatted hkept,
        Option.toList_none, List.nil_append, hbefore,
        hkeep (Text.slice t r.span.start r.span.stop) r.span.start (Nat.le_of_eq hmiddle)]

-- ---------------------------------------------------------------------------
-- One result among others
-- ---------------------------------------------------------------------------

theorem spliceFrom_congr (h : ∀ j, id ≤ j → results'[j]?.join = results[j]?.join) :
    spliceFrom t results' start id regions = spliceFrom t results start id regions := by
  induction regions generalizing start id with
  | nil => rfl
  | cons r regions ih =>
    rw [spliceFrom, spliceFrom, h id (Nat.le_refl _), ih fun j hj => h j (by omega)]

theorem exists_around (t : Text) (results : List (Option RegionResult)) (start id : Nat)
    (hr : regions[i]? = some r) :
    ∃ front behind, ∀ results', (∀ j, j ≠ id + i → results'[j]?.join = results[j]?.join) →
      spliceFrom t results' start id regions =
        front ++ r.render t results'[id + i]?.join ++ behind := by
  induction regions generalizing start id i with
  | nil => simp at hr
  | cons first regions ih =>
    cases i with
    | zero =>
      obtain rfl : first = r := by simpa using hr
      refine ⟨Text.slice t start first.span.start,
        spliceFrom t results first.span.stop (id + 1) regions, fun results' h => ?_⟩
      rw [spliceFrom, spliceFrom_congr fun j hj => h j (by omega)]
      rfl
    | succ i =>
      obtain ⟨front, behind, haround⟩ :=
        ih first.span.stop (id + 1) (by simpa using hr)
      refine ⟨Text.slice t start first.span.start ++ first.render t results[id]?.join ++ front,
        behind, fun results' h => ?_⟩
      have hid : id + 1 + i = id + (i + 1) := by omega
      rw [hid] at haround
      rw [spliceFrom, h id (by omega), haround results' h]
      simp only [List.append_assoc]

end

def Partition.edits (p : Partition) (results : List (Option RegionResult)) : List Edit :=
  editsOf results 0 p.regions

/-- Splicing makes all edits of the formatted results at once, and no others. Without formatted
results it gives the document. Results that differ in one place give texts that differ at most where
the region of that number stands, and not at all if there is none. -/
theorem Partition.splice_eq_edited {indentation : Indentation} {t : Text} {p : Partition}
    (h : build indentation (.ofText t) = .ok p) (results : List (Option RegionResult)) :
    p.splice results = Text.edited (p.edits results) 0 t ∧
      ((∀ (i : Nat) code, i < p.regions.length → results[i]?.join ≠ some (.formatted code)) →
        p.splice results = t) ∧
      ∀ (results' : List (Option RegionResult)) (i : Nat), (∀ j, j ≠ i → results'[j]?.join = results[j]?.join) →
        (p.regions[i]? = none → p.splice results' = p.splice results) ∧
        ∀ r, p.regions[i]? = some r → ∃ front behind,
          p.splice results = front ++ r.render t results[i]?.join ++ behind ∧
          p.splice results' = front ++ r.render t results'[i]?.join ++ behind := by
  have hedited : ∀ results, p.splice results = Text.edited (p.edits results) 0 t := by
    intro results
    rw [splice_eq h, (regions_apart h).spliceFrom_eq_edited, List.drop_zero, edits]
  refine ⟨hedited results, fun hkept => ?_, fun results' i hsame => ⟨fun hnone => ?_, fun r hr => ?_⟩⟩
  · have hnone : p.edits results = [] := by
      apply List.filterMap_eq_nil_iff.mpr
      rintro ⟨r, id⟩ hm
      exact Region.edit?_of_ne_formatted fun code => hkept id code (by
        have := List.snd_lt_add_of_mem_zipIdx hm
        omega)
    rw [hedited, hnone, Text.edited_nil]
  · have hedits : p.edits results' = p.edits results := by
      apply List.filterMap_congr
      rintro ⟨r, id⟩ hm
      have hlt := List.snd_lt_add_of_mem_zipIdx hm
      have hle := List.getElem?_eq_none_iff.mp hnone
      rw [hsame id (by omega)]
    rw [hedited, hedited, hedits]
  · obtain ⟨front, behind, haround⟩ :=
      exists_around t results 0 0 hr
    rw [Nat.zero_add] at haround
    exact ⟨front, behind, (splice_eq h).trans (haround results fun _ _ => rfl),
      (splice_eq h).trans (haround results' hsame)⟩

theorem Partition.splice_eq_edited_surplus :
    ∃ p, build ⟨.reject, 4⟩ (.ofText (text "$ a=1\npython:\n    b=2\n\n")) = .ok p ∧
      p.edits [some (.formatted (text "a = 1\n")), some (.formatted (text "\n")),
        some (.formatted (text "c\n"))] = [⟨⟨2, 5⟩, text "a = 1"⟩, ⟨⟨14, 22⟩, []⟩] ∧
      p.splice [some (.formatted (text "a = 1\n")), some (.formatted (text "\n")),
        some (.formatted (text "c\n"))] = text "$ a = 1\npython:\n\n" := by
  have hedits : (build ⟨.reject, 4⟩ (.ofText (text "$ a=1\npython:\n    b=2\n\n"))).map
      (fun p => p.edits [some (.formatted (text "a = 1\n")), some (.formatted (text "\n")),
        some (.formatted (text "c\n"))]) =
      .ok [⟨⟨2, 5⟩, text "a = 1"⟩, ⟨⟨14, 22⟩, []⟩] := by cbv
  obtain ⟨p, hp, hedits⟩ := map_eq_ok_iff.mp hedits
  refine ⟨p, hp, hedits, ?_⟩
  rw [(splice_eq_edited hp _).1, hedits]
  decide

end Inlay
