import Mathlib.Data.List.Forall2
import Inlay.Proofs.Lexing
import Inlay.Proofs.Lines
import Inlay.Splice

/-!
# The lines of a block

`ofBlock_eq_ok_iff` says which region a block becomes. Its lines are an `Extent`: they stay inside
the block and end in a line that is not blank, and what follows them leaves the block with no
logical line open. Without the last of these they are `Bounds`, which lines have in one way only
(`Bounds.unique`). The region is `Taken` from the lines.
-/

namespace Inlay

-- ---------------------------------------------------------------------------
-- Computations that may fail
-- ---------------------------------------------------------------------------

theorem bind_eq_ok_iff {x : Except ε α} {f : α → Except ε β} {b : β} :
    x >>= f = .ok b ↔ ∃ a, x = .ok a ∧ f a = .ok b := by
  cases x <;> simp [bind, Except.bind]

theorem bind_eq_error_iff {x : Except ε α} {f : α → Except ε β} {e : ε} :
    x >>= f = .error e ↔ x = .error e ∨ ∃ a, x = .ok a ∧ f a = .error e := by
  cases x <;> simp [bind, Except.bind]

theorem pure_eq_ok_iff {a b : α} : (pure a : Except ε α) = .ok b ↔ a = b := by
  simp [pure, Except.pure]

theorem map_eq_ok_iff {x : Except ε α} {f : α → β} {b : β} :
    x.map f = .ok b ↔ ∃ a, x = .ok a ∧ f a = b := by
  cases x <;> simp [Except.map]

theorem mapM_eq_ok_iff {f : α → Except ε β} {as : List α} {bs : List β} :
    as.mapM f = .ok bs ↔ List.Forall₂ (fun a b => f a = .ok b) as bs := by
  induction as generalizing bs with
  | nil => cases bs <;> simp [pure, Except.pure]
  | cons a as ih =>
    simp only [List.mapM_cons, bind_eq_ok_iff, pure_eq_ok_iff, ih]
    constructor
    · rintro ⟨b, hb, bs, hbs, rfl⟩
      exact .cons hb hbs
    · rintro (_ | ⟨hb, hbs⟩)
      exact ⟨_, hb, _, hbs, rfl⟩

theorem exists_mem_of_mapM_eq_error {f : α → Except ε β} {as : List α} {e : ε}
    (h : as.mapM f = .error e) : ∃ a ∈ as, f a = .error e := by
  induction as with
  | nil => cases h
  | cons a as ih =>
    rw [List.mapM_cons] at h
    obtain ha | ⟨_, -, h⟩ := bind_eq_error_iff.mp h
    · exact ⟨a, List.mem_cons_self, ha⟩
    · obtain hmore | ⟨_, -, h⟩ := bind_eq_error_iff.mp h
      · obtain ⟨a', hm, ha'⟩ := ih hmore
        exact ⟨a', List.mem_cons_of_mem a hm, ha'⟩
      · cases h

-- ---------------------------------------------------------------------------
-- Lists side by side
-- ---------------------------------------------------------------------------

theorem forall₂_of_common {R : α → β → Prop} {S : α → γ → Prop} {T : β → γ → Prop} {as : List α}
    {bs : List β} {cs : List γ} (hb : List.Forall₂ R as bs) (hc : List.Forall₂ S as cs)
    (h : ∀ a b c, R a b → S a c → T b c) : List.Forall₂ T bs cs := by
  induction hb generalizing cs with
  | nil => cases hc; exact .nil
  | cons hb _ ih =>
    cases hc with
    | cons hc hcs => exact .cons (h _ _ _ hb hc) (ih hcs)

theorem exists_mem_of_forall₂ {R : α → β → Prop} {as : List α} {bs : List β}
    (h : List.Forall₂ R as bs) (hb : b ∈ bs) : ∃ a ∈ as, R a b := by
  induction h with
  | nil => simp at hb
  | @cons a b' as bs hab _ ih =>
    rcases List.mem_cons.mp hb with rfl | hb
    · exact ⟨a, by simp, hab⟩
    · obtain ⟨a', hm, ha⟩ := ih hb
      exact ⟨a', by simp [hm], ha⟩

theorem eq_map_iff_of_forall₂ {f : α → β} {P : α → Prop} {as : List α} {bs : List β}
    (h : List.Forall₂ (fun a b => b = f a ↔ P a) as bs) : bs = as.map f ↔ ∀ a ∈ as, P a := by
  induction h with
  | nil => simp
  | cons hab _ ih => rw [List.map_cons, List.cons.injEq, hab, ih, List.forall_mem_cons]

theorem exists_getLast?_of_forall₂ {R : α → β → Prop} {as : List α} {bs : List β}
    (h : List.Forall₂ R as bs) (ha : as.getLast? = some a) : ∃ b, bs.getLast? = some b ∧ R a b := by
  induction h with
  | nil => simp at ha
  | @cons a' b' as bs hab h ih =>
    cases h with
    | nil =>
      obtain rfl : a' = a := by simpa using ha
      exact ⟨b', rfl, hab⟩
    | cons hab' h => simpa using ih (by simpa using ha)

theorem takeWhile_append_of_head {p : α → Bool} {a b : List α} (ha : ∀ x ∈ a, p x)
    (hb : ∀ x, b.head? = some x → p x = false) : (a ++ b).takeWhile p = a := by
  rw [List.takeWhile_append_of_pos ha]
  cases b with
  | nil => exact List.append_nil a
  | cons x b => simp [hb x rfl]

theorem dropWhile_append_of_head {p : α → Bool} {a b : List α} (ha : ∀ x ∈ a, p x)
    (hb : ∀ x, b.head? = some x → p x = false) : (a ++ b).dropWhile p = b := by
  rw [List.dropWhile_append_of_pos ha]
  cases b with
  | nil => rfl
  | cons x b => simp [hb x rfl]

theorem eq_false_of_head?_dropWhile {p : α → Bool} {l : List α} {a : α}
    (h : (l.dropWhile p).head? = some a) : p a = false := by
  have hnot := List.head?_dropWhile_not p l
  simpa [h] using hnot

theorem not_mem_takeWhile (u : CodeUnit) (t : Text) : u ∉ t.takeWhile (· != u) := fun hm => by
  simpa using List.all_eq_true.mp List.all_takeWhile u hm

-- ---------------------------------------------------------------------------
-- Trimming the end
-- ---------------------------------------------------------------------------

theorem mem_of_mem_dropEndWhile {p : α → Bool} {l : List α} {a : α} (h : a ∈ dropEndWhile p l) :
    a ∈ l := by
  obtain ⟨dropped, hl, -⟩ := dropEndWhile_append_dropped p l
  rw [hl]
  exact List.mem_append_left _ h

theorem dropEndWhile_append {p : α → Bool} {l : List α} (h : m.all p) :
    dropEndWhile p (l ++ m) = dropEndWhile p l := by
  induction l with
  | nil => exact dropEndWhile_eq_nil_iff.mpr h
  | cons a l ih => simp [dropEndWhile, ih]

theorem dropEndWhile_of_getLast? {p : α → Bool} {l : List α} (hl : l.getLast? = some a)
    (ha : p a = false) : dropEndWhile p l = l := by
  induction l with
  | nil => rfl
  | cons b l ih =>
    cases l with
    | nil =>
      obtain rfl : b = a := by simpa using hl
      simp [dropEndWhile, ha]
    | cons c l =>
      rw [dropEndWhile, ih (by simpa using hl)]

theorem drop_dropEndWhile (p : α → Bool) (l : List α) (n : Nat) :
    (dropEndWhile p l).drop n = dropEndWhile p (l.drop n) := by
  induction l generalizing n with
  | nil => simp [dropEndWhile]
  | cons a rest ih =>
    cases n with
    | zero => rfl
    | succ n =>
      rw [List.drop_succ_cons, ← ih, dropEndWhile]
      split
      · next hnil =>
        rw [hnil, List.drop_nil]
        split <;> simp
      · rfl

theorem getLast?_dropEndWhile {p : α → Bool} {l : List α}
    (h : (dropEndWhile p l).getLast? = some a) : p a = false := by
  induction l with
  | nil => simp [dropEndWhile] at h
  | cons b l ih =>
    rw [dropEndWhile] at h
    split at h
    · next hnil =>
      split at h
      · simp at h
      · obtain rfl : b = a := by simpa using h
        simp_all
    · next kept hne =>
      refine ih ?_
      cases hk : dropEndWhile p l with
      | nil => contradiction
      | cons c kept => simpa [hk] using h

theorem exists_mem_dropEndWhile {p : α → Bool} {l : List α} (h : dropEndWhile p l ≠ []) :
    ∃ a ∈ dropEndWhile p l, p a = false := by
  obtain ⟨a, ha⟩ := Option.ne_none_iff_exists'.mp (mt List.getLast?_eq_none_iff.mp h)
  exact ⟨a, List.mem_of_getLast? ha, getLast?_dropEndWhile ha⟩

theorem Text.trimEnd_append {v t z : Text} (hl : t.getLast? = some u) (hu : u.isBlank = false)
    (hz : z.isBlank) : Text.trimEnd (v ++ (t ++ z)) = v ++ t := by
  have hlast : (v ++ t).getLast? = some u := by
    rw [List.getLast?_append, hl]
    rfl
  rw [← List.append_assoc, Text.trimEnd, dropEndWhile_append hz, dropEndWhile_of_getLast? hlast hu]

def RegionLine.raw (line : RegionLine) : RawLine := ⟨line.indent ++ line.body, line.ending⟩

namespace Region

-- ---------------------------------------------------------------------------
-- Lexing the lines of a block
-- ---------------------------------------------------------------------------

/-- Lines with the states in which they begin, lexed from a state. -/
def lexedFrom (s : LexState) : List Line → List BodyLine
  | [] => []
  | line :: rest => ⟨line, s⟩ :: lexedFrom (s.after .embedded line.content) rest

variable {s : LexState} {lines : List Line}

@[simp] theorem map_line_lexedFrom : (lexedFrom s lines).map (·.line) = lines := by
  induction lines generalizing s with
  | nil => rfl
  | cons line rest ih => exact congrArg (line :: ·) ih

@[simp] theorem length_lexedFrom : (lexedFrom s lines).length = lines.length := by
  rw [← List.length_map (·.line), map_line_lexedFrom]

theorem map_content_lexedFrom :
    (lexedFrom s lines).map (·.line.content) = lines.map (·.content) := by
  have hlines : (lexedFrom s lines).map (·.line) = lines := map_line_lexedFrom
  conv => rhs; rw [← hlines, List.map_map]
  rfl

theorem exists_mem_lexedFrom (h : line ∈ lines) : ∃ b ∈ lexedFrom s lines, b.line = line := by
  rw [← List.mem_map, map_line_lexedFrom]
  exact h

theorem exists_full_lexedFrom (hlast : lines.getLast? = some line) (hblank : line.isBlank = false) :
    ∃ b ∈ lexedFrom s lines, b.isBlank = false := by
  obtain ⟨b, hm, rfl⟩ := exists_mem_lexedFrom (List.mem_of_getLast? hlast)
  exact ⟨b, hm, hblank⟩

theorem line_mem_of_mem_lexedFrom {b : BodyLine} (h : b ∈ lexedFrom s lines) : b.line ∈ lines := by
  have hm : b.line ∈ (lexedFrom s lines).map (·.line) := List.mem_map_of_mem h
  rwa [map_line_lexedFrom] at hm

theorem bodyFrom_eq (tabWidth width : Nat) :
    bodyFrom tabWidth width s lines = lexedFrom s (lines.takeWhile (stays tabWidth width)) := by
  induction lines generalizing s with
  | nil => rfl
  | cons line rest ih =>
    rw [bodyFrom, List.takeWhile_cons]
    split <;> simp [lexedFrom, ih]

theorem bodyFinish_lexedFrom_cons :
    bodyFinish (lexedFrom s (line :: lines)) =
      s.afterAll .embedded ((line :: lines).map (·.content)) := by
  induction lines generalizing s line with
  | nil => rfl
  | cons next lines ih => exact ih

theorem bodyFinish_lexedFrom :
    bodyFinish (lexedFrom .initial lines) =
      LexState.afterAll .embedded .initial (lines.map (·.content)) := by
  cases lines with
  | nil => rfl
  | cons line lines => exact bodyFinish_lexedFrom_cons

theorem dropEndWhile_lexedFrom :
    dropEndWhile BodyLine.isBlank (lexedFrom s lines) =
      lexedFrom s (dropEndWhile (·.isBlank) lines) := by
  induction lines generalizing s with
  | nil => rfl
  | cons line rest ih =>
    rw [lexedFrom, dropEndWhile, dropEndWhile, ih]
    cases dropEndWhile (·.isBlank) rest with
    | nil => by_cases hb : line.isBlank <;> simp [lexedFrom, BodyLine.isBlank, hb]
    | cons kept more => rfl

-- ---------------------------------------------------------------------------
-- Where a block ends
-- ---------------------------------------------------------------------------

/-- A block whose introducer has the given width consists of `body`. Behind it stand `blanks` and
then `left`, the first line of which is not part of the block. -/
structure Extent (tabWidth width : Nat) (body blanks left : List Line) : Prop where
  stays : ∀ line ∈ body, stays tabWidth width line
  last : ∃ line, body.getLast? = some line ∧ line.isBlank = false
  blank : ∀ line ∈ blanks, line.isBlank
  leaves : ∀ line, left.head? = some line → Region.stays tabWidth width line = false
  /-- The line that leaves the block begins a logical line of the embedded language. -/
  closed : left ≠ [] →
    LexState.afterAll .embedded .initial ((body ++ blanks).map (·.content)) = .initial

/-- Where a block ends, whether or not a logical line is left open there. -/
structure Bounds (tabWidth width : Nat) (body blanks left : List Line) : Prop where
  stays : ∀ line ∈ body, stays tabWidth width line
  last : ∃ line, body.getLast? = some line ∧ line.isBlank = false
  blank : ∀ line ∈ blanks, line.isBlank
  leaves : ∀ line, left.head? = some line → Region.stays tabWidth width line = false

variable {tabWidth width : Nat} {body blanks left below : List Line}

theorem stays_of_isBlank (h : line.isBlank) : stays tabWidth width line := by
  simp [stays, h]

theorem extent_iff :
    Extent tabWidth width body blanks left ↔ Bounds tabWidth width body blanks left ∧
      (left ≠ [] →
        LexState.afterAll .embedded .initial ((body ++ blanks).map (·.content)) = .initial) :=
  ⟨fun h => ⟨⟨h.stays, h.last, h.blank, h.leaves⟩, h.closed⟩,
    fun h => ⟨h.1.stays, h.1.last, h.1.blank, h.1.leaves, h.2⟩⟩

theorem Extent.bounds (h : Extent tabWidth width body blanks left) :
    Bounds tabWidth width body blanks left :=
  (extent_iff.mp h).1

namespace Bounds

variable {body' blanks' left' : List Line}

theorem takeWhile_stays (h : Bounds tabWidth width body blanks left) :
    (body ++ blanks ++ left).takeWhile (Region.stays tabWidth width) = body ++ blanks := by
  refine takeWhile_append_of_head (fun line hm => ?_) h.leaves
  rcases List.mem_append.mp hm with hm | hm
  · exact h.stays line hm
  · exact stays_of_isBlank (h.blank line hm)

theorem drop_stays (h : Bounds tabWidth width body blanks left) :
    (body ++ blanks ++ left).drop
      ((body ++ blanks ++ left).takeWhile (Region.stays tabWidth width)).length = left := by
  rw [h.takeWhile_stays, List.drop_left]

theorem dropEndWhile_isBlank (h : Bounds tabWidth width body blanks left) :
    dropEndWhile (·.isBlank) (body ++ blanks) = body := by
  obtain ⟨line, hl, hb⟩ := h.last
  rw [dropEndWhile_append (List.all_eq_true.mpr h.blank)]
  exact dropEndWhile_of_getLast? hl hb

theorem unique (h : Bounds tabWidth width body blanks left)
    (h' : Bounds tabWidth width body' blanks' left')
    (hsame : body' ++ blanks' ++ left' = body ++ blanks ++ left) :
    body' = body ∧ blanks' = blanks ∧ left' = left := by
  have htake : body' ++ blanks' = body ++ blanks := by
    rw [← h.takeWhile_stays, ← h'.takeWhile_stays, hsame]
  have hbody : body' = body := by
    rw [← h.dropEndWhile_isBlank, ← h'.dropEndWhile_isBlank, htake]
  rw [htake] at hsame
  rw [hbody] at htake
  exact ⟨hbody, List.append_cancel_left htake, List.append_cancel_left hsame⟩

theorem isBlank_head (h : Bounds tabWidth width body blanks (line :: left)) :
    line.isBlank = false := by
  have hleaves := h.leaves line rfl
  rw [Region.stays, Bool.or_eq_false_iff] at hleaves
  exact hleaves.1

theorem exists_mem_left (h : Bounds tabWidth width body blanks left) (hne : left ≠ []) :
    ∃ line ∈ left, line.isBlank = false := by
  cases left with
  | nil => contradiction
  | cons line left => exact ⟨line, List.mem_cons_self, h.isBlank_head⟩

theorem takeWhile_isBlank (h : Bounds tabWidth width body blanks left) :
    (blanks ++ left).takeWhile (·.isBlank) = blanks := by
  refine takeWhile_append_of_head h.blank fun line hl => ?_
  obtain ⟨left, rfl⟩ := List.head?_eq_some_iff.mp hl
  exact h.isBlank_head

end Bounds

namespace Extent

theorem ne_nil (h : Extent tabWidth width body blanks left) : body ≠ [] := by
  obtain ⟨line, hl, -⟩ := h.last
  rintro rfl
  cases hl

theorem joined_ne_nil (h : Extent tabWidth width body blanks left) : Line.joined body ≠ [] := by
  obtain ⟨line, hl, hb⟩ := h.last
  obtain ⟨front, rfl⟩ := List.getLast?_eq_some_iff.mp hl
  simp [RawLine.text, RawLine.content_ne_nil hb]

end Extent

theorem extent_of_dropEndWhile
    (hbody : dropEndWhile (·.isBlank) (below.takeWhile (stays tabWidth width)) = body)
    (hne : body ≠ [])
    (hclosed : below.drop (below.takeWhile (stays tabWidth width)).length ≠ [] →
      LexState.afterAll .embedded .initial
        ((below.takeWhile (stays tabWidth width)).map (·.content)) = .initial) :
    ∃ blanks left, below = body ++ blanks ++ left ∧
      Extent tabWidth width body blanks left := by
  obtain ⟨blanks, htaken, hblanks⟩ := dropEndWhile_append_dropped (fun line : Line => line.isBlank)
    (below.takeWhile (stays tabWidth width))
  rw [hbody] at htaken
  have hbelow := List.takeWhile_append_dropWhile (p := stays tabWidth width) (l := below)
  refine ⟨blanks, below.dropWhile (stays tabWidth width), by rw [← htaken, hbelow], ?_⟩
  have hleft : below.drop (below.takeWhile (stays tabWidth width)).length =
      below.dropWhile (stays tabWidth width) := by
    conv => lhs; rw [← hbelow, List.drop_append_of_le_length (by simp)]
    simp
  obtain ⟨line, hl⟩ := Option.ne_none_iff_exists'.mp
    (mt List.getLast?_eq_none_iff.mp hne)
  exact
    { stays := fun line hm => by
        have hm : line ∈ below.takeWhile (stays tabWidth width) := by simp [htaken, hm]
        exact List.all_eq_true.mp (List.all_takeWhile ..) line hm
      last := ⟨line, hl, getLast?_dropEndWhile (p := fun line : Line => line.isBlank) (hbody ▸ hl)⟩
      blank := List.all_eq_true.mp hblanks
      leaves := fun line hl => by
        have := List.head?_dropWhile_not (stays tabWidth width) below
        simpa [hl] using this
      closed := fun h => by
        rw [← htaken]
        exact hclosed (hleft ▸ h) }

-- ---------------------------------------------------------------------------
-- The region of a block
-- ---------------------------------------------------------------------------

/-- The region of a block that consists of some lines. -/
structure Taken (indentation : Indentation) (style : LineStyle) (above : Line)
    (variant : BlockVariant) (header : Header) (body : List Line) (region : Region) : Prop where
  form : region.form = .block variant header
  start : body.head?.map (·.start) = some region.span.start
  stop : body.getLast?.map (·.next) = some region.span.stop
  introducer : region.introducer = above.index
  outerIndent : region.outerIndent = above.indent
  margin : region.margin = bodyMargin indentation.tabWidth (lexedFrom .initial body)
  codeColumn : region.codeColumn = 0
  lines : List.Forall₂ (fun b line => dedentLine indentation region.margin b = .ok line)
    (lexedFrom .initial body) region.lines
  code : region.code = blockCode region.lines
  lineBreak : region.lineBreak = breakOf style body
  endsWithBreak : body.getLast?.map (·.ending.isSome) = some region.endsWithBreak

variable {indentation : Indentation} {style : LineStyle} {above : Line} {variant : BlockVariant}
  {header : Header} {behind : Nat} {region : Region}

theorem breakOf_of_uniform {e : LineBreak}
    (hu : RawLine.Uniform e (body.map Line.toRawLine))
    (hs : (∀ line ∈ body, line.ending = none) → style.dominant = e) :
    breakOf style body = e := by
  have hall : ∀ e' ∈ body.filterMap (·.ending), e' = e := by
    intro e' he'
    obtain ⟨line, hm, hline⟩ := List.mem_filterMap.mp he'
    have hending := hu line.toRawLine (List.mem_map_of_mem hm)
    rw [hline] at hending
    simpa using hending
  unfold breakOf
  split
  · next hnil => exact hs (List.filterMap_eq_nil_iff.mp hnil)
  · next first rest hlist =>
    rw [hlist] at hall
    obtain ⟨rfl, hall⟩ := List.forall_mem_cons.mp hall
    rw [if_pos (by simpa using hall)]

theorem ofBody_eq_ok_iff :
    ofBody indentation style above variant header behind (lexedFrom .initial body) = .ok region ↔
      body ≠ [] ∧ Taken indentation style above variant header body region := by
  have hlast : body.getLast? = (lexedFrom .initial body).getLast?.map (·.line) := by
    rw [← List.getLast?_map, map_line_lexedFrom]
  cases body with
  | nil => simp [ofBody, lexedFrom]
  | cons first more =>
    cases hl : (lexedFrom .initial (first :: more)).getLast? with
    | none => simp [lexedFrom] at hl
    | some last =>
      rw [hl, Option.map_some] at hlast
      have hfirst : (lexedFrom .initial (first :: more)).head? = some ⟨first, .initial⟩ := rfl
      rw [ofBody, hfirst, hl]
      simp only [bind_eq_ok_iff, mapM_eq_ok_iff, ne_eq, reduceCtorEq, not_false_eq_true, true_and,
        map_line_lexedFrom]
      constructor
      · rintro ⟨lines, hlines, hr⟩
        cases hr
        exact
          { form := rfl, start := rfl, stop := by rw [hlast]; rfl, introducer := rfl
            outerIndent := rfl, margin := rfl, codeColumn := rfl, lines := hlines, code := rfl
            lineBreak := rfl, endsWithBreak := by rw [hlast]; rfl }
      · -- the fields of the region are all given, so it is the one that is built
        intro h
        refine ⟨region.lines, h.margin ▸ h.lines, congrArg Except.ok ?_⟩
        have hstop := h.stop
        have hends := h.endsWithBreak
        rw [hlast] at hstop hends
        obtain ⟨form, ⟨start, stop⟩, introducer, outerIndent, margin, codeColumn, lines, code,
          lineBreak, endsWithBreak⟩ := region
        simp only [Region.mk.injEq, Span.mk.injEq, true_and]
        exact ⟨h.form.symm, ⟨Option.some.inj h.start, Option.some.inj hstop⟩, h.introducer.symm,
          h.outerIndent.symm, h.margin.symm, h.codeColumn.symm, h.code.symm, h.lineBreak.symm,
          Option.some.inj hends⟩

/-- The line that leaves a block, if there is one, must not do so inside a logical line. -/
theorem ofBlock_eq {taken : List Line}
    (htaken : below.takeWhile
      (stays indentation.tabWidth (Indent.width indentation.tabWidth above.indent)) = taken) :
    ofBlock indentation style above variant header behind below =
      match (below.drop taken.length).head? with
      | some leaving =>
        if (LexState.afterAll .embedded .initial (taken.map (·.content))).isOpen then
          .error ⟨.indentation .openDedent, leaving.index + 1, 1⟩
        else ofBody indentation style above variant header behind
          (lexedFrom .initial (dropEndWhile (·.isBlank) taken))
      | none => ofBody indentation style above variant header behind
          (lexedFrom .initial (dropEndWhile (·.isBlank) taken)) := by
  rw [ofBlock]
  simp only [bodyFrom_eq, length_lexedFrom, bodyFinish_lexedFrom, dropEndWhile_lexedFrom, htaken]
  cases (below.drop taken.length).head? with
  | none => rfl
  | some leaving =>
    simp only
    split <;> rfl

theorem ofBlock_eq_ok_iff_ofBody {taken : List Line}
    (htaken : below.takeWhile
      (stays indentation.tabWidth (Indent.width indentation.tabWidth above.indent)) = taken) :
    ofBlock indentation style above variant header behind below = .ok region ↔
      (below.drop taken.length ≠ [] →
        LexState.afterAll .embedded .initial (taken.map (·.content)) = .initial) ∧
      ofBody indentation style above variant header behind
        (lexedFrom .initial (dropEndWhile (·.isBlank) taken)) = .ok region := by
  rw [ofBlock_eq htaken]
  cases below.drop taken.length with
  | nil => simp
  | cons leaving left =>
    rw [← LexState.isOpen_eq_false_iff]
    cases (LexState.afterAll .embedded .initial (taken.map (·.content))).isOpen <;> simp

theorem ofBlock_eq_ok_iff :
    ofBlock indentation style above variant header behind below = .ok region ↔
      ∃ body blanks left, below = body ++ blanks ++ left ∧
        Extent indentation.tabWidth (Indent.width indentation.tabWidth above.indent)
          body blanks left ∧
        Taken indentation style above variant header body region := by
  rw [ofBlock_eq_ok_iff_ofBody rfl, ofBody_eq_ok_iff]
  constructor
  · rintro ⟨hclosed, hne, ht⟩
    obtain ⟨blanks, left, hbelow, he⟩ := extent_of_dropEndWhile rfl hne hclosed
    exact ⟨_, blanks, left, hbelow, he, ht⟩
  · rintro ⟨body, blanks, left, rfl, he, ht⟩
    rw [he.bounds.drop_stays, he.bounds.takeWhile_stays, he.bounds.dropEndWhile_isBlank]
    exact ⟨he.closed, he.ne_nil, ht⟩

-- ---------------------------------------------------------------------------
-- The lines of a region
-- ---------------------------------------------------------------------------

theorem dedentLine_eq_ok_iff {margin : Text} {b : BodyLine} {line : RegionLine} :
    dedentLine indentation margin b = .ok line ↔
      ∃ codeIndent, dedented? indentation margin b = some codeIndent ∧
        line = ⟨b.line.index, b.line.indent, codeIndent, b.line.body, b.line.ending⟩ := by
  rw [dedentLine]
  cases dedented? indentation margin b with
  | none => simp
  | some codeIndent => simp [eq_comm]

theorem dedentLine_eq_error_iff {margin : Text} {b : BodyLine} {e : StructureError} :
    dedentLine indentation margin b = .error e ↔ dedented? indentation margin b = none ∧
      e = ⟨.indentation (.offMargin b.line.indent margin), b.line.index + 1, 1⟩ := by
  rw [dedentLine]
  cases dedented? indentation margin b <;> simp [eq_comm]

theorem raw_of_dedentLine {margin : Text} {b : BodyLine} {line : RegionLine}
    (h : dedentLine indentation margin b = .ok line) : line.raw = b.line.toRawLine := by
  obtain ⟨codeIndent, -, rfl⟩ := dedentLine_eq_ok_iff.mp h
  rw [RegionLine.raw, RawLine.indent_append_body]

namespace Taken

theorem unique {r r' : Region} (h : Taken indentation style above variant header body r)
    (h' : Taken indentation style above variant header body r') : r' = r := by
  have hne : body ≠ [] := by
    rintro rfl
    cases h.start
  have hbody : ofBody indentation style above variant header 0 (lexedFrom .initial body) = .ok r :=
    ofBody_eq_ok_iff.mpr ⟨hne, h⟩
  rw [ofBody_eq_ok_iff.mpr ⟨hne, h'⟩] at hbody
  exact Except.ok.inj hbody

theorem length_lines (h : Taken indentation style above variant header body region) :
    region.lines.length = body.length := by
  rw [← h.lines.length_eq, length_lexedFrom]

theorem isStatement (h : Taken indentation style above variant header body region) :
    region.isStatement = false := by
  rw [Region.isStatement, h.form, RegionForm.isStatement]

theorem span {offset : Nat} (h : Taken indentation style above variant header body region)
    (hp : Line.Placed index offset body) :
    region.span = ⟨offset, offset + (Line.joined body).length⟩ := by
  have hstart := h.start
  have hstop := h.stop
  cases body with
  | nil => simp at hstart
  | cons first more =>
    obtain ⟨last, hl, hnext⟩ := Option.map_eq_some_iff.mp hstop
    rw [hp.next_getLast hl] at hnext
    obtain ⟨-, rfl, -⟩ := hp
    obtain ⟨_, ⟨start, stop⟩, _⟩ := region
    cases hstart
    cases hnext
    rfl

theorem map_raw (h : Taken indentation style above variant header body region) :
    region.lines.map RegionLine.raw = body.map Line.toRawLine := by
  have hmap : ∀ {bs : List BodyLine} {lines : List RegionLine},
      List.Forall₂ (fun b line => dedentLine indentation region.margin b = .ok line) bs lines →
        lines.map RegionLine.raw = (bs.map (·.line)).map Line.toRawLine := by
    intro bs lines hl
    induction hl with
    | nil => rfl
    | cons hb _ ih => rw [List.map_cons, ih, raw_of_dedentLine hb, List.map_cons, List.map_cons]
  rw [hmap h.lines, map_line_lexedFrom]

theorem restored (h : Taken indentation style above variant header body region) :
    region.restored = Line.joined body := by
  rw [Region.restored, Line.joined, ← h.map_raw, RawLine.join, List.flatMap_map]
  rfl

end Taken

end Region

end Inlay
