import Inlay.Proofs.Readings

/-!
# Lines that continue others

Which lines of a script begin a logical line. The state of the lexer is carried from line to line
and starts afresh behind every region, the statement behind a marker included, so a line that
continues such a statement is read as if it did not. Where every statement ends on its line, the
state is that of a lexer which starts afresh behind blocks only (`startsStatement_iff_carried`).
-/

namespace Inlay

namespace Region

def nextLine (r : Region) : Nat := r.startLine + r.lines.length

def hasBodyLine (r : Region) (k : Nat) : Bool :=
  !r.isStatement && r.startLine ≤ k && k < r.nextLine

variable {indentation : Indentation} {style : LineStyle} {above : Line} {variant : BlockVariant}
  {header : Header} {body : List Line} {region : Region}

theorem Taken.startLine (h : Taken indentation style above variant header body region)
    (hp : Line.Placed index offset body) : region.startLine = index := by
  have hlines := h.lines
  have hstart := h.start
  cases body with
  | nil => simp at hstart
  | cons first more =>
    obtain ⟨rfl, -, -⟩ := hp
    rw [Region.startLine]
    generalize region.lines = lines at hlines ⊢
    cases hlines with
    | cons hb _ =>
      obtain ⟨_, -, rfl⟩ := dedentLine_eq_ok_iff.mp hb
      rfl

theorem Taken.nextLine (h : Taken indentation style above variant header body region)
    (hp : Line.Placed index offset body) : region.nextLine = index + body.length := by
  rw [Region.nextLine, h.startLine hp, h.length_lines]

theorem Taken.drop_nextLine {lines rest : List Line}
    (h : Taken indentation style above variant header body region)
    (hp : Line.Placed index offset body) (hl : lines.drop index = body ++ rest) :
    lines.drop region.nextLine = rest := by
  rw [h.nextLine hp, ← List.drop_drop, hl, List.drop_left]

theorem hasBodyLine_iff (hr : region.isStatement = false) :
    region.hasBodyLine k = true ↔ region.startLine ≤ k ∧ k < region.nextLine := by
  simp [hasBodyLine, hr]

theorem Taken.filter_hasBodyLine {rest lines : List Line} {line : Line}
    (h : Taken indentation style above variant header body region)
    (hp : Line.Placed index offset (lines ++ line :: (body ++ rest))) :
    (lines ++ line :: (body ++ rest)).filter (fun line => region.hasBodyLine line.index) =
      body := by
  obtain ⟨hlines, hline, -, hp⟩ := Line.placed_append.mp hp
  obtain ⟨hbody, hrest⟩ := Line.placed_append.mp hp
  have hstart := h.startLine hbody
  have hnext := h.nextLine hbody
  have hmem (k : Nat) : region.hasBodyLine k = true ↔ _ := hasBodyLine_iff h.isStatement
  have hnone {ls : List Line} (hls : ∀ l ∈ ls, l.index < region.startLine ∨
      region.nextLine ≤ l.index) : ls.filter (fun line => region.hasBodyLine line.index) = [] := by
    refine List.filter_eq_nil_iff.mpr fun l hl => ?_
    have := hls l hl
    rw [hmem]
    omega
  have hlines : lines.filter (fun line => region.hasBodyLine line.index) = [] := by
    refine hnone fun l hl => ?_
    have := hlines.index_of_mem hl
    omega
  have hself : body.filter (fun line => region.hasBodyLine line.index) = body := by
    refine List.filter_eq_self.mpr fun l hl => ?_
    have := hbody.index_of_mem hl
    rw [hmem]
    omega
  have hrest : rest.filter (fun line => region.hasBodyLine line.index) = [] := by
    refine hnone fun l hl => ?_
    have := hrest.index_of_mem hl
    omega
  rw [List.filter_append, hlines, List.filter_cons_of_neg, List.filter_append, hself, hrest,
    List.append_nil, List.nil_append]
  rw [hmem]
  omega

end Region

-- ---------------------------------------------------------------------------
-- Where the lexer starts afresh
-- ---------------------------------------------------------------------------

/-- The first line behind the last of some regions that ends above a line, or else line 0. -/
def restart (regions : List Region) (k : Nat) : Nat :=
  ((regions.map Region.nextLine).filter (· ≤ k)).foldr max 0

/-- The state before a line of a script, if the lexer starts afresh behind some regions and is
carried across all other lines. -/
def carried (lines : List Line) (regions : List Region) (k : Nat) : LexState :=
  LexState.afterAll .host .initial (((lines.take k).drop (restart regions k)).map (·.content))

section

variable {lines : List Line} {regions : List Region} {k : Nat}

theorem restart_le : restart regions k ≤ k := by
  induction regions with
  | nil => simp [restart]
  | cons r regions ih =>
    rw [restart, List.map_cons, List.filter_cons]
    split
    · next hr => exact Nat.max_le.mpr ⟨of_decide_eq_true hr, ih⟩
    · exact ih

theorem le_restart (hr : r ∈ regions) (hle : r.nextLine ≤ k) : r.nextLine ≤ restart regions k := by
  induction regions with
  | nil => simp at hr
  | cons first regions ih =>
    rw [restart, List.map_cons, List.filter_cons]
    rcases List.mem_cons.mp hr with rfl | hr
    · rw [if_pos (decide_eq_true hle)]
      exact Nat.le_max_left ..
    · split
      · exact Nat.le_trans (ih hr) (Nat.le_max_right ..)
      · exact ih hr

theorem restart_succ (h : ∀ r ∈ regions, r.nextLine ≠ k + 1) :
    restart regions (k + 1) = restart regions k := by
  rw [restart, restart]
  congr 1
  refine List.filter_congr ?_
  intro n hn
  obtain ⟨r, hr, rfl⟩ := List.mem_map.mp hn
  have := h r hr
  simp only [decide_eq_decide]
  omega

theorem carried_nextLine (hr : r ∈ regions) : carried lines regions r.nextLine = .initial := by
  have hk : restart regions r.nextLine = r.nextLine :=
    Nat.le_antisymm restart_le (le_restart hr (Nat.le_refl _))
  rw [carried, hk, List.drop_eq_nil_of_le (List.length_take_le ..)]
  rfl

theorem carried_zero : carried lines regions 0 = .initial := by
  rw [carried, List.take_zero, List.drop_nil]
  rfl

theorem carried_succ (hl : lines[k]? = some line) (h : ∀ r ∈ regions, r.nextLine ≠ k + 1) :
    carried lines regions (k + 1) = (carried lines regions k).after .host line.content := by
  have hlt : k < lines.length := (List.getElem?_eq_some_iff.mp hl).1
  have hle : restart regions k ≤ (lines.take k).length := by
    rw [List.length_take_of_le (Nat.le_of_lt hlt)]
    exact restart_le
  rw [carried, restart_succ h, List.take_add_one, hl, List.drop_append_of_le_length hle,
    List.map_append, LexState.afterAll_append]
  rfl

end

theorem drop_eq_cons_iff {l m : List α} :
    l.drop n = a :: m ↔ l[n]? = some a ∧ l.drop (n + 1) = m := by
  rw [← List.head?_drop, ← List.tail_drop]
  cases l.drop n <;> simp

-- ---------------------------------------------------------------------------
-- The regions above a line and below it
-- ---------------------------------------------------------------------------

/-- Of some regions those read from a line on are still to come. -/
structure Pending (regions : List Region) (n : Nat) (rs : List Reading) : Prop where
  above : ∀ r ∈ regions, r.nextLine ≤ n ∨ r ∈ rs.filterMap Reading.region
  below : ∀ r ∈ rs.filterMap Reading.region, r ∈ regions

namespace Pending

variable {regions : List Region} {rd : Reading} {rs : List Reading}

theorem of_filterMap : Pending (rs.filterMap Reading.region) 0 rs :=
  ⟨fun _ hr => .inr hr, fun _ hr => hr⟩

theorem host (h : Pending regions n (rd :: rs)) (hrd : rd.region = none) :
    Pending regions (n + 1) rs := by
  refine ⟨fun r hr => ?_, fun r hr => h.below r (by simpa [hrd] using hr)⟩
  rcases h.above r hr with hle | hr
  · exact .inl (Nat.le_succ_of_le hle)
  · exact .inr (by simpa [hrd] using hr)

theorem region (h : Pending regions n (rd :: rs)) (hrd : rd.region = some r) (hn : n ≤ r.nextLine) :
    r ∈ regions ∧ Pending regions r.nextLine rs := by
  refine ⟨h.below r (by simp [hrd]), fun r' hr' => ?_, fun r' hr' => h.below r' ?_⟩
  · rcases h.above r' hr' with hle | hr'
    · exact .inl (Nat.le_trans hle hn)
    · rw [List.filterMap_cons_some hrd] at hr'
      rcases List.mem_cons.mp hr' with rfl | hr'
      · exact .inl (Nat.le_refl _)
      · exact .inr hr'
  · rw [List.filterMap_cons_some hrd]
    exact List.mem_cons_of_mem _ hr'

end Pending

section

variable {indentation : Indentation} {style : LineStyle} {s : LexState} {line : Line}
  {lines above below : List Line} {rs : List Reading} {regions : List Region} {n offset : Nat}

theorem Reads.lt_nextLine (h : Reads indentation style s lines rs)
    (hp : Line.Placed n offset lines) : ∀ r ∈ rs.filterMap Reading.region, n < r.nextLine := by
  induction h generalizing n offset with
  | nil => simp
  | host hr _ ih =>
    obtain ⟨-, -, hp⟩ := hp
    exact fun r hm => Nat.lt_of_succ_lt (ih hp r hm)
  | @statement s line column code stop below rs hr _ ih =>
    obtain ⟨rfl, -, hp⟩ := hp
    intro r hm
    rcases List.mem_cons.mp hm with rfl | hm
    · exact Nat.lt_succ_self _
    · exact Nat.lt_of_succ_lt (ih hp r hm)
  | @block s line header colon body blanks left region rs hr he ht _ ih =>
    obtain ⟨rfl, -, hp⟩ := hp
    rw [List.append_assoc, Line.placed_append] at hp
    intro r hm
    rcases List.mem_cons.mp hm with rfl | hm
    · rw [ht.nextLine hp.1]
      omega
    · have := ih hp.2 r hm
      omega

theorem Pending.nextLine_ne {rd : Reading} (h : Pending regions n (rd :: rs))
    (hr : Reads indentation style s below rs) (hp : Line.Placed (n + 1) offset below)
    (hm : r ∈ regions) (hrd : rd.region ≠ some r) : r.nextLine ≠ n + 1 := by
  rcases h.above r hm with hle | hm
  · omega
  · obtain ⟨rd', hm, hr'⟩ := List.mem_filterMap.mp hm
    rcases List.mem_cons.mp hm with rfl | hm
    · exact absurd hr' hrd
    · have := hr.lt_nextLine hp r (List.mem_filterMap.mpr ⟨rd', hm, hr'⟩)
      omega

theorem Reads.start_of_ne_nil (h : Reads indentation style s below rs) (hne : below ≠ []) :
    ∃ rd ∈ rs, rd.start = s ∧ below.head? = some rd.line := by
  cases h with
  | nil => contradiction
  | host => exact ⟨_, List.mem_cons_self, rfl, rfl⟩
  | statement => exact ⟨_, List.mem_cons_self, rfl, rfl⟩
  | block => exact ⟨_, List.mem_cons_self, rfl, rfl⟩

end

-- ---------------------------------------------------------------------------
-- Which lines are read, and from which states
-- ---------------------------------------------------------------------------

/-- What a line is recognized as is the region that it has. -/
def Reading.Introduces (rd : Reading) : Introducer → Prop
  | .none => rd.region = none
  | .statement _ code stop => rd.region = some (.ofStatement rd.line code stop)
  | .block header _ =>
    ∃ region, rd.region = some region ∧ region.form = .block header.variant header ∧
      region.introducer = rd.line.index

def Reading.isStatement (rd : Reading) : Bool := rd.region.any Region.isStatement

def blocks (regions : List Region) : List Region := regions.filter (!·.isStatement)

namespace Reads

variable {indentation : Indentation} {style : LineStyle} {s : LexState}
  {lines above below : List Line} {rs : List Reading} {regions : List Region} {n offset : Nat}

theorem introduces (h : Reads indentation style s lines rs) :
    ∀ rd ∈ rs, ∃ i,
      Introducer.recognize rd.line rd.start (lexLine .host rd.start rd.line.content).tokens =
          .ok i ∧
        rd.Introduces i := by
  induction h with
  | nil => simp
  | host hr _ ih => exact List.forall_mem_cons.mpr ⟨⟨_, hr, rfl⟩, ih⟩
  | statement hr _ ih => exact List.forall_mem_cons.mpr ⟨⟨_, hr, rfl⟩, ih⟩
  | block hr _ ht _ ih =>
    exact List.forall_mem_cons.mpr ⟨⟨_, hr, _, rfl, ht.form, ht.introducer⟩, ih⟩

theorem startLine_of_mem (h : Reads indentation style s lines rs)
    (hp : Line.Placed n offset lines) :
    ∀ r ∈ rs.filterMap Reading.region, r.isStatement = false → n < r.startLine := by
  induction h generalizing n offset with
  | nil => simp
  | host hr _ ih =>
    obtain ⟨-, -, hp⟩ := hp
    exact fun r hm hs => Nat.lt_of_succ_lt (ih hp r hm hs)
  | @statement s line column code stop below rs hr _ ih =>
    obtain ⟨-, -, hp⟩ := hp
    intro r hm hs
    rcases List.mem_cons.mp hm with rfl | hm
    · cases hs
    · exact Nat.lt_of_succ_lt (ih hp r hm hs)
  | @block s line header colon body blanks left region rs hr he ht _ ih =>
    obtain ⟨-, -, hp⟩ := hp
    rw [List.append_assoc, Line.placed_append] at hp
    intro r hm hs
    rcases List.mem_cons.mp hm with rfl | hm
    · rw [ht.startLine hp.1]
      exact Nat.lt_succ_self _
    · have := ih hp.2 r hm hs
      omega

theorem not_hasBodyLine (h : Reads indentation style s lines rs) (hp : Line.Placed n offset lines)
    (hpending : Pending regions n rs) : regions.any (·.hasBodyLine n) = false := by
  rw [List.any_eq_false]
  intro r hr
  simp only [Region.hasBodyLine, Bool.and_eq_true, Bool.not_eq_true', decide_eq_true_eq]
  rintro ⟨⟨hs, hle⟩, hlt⟩
  rcases hpending.above r hr with hnext | hm
  · omega
  · have := h.startLine_of_mem hp r hm hs
    omega

theorem map_line (h : Reads indentation style s lines rs) (hp : Line.Placed n offset lines)
    (hpending : Pending regions n rs) :
    rs.map (·.line) = lines.filter (fun line => !regions.any (·.hasBodyLine line.index)) := by
  induction h generalizing n offset with
  | nil => rfl
  | host hr h ih =>
    have hline := not_hasBodyLine (.host hr h) hp hpending
    obtain ⟨rfl, -, hp⟩ := hp
    rw [List.map_cons, ih hp (hpending.host rfl), List.filter_cons_of_pos (by simp [hline])]
  | statement hr h ih =>
    have hline := not_hasBodyLine (.statement hr h) hp hpending
    obtain ⟨rfl, -, hp⟩ := hp
    have hpending := (hpending.region rfl (Nat.le_succ _)).2
    rw [List.map_cons, ih hp hpending, List.filter_cons_of_pos (by simp [hline])]
  | @block s line header colon body blanks left region rs hr he ht h ih =>
    have hline := not_hasBodyLine (.block hr he ht h) hp hpending
    obtain ⟨rfl, -, hp⟩ := hp
    rw [List.append_assoc, Line.placed_append] at hp
    have hstart := ht.startLine hp.1
    have hnext := ht.nextLine hp.1
    obtain ⟨hm, hpending⟩ := hpending.region rfl (by omega)
    rw [hnext] at hpending
    have hbody : ∀ line ∈ body, regions.any (·.hasBodyLine line.index) := by
      intro line hl
      have := hp.1.index_of_mem hl
      refine List.any_eq_true.mpr ⟨region, hm, ?_⟩
      rw [Region.hasBodyLine_iff ht.isStatement]
      omega
    have hnil : body.filter (fun line => !regions.any (·.hasBodyLine line.index)) = [] := by
      simpa using hbody
    rw [List.map_cons, ih hp.2 hpending, List.filter_cons_of_pos (by simp [hline]),
      List.append_assoc, List.filter_append (p := _) body, hnil, List.nil_append]

/-- The state before a line is that of a lexer which starts afresh behind every region. -/
theorem start_eq_carried (h : Reads indentation style s below rs) (hl : lines.drop n = below)
    (hp : Line.Placed n offset below) (hpending : Pending regions n rs)
    (hs : s = carried lines regions n) :
    ∀ rd ∈ rs, rd.start = carried lines regions rd.line.index := by
  induction h generalizing n offset with
  | nil => simp
  | host hr h ih =>
    obtain ⟨rfl, -, hp⟩ := hp
    obtain ⟨hline, hl⟩ := drop_eq_cons_iff.mp hl
    refine List.forall_mem_cons.mpr ⟨hs, ih hl hp (hpending.host rfl) ?_⟩
    rw [carried_succ hline fun r hm => hpending.nextLine_ne h hp hm (by simp), hs]
  | statement hr h ih =>
    obtain ⟨rfl, -, hp⟩ := hp
    obtain ⟨-, hl⟩ := drop_eq_cons_iff.mp hl
    obtain ⟨hm, hpending⟩ := hpending.region rfl (Nat.le_succ _)
    exact List.forall_mem_cons.mpr ⟨hs, ih hl hp hpending (carried_nextLine hm).symm⟩
  | @block s line header colon body blanks left region rs hr he ht h ih =>
    obtain ⟨rfl, -, hp⟩ := hp
    obtain ⟨-, hl⟩ := drop_eq_cons_iff.mp hl
    rw [List.append_assoc] at hl hp
    obtain ⟨hbody, hp⟩ := Line.placed_append.mp hp
    have hnext := ht.nextLine hbody
    obtain ⟨hm, hpending⟩ := hpending.region rfl (by omega)
    rw [← hnext] at hp
    exact List.forall_mem_cons.mpr
      ⟨hs, ih (ht.drop_nextLine hbody hl) hp hpending (carried_nextLine hm).symm⟩

theorem startsStatement_iff (h : Reads indentation style s below rs) (hl : lines.drop n = below)
    (hp : Line.Placed n offset below) (hpending : Pending regions n rs)
    (hs : below ≠ [] → s = carried lines (blocks regions) n) :
    (∀ rd ∈ rs, rd.start.startsStatement ↔
        (carried lines (blocks regions) rd.line.index).isOpen = false) ↔
      ∀ rd ∈ rs, rd.isStatement → rd.line.index + 1 < lines.length →
        (LexState.initial.after .host rd.line.content).isOpen = false := by
  have hagree {s : LexState} {k : Nat} (hs : s = carried lines (blocks regions) k) :
      s.startsStatement ↔ (carried lines (blocks regions) k).isOpen = false := by
    rw [hs, LexState.isOpen_eq_not_startsStatement, Bool.not_eq_false']
  induction h generalizing n offset with
  | nil => simp
  | host hr h ih =>
    obtain ⟨rfl, -, hp⟩ := hp
    obtain ⟨hline, hl⟩ := drop_eq_cons_iff.mp hl
    have hs := hs (by simp)
    rw [List.forall_mem_cons, List.forall_mem_cons]
    refine and_congr (iff_of_true (hagree hs) (by simp [Reading.isStatement])) ?_
    refine ih hl hp (hpending.host rfl) fun _ => ?_
    rw [carried_succ hline ?_, ← hs]
    exact fun r hm => hpending.nextLine_ne h hp (List.mem_of_mem_filter hm) (by simp)
  | @statement s line column code stop below rs hr h ih =>
    obtain ⟨rfl, -, hp⟩ := hp
    obtain ⟨hline, hl⟩ := drop_eq_cons_iff.mp hl
    obtain ⟨rfl, -⟩ := Introducer.recognize_eq_statement_iff.mp hr
    have hs := hs (by simp)
    have hafter : carried lines (blocks regions) (line.index + 1) =
        LexState.initial.after .host line.content := by
      rw [carried_succ hline ?_, ← hs]
      intro r hm
      obtain ⟨hm, hblock⟩ := List.mem_filter.mp hm
      refine hpending.nextLine_ne h hp hm ?_
      rintro ⟨rfl⟩
      cases hblock
    have hpending := (hpending.region rfl (Nat.le_succ _)).2
    rw [List.forall_mem_cons, List.forall_mem_cons]
    by_cases hopen : (LexState.initial.after .host line.content).isOpen = false
    · refine and_congr (iff_of_true (hagree hs) fun _ _ => hopen) (ih hl hp hpending fun _ => ?_)
      rw [hafter, LexState.isOpen_eq_false_iff.mp hopen]
    · by_cases hbelow : below = []
      · have hlast : lines.length ≤ line.index + 1 := List.drop_eq_nil_iff.mp (hl.trans hbelow)
        exact and_congr
          (iff_of_true (hagree hs) fun _ hlt => absurd hlt (Nat.not_lt_of_le hlast))
          (ih hl hp hpending (absurd hbelow))
      · -- the line below starts afresh and the other lexer is inside the statement
        have hlt : line.index + 1 < lines.length := by
          have hpos := List.length_pos_iff.mpr hbelow
          rw [← hl, List.length_drop] at hpos
          omega
        refine iff_of_false (fun hall => hopen ?_)
          fun hall => hopen (hall.1 (by rfl) hlt)
        obtain ⟨rd, hm, hstart, hfirst⟩ := h.start_of_ne_nil hbelow
        have hrd := (hall.2 rd hm).mp (by rw [hstart]; rfl)
        have hindex : rd.line.index = line.index + 1 := by
          simpa using hp.index_getElem (k := 0) (by rw [← List.head?_eq_getElem?, hfirst])
        rwa [hindex, hafter] at hrd
  | @block s line header colon body blanks left region rs hr he ht h ih =>
    obtain ⟨rfl, -, hp⟩ := hp
    obtain ⟨-, hl⟩ := drop_eq_cons_iff.mp hl
    rw [List.append_assoc] at hl hp
    obtain ⟨hbody, hp⟩ := Line.placed_append.mp hp
    have hnext := ht.nextLine hbody
    obtain ⟨hm, hpending⟩ := hpending.region rfl (by omega)
    have hm : region ∈ blocks regions := List.mem_filter.mpr ⟨hm, by simp [ht.isStatement]⟩
    rw [← hnext] at hp
    rw [List.forall_mem_cons, List.forall_mem_cons]
    refine and_congr
      (iff_of_true (hagree (hs (by simp))) (by simp [Reading.isStatement, ht.isStatement])) ?_
    exact ih (ht.drop_nextLine hbody hl) hp hpending fun _ => (carried_nextLine hm).symm

end Reads

-- ---------------------------------------------------------------------------
-- The lines of a document
-- ---------------------------------------------------------------------------

/-- The lines of a document that begin a logical line. Every line outside the bodies of blocks is
read, from the state that the lines above it leave in a lexer which starts afresh behind every
region, and as what is recognized there. Which lines these are is the same for a lexer that starts
afresh behind blocks only, and is carried across statements, exactly if no statement above another
line leaves a string, a bracket or a backslash open. -/
theorem Partition.startsStatement_iff_carried {indentation : Indentation} {t : Text} {p : Partition}
    (h : build indentation (.ofText t) = .ok p) :
    ∃ rs, readings indentation (.ofText t) = .ok rs ∧
      p.regions = rs.filterMap Reading.region ∧
      rs.map (·.line) =
        (Line.scan t).filter (fun line => !p.regions.any (·.hasBodyLine line.index)) ∧
      (∀ rd ∈ rs, ∃ i,
        Introducer.recognize rd.line rd.start (lexLine .host rd.start rd.line.content).tokens =
            .ok i ∧
          rd.Introduces i ∧ (i ≠ .none → rd.start.startsStatement)) ∧
      (∀ rd ∈ rs, rd.start = carried (Line.scan t) p.regions rd.line.index) ∧
      ((∀ rd ∈ rs, rd.start.startsStatement ↔
          (carried (Line.scan t) (blocks p.regions) rd.line.index).isOpen = false) ↔
        ∀ rd ∈ rs, rd.isStatement → rd.line.index + 1 < (Line.scan t).length →
          (LexState.initial.after .host rd.line.content).isOpen = false) := by
  obtain ⟨rs, hreads, rfl⟩ := build_eq_ok_iff.mp h
  have hp := Line.placed_scan t
  refine ⟨rs, readFrom_of_reads hreads, rfl, hreads.map_line hp .of_filterMap, ?_,
    hreads.start_eq_carried rfl hp .of_filterMap carried_zero.symm,
    hreads.startsStatement_iff rfl hp .of_filterMap fun _ => carried_zero.symm⟩
  intro rd hm
  obtain ⟨i, hi, hintroduces⟩ := hreads.introduces rd hm
  refine ⟨i, hi, hintroduces, fun hne => LexState.startsStatement_iff.mpr ?_⟩
  by_contra hs
  rw [Introducer.recognize_of_ne_initial _ _ hs] at hi
  exact hne (Except.ok.inj hi).symm

/-- The block below the statement stands inside its bracket, and is read as a block. -/
theorem Partition.startsStatement_iff_carried_open_statement :
    ∃ p rs, build ⟨.reject, 4⟩ (.ofText (text "$ x = (\npython:\n    y = 1\n")) = .ok p ∧
      readings ⟨.reject, 4⟩ (.ofText (text "$ x = (\npython:\n    y = 1\n")) = .ok rs ∧
      ¬ ∀ rd ∈ rs, rd.start.startsStatement ↔
        (carried (Line.scan (text "$ x = (\npython:\n    y = 1\n")) (blocks p.regions)
          rd.line.index).isOpen = false := by
  have hbuild : (build ⟨.reject, 4⟩ (.ofText (text "$ x = (\npython:\n    y = 1\n"))).map
      (fun p => p.regions.length) = .ok 2 := by cbv
  have hreadings : (readings ⟨.reject, 4⟩ (.ofText (text "$ x = (\npython:\n    y = 1\n"))).map
      (fun rs => rs.map fun rd =>
        (rd.isStatement, rd.line.index, (LexState.initial.after .host rd.line.content).isOpen)) =
      .ok [(true, 0, true), (false, 1, false)] := by cbv
  have hlength : (Line.scan (text "$ x = (\npython:\n    y = 1\n")).length = 3 := by cbv
  obtain ⟨p, hp, -⟩ := map_eq_ok_iff.mp hbuild
  obtain ⟨rs, hrs, -, -, -, -, hiff⟩ := startsStatement_iff_carried hp
  refine ⟨p, rs, hp, hrs, fun hall => ?_⟩
  obtain ⟨rs', hrs', hmap⟩ := map_eq_ok_iff.mp hreadings
  cases hrs.symm.trans hrs'
  obtain ⟨rd, more, rfl, hrd, -⟩ := List.map_eq_cons_iff.mp hmap
  obtain ⟨hstatement, hindex, hopen⟩ : _ ∧ _ ∧ _ := by simpa using hrd
  have hclosed := hiff.mp hall rd List.mem_cons_self hstatement (by rw [hindex, hlength]; decide)
  cases hclosed.symm.trans hopen

end Inlay
