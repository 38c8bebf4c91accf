import Mathlib.Data.List.Induction
import Inlay.Proofs.Indents

/-!
# Lines at a margin

Formatted code is cut at its line feeds, its lines are put behind a margin, and they are joined by
the break of the region: the result has exactly these lines (`split_reindent`). The lexer is in
the same state before a line of code and before the line it stands for, so what is put back is
known line by line (`margined_code`).
-/

namespace Inlay

open CodeUnit

namespace Text

variable {t rest m a b : Text} {separator : CodeUnit} {pieces : List Text}

theorem splitOn_of_not_mem (h : separator ∉ t) : splitOn separator t = [t] := by
  induction t with
  | nil => rfl
  | cons u t ih =>
    obtain ⟨hu, h⟩ := not_or.mp (mt List.mem_cons.mpr h)
    rw [splitOn, if_neg (Ne.symm hu), ih h]

theorem splitOn_append (h : separator ∉ t) :
    splitOn separator (t ++ separator :: rest) = t :: splitOn separator rest := by
  induction t with
  | nil => simp [splitOn]
  | cons u t ih =>
    obtain ⟨hu, h⟩ := not_or.mp (mt List.mem_cons.mpr h)
    rw [List.cons_append, splitOn, if_neg (Ne.symm hu), ih h]

theorem joinWith_cons (hne : pieces ≠ []) :
    joinWith t (piece :: pieces) = piece ++ t ++ joinWith t pieces := by
  cases pieces with
  | nil => contradiction
  | cons next pieces => rfl

theorem joinWith_concat_nil (hne : pieces ≠ []) :
    joinWith t (pieces ++ [[]]) = joinWith t pieces ++ t := by
  induction pieces with
  | nil => contradiction
  | cons piece pieces ih =>
    cases pieces with
    | nil => simp [joinWith]
    | cons next pieces =>
      have hne : next :: pieces ≠ [] := List.cons_ne_nil _ _
      rw [List.cons_append, joinWith_cons (List.append_ne_nil_of_left_ne_nil hne _), ih hne,
        joinWith_cons hne]
      simp only [List.append_assoc]

theorem mem_joinWith (h : piece ∈ pieces) (hu : u ∈ piece) : u ∈ joinWith t pieces := by
  induction pieces with
  | nil => simp at h
  | cons first pieces ih =>
    cases pieces with
    | nil =>
      obtain rfl := List.mem_singleton.mp h
      exact hu
    | cons next pieces =>
      rw [joinWith_cons (by simp)]
      rcases List.mem_cons.mp h with rfl | h
      · simp [hu]
      · simp [ih h]

theorem mem_of_mem_splitOn (h : piece ∈ splitOn separator t) (hu : u ∈ piece) : u ∈ t := by
  rw [← join_splitOn separator t]
  exact mem_joinWith h hu

theorem getLast?_joinWith (h : pieces.getLast? = some piece) (hu : piece.getLast? = some u) :
    (joinWith t pieces).getLast? = some u := by
  induction pieces with
  | nil => cases h
  | cons first pieces ih =>
    cases pieces with
    | nil =>
      obtain rfl : first = piece := by simpa using h
      exact hu
    | cons next pieces =>
      rw [joinWith_cons (List.cons_ne_nil next pieces), List.getLast?_append,
        ih (by simpa using h)]
      rfl

theorem splitOn_joinWith (hne : pieces ≠ []) (h : ∀ piece ∈ pieces, separator ∉ piece) :
    splitOn separator (joinWith [separator] pieces) = pieces := by
  induction pieces with
  | nil => contradiction
  | cons piece pieces ih =>
    obtain ⟨hpiece, h⟩ := List.forall_mem_cons.mp h
    cases pieces with
    | nil => exact splitOn_of_not_mem hpiece
    | cons next pieces =>
      rw [joinWith_cons (by simp), List.append_assoc, List.singleton_append,
        splitOn_append hpiece, ih (by simp) h]

theorem splitOn_joinWith_concat (hne : pieces ≠ []) (h : ∀ piece ∈ pieces, separator ∉ piece) :
    splitOn separator (joinWith [separator] pieces ++ [separator]) = pieces ++ [[]] := by
  rw [← joinWith_concat_nil hne]
  refine splitOn_joinWith (by simp) fun piece hpiece => ?_
  rcases List.mem_append.mp hpiece with hpiece | hpiece
  · exact h piece hpiece
  · obtain rfl := List.mem_singleton.mp hpiece
    exact List.not_mem_nil

theorem infix_append_cons_iff (hne : m ≠ []) (hm : separator ∉ m) :
    m <:+: a ++ separator :: b ↔ m <:+: a ∨ m <:+: b := by
  induction a with
  | nil =>
    have hfirst : ¬ m <+: separator :: b := by
      intro hprefix
      obtain ⟨v, m, rfl⟩ := List.exists_cons_of_ne_nil hne
      obtain ⟨rfl, -⟩ := List.cons_prefix_cons.mp hprefix
      exact hm List.mem_cons_self
    rw [List.nil_append, List.infix_cons_iff, or_iff_right hfirst, List.infix_nil,
      or_iff_right hne]
  | cons u a ih =>
    have hfirst : m <+: u :: (a ++ separator :: b) ↔ m <+: u :: a := by
      constructor
      · intro hprefix
        refine List.prefix_of_prefix_length_le hprefix (List.prefix_append (u :: a) _) ?_
        by_contra hlength
        -- the text would go on into the separator
        have hlonger : u :: (a ++ [separator]) <+: m := by
          refine List.prefix_of_prefix_length_le ⟨b, by simp⟩ hprefix ?_
          simp only [List.length_cons, List.length_append, List.length_nil] at hlength ⊢
          omega
        exact hm (hlonger.mem (by simp))
      · exact fun hprefix => hprefix.trans (List.prefix_append (u :: a) _)
    rw [List.cons_append, List.infix_cons_iff, List.infix_cons_iff, ih, hfirst, or_assoc]

theorem infix_joinWith_iff (hne : m ≠ []) (hm : separator ∉ m) {lines : List Text} :
    m <:+: joinWith [separator] lines ↔ ∃ line ∈ lines, m <:+: line := by
  induction lines with
  | nil => simpa [joinWith] using hne
  | cons line lines ih =>
    cases lines with
    | nil => simp [joinWith]
    | cons next lines =>
      rw [joinWith_cons (List.cons_ne_nil next lines), List.append_assoc, List.singleton_append,
        infix_append_cons_iff hne hm, ih]
      simp only [List.exists_mem_cons_iff]

theorem infix_splitOn_iff (hne : m ≠ []) (hm : separator ∉ m) :
    m <:+: t ↔ ∃ piece ∈ splitOn separator t, m <:+: piece := by
  conv_lhs => rw [← join_splitOn separator t]
  exact infix_joinWith_iff hne hm

end Text

-- ---------------------------------------------------------------------------
-- Lines with one kind of break
-- ---------------------------------------------------------------------------

/-- Lines of given contents that end in one kind of break, the last perhaps in none. -/
def terminated (e : LineBreak) (ends : Bool) : List Text → List RawLine
  | [] => []
  | [t] => [⟨t, if ends then some e else none⟩]
  | t :: ts => ⟨t, some e⟩ :: terminated e ends ts

section

variable {e : LineBreak} {ends : Bool} {t last : Text} {ts : List Text}

theorem terminated_cons (hne : ts ≠ []) :
    terminated e ends (t :: ts) = ⟨t, some e⟩ :: terminated e ends ts := by
  cases ts with
  | nil => contradiction
  | cons next ts => rfl

@[simp] theorem map_content_terminated : (terminated e ends ts).map (·.content) = ts := by
  induction ts with
  | nil => rfl
  | cons t ts ih =>
    cases ts with
    | nil => rfl
    | cons next ts => exact congrArg (t :: ·) ih

@[simp] theorem length_terminated : (terminated e ends ts).length = ts.length := by
  rw [← List.length_map (·.content), map_content_terminated]

theorem getLast?_terminated (h : ts.getLast? = some t) :
    (terminated e ends ts).getLast? = some ⟨t, if ends then some e else none⟩ := by
  induction ts with
  | nil => simp at h
  | cons first ts ih =>
    cases ts with
    | nil =>
      obtain rfl : first = t := by simpa using h
      rfl
    | cons next ts =>
      have hmore := ih (by simpa using h)
      rw [terminated_cons (List.cons_ne_nil next ts), List.getLast?_cons, hmore]
      rfl

theorem join_terminated (hne : ts ≠ []) :
    RawLine.join (terminated e ends ts) =
      if ends then Text.joinWith e.text ts ++ e.text else Text.joinWith e.text ts := by
  induction ts with
  | nil => contradiction
  | cons t ts ih =>
    cases ts with
    | nil => cases ends <;> simp [terminated, RawLine.join, RawLine.text, endingText, Text.joinWith]
    | cons next ts =>
      rw [terminated_cons (by simp), RawLine.join_cons, ih (by simp),
        Text.joinWith_cons (List.cons_ne_nil next ts)]
      cases ends <;> simp [RawLine.text, endingText]

theorem terminated_congr {e' : LineBreak}
    (h : ∀ line ∈ terminated e ends ts, line.ending = none) :
    terminated e' ends ts = terminated e ends ts := by
  rcases ts with _ | ⟨t, _ | ⟨next, ts⟩⟩
  · rfl
  · cases ends with
    | true => cases h _ (List.mem_singleton_self _)
    | false => rfl
  · cases h _ List.mem_cons_self

theorem uniform_terminated : RawLine.Uniform e (terminated e ends ts) := by
  induction ts with
  | nil => simp [terminated, RawLine.Uniform]
  | cons t ts ih =>
    cases ts with
    | nil => cases ends <;> simp [terminated, RawLine.Uniform]
    | cons next ts => exact List.forall_mem_cons.mpr ⟨.inr rfl, ih⟩

theorem scannable_terminated_append {rest : List RawLine} (hts : ∀ t ∈ ts, t.Unbroken)
    (hlast : ends = false → ts.getLast? ≠ some [] ∧ rest = []) (hrest : RawLine.Scannable rest)
    (he : RawLine.Uniform e rest) : RawLine.Scannable (terminated e ends ts ++ rest) := by
  induction ts with
  | nil => exact hrest
  | cons t ts ih =>
    obtain ⟨ht, hts⟩ := List.forall_mem_cons.mp hts
    have huniform : RawLine.Uniform e (terminated e ends (t :: ts) ++ rest) :=
      List.forall_mem_append.mpr ⟨uniform_terminated, he⟩
    cases ts with
    | nil =>
      refine RawLine.scannable_cons ht ?_ hrest huniform
      cases ends <;> simp_all
    | cons next ts =>
      refine RawLine.scannable_cons ht (fun hn => nomatch hn) (ih hts ?_) huniform
      simpa using hlast

end

namespace Region

-- ---------------------------------------------------------------------------
-- Lines behind a margin
-- ---------------------------------------------------------------------------

/-- A line of code behind the margin. -/
def atMargin (margin : Text) (s : LexState) (t : Text) : Text :=
  if !Text.isBlank t || (s.inString && !t.isEmpty) then margin ++ t else []

variable {margin w t : Text} {s : LexState} {ts : List Text}

theorem margined_cons :
    margined margin s (t :: ts) =
      atMargin margin s t :: margined margin (s.after .embedded t) ts := rfl

theorem atMargin_of_not_isBlank (h : t.isBlank = false) : atMargin margin s t = margin ++ t := by
  simp [atMargin, h]

theorem atMargin_nil : atMargin margin s [] = [] := by
  simp [atMargin, Text.isBlank]

theorem atMargin_of_inString (hs : s.inString) (ht : t ≠ []) :
    atMargin margin s t = margin ++ t := by
  simp [atMargin, hs, ht]

theorem after_atMargin (hm : ∀ u ∈ margin, u.isIndent) :
    s.after .embedded (atMargin margin s t) = s.after .embedded t := by
  rw [atMargin]
  split
  · exact LexState.after_indent s hm
  · next h =>
    simp only [Bool.or_eq_true, Bool.not_eq_true', not_or, Bool.not_eq_false] at h
    exact (LexState.after_blank s h.1).symm

theorem length_margined : (margined margin s ts).length = ts.length := by
  induction ts generalizing s with
  | nil => rfl
  | cons t ts ih => exact congrArg Nat.succ ih

theorem margined_ne_nil (h : ts ≠ []) : margined margin s ts ≠ [] := by
  rw [← List.length_pos_iff, length_margined]
  exact List.length_pos_iff.mpr h

theorem getLast?_margined (h : ts.getLast? = some t) (ht : t.isBlank = false) :
    (margined margin s ts).getLast? = some (margin ++ t) := by
  induction ts generalizing s with
  | nil => simp at h
  | cons first ts ih =>
    cases ts with
    | nil =>
      obtain rfl : first = t := by simpa using h
      rw [margined_cons, atMargin_of_not_isBlank ht]
      rfl
    | cons next ts =>
      rw [margined_cons, margined_cons, List.getLast?_cons_cons, ← margined_cons]
      exact ih (by simpa using h)

theorem not_mem_of_mem_margined (hm : u ∉ margin) (hts : ∀ t ∈ ts, u ∉ t)
    (h : t ∈ margined margin s ts) : u ∉ t := by
  induction ts generalizing s with
  | nil => simp [margined] at h
  | cons first ts ih =>
    obtain ⟨hfirst, hts⟩ := List.forall_mem_cons.mp hts
    rcases List.mem_cons.mp h with rfl | h
    · rw [← atMargin, atMargin]
      split
      · simp [hm, hfirst]
      · simp
    · exact ih hts h

theorem unbroken_of_mem_margined (hm : ∀ u ∈ margin, u.isIndent) (hts : ∀ t ∈ ts, t.Unbroken)
    (h : t ∈ margined margin s ts) : t.Unbroken := by
  have hmargin := Text.unbroken_of_isIndent hm
  intro u hu
  constructor
  · rintro rfl
    exact not_mem_of_mem_margined (fun hm => (hmargin _ hm).1 rfl)
      (fun t ht hm => (hts t ht _ hm).1 rfl) h hu
  · rintro rfl
    exact not_mem_of_mem_margined (fun hm => (hmargin _ hm).2 rfl)
      (fun t ht hm => (hts t ht _ hm).2 rfl) h hu

-- ---------------------------------------------------------------------------
-- Code that is put back
-- ---------------------------------------------------------------------------

variable {r : Region}

theorem unterminated_concat : unterminated (t ++ [lineFeed]) = t := by
  simp [unterminated]

/-- Lines of code are put back as lines that end in the break of the region. -/
theorem reindent_joinWith (hr : r.isStatement = false) (hts : ∀ t ∈ ts, t.Unbroken)
    (hl : ts.getLast? = some t) (ht : t.isBlank = false) :
    r.reindent (Text.joinWith [lineFeed] ts ++ [lineFeed]) =
      RawLine.join (terminated r.lineBreak r.endsWithBreak (margined r.margin .initial ts)) := by
  have hne : ts ≠ [] := by
    rintro rfl
    simp at hl
  have hpieces : Text.splitOn lineFeed (Text.joinWith [lineFeed] ts) = ts :=
    Text.splitOn_joinWith hne fun piece hp hm => (hts piece hp _ hm).1 rfl
  have hbody : (Text.joinWith [lineFeed] ts).isEmpty = false := by
    rw [List.isEmpty_eq_false_iff]
    intro hnil
    rw [hnil] at hpieces
    rw [← hpieces] at hl
    simp only [Text.splitOn, List.getLast?_singleton, Option.some.injEq] at hl
    simp [← hl, Text.isBlank] at ht
  rw [reindent, unterminated_concat, hr, hbody, hpieces, join_terminated (margined_ne_nil hne)]
  simp

theorem scannable_margined_append {rest : List RawLine} (hm : ∀ u ∈ r.margin, u.isIndent)
    (hts : ∀ t ∈ ts, t.Unbroken) (hl : ts.getLast? = some t) (ht : t.isBlank = false)
    (hlast : r.endsWithBreak = false → rest = []) (hrest : RawLine.Scannable rest)
    (he : RawLine.Uniform r.lineBreak rest) :
    RawLine.Scannable
      (terminated r.lineBreak r.endsWithBreak (margined r.margin .initial ts) ++ rest) := by
  refine scannable_terminated_append (fun t => unbroken_of_mem_margined hm hts)
    (fun hends => ⟨?_, hlast hends⟩) hrest he
  rw [getLast?_margined hl ht]
  rintro hnil
  simp only [Option.some.injEq, List.append_eq_nil_iff] at hnil
  simp [hnil.2, Text.isBlank] at ht

theorem split_reindent (hr : r.isStatement = false) (hm : ∀ u ∈ r.margin, u.isIndent)
    (hts : ∀ t ∈ ts, t.Unbroken) (hl : ts.getLast? = some t) (ht : t.isBlank = false) :
    RawLine.split (r.reindent (Text.joinWith [lineFeed] ts ++ [lineFeed])) =
      terminated r.lineBreak r.endsWithBreak (margined r.margin .initial ts) := by
  rw [reindent_joinWith hr hts hl ht]
  have hscannable := scannable_margined_append (r := r) hm hts hl ht (fun _ => rfl) trivial
    (by simp [RawLine.Uniform])
  rw [List.append_nil] at hscannable
  exact RawLine.split_join hscannable

-- ---------------------------------------------------------------------------
-- Lines without their margin
-- ---------------------------------------------------------------------------

variable {indentation : Indentation} {b : BodyLine} {line : RegionLine}

theorem isBlank_body (b : BodyLine) : Text.isBlank b.line.body = b.isBlank := by
  have hindent : Text.isBlank b.line.indent :=
    Text.isBlank_of_isIndent (RawLine.isIndent_of_mem_indent _)
  rw [BodyLine.isBlank, RawLine.isBlank, ← RawLine.indent_append_body, Text.isBlank_append, hindent,
    Bool.true_and]

theorem code_of_dedentLine (h : dedentLine indentation margin b = .ok line) :
    ∃ w, dedented? indentation margin b = some w ∧
      line.code = w ++ if b.isBlank then [] else b.line.body := by
  obtain ⟨w, hw, rfl⟩ := dedentLine_eq_ok_iff.mp h
  exact ⟨w, hw, by rw [← isBlank_body]; rfl⟩

theorem after_code (h : dedentLine indentation margin b = .ok line) (s : LexState) :
    s.after .embedded line.code = s.after .embedded b.line.content := by
  obtain ⟨w, hw, hcode⟩ := code_of_dedentLine h
  rw [hcode, LexState.after_indent s (isIndent_of_dedented? hw)]
  split
  · next hb => exact (LexState.after_blank s hb).symm
  · rw [← RawLine.indent_append_body,
      LexState.after_indent s (RawLine.isIndent_of_mem_indent _)]

theorem isBlank_code (h : dedentLine indentation margin b = .ok line) :
    Text.isBlank line.code = b.isBlank := by
  obtain ⟨w, hw, hcode⟩ := code_of_dedentLine h
  rw [hcode, Text.isBlank_append, Text.isBlank_of_isIndent (isIndent_of_dedented? hw),
    Bool.true_and]
  split
  · next hb => rw [hb]; rfl
  · exact isBlank_body b

theorem unbroken_code (h : dedentLine indentation margin b = .ok line)
    (hb : b.line.content.Unbroken) : Text.Unbroken line.code := by
  obtain ⟨w, hw, hcode⟩ := code_of_dedentLine h
  rw [← RawLine.indent_append_body, Text.unbroken_append] at hb
  rw [hcode, Text.unbroken_append]
  refine ⟨Text.unbroken_of_isIndent (isIndent_of_dedented? hw), ?_⟩
  split
  · simp [Text.Unbroken]
  · exact hb.2

theorem margined_code {body : List Line} {lines : List RegionLine}
    (h : List.Forall₂ (fun b line => dedentLine indentation margin b = .ok line)
      (lexedFrom s body) lines) (margin' : Text) :
    List.Forall₂ (fun b t => ∃ line, dedentLine indentation margin b = .ok line ∧
        t = atMargin margin' b.start line.code)
      (lexedFrom s body) (margined margin' s (lines.map RegionLine.code)) := by
  induction body generalizing s lines with
  | nil => cases h; exact .nil
  | cons first body ih =>
    cases h with
    | cons hb h =>
      rw [List.map_cons, margined_cons, after_code hb]
      exact .cons ⟨_, hb, rfl⟩ (ih h)

-- ---------------------------------------------------------------------------
-- The margin of a block
-- ---------------------------------------------------------------------------

theorem leastAnchor_concat {tabWidth : Nat} {body : List BodyLine} :
    leastAnchor tabWidth (body ++ [b]) = narrower tabWidth (leastAnchor tabWidth body) b :=
  List.foldl_concat ..

theorem mem_of_leastAnchor {tabWidth : Nat} {body : List BodyLine}
    (h : leastAnchor tabWidth body = some b) : b ∈ body ∧ b.isAnchor := by
  -- the fold is opened at its end, where a line is compared with the least of those above it
  induction body using List.reverseRecOn with
  | nil => simp [leastAnchor] at h
  | append_singleton body last ih =>
    have hmem : leastAnchor tabWidth body = some b → b ∈ body ++ [last] ∧ b.isAnchor :=
      fun h => ⟨List.mem_append_left _ (ih h).1, (ih h).2⟩
    rw [leastAnchor_concat, narrower.eq_def] at h
    split at h
    · exact hmem h
    · next ha =>
      have hlast : last = b → b ∈ body ++ [last] ∧ b.isAnchor := by
        rintro rfl
        exact ⟨by simp, by simpa using ha⟩
      split at h
      · split at h
        · exact hlast (Option.some.inj h)
        · exact hmem h
      · exact hlast (Option.some.inj h)

theorem exists_leastAnchor_le {tabWidth : Nat} {body : List BodyLine} (hm : b ∈ body)
    (ha : b.isAnchor) :
    ∃ a, leastAnchor tabWidth body = some a ∧
      Indent.width tabWidth a.line.indent ≤ Indent.width tabWidth b.line.indent := by
  induction body using List.reverseRecOn with
  | nil => simp at hm
  | append_singleton body last ih =>
    rw [leastAnchor_concat, narrower.eq_def]
    rcases List.mem_append.mp hm with hm | hm
    · obtain ⟨a, hleast, hle⟩ := ih hm
      rw [hleast]
      split
      · exact ⟨a, rfl, hle⟩
      · simp only
        split
        · next hlt => exact ⟨last, rfl, Nat.le_trans (Nat.le_of_lt hlt) hle⟩
        · exact ⟨a, rfl, hle⟩
    · obtain rfl := List.mem_singleton.mp hm
      rw [ha, Bool.not_true, if_neg Bool.false_ne_true]
      split
      · next a hleast =>
        split
        · exact ⟨b, rfl, Nat.le_refl _⟩
        · next hlt => exact ⟨a, hleast, Nat.le_of_not_lt hlt⟩
      · exact ⟨b, rfl, Nat.le_refl _⟩

theorem width_bodyMargin_le {tabWidth : Nat} {body : List BodyLine} (hm : b ∈ body)
    (ha : b.isAnchor) :
    Indent.width tabWidth (bodyMargin tabWidth body) ≤ Indent.width tabWidth b.line.indent := by
  obtain ⟨a, hleast, hle⟩ := exists_leastAnchor_le hm ha
  rw [bodyMargin, hleast]
  exact hle

theorem exists_bodyMargin {tabWidth : Nat} {body : List BodyLine}
    (h : ∃ b ∈ body, b.isBlank = false) :
    ∃ b ∈ body, b.isBlank = false ∧ bodyMargin tabWidth body = b.line.indent := by
  rw [bodyMargin]
  cases ha : leastAnchor tabWidth body with
  | some b =>
    obtain ⟨hm, ha⟩ := mem_of_leastAnchor ha
    simp only [BodyLine.isAnchor, Bool.and_eq_true, Bool.not_eq_true'] at ha
    exact ⟨b, hm, ha.1.1, rfl⟩
  | none =>
    cases hf : body.find? (!·.isBlank) with
    | some b => exact ⟨b, List.mem_of_find?_eq_some hf, by simpa using List.find?_some hf, rfl⟩
    | none =>
      obtain ⟨b, hm, hb⟩ := h
      have := List.find?_eq_none.mp hf b hm
      simp [hb] at this

theorem isIndent_of_mem_bodyMargin {tabWidth : Nat} {body : List BodyLine} :
    ∀ u ∈ bodyMargin tabWidth body, u.isIndent := by
  rw [bodyMargin]
  cases leastAnchor tabWidth body <|> body.find? (!·.isBlank) <|> body.head? with
  | none => simp
  | some b => exact RawLine.isIndent_of_mem_indent _

theorem Bounds.exists_bodyMargin {tabWidth width : Nat} {body blanks left : List Line}
    (h : Bounds tabWidth width body blanks left) :
    ∃ b ∈ lexedFrom .initial body, b.isBlank = false ∧
      bodyMargin tabWidth (lexedFrom .initial body) = b.line.indent := by
  obtain ⟨last, hlast, hblank⟩ := h.last
  exact Region.exists_bodyMargin (exists_full_lexedFrom hlast hblank)

/-- The margin of a block is wider than the indentation of its introducer. -/
theorem Extent.lt_width_bodyMargin {tabWidth width : Nat} {body blanks left : List Line}
    (h : Extent tabWidth width body blanks left) :
    width < Indent.width tabWidth (bodyMargin tabWidth (lexedFrom .initial body)) := by
  obtain ⟨b, hm, hb, hmargin⟩ := h.bounds.exists_bodyMargin
  have hstays := h.stays b.line (line_mem_of_mem_lexedFrom hm)
  change b.line.isBlank = false at hb
  rw [hmargin]
  simpa [Region.stays, hb] using hstays

-- ---------------------------------------------------------------------------
-- The margins of two blocks
-- ---------------------------------------------------------------------------

theorem isComment_congr {b b' : BodyLine} (hs : b'.start = b.start)
    (hk : (lexLine .embedded b'.start b'.line.content).tokens.map (·.kind) =
      (lexLine .embedded b.start b.line.content).tokens.map (·.kind)) :
    b'.isComment = b.isComment := by
  have hhead := congrArg (fun kinds => kinds.head?.any (· = .comment)) hk
  simp only [List.head?_map, Option.any_map] at hhead
  rw [BodyLine.isComment, BodyLine.isComment, BodyLine.startsStatement, hs]
  rw [hs] at hhead
  exact congrArg (b.start.startsStatement && ·) hhead

theorem isAnchor_congr {b b' : BodyLine} (hs : b'.start = b.start)
    (hb : b'.isBlank = b.isBlank) (hc : b'.isComment = b.isComment) :
    b'.isAnchor = b.isAnchor := by
  rw [BodyLine.isAnchor, BodyLine.isAnchor, hb, hc, BodyLine.startsStatement, hs]
  rfl

theorem rel_find? {S : BodyLine → BodyLine → Prop} {bs bs' : List BodyLine}
    (hS : ∀ {b b'}, S b b' → b'.isBlank = b.isBlank) (h : List.Forall₂ S bs bs') :
    Option.Rel (fun b b' => b.isBlank = false ∧ S b b')
      (bs.find? (!·.isBlank)) (bs'.find? (!·.isBlank)) := by
  induction h with
  | nil => exact .none
  | @cons b b' bs bs' hb _ ih =>
    rw [List.find?_cons, List.find?_cons, hS hb]
    cases hblank : b.isBlank with
    | true => exact ih
    | false => exact .some ⟨hblank, hb⟩

theorem exists_of_rel {tabWidth tabWidth' : Nat} {S : BodyLine → BodyLine → Prop}
    {bs bs' : List BodyLine}
    (hleast : Option.Rel S (leastAnchor tabWidth bs) (leastAnchor tabWidth' bs'))
    (hfind : Option.Rel S (bs.find? (!·.isBlank)) (bs'.find? (!·.isBlank)))
    (hne : ∃ b ∈ bs, b.isBlank = false) :
    ∃ b b', S b b' ∧ bodyMargin tabWidth bs = b.line.indent ∧
      bodyMargin tabWidth' bs' = b'.line.indent := by
  unfold bodyMargin
  generalize leastAnchor tabWidth bs = least at hleast ⊢
  generalize leastAnchor tabWidth' bs' = least' at hleast ⊢
  cases hleast with
  | some hb => exact ⟨_, _, hb, rfl, rfl⟩
  | none =>
    cases hf : bs.find? (!·.isBlank) with
    | none =>
      obtain ⟨b, hm, hb⟩ := hne
      have := List.find?_eq_none.mp hf b hm
      simp [hb] at this
    | some b =>
      rw [hf] at hfind
      generalize bs'.find? (!·.isBlank) = first' at hfind ⊢
      cases hfind with
      | some hb => exact ⟨_, _, hb, rfl, rfl⟩

/-- Of lines side by side the same are blank, the same are anchors, and the same are less wide. -/
structure Comparable (tabWidth tabWidth' : Nat) (S : BodyLine → BodyLine → Prop) : Prop where
  isBlank : ∀ {b b'}, S b b' → b'.isBlank = b.isBlank
  isAnchor : ∀ {b b'}, S b b' → b'.isAnchor = b.isAnchor
  width : ∀ {a a' b b'}, S a a' → S b b' → a.isBlank = false → b.isBlank = false →
    (Indent.width tabWidth' b'.line.indent < Indent.width tabWidth' a'.line.indent ↔
      Indent.width tabWidth b.line.indent < Indent.width tabWidth a.line.indent)

namespace Comparable

variable {tabWidth tabWidth' : Nat} {S : BodyLine → BodyLine → Prop} {bs bs' : List BodyLine}

theorem leastAnchor (hS : Comparable tabWidth tabWidth' S) (h : List.Forall₂ S bs bs') :
    Option.Rel (fun b b' => b.isBlank = false ∧ S b b')
      (leastAnchor tabWidth bs) (leastAnchor tabWidth' bs') := by
  -- both folds keep the same line
  refine List.rel_foldl ?_ Option.Rel.none h
  intro least least' hleast b b' hb
  unfold narrower
  rw [hS.isAnchor hb]
  split
  · exact hleast
  · next ha =>
    have hblank : b.isBlank = false := by
      simp only [BodyLine.isAnchor, Bool.not_eq_true', Bool.not_eq_false, Bool.and_eq_true] at ha
      exact ha.1.1
    cases hleast with
    | none => exact .some ⟨hblank, hb⟩
    | some ha' =>
      simp only [hS.width ha'.2 hb ha'.1 hblank]
      split
      · exact .some ⟨hblank, hb⟩
      · exact .some ha'

theorem bodyMargin (hS : Comparable tabWidth tabWidth' S) (h : List.Forall₂ S bs bs')
    (hne : ∃ b ∈ bs, b.isBlank = false) :
    ∃ b b', b.isBlank = false ∧ S b b' ∧ bodyMargin tabWidth bs = b.line.indent ∧
      bodyMargin tabWidth' bs' = b'.line.indent := by
  obtain ⟨b, b', ⟨hblank, hb⟩, hmargin⟩ :=
    exists_of_rel (hS.leastAnchor h) (rel_find? hS.isBlank h) hne
  exact ⟨b, b', hblank, hb, hmargin⟩

end Comparable

end Region

end Inlay
