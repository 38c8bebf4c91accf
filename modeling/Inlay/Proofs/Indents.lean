import Inlay.Proofs.Blocks

/-!
# Indentations behind a margin

Of an indentation the margin of a block is taken off, by its text or by its width: `Extends` says
that a rest is what remains. From a line of a block this rest is kept exactly if the indentation of
the line means something (`dedented?_eq_some_iff`); a line that means something and does not extend
the margin is refused, and some that go on with a statement are (`dedented?_eq_none_iff`).
-/

namespace Inlay

open CodeUnit

-- ---------------------------------------------------------------------------
-- Widths of indentations side by side
-- ---------------------------------------------------------------------------

namespace Indent

variable {tabWidth n : Nat} {a b : Text}

theorem le_foldl_advance (tabWidth n : Nat) (b : Text) : n ≤ b.foldl (advance tabWidth) n := by
  induction b generalizing n with
  | nil => exact Nat.le_refl n
  | cons u b ih =>
    refine Nat.le_trans ?_ (ih (advance tabWidth n u))
    rw [advance]
    split <;> [skip; split] <;> omega

theorem le_width_append (tabWidth : Nat) (a b : Text) :
    width tabWidth a ≤ width tabWidth (a ++ b) := by
  rw [width, width, List.foldl_append]
  exact le_foldl_advance ..

theorem advance_eq_self_iff {u : CodeUnit} :
    advance tabWidth n u = n ↔ u ≠ space ∧ (u = tab → tabWidth = 0) := by
  have hmod : 0 < tabWidth → n % tabWidth < tabWidth := Nat.mod_lt n
  rw [advance]
  split
  · next htab =>
    have hspace : u ≠ space := htab ▸ by decide
    rw [and_iff_right hspace, imp_iff_right htab]
    omega
  · next htab => split <;> simp_all

theorem foldl_advance_eq_self_iff :
    b.foldl (advance tabWidth) n = n ↔ ∀ u ∈ b, u ≠ space ∧ (u = tab → tabWidth = 0) := by
  induction b generalizing n with
  | nil => simp
  | cons u b ih =>
    have hfirst := le_foldl_advance tabWidth n [u]
    have hmore := le_foldl_advance tabWidth (advance tabWidth n u) b
    rw [List.foldl_cons, List.forall_mem_cons, ← advance_eq_self_iff (n := n), ← ih (n := n)]
    constructor
    · intro h
      rw [h] at hmore
      have hsame : advance tabWidth n u = n := Nat.le_antisymm hmore hfirst
      rw [hsame] at h
      exact ⟨hsame, h⟩
    · rintro ⟨hsame, h⟩
      rwa [hsame]

theorem width_append_eq_iff : width tabWidth (a ++ b) = width tabWidth a ↔ width tabWidth b = 0 := by
  rw [width, width, width, List.foldl_append, foldl_advance_eq_self_iff, foldl_advance_eq_self_iff]

theorem spaces_length (h : ∀ u ∈ a, u = space) : spaces a.length = a :=
  (List.eq_replicate_iff.mpr ⟨rfl, h⟩).symm

theorem width_of_spaces (h : ∀ u ∈ a, u = space) : width tabWidth a = a.length :=
  calc
    width tabWidth a = width tabWidth (spaces a.length) := by rw [spaces_length h]
    _ = a.length := width_spaces tabWidth a.length

theorem width_append_spaces (tabWidth : Nat) (h : ∀ u ∈ b, u = space) :
    width tabWidth (a ++ b) = width tabWidth a + b.length := by
  rw [width, List.foldl_append, ← width]
  generalize width tabWidth a = n
  induction b generalizing n with
  | nil => rfl
  | cons u b ih =>
    obtain ⟨rfl, hb⟩ := List.forall_mem_cons.mp h
    rw [List.foldl_cons, ih hb]
    simp [advance, show space ≠ tab by decide, Nat.add_assoc, Nat.add_comm 1]

-- ---------------------------------------------------------------------------
-- What a margin leaves
-- ---------------------------------------------------------------------------

variable {indentation : Indentation} {margin rest indent : Text}

/-- An indentation is the margin and a rest behind it. Where indentations are compared by their
text, it begins with the margin; where tabs are expanded, the rest is made of spaces and as long as
the indentation is wider than the margin. -/
def Extends (indentation : Indentation) (margin rest indent : Text) : Prop :=
  match indentation.policy with
  | .reject => indent = margin ++ rest
  | .expandTabs => (∀ u ∈ rest, u = space) ∧
      width indentation.tabWidth indent = width indentation.tabWidth margin + rest.length

theorem extends_of_reject (h : indentation.policy = .reject) :
    Extends indentation margin rest indent ↔ indent = margin ++ rest := by
  rw [Extends, h]

theorem extends_of_expandTabs (h : indentation.policy = .expandTabs) :
    Extends indentation margin rest indent ↔ (∀ u ∈ rest, u = space) ∧
      width indentation.tabWidth indent = width indentation.tabWidth margin + rest.length := by
  rw [Extends, h]

theorem extends_append (margin : Text)
    (h : indentation.policy = .expandTabs → ∀ u ∈ rest, u = space) :
    Extends indentation margin rest (margin ++ rest) := by
  cases hp : indentation.policy with
  | reject => exact (extends_of_reject hp).mpr rfl
  | expandTabs => exact (extends_of_expandTabs hp).mpr ⟨h hp, width_append_spaces _ (h hp)⟩

theorem extends_drop_iff (h : indentation.policy = .reject) (hfront : margin <+: indent) :
    Extends indentation margin rest indent ↔ indent.drop margin.length = rest := by
  obtain ⟨w, rfl⟩ := hfront
  rw [extends_of_reject h, List.drop_left, List.append_cancel_left_eq]

theorem extends_spaces_iff (h : indentation.policy = .expandTabs)
    (hle : width indentation.tabWidth margin ≤ width indentation.tabWidth indent) :
    Extends indentation margin rest indent ↔
      spaces (width indentation.tabWidth indent - width indentation.tabWidth margin) = rest := by
  rw [extends_of_expandTabs h]
  constructor
  · rintro ⟨hspaces, hwidth⟩
    rw [hwidth, Nat.add_sub_cancel_left, spaces_length hspaces]
  · rintro rfl
    refine ⟨fun u hu => (List.mem_replicate.mp hu).2, ?_⟩
    rw [spaces, List.length_replicate]
    omega

theorem exists_extends_of_reject (h : indentation.policy = .reject) :
    (∃ rest, Extends indentation margin rest indent) ↔ margin <+: indent :=
  exists_congr fun _ => (extends_of_reject h).trans eq_comm

theorem exists_extends_of_expandTabs (h : indentation.policy = .expandTabs) :
    (∃ rest, Extends indentation margin rest indent) ↔
      width indentation.tabWidth margin ≤ width indentation.tabWidth indent := by
  constructor
  · rintro ⟨rest, hrest⟩
    have hwidth := ((extends_of_expandTabs h).mp hrest).2
    omega
  · exact fun hle => ⟨_, (extends_spaces_iff h hle).mpr rfl⟩

namespace Extends

theorem eq_append (h : Extends indentation margin rest indent)
    (hp : indentation.policy = .reject) : indent = margin ++ rest :=
  (extends_of_reject hp).mp h

theorem eq_space (h : Extends indentation margin rest indent)
    (hp : indentation.policy = .expandTabs) : ∀ u ∈ rest, u = space :=
  ((extends_of_expandTabs hp).mp h).1

theorem isIndent (h : Extends indentation margin rest indent) (hi : ∀ u ∈ indent, u.isIndent) :
    ∀ u ∈ rest, u.isIndent := by
  cases hp : indentation.policy with
  | reject =>
    rw [h.eq_append hp] at hi
    exact (List.forall_mem_append.mp hi).2
  | expandTabs =>
    intro u hu
    rw [h.eq_space hp u hu]
    decide

theorem eq_nil (h : Extends indentation margin rest []) : rest = [] := by
  cases hp : indentation.policy with
  | reject => exact (List.append_eq_nil_iff.mp (h.eq_append hp).symm).2
  | expandTabs =>
    obtain ⟨-, hwidth⟩ := (extends_of_expandTabs hp).mp h
    exact List.length_eq_zero_iff.mp (Nat.eq_zero_of_add_eq_zero hwidth.symm).2

end Extends

end Indent

namespace Region

variable {indentation : Indentation} {margin rest : Text} {b : BodyLine}

theorem isAnchor_iff :
    b.isAnchor ↔ b.isBlank = false ∧ b.startsStatement ∧ b.isComment = false := by
  simp [BodyLine.isAnchor, and_assoc]

-- ---------------------------------------------------------------------------
-- The indentation of one line
-- ---------------------------------------------------------------------------

/-- The indentation of the line means something: how deep its statement is nested, or white space
in a string. -/
def BodyLine.isSignificant (b : BodyLine) : Bool := b.isAnchor || (!b.isBlank && b.inString)

/-- The line goes on with a statement, outside strings. -/
def BodyLine.continues (b : BodyLine) : Bool := !b.isBlank && !b.inString && !b.startsStatement

theorem isComment_of_startsStatement (h : b.startsStatement = false) : b.isComment = false := by
  rw [BodyLine.isComment, h, Bool.false_and]

theorem startsStatement_of_inString (h : b.inString) : b.startsStatement = false := by
  unfold BodyLine.inString LexState.inString at h
  cases hc : b.start.context <;> simp_all [BodyLine.startsStatement, LexState.startsStatement]

/-- What a line can be, apart from blank. -/
inductive BodyLine.Kind (b : BodyLine) : Prop
  | string (inString : b.inString) (startsStatement : b.startsStatement = false)
    (isComment : b.isComment = false)
  | continuation (inString : b.inString = false) (startsStatement : b.startsStatement = false)
    (isComment : b.isComment = false)
  | comment (inString : b.inString = false) (startsStatement : b.startsStatement)
    (isComment : b.isComment)
  | anchor (inString : b.inString = false) (startsStatement : b.startsStatement)
    (isComment : b.isComment = false)

theorem BodyLine.kind (b : BodyLine) : Kind b := by
  cases hs : b.inString with
  | true =>
    have hstarts := startsStatement_of_inString hs
    exact .string hs hstarts (isComment_of_startsStatement hstarts)
  | false =>
    cases hstarts : b.startsStatement with
    | true =>
      cases hcomment : b.isComment with
      | true => exact .comment hs hstarts hcomment
      | false => exact .anchor hs hstarts hcomment
    | false => exact .continuation hs hstarts (isComment_of_startsStatement hstarts)

theorem isBlank_of_isSignificant (h : b.isSignificant) : b.isBlank = false := by
  simp only [BodyLine.isSignificant, Bool.or_eq_true, isAnchor_iff, Bool.and_eq_true,
    Bool.not_eq_true'] at h
  exact h.elim (·.1) (·.1)

theorem extends_or_eq_nil (h : dedented? indentation margin b = some rest) :
    Indent.Extends indentation margin rest b.line.indent ∨ rest = [] := by
  unfold dedented? at h
  dsimp only at h
  split at h
  · exact .inr (Option.some.inj h).symm
  · cases hp : indentation.policy with
    | reject =>
      rw [hp] at h
      dsimp only at h
      split_ifs at h with hfront
      · have hfront := List.isPrefixOf_iff_prefix.mp hfront
        exact .inl ((Indent.extends_drop_iff hp hfront).mpr (Option.some.inj h))
      all_goals exact .inr (Option.some.inj h).symm
    | expandTabs =>
      rw [hp] at h
      dsimp only at h
      split_ifs at h with hle
      · exact .inl ((Indent.extends_spaces_iff hp hle).mpr (Option.some.inj h))
      all_goals exact .inr (Option.some.inj h).symm

theorem isIndent_of_dedented? (h : dedented? indentation margin b = some rest) :
    ∀ u ∈ rest, u.isIndent := by
  obtain hextends | rfl := extends_or_eq_nil h
  · exact hextends.isIndent (RawLine.isIndent_of_mem_indent _)
  · simp

theorem dedented?_of_indent_eq_nil (h : dedented? indentation margin b = some rest)
    (hi : b.line.indent = []) : rest = [] := by
  obtain hextends | rfl := extends_or_eq_nil h
  · exact (hi ▸ hextends).eq_nil
  · rfl

theorem dedented?_of_extends (hb : b.isBlank → b.inString)
    (h : Indent.Extends indentation margin rest b.line.indent) :
    dedented? indentation margin b = some rest := by
  rw [dedented?, if_neg (by simpa using hb)]
  cases hp : indentation.policy with
  | reject =>
    have hfront := (Indent.exists_extends_of_reject hp).mp ⟨rest, h⟩
    simp [hfront, (Indent.extends_drop_iff hp hfront).mp h]
  | expandTabs =>
    have hle := (Indent.exists_extends_of_expandTabs hp).mp ⟨rest, h⟩
    simp [hle, (Indent.extends_spaces_iff hp hle).mp h]

theorem dedented?_append (hb : b.isBlank → b.inString) (hi : b.line.indent = margin ++ rest)
    (hspaces : indentation.policy = .expandTabs → ∀ u ∈ rest, u = space) :
    dedented? indentation margin b = some rest :=
  dedented?_of_extends hb (hi ▸ Indent.extends_append margin hspaces)

/-- What becomes of a line that does not extend the margin: it is refused if its indentation means
something, or if it goes on with a statement and is no less wide. -/
theorem dedented?_of_not_extends (hb : b.isBlank = false)
    (h : ∀ rest, ¬ Indent.Extends indentation margin rest b.line.indent)
    (hle : b.isAnchor → Indent.width indentation.tabWidth margin ≤
      Indent.width indentation.tabWidth b.line.indent) :
    dedented? indentation margin b =
      if b.isSignificant || (b.continues && decide (Indent.width indentation.tabWidth margin ≤
          Indent.width indentation.tabWidth b.line.indent)) then none else some [] := by
  rw [dedented?, hb, Bool.false_and, if_neg Bool.false_ne_true, BodyLine.isSignificant,
    BodyLine.continues, hb]
  cases hp : indentation.policy with
  | reject =>
    have hfront := mt (Indent.exists_extends_of_reject hp).mpr (not_exists.mpr h)
    cases b.kind with
    | string hs hstarts hcomment => simp [hfront, hs, hstarts, hcomment]
    | continuation hs hstarts hcomment =>
      obtain hlt | hge := Nat.lt_or_ge (Indent.width indentation.tabWidth b.line.indent)
        (Indent.width indentation.tabWidth margin)
      · simp [BodyLine.isAnchor, hfront, hs, hstarts, hcomment, hlt]
      · simp [BodyLine.isAnchor, hfront, hs, hstarts, hcomment, hge]
    | comment hs hstarts hcomment => simp [BodyLine.isAnchor, hfront, hs, hstarts, hcomment]
    | anchor hs hstarts hcomment => simp [BodyLine.isAnchor, hfront, hb, hs, hstarts, hcomment]
  | expandTabs =>
    have hwidth := mt (Indent.exists_extends_of_expandTabs hp).mpr (not_exists.mpr h)
    have hanchor : b.isAnchor = false := Bool.eq_false_iff.mpr (mt hle hwidth)
    cases b.kind with
    | string hs _ hcomment => simp [hwidth, hs, hcomment]
    | continuation hs hstarts hcomment => simp [hwidth, hanchor, hs, hcomment]
    | comment hs hstarts hcomment => simp [hwidth, hanchor, hs, hcomment]
    | anchor _ hstarts hcomment => simp [isAnchor_iff.mpr ⟨hb, hstarts, hcomment⟩] at hanchor

theorem exists_dedented?_of_isBlank (indentation : Indentation) (margin : Text) (hb : b.isBlank) :
    ∃ rest, dedented? indentation margin b = some rest := by
  rw [dedented?, hb]
  cases b.inString with
  | false => exact ⟨[], rfl⟩
  | true =>
    cases indentation.policy with
    | reject => by_cases hfront : margin <+: b.line.indent <;> simp [hfront]
    | expandTabs =>
      by_cases hle : Indent.width indentation.tabWidth margin ≤
        Indent.width indentation.tabWidth b.line.indent <;> simp [hle]

theorem dedented?_eq_some_iff (h : b.isSignificant)
    (hle : b.isAnchor → Indent.width indentation.tabWidth margin ≤
      Indent.width indentation.tabWidth b.line.indent) :
    dedented? indentation margin b = some rest ↔
      Indent.Extends indentation margin rest b.line.indent := by
  have hb := isBlank_of_isSignificant h
  have hstring : b.isBlank → b.inString := by simp [hb]
  refine ⟨fun hrest => ?_, dedented?_of_extends hstring⟩
  by_cases hextends : ∃ rest', Indent.Extends indentation margin rest' b.line.indent
  · obtain ⟨rest', hrest'⟩ := hextends
    rw [dedented?_of_extends hstring hrest'] at hrest
    exact Option.some.inj hrest ▸ hrest'
  · rw [dedented?_of_not_extends hb (not_exists.mp hextends) hle, h] at hrest
    cases hrest

theorem dedented?_eq_none_iff
    (hle : b.isAnchor → Indent.width indentation.tabWidth margin ≤
      Indent.width indentation.tabWidth b.line.indent) :
    dedented? indentation margin b = none ↔
      (∀ rest, ¬ Indent.Extends indentation margin rest b.line.indent) ∧
        (b.isSignificant ∨ b.continues ∧ Indent.width indentation.tabWidth margin ≤
          Indent.width indentation.tabWidth b.line.indent) := by
  cases hb : b.isBlank with
  | true =>
    obtain ⟨rest, hrest⟩ := exists_dedented?_of_isBlank indentation margin hb
    have hsignificant : ¬ b.isSignificant := fun h => by
      rw [isBlank_of_isSignificant h] at hb
      cases hb
    simp [hrest, hsignificant, BodyLine.continues, hb]
  | false =>
    by_cases hextends : ∃ rest, Indent.Extends indentation margin rest b.line.indent
    · obtain ⟨rest, hrest⟩ := hextends
      rw [dedented?_of_extends (by simp [hb]) hrest]
      simp only [reduceCtorEq, false_iff]
      exact fun h => h.1 rest hrest
    · have hnot := not_exists.mp hextends
      rw [dedented?_of_not_extends hb hnot hle, and_iff_right hnot]
      cases b.isSignificant <;> simp

end Region

end Inlay
