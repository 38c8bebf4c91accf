import Inlay.Lexeme
import Inlay.Line

/-!
# What the lexer passes over

Leading indentation and lines of white space do not show in the state that a line leaves
(`after_indent`, `after_blank`), so a lexer that is given lines with another margin is in the same
state before each of them. Where no logical line is open the state is the initial one.
-/

namespace Inlay

-- ---------------------------------------------------------------------------
-- White space among the other units
-- ---------------------------------------------------------------------------

namespace CodeUnit

theorem isIndent_iff {u : CodeUnit} : u.isIndent ↔ u = space ∨ u = tab ∨ u = formFeed := by
  simp [isIndent, or_assoc]

theorem blank_range {u : CodeUnit} (h : u.isBlank) : u.toNat ≤ 32 ∨ 160 ≤ u.toNat := by
  simp only [isBlank, wideBlanks, Bool.or_eq_true, Bool.and_eq_true, decide_eq_true_eq,
    beq_iff_eq, List.contains_iff_mem, List.mem_cons, List.not_mem_nil, or_false,
    UInt16.le_iff_toNat_le] at h
  rcases h with (⟨-, h⟩ | rfl) | h
  · left
    change u.toNat ≤ 13 at h
    omega
  · left; decide
  · right
    rcases h with rfl | rfl | rfl | rfl | rfl | rfl | rfl | rfl | rfl | rfl | rfl | rfl | rfl |
      rfl | rfl | rfl | rfl | rfl | rfl <;> decide

theorem ne_of_isBlank {u v : CodeUnit} (h : u.isBlank) (hv : 32 < v.toNat ∧ v.toNat < 160) :
    u ≠ v := by
  rintro rfl
  have := blank_range h
  omega

theorem ne_backslash_of_isBlank {u : CodeUnit} (h : u.isBlank) : u ≠ backslash :=
  ne_of_isBlank h (by decide)

theorem ne_quote_of_isBlank {u : CodeUnit} (h : u.isBlank) (q : Quote) : u ≠ q.unit :=
  ne_of_isBlank h (by cases q <;> decide)

theorem isDigit_of_isBlank {u : CodeUnit} (h : u.isBlank) : u.isDigit = false := by
  have := blank_range h
  simp only [isDigit, Bool.and_eq_false_iff, decide_eq_false_iff_not, UInt16.le_iff_toNat_le]
  change ¬ 48 ≤ u.toNat ∨ ¬ u.toNat ≤ 57
  omega

theorem isWordStart_of_isBlank {u : CodeUnit} (h : u.isBlank) : Lexeme.isWordStart u = false := by
  have hr := blank_range h
  simp only [Lexeme.isWordStart, isUpper, isLower, Bool.or_eq_false_iff, Bool.and_eq_false_iff,
    decide_eq_false_iff_not, UInt16.le_iff_toNat_le]
  refine ⟨⟨?_, ?_⟩, ne_of_isBlank h (by decide)⟩
  · change ¬ 65 ≤ u.toNat ∨ ¬ u.toNat ≤ 90
    omega
  · change ¬ 97 ≤ u.toNat ∨ ¬ u.toNat ≤ 122
    omega

theorem bracketDepth_of_isBlank {u : CodeUnit} (h : u.isBlank) (depth : Nat) :
    Lexeme.bracketDepth depth u = depth := by
  have hne {v : CodeUnit} (hv : 32 < v.toNat ∧ v.toNat < 160) : u ≠ v := ne_of_isBlank h hv
  simp [Lexeme.bracketDepth, hne (v := ofChar '(') (by decide), hne (v := ofChar '[') (by decide),
    hne (v := ofChar '\x7b') (by decide), hne (v := ofChar ')') (by decide),
    hne (v := ofChar ']') (by decide), hne (v := ofChar '\x7d') (by decide)]

end CodeUnit

namespace Text

theorem isIndent_of_mem_indentation (hu : u ∈ indentation t) : u.isIndent :=
  List.all_eq_true.mp List.all_takeWhile u hu

theorem not_isIndent_of_unindented (h : unindented t = u :: rest) : u.isIndent = false := by
  have := List.head?_dropWhile_not CodeUnit.isIndent t
  rw [← unindented, h] at this
  simpa using this

theorem indentation_unindented (t : Text) : indentation (unindented t) = [] := by
  cases h : unindented t with
  | nil => rfl
  | cons u rest =>
    rw [indentation, List.takeWhile_cons_of_neg]
    simp [not_isIndent_of_unindented h]

theorem indentation_append {w t : Text} (h : ∀ u ∈ w, u.isIndent) :
    indentation (w ++ t) = w ++ indentation t :=
  List.takeWhile_append_of_pos h

theorem unindented_append {w t : Text} (h : ∀ u ∈ w, u.isIndent) :
    unindented (w ++ t) = unindented t :=
  List.dropWhile_append_of_pos h

theorem indentation_of_isIndent {t : Text} (h : ∀ u ∈ t, u.isIndent) : indentation t = t := by
  rw [← List.append_nil t, indentation_append h]
  rfl

theorem isBlank_of_isIndent {t : Text} (h : ∀ u ∈ t, u.isIndent) : t.isBlank :=
  List.all_eq_true.mpr fun u hu => CodeUnit.isBlank_of_isIndent (h u hu)

theorem isBlank_append {t t' : Text} : (t ++ t').isBlank = (t.isBlank && t'.isBlank) :=
  List.all_append

theorem isBlank_drop_trimEnd (t : Text) : Text.isBlank (t.drop t.trimEnd.length) := by
  obtain ⟨dropped, ht, hb⟩ := dropEndWhile_append_dropped CodeUnit.isBlank t
  have hdrop : (t.trimEnd ++ dropped).drop t.trimEnd.length = dropped := List.drop_left
  rw [Text.trimEnd, ← ht] at hdrop
  rw [Text.trimEnd, hdrop]
  exact hb

theorem ne_backslash_of_isBlank {t : Text} (h : t.isBlank) :
    t.getLast? ≠ some CodeUnit.backslash := by
  intro hl
  exact CodeUnit.ne_backslash_of_isBlank (List.all_eq_true.mp h _ (List.mem_of_getLast? hl)) rfl

end Text

theorem RawLine.isIndent_of_mem_indent (line : RawLine) : ∀ u ∈ line.indent, u.isIndent :=
  fun _ => Text.isIndent_of_mem_indentation

theorem RawLine.isBlank_of_content_eq_nil {line : RawLine} (h : line.content = []) :
    line.isBlank := by
  simp [isBlank, h, Text.isBlank]

theorem RawLine.content_ne_nil {line : RawLine} (h : line.isBlank = false) : line.content ≠ [] :=
  fun hnil => Bool.eq_false_iff.mp h (isBlank_of_content_eq_nil hnil)

-- ---------------------------------------------------------------------------
-- Delimiters
-- ---------------------------------------------------------------------------

namespace Delimiter

variable {d : Delimiter} {w t : Text}

theorem isPrefixOf_of_isBlank (h : u.isBlank) : d.text.isPrefixOf (u :: t) = false := by
  have hne := (CodeUnit.ne_quote_of_isBlank h d.quote).symm
  cases hd : d.triple <;>
    simp [text, hd, List.replicate_succ, List.isPrefixOf_cons_cons, beq_eq_false_iff_ne.mpr hne]

theorem closing?_append (h : w.isBlank) (t : Text) :
    d.closing? (w ++ t) = (d.closing? t).map (· + w.length) := by
  induction w with
  | nil => simp
  | cons u w ih =>
    simp only [Text.isBlank, List.all_cons, Bool.and_eq_true] at h
    obtain ⟨hu, hw⟩ := h
    rw [List.cons_append, closing?.eq_def]
    simp only [CodeUnit.ne_backslash_of_isBlank hu, if_false, isPrefixOf_of_isBlank hu, ih hw]
    cases d.closing? t <;> simp [Nat.add_assoc]

theorem closing?_of_isBlank (h : w.isBlank) : d.closing? w = none := by
  simpa [closing?] using closing?_append (d := d) h []

end Delimiter

theorem Dialect.opening?_eq_none {dialect : Dialect} {u : CodeUnit} (h : ∀ q : Quote, q.unit ≠ u)
    (t : Text) : dialect.opening? (u :: t) = none := by
  simp [opening?, List.find?_eq_none, h]

theorem Dialect.opening?_of_isBlank {dialect : Dialect} (h : u.isBlank) :
    dialect.opening? (u :: t) = none :=
  opening?_eq_none (fun q hq => CodeUnit.ne_quote_of_isBlank h q hq.symm) t

-- ---------------------------------------------------------------------------
-- Code
-- ---------------------------------------------------------------------------

namespace Lexeme

variable {dialect : Dialect} {u : CodeUnit} {w t : Text}

theorem isWordPart_of_isIndent (h : u.isIndent) : isWordPart u = false := by
  have hblank := CodeUnit.isBlank_of_isIndent h
  simp [isWordPart, CodeUnit.isWordStart_of_isBlank hblank, CodeUnit.isDigit_of_isBlank hblank]

theorem of_isWordPart (h : isWordPart u) :
    u.isIndent = false ∧ u ≠ CodeUnit.ofChar '#' ∧ ∀ q : Quote, q.unit ≠ u := by
  refine ⟨?_, ?_, fun q => ?_⟩
  · cases hu : u.isIndent with
    | false => rfl
    | true => simp [isWordPart_of_isIndent hu] at h
  · rintro rfl
    exact absurd h (by decide)
  · rintro rfl
    revert h
    cases q <;> decide

/-- The same tokens further to the right. -/
def Reached.moved (r : Reached) (n : Nat) : Reached :=
  { r with tokens := r.tokens.map fun token => { token with column := token.column + n } }

theorem Reached.moved_behind (token : Token) (r : Reached) (n : Nat) :
    (r.behind token).moved n = (r.moved n).behind { token with column := token.column + n } := rfl

theorem lexCode_add (dialect : Dialect) (column depth n : Nat) (t : Text) :
    lexCode dialect (column + n) depth t = (lexCode dialect column depth t).moved n := by
  -- the column is passed through every case, and each token takes the one at which it starts
  fun_induction lexCode dialect column depth t with
  | case1 => simp [lexCode, Reached.moved]
  | case2 column depth u rest hu ih => rw [lexCode, if_pos hu, ← ih, Nat.add_right_comm]
  | case3 column depth rest hu =>
    rw [lexCode, if_neg hu, if_pos rfl]
    rfl
  | case4 column depth u rest hu hc d hd opening closing hclosing size ih =>
    dsimp only [opening, size] at *
    rw [lexCode, if_neg hu, if_neg hc, Reached.moved_behind, ← ih]
    simp only [hd, hclosing, Nat.add_right_comm column n]
  | case5 column depth u rest hu hc d hd opening hclosing =>
    dsimp only [opening] at *
    rw [lexCode, if_neg hu, if_neg hc]
    simp only [hd, hclosing]
    rfl
  | case6 column depth u rest hu hc hd hw word ih =>
    dsimp only [word] at *
    rw [lexCode, if_neg hu, if_neg hc, Reached.moved_behind, ← ih]
    simp only [hd, hw, if_true, Nat.add_right_comm column n]
  | case7 column depth u rest hu hc hd hw hn digits ih =>
    dsimp only [digits] at *
    rw [lexCode, if_neg hu, if_neg hc, Reached.moved_behind, ← ih]
    simp only [hd, hw, hn, if_true, Bool.false_eq_true, if_false, Nat.add_right_comm column n]
  | case8 column depth u rest hu hc hd hw hn ih =>
    rw [lexCode, if_neg hu, if_neg hc, Reached.moved_behind, ← ih]
    simp only [hd, hw, hn, Bool.false_eq_true, if_false, Nat.add_right_comm column n]

theorem lexCode_append (h : ∀ u ∈ w, u.isIndent) :
    lexCode dialect column depth (w ++ t) = (lexCode dialect column depth t).moved w.length := by
  rw [← lexCode_add]
  induction w generalizing column with
  | nil => rfl
  | cons u w ih =>
    rw [List.cons_append, lexCode, if_pos (h u (by simp)), ih fun v hv => h v (by simp [hv]),
      List.length_cons, Nat.add_assoc, Nat.add_comm 1]

theorem lexCode_punct {u : CodeUnit} (hindent : u.isIndent = false)
    (hcomment : u ≠ CodeUnit.ofChar '#') (hquote : ∀ q : Quote, q.unit ≠ u)
    (hword : isWordStart u = false) (hdigit : u.isDigit = false) :
    lexCode dialect column depth (u :: t) =
      (lexCode dialect (column + 1) (bracketDepth depth u) t).behind ⟨.punct, [u], column⟩ := by
  rw [lexCode, if_neg (by simp [hindent]), if_neg hcomment, Dialect.opening?_eq_none hquote]
  simp [hword, hdigit]

/-- White space is no code: it leaves no comment and no string, and closes and opens nothing. -/
theorem lexCode_of_isBlank (dialect : Dialect) (column depth : Nat) (h : t.isBlank) :
    (lexCode dialect column depth t).context = .code ∧
      (lexCode dialect column depth t).depth = depth ∧
      ∀ token ∈ (lexCode dialect column depth t).tokens,
        token.kind = .punct ∧ ∃ u, u.isBlank ∧ token.text = [u] := by
  induction t generalizing column with
  | nil => simp [lexCode]
  | cons u t ih =>
    simp only [Text.isBlank, List.all_cons, Bool.and_eq_true] at h
    obtain ⟨hu, ht⟩ := h
    rw [lexCode]
    split
    · exact ih _ ht
    · rw [if_neg (CodeUnit.ne_of_isBlank hu (by decide)), Dialect.opening?_of_isBlank hu]
      simp only [CodeUnit.isWordStart_of_isBlank hu, CodeUnit.isDigit_of_isBlank hu,
        CodeUnit.bracketDepth_of_isBlank hu, Bool.false_eq_true, if_false]
      obtain ⟨hcontext, hdepth, htokens⟩ := ih (column + 1) ht
      refine ⟨hcontext, hdepth, ?_⟩
      intro token hm
      rcases List.mem_cons.mp hm with rfl | hm
      · exact ⟨rfl, u, hu, rfl⟩
      · exact htokens token hm

-- ---------------------------------------------------------------------------
-- Lines
-- ---------------------------------------------------------------------------

theorem reach_append (s : LexState) (h : ∀ u ∈ w, u.isIndent) :
    (reach dialect s (w ++ t)).context = (reach dialect s t).context ∧
      (reach dialect s (w ++ t)).depth = (reach dialect s t).depth ∧
      (reach dialect s (w ++ t)).tokens.map (·.kind) = (reach dialect s t).tokens.map (·.kind) := by
  obtain ⟨context, depth, continued⟩ := s
  have hcode : ∀ column, lexCode dialect column depth (w ++ t) =
      (lexCode dialect column depth t).moved w.length := fun _ => lexCode_append h
  cases context with
  | code => simp [reach, hcode, Reached.moved]
  | comment => simp [reach, hcode, Reached.moved]
  | string d =>
    have hclosing := Delimiter.closing?_append (d := d) (Text.isBlank_of_isIndent h) t
    cases hc : d.closing? t with
    | none => simp [reach, hclosing, hc]
    | some n =>
      have hdrop : (w ++ t).drop (n + w.length) = t.drop n := by
        rw [List.drop_append, List.drop_eq_nil_of_le (by omega), List.nil_append,
          Nat.add_sub_cancel]
      simp [reach, hclosing, hc, hdrop, lexCode_add, Reached.behind, Reached.moved]

theorem reach_of_isBlank (s : LexState) (h : t.isBlank) :
    (reach dialect s t).context = (reach dialect s []).context ∧
      (reach dialect s t).depth = (reach dialect s []).depth := by
  obtain ⟨context, depth, continued⟩ := s
  obtain ⟨hcontext, hdepth, -⟩ := lexCode_of_isBlank dialect 0 depth h
  cases context with
  | code => simp [reach, hcontext, hdepth, lexCode]
  | comment => simp [reach, hcontext, hdepth, lexCode]
  | string d => simp [reach, Delimiter.closing?_of_isBlank h, Delimiter.closing?]

theorem Reached.finish_congr {r r' : Reached} (hc : r.context = r'.context)
    (hd : r.depth = r'.depth)
    (hl : w.getLast? = some CodeUnit.backslash ↔ t.getLast? = some CodeUnit.backslash) :
    r.finish dialect w = r'.finish dialect t := by
  simp only [finish, hc, hd, hl]

end Lexeme

namespace LexState

variable {s : LexState} {dialect : Dialect} {w t : Text}

theorem after_indent (s : LexState) (h : ∀ u ∈ w, u.isIndent) :
    s.after dialect (w ++ t) = s.after dialect t := by
  obtain ⟨hc, hd, -⟩ := Lexeme.reach_append s h
  refine Lexeme.Reached.finish_congr hc hd ?_
  have hw := Text.ne_backslash_of_isBlank (Text.isBlank_of_isIndent h)
  rw [List.getLast?_append]
  cases t.getLast? <;> simp [hw]

theorem after_blank (s : LexState) (h : t.isBlank) : s.after dialect t = s.after dialect [] := by
  obtain ⟨hc, hd⟩ := Lexeme.reach_of_isBlank s h
  exact Lexeme.Reached.finish_congr hc hd (by simp [Text.ne_backslash_of_isBlank h])

theorem kinds_indent (s : LexState) (h : ∀ u ∈ w, u.isIndent) :
    (lexLine dialect s (w ++ t)).tokens.map (·.kind) =
      (lexLine dialect s t).tokens.map (·.kind) :=
  (Lexeme.reach_append s h).2.2

theorem startsStatement_iff : s.startsStatement ↔ s = initial := by
  obtain ⟨context, depth, continued⟩ := s
  simp [startsStatement, initial, and_assoc]

theorem isOpen_eq_false_iff : s.isOpen = false ↔ s = initial := by
  rw [isOpen_eq_not_startsStatement, Bool.not_eq_false', startsStatement_iff]

theorem afterAll_cons : afterAll dialect s (t :: ts) = afterAll dialect (s.after dialect t) ts :=
  rfl

theorem afterAll_append :
    afterAll dialect s (ts ++ us) = afterAll dialect (afterAll dialect s ts) us :=
  List.foldl_append

end LexState

end Inlay
