import Inlay.Proofs.Lexing

/-!
# The tokens of a line

A line is made up of its tokens and of the indentation between them. The lexer takes a text apart
into such pieces (`Lexeme.tiled_lexCode`), so that a token is found again at its column, and a unit
that belongs to none is indentation (`lexLine_cover`).
-/

namespace Inlay

open CodeUnit

def Token.stop (token : Token) : Nat := token.column + token.text.length

/-- The tokens of a line follow one another, hold what stands there, and leave out no unit but
indentation. Nothing stands behind a comment. -/
structure Token.Cover (content : Text) (tokens : List Token) : Prop where
  ordered : tokens.Pairwise fun a b => a.column < b.column ∧ a.stop ≤ b.column
  text : ∀ token ∈ tokens, Text.slice content token.column token.stop = token.text
  between : ∀ k u, content[k]? = some u →
    (∀ token ∈ tokens, ¬ (token.column ≤ k ∧ k < token.stop)) →
      u = space ∨ u = tab ∨ u = formFeed
  comment : ∀ token ∈ tokens, token.kind = .comment →
    tokens.getLast? = some token ∧ token.stop = content.length

-- ---------------------------------------------------------------------------
-- Texts piece by piece
-- ---------------------------------------------------------------------------

/-- A text that stands at a column is made up of tokens, none of them empty, and of units of
indentation between them. Nothing stands behind a comment. -/
inductive Lexeme.Tiled : Nat → Text → List Token → Prop
  | nil {column} : Tiled column [] []
  | indent {column u t tokens} : u.isIndent → Tiled (column + 1) t tokens →
    Tiled column (u :: t) tokens
  | token {token t tokens} : token.text ≠ [] → (token.kind = .comment → t = []) →
    Tiled token.stop t tokens → Tiled token.column (token.text ++ t) (token :: tokens)

namespace Lexeme.Tiled

variable {column k n : Nat} {kind : TokenKind} {w t : Text} {token : Token} {tokens : List Token}

theorem behind (hne : w ≠ []) (hkind : kind ≠ .comment)
    (h : Tiled (column + w.length) t tokens) :
    Tiled column (w ++ t) (⟨kind, w, column⟩ :: tokens) :=
  @Tiled.token ⟨kind, w, column⟩ t tokens hne (fun hc => absurd hc hkind) h

theorem whole (hne : t ≠ []) : Tiled column t [⟨kind, t, column⟩] := by
  have h := @Tiled.token ⟨kind, t, column⟩ [] [] hne (fun _ => rfl) .nil
  rwa [List.append_nil] at h

theorem cut (hpos : 0 < n) (hle : n ≤ t.length) (hkind : kind ≠ .comment)
    (h : Tiled (column + n) (t.drop n) tokens) :
    Tiled column t (⟨kind, t.take n, column⟩ :: tokens) := by
  have hlength : (t.take n).length = n := List.length_take_of_le hle
  have hne : t.take n ≠ [] := List.ne_nil_of_length_pos (by omega)
  have h : Tiled column (t.take n ++ t.drop n) (⟨kind, t.take n, column⟩ :: tokens) :=
    behind hne hkind (by rwa [hlength])
  rwa [List.take_append_drop] at h

theorem eq_nil (h : Tiled column t tokens) (ht : t = []) : tokens = [] := by
  cases h with
  | nil => rfl
  | indent => cases ht
  | token hne => exact absurd (List.append_eq_nil_iff.mp ht).1 hne

theorem within (h : Tiled column t tokens) (hm : token ∈ tokens) :
    column ≤ token.column ∧ token.stop ≤ column + t.length := by
  induction h with
  | nil => cases hm
  | indent _ _ ih =>
    have := ih hm
    simp only [List.length_cons]
    omega
  | @token first t tokens _ _ _ ih =>
    simp only [List.length_append]
    rcases List.mem_cons.mp hm with rfl | hm
    · simp only [Token.stop]
      omega
    · have := ih hm
      simp only [Token.stop] at this ⊢
      omega

theorem text_ne_nil (h : Tiled column t tokens) (hm : token ∈ tokens) : token.text ≠ [] := by
  induction h with
  | nil => cases hm
  | indent _ _ ih => exact ih hm
  | token hne _ _ ih =>
    rcases List.mem_cons.mp hm with rfl | hm
    · exact hne
    · exact ih hm

theorem ordered (h : Tiled column t tokens) :
    tokens.Pairwise fun a b => a.column < b.column ∧ a.stop ≤ b.column := by
  induction h with
  | nil => exact .nil
  | indent _ _ ih => exact ih
  | @token first t tokens hne _ h ih =>
    refine List.pairwise_cons.mpr ⟨fun token hm => ?_, ih⟩
    have hstop := (h.within hm).1
    have hpos := List.length_pos_iff.mpr hne
    exact ⟨by simp only [Token.stop] at hstop; omega, hstop⟩

theorem prefix_drop (h : Tiled column t tokens) (hm : token ∈ tokens) :
    token.text <+: t.drop (token.column - column) := by
  induction h with
  | nil => cases hm
  | @indent column u t tokens _ h ih =>
    have := (h.within hm).1
    have hcolumn : token.column - column = (token.column - (column + 1)) + 1 := by omega
    rw [hcolumn, List.drop_succ_cons]
    exact ih hm
  | @token first t tokens _ _ h ih =>
    rcases List.mem_cons.mp hm with rfl | hm
    · rw [Nat.sub_self]
      exact List.prefix_append ..
    · have hstop := (h.within hm).1
      have hcolumn : token.column - first.column =
          first.text.length + (token.column - first.stop) := by
        simp only [Token.stop] at hstop ⊢
        omega
      rw [hcolumn, List.drop_length_add_append]
      exact ih hm

theorem isIndent_of_not_covered (h : Tiled column t tokens) (hk : t[k]? = some u)
    (hnot : ∀ token ∈ tokens, ¬ (token.column ≤ column + k ∧ column + k < token.stop)) :
    u.isIndent := by
  induction h generalizing k with
  | nil => simp at hk
  | @indent column v t tokens hv _ ih =>
    cases k with
    | zero => simpa [← Option.some.inj hk] using hv
    | succ k =>
      refine ih (k := k) hk fun token hm => ?_
      rw [Nat.add_right_comm, Nat.add_assoc]
      exact hnot token hm
  | @token first t tokens _ _ _ ih =>
    obtain ⟨hfirst, hnot⟩ := List.forall_mem_cons.mp hnot
    have hle : first.text.length ≤ k := by
      simp only [Token.stop] at hfirst
      omega
    rw [List.getElem?_append_right hle] at hk
    refine ih hk fun token hm => ?_
    have hcolumn : first.stop + (k - first.text.length) = first.column + k := by
      simp only [Token.stop]
      omega
    rw [hcolumn]
    exact hnot token hm

theorem comment_last (h : Tiled column t tokens) (hm : token ∈ tokens)
    (hkind : token.kind = .comment) :
    tokens.getLast? = some token ∧ token.stop = column + t.length := by
  induction h with
  | nil => cases hm
  | @indent column v t tokens _ _ ih =>
    obtain ⟨hlast, hstop⟩ := ih hm
    exact ⟨hlast, by rw [hstop, List.length_cons]; omega⟩
  | @token first t tokens _ hcomment h ih =>
    rcases List.mem_cons.mp hm with rfl | hm
    · obtain rfl := hcomment hkind
      rw [h.eq_nil rfl, List.append_nil]
      exact ⟨rfl, rfl⟩
    · obtain ⟨hlast, hstop⟩ := ih hm
      refine ⟨by rw [List.getLast?_cons, hlast]; rfl, ?_⟩
      rw [hstop, List.length_append, Token.stop]
      omega

theorem cover (h : Tiled 0 t tokens) : Token.Cover t tokens where
  ordered := h.ordered
  text token hm := by
    rw [Text.slice, Token.stop, Nat.add_sub_cancel_left]
    exact (List.prefix_iff_eq_take.mp (h.prefix_drop hm)).symm
  between k u hk hnot :=
    isIndent_iff.mp (h.isIndent_of_not_covered hk (by simpa only [Nat.zero_add] using hnot))
  comment token hm hkind := by simpa using h.comment_last hm hkind

end Lexeme.Tiled

-- ---------------------------------------------------------------------------
-- What the lexer makes of a text
-- ---------------------------------------------------------------------------

section

variable {d : Delimiter} {t : Text} {u : CodeUnit} {n : Nat} {dialect : Dialect}

namespace Delimiter

theorem length_text_pos (d : Delimiter) : 0 < d.text.length := by
  rw [text, List.length_replicate]
  split <;> decide

theorem exists_of_closing? (h : d.closing? t = some n) :
    ∃ body rest, t = body ++ (d.text ++ rest) ∧ n = body.length + d.text.length := by
  fun_induction closing? d t generalizing n with
  | case1 | case2 => cases h
  | case3 v rest ih =>
    obtain ⟨m, hm, rfl⟩ := Option.map_eq_some_iff.mp h
    obtain ⟨body, behind, rfl, rfl⟩ := ih hm
    exact ⟨backslash :: v :: body, behind, rfl, by simp only [List.length_cons]; omega⟩
  | case4 u rest _ hclose =>
    obtain ⟨behind, hbehind⟩ := List.isPrefixOf_iff_prefix.mp hclose
    cases h
    exact ⟨[], behind, hbehind.symm, by simp⟩
  | case5 u rest _ _ ih =>
    obtain ⟨m, hm, rfl⟩ := Option.map_eq_some_iff.mp h
    obtain ⟨body, behind, rfl, rfl⟩ := ih hm
    exact ⟨u :: body, behind, rfl, by simp only [List.length_cons]; omega⟩

theorem closing?_bounds (h : d.closing? t = some n) : 0 < n ∧ n ≤ t.length := by
  obtain ⟨body, rest, rfl, rfl⟩ := exists_of_closing? h
  have := d.length_text_pos
  simp only [List.length_append]
  omega

end Delimiter

theorem Dialect.prefix_of_opening? (h : dialect.opening? t = some d) : d.text <+: t := by
  cases t with
  | nil => cases h
  | cons u t =>
    obtain ⟨quote, hquote, rfl⟩ := Option.map_eq_some_iff.mp h
    have hu : quote.unit = u := by simpa using List.find?_some hquote
    simp only [Delimiter.text, hu]
    split
    · next htriple => exact List.isPrefixOf_iff_prefix.mp htriple
    · exact ⟨t, rfl⟩

namespace Lexeme

theorem tiled_lexCode (dialect : Dialect) (column depth : Nat) (t : Text) :
    Tiled column t (lexCode dialect column depth t).tokens := by
  fun_induction lexCode dialect column depth t with
  | case1 => exact .nil
  | case2 column depth u rest hu ih => exact .indent hu ih
  | case3 column depth rest => exact .whole (List.cons_ne_nil _ _)
  | case4 column depth u rest _ _ d hd opening closing hclosing size ih =>
    obtain ⟨hpos, hle⟩ := Delimiter.closing?_bounds hclosing
    rw [List.length_drop] at hle
    have hopening := (Dialect.prefix_of_opening? hd).length_le
    have hdrop : (u :: rest).drop size = rest.drop (size - 1) := List.drop_cons (by omega)
    exact .cut (by omega) (by omega) (by decide) (hdrop ▸ ih)
  | case5 => exact .whole (List.cons_ne_nil _ _)
  | case6 column depth u rest _ _ _ _ word ih =>
    have h := Tiled.behind (List.cons_ne_nil _ _) (by decide : TokenKind.word ≠ .comment) ih
    rwa [List.cons_append, List.takeWhile_append_dropWhile] at h
  | case7 column depth u rest _ _ _ _ _ digits ih =>
    have h := Tiled.behind (List.cons_ne_nil _ _) (by decide : TokenKind.number ≠ .comment) ih
    rwa [List.cons_append, List.takeWhile_append_dropWhile] at h
  | case8 column depth u rest _ _ _ _ _ ih =>
    exact Tiled.behind (w := [u]) (List.cons_ne_nil _ _) (by decide) ih

theorem tokens_reach_nil {s : LexState} (h : s.inString) :
    (reach dialect s []).tokens = [⟨.string, [], 0⟩] := by
  obtain ⟨context, depth, continued⟩ := s
  cases context with
  | string d => rfl
  | code | comment => cases h

/-- An empty line in a string has a token without text. Every other line is made up of its
tokens. -/
theorem tiled_reach (s : LexState) (content : Text) (h : content = [] → s.inString = false) :
    Tiled 0 content (reach dialect s content).tokens := by
  unfold reach
  split
  · next d hcontext =>
    split
    · next n hclosing =>
      obtain ⟨hpos, hle⟩ := Delimiter.closing?_bounds hclosing
      refine .cut hpos hle (by decide) ?_
      rw [Nat.zero_add]
      exact tiled_lexCode ..
    · have hs : s.inString := by rw [LexState.inString, hcontext]
      exact .whole fun hnil => Bool.eq_false_iff.mp (h hnil) hs
  · exact tiled_lexCode ..

end Lexeme

end

/-- Tokens stand on their line one behind the other, and between them nothing but indentation. None
is empty but that of an empty line in a string. -/
theorem lexLine_cover (dialect : Dialect) (s : LexState) (content : Text) :
    Token.Cover content (lexLine dialect s content).tokens ∧
      (content = [] → s.inString → (lexLine dialect s content).tokens = [⟨.string, [], 0⟩]) ∧
      ∀ token ∈ (lexLine dialect s content).tokens, token.text = [] →
        content = [] ∧ s.inString := by
  have hempty : content = [] → s.inString →
      (lexLine dialect s content).tokens = [⟨.string, [], 0⟩] := by
    rintro rfl hs
    exact Lexeme.tokens_reach_nil hs
  by_cases h : content = [] ∧ s.inString
  · refine ⟨?_, hempty, fun _ _ _ => h⟩
    rw [hempty h.1 h.2, h.1]
    exact ⟨List.pairwise_singleton _ _, by simp [Text.slice], by simp, by simp⟩
  · have htiled : Lexeme.Tiled 0 content (lexLine dialect s content).tokens :=
      Lexeme.tiled_reach s content fun hnil => by simpa [hnil] using h
    exact ⟨htiled.cover, hempty, fun token hm hnil => absurd hnil (htiled.text_ne_nil hm)⟩

end Inlay
