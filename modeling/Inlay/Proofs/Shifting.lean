import Inlay.Proofs.Agreement

/-!
# Lines that are moved

A line with other indentation has the tokens that it had, at other columns (`Token.Shifted`). What
a header says does not depend on the columns of its tokens, since the only columns that are
compared are those of neighbours, so a line introduces the same wherever it begins
(`recognize_shifted`).
-/

namespace Inlay

open CodeUnit

/-- The same token of two lines, the bodies of which begin at columns `m` and `n`. -/
structure Token.Shifted (m n : Nat) (token token' : Token) : Prop where
  kind : token'.kind = token.kind
  text : token'.text = token.text
  column : ∃ c, token.column = m + c ∧ token'.column = n + c

section

variable {m n : Nat} {token token' : Token} {tokens tokens' : List Token} {r r' : HeaderRefusal}

theorem Token.Shifted.isWord (h : Shifted m n token token') (word : Text) :
    token'.isWord word = token.isWord word := by
  rw [Token.isWord, Token.isWord, h.kind, h.text]

theorem Token.Shifted.isPunct (h : Shifted m n token token') (u : CodeUnit) :
    token'.isPunct u = token.isPunct u := by
  rw [Token.isPunct, Token.isPunct, h.kind, h.text]

theorem Token.Shifted.column_eq_iff {next next' : Token} (h : Shifted m n token token')
    (hn : Shifted m n next next') :
    next'.column = token'.column + 1 ↔ next.column = token.column + 1 := by
  obtain ⟨c, hc, hc'⟩ := h.column
  obtain ⟨d, hd, hd'⟩ := hn.column
  omega

-- ---------------------------------------------------------------------------
-- Headers
-- ---------------------------------------------------------------------------

/-- The refusals have the same fault, whatever the token is at which it was found. -/
def HeaderRefusal.SameFault (r r' : HeaderRefusal) : Prop := r'.fault = r.fault

namespace Header

open HeaderRefusal (SameFault)

/-- The same was taken off the front of tokens, and what is left of them is the same too. -/
inductive SameFront (m n : Nat) : α × List Token → α × List Token → Prop
  | mk {a rest rest'} : List.Forall₂ (Token.Shifted m n) rest rest' →
    SameFront m n (a, rest) (a, rest')

theorem takeWord_shifted (h : List.Forall₂ (Token.Shifted m n) tokens tokens') (word : Text) :
    SameFront m n (takeWord word tokens) (takeWord word tokens') := by
  cases h with
  | nil => exact .mk .nil
  | cons htoken hrest =>
    rw [takeWord, takeWord, htoken.isWord]
    split
    · exact .mk hrest
    · exact .mk (.cons htoken hrest)

theorem takeNames_shifted (h : List.Forall₂ (Token.Shifted m n) tokens tokens') :
    Agree SameFault (SameFront m n) (takeNames tokens) (takeNames tokens') := by
  fun_induction takeNames tokens generalizing tokens' with
  | case1 =>
    cases h
    exact .ok (.mk .nil)
  | case2 name hword =>
    obtain _ | ⟨hname, _ | _⟩ := h
    simp only [takeNames, hname.kind, hname.text, hword, if_true]
    exact .ok (.mk .nil)
  | case3 name hword separator hpoint =>
    obtain _ | ⟨hname, _ | ⟨hseparator, _ | _⟩⟩ := h
    simp only [takeNames, hname.kind, hseparator.isPunct, hword, hpoint, if_true]
    exact .error rfl
  | case4 name hword separator hpoint next behind hnext ih =>
    obtain _ | ⟨hname, _ | ⟨hseparator, _ | ⟨htoken, hbehind⟩⟩⟩ := h
    rw [takeNames.eq_def (_ :: _ :: _ :: _)]
    simp only [hname.kind, hname.text, hseparator.isPunct, htoken.kind, hword, hpoint, hnext,
      if_true]
    exact (ih (.cons htoken hbehind)).bind fun _ _ ⟨hrest⟩ => .ok (.mk hrest)
  | case5 name hword separator hpoint next behind hnext =>
    obtain _ | ⟨hname, _ | ⟨hseparator, _ | ⟨htoken, hbehind⟩⟩⟩ := h
    rw [takeNames.eq_def (_ :: _ :: _ :: _)]
    simp only [hname.kind, hseparator.isPunct, htoken.kind, hword, hpoint, hnext, if_true,
      if_false]
    exact .error rfl
  | case6 name hword separator behind hpoint =>
    obtain _ | ⟨hname, _ | ⟨hseparator, hbehind⟩⟩ := h
    simp only [takeNames, hname.kind, hname.text, hseparator.isPunct, hword, hpoint, if_true,
      Bool.false_eq_true, if_false]
    exact .ok (.mk (.cons hseparator hbehind))
  | case7 name rest hword =>
    obtain _ | ⟨hname, hrest⟩ := h
    rw [takeNames.eq_def]
    simp only [hname.kind, hword, if_false]
    exact .ok (.mk (.cons hname hrest))

theorem takeStore_shifted (h : List.Forall₂ (Token.Shifted m n) tokens tokens') :
    Agree SameFault (SameFront m n) (takeStore tokens) (takeStore tokens') := by
  have hin := takeWord_shifted h inWord
  unfold takeStore
  generalize takeWord inWord tokens = taken at hin ⊢
  generalize takeWord inWord tokens' = taken' at hin ⊢
  cases hin with
  | @mk found _ _ hrest =>
    cases found with
    | false => exact .ok (.mk hrest)
    | true =>
      refine (takeNames_shifted hrest).bind fun _ _ ⟨hbehind⟩ => ?_
      dsimp only
      split
      · exact .error rfl
      · exact .ok (.mk hbehind)

theorem takeColon_shifted (h : List.Forall₂ (Token.Shifted m n) tokens tokens') :
    Agree SameFault (fun _ _ => True) (takeColon tokens) (takeColon tokens') := by
  cases h with
  | nil => exact .error rfl
  | cons htoken hrest =>
    rw [takeColon.eq_def, takeColon.eq_def]
    simp only [htoken.isPunct]
    split
    · cases hrest with
      | nil => exact .ok trivial
      | cons hnext _ =>
        simp only [hnext.kind, hnext.text]
        split
        · exact .ok trivial
        · exact .error rfl
    · simp only [htoken.text]
      exact .error rfl

theorem ofClauses_shifted (h : List.Forall₂ (Token.Shifted m n) tokens tokens') (init : Bool)
    (priority : Option Number) :
    Agree SameFault (fun a b => b.1 = a.1)
      (ofClauses init priority tokens) (ofClauses init priority tokens') := by
  have hearly := takeWord_shifted h earlyWord
  unfold ofClauses
  generalize takeWord earlyWord tokens = taken at hearly ⊢
  generalize takeWord earlyWord tokens' = taken' at hearly ⊢
  cases hearly with
  | @mk early rest rest' hrest =>
    have hhide := takeWord_shifted hrest hideWord
    dsimp only
    generalize takeWord hideWord rest = taken at hhide ⊢
    generalize takeWord hideWord rest' = taken' at hhide ⊢
    obtain ⟨hrest⟩ := hhide
    exact (takeStore_shifted hrest).bind fun _ _ ⟨hrest⟩ =>
      (takeColon_shifted hrest).bind fun _ _ _ => .ok rfl

theorem takePriority_shifted (h : List.Forall₂ (Token.Shifted m n) tokens tokens') :
    Option.Rel (SameFront m n) (takePriority tokens) (takePriority tokens') := by
  cases h with
  | nil => exact .some (.mk .nil)
  | cons htoken hrest =>
    rw [takePriority.eq_def, takePriority.eq_def]
    simp only [htoken.isPunct, htoken.kind, htoken.text]
    split
    · cases hrest with
      | nil => exact .none
      | cons hdigits hrest =>
        simp only [hdigits.kind, hdigits.text, htoken.column_eq_iff hdigits]
        split
        · exact .some (.mk hrest)
        · exact .none
    · split
      · exact .some (.mk hrest)
      · exact .some (.mk (.cons htoken hrest))

theorem head_string_shifted (h : List.Forall₂ (Token.Shifted m n) tokens tokens') :
    tokens'.head?.any (·.kind = .string) = tokens.head?.any (·.kind = .string) := by
  cases h with
  | nil => rfl
  | cons htoken _ => simp only [List.head?_cons, Option.any_some, htoken.kind]

theorem some_ofClauses_shifted (h : List.Forall₂ (Token.Shifted m n) tokens tokens') (init : Bool)
    (priority : Option Number) :
    Agree SameFault (Option.Rel fun a b => b.1 = a.1)
      (some <$> ofClauses init priority tokens) (some <$> ofClauses init priority tokens') :=
  (ofClauses_shifted h init priority).map fun _ _ hheader => .some hheader

/-- A line says the same as a header wherever it begins. -/
theorem ofTokens?_shifted (h : List.Forall₂ (Token.Shifted m n) tokens tokens') :
    Agree SameFault (Option.Rel fun a b => b.1 = a.1) (ofTokens? tokens) (ofTokens? tokens') := by
  cases h with
  | nil => exact .ok .none
  | @cons first first' rest rest' hfirst hrest =>
    rw [ofTokens?.eq_def, ofTokens?.eq_def]
    simp only [hfirst.isWord, head_string_shifted hrest]
    split
    · split
      · exact .ok .none
      · exact some_ofClauses_shifted hrest _ _
    · split
      · have hpriority := takePriority_shifted hrest
        generalize takePriority rest = taken at hpriority ⊢
        generalize takePriority rest' = taken' at hpriority ⊢
        cases hpriority with
        | none => exact .ok .none
        | some hrest =>
          cases hrest with
          | @mk priority rest rest' hrest =>
            have hpython := takeWord_shifted hrest pythonWord
            dsimp only
            generalize takeWord pythonWord rest = taken at hpython ⊢
            generalize takeWord pythonWord rest' = taken' at hpython ⊢
            cases hpython with
            | @mk found _ _ hrest =>
              cases found with
              | false => exact .ok .none
              | true => exact some_ofClauses_shifted hrest _ _
      · exact .ok .none

end Header

end

-- ---------------------------------------------------------------------------
-- Regions with the same code
-- ---------------------------------------------------------------------------

/-- The lines are the same but for the indentation in the document, and how they end. -/
structure RegionLine.SameCode (line line' : RegionLine) : Prop where
  index : line'.index = line.index
  codeIndent : line'.codeIndent = line.codeIndent
  body : line'.body = line.body

/-- The regions are of one form and are introduced by the same line, and they hold the same code in
as many lines. -/
structure Region.SameCode (r r' : Region) : Prop where
  form : r'.form = r.form
  introducer : r'.introducer = r.introducer
  startLine : r'.startLine = r.startLine
  lines : List.Forall₂ RegionLine.SameCode r.lines r'.lines
  code : r'.code = r.code

/-- The faults are the same; that a line is off the margin is one fault, whatever the margin. -/
inductive StructureCause.Same : StructureCause → StructureCause → Prop
  | introducer {fault} : Same (.introducer fault) (.introducer fault)
  | openDedent : Same (.indentation .openDedent) (.indentation .openDedent)
  | offMargin {indent indent' margin margin'} :
    Same (.indentation (.offMargin indent margin)) (.indentation (.offMargin indent' margin'))

/-- The errors are the same but for the column. -/
structure StructureError.SameLine (e e' : StructureError) : Prop where
  cause : StructureCause.Same e.cause e'.cause
  line : e'.line = e.line

section

variable {line line' : Line} {s : LexState} {w t : Text} {a b : Nat}

theorem StructureError.sameLine_introducer {fault : IntroducerFault} {n column column' : Nat} :
    SameLine ⟨.introducer fault, n, column⟩ ⟨.introducer fault, n, column'⟩ := ⟨.introducer, rfl⟩

-- ---------------------------------------------------------------------------
-- Statements
-- ---------------------------------------------------------------------------

theorem Text.slice_append_add (w t : Text) (a b : Nat) :
    slice (w ++ t) (w.length + a) (w.length + b) = slice t a b := by
  rw [slice, ← List.drop_drop, List.drop_left, Nat.add_sub_add_left, slice]

theorem Text.trimEnd_append_of_not_isBlank (h : t.isBlank = false) :
    trimEnd (w ++ t) = w ++ trimEnd t := by
  obtain ⟨z, ht, hz⟩ := dropEndWhile_append_dropped CodeUnit.isBlank t
  have hne : trimEnd t ≠ [] := fun hnil => Bool.eq_false_iff.mp h (trimEnd_eq_nil_iff.mp hnil)
  obtain ⟨u, hu⟩ := Option.ne_none_iff_exists'.mp (mt List.getLast?_eq_none_iff.mp hne)
  conv => lhs; rw [ht]
  exact trimEnd_append hu (getLast?_dropEndWhile hu) hz

namespace Introducer

theorem ofMarker_eq (hc : line.content = w ++ marker :: t) :
    ofMarker line w.length =
      if (Text.trimEnd (marker :: t)).length ≤ 1 + gap t then
        .error ⟨.introducer .missingCode, line.index + 1, w.length + 1⟩
      else .ok (.statement w.length (w.length + (1 + gap t))
        (w.length + (Text.trimEnd (marker :: t)).length)) := by
  have hblank : Text.isBlank (marker :: t) = false := isBlank_marker [] t
  have htrim : line.content.trimEnd.length = w.length + (Text.trimEnd (marker :: t)).length := by
    rw [hc, Text.trimEnd_append_of_not_isBlank hblank, List.length_append]
  have hdrop : line.content.drop (w.length + 1) = t := by rw [hc, drop_marker]
  simp only [ofMarker, hdrop, htrim, Nat.add_assoc, Nat.add_le_add_iff_left]

theorem sameCode_ofStatement (hi : line'.index = line.index) (hc : line.content = w ++ t)
    (hc' : line'.content = w' ++ t) :
    Region.SameCode (.ofStatement line (w.length + a) (w.length + b))
      (.ofStatement line' (w'.length + a) (w'.length + b)) := by
  have hslice : Text.slice line'.content (w'.length + a) (w'.length + b) =
      Text.slice line.content (w.length + a) (w.length + b) := by
    rw [hc, hc', Text.slice_append_add, Text.slice_append_add]
  exact
    { form := rfl
      introducer := hi
      startLine := hi
      lines := .cons ⟨hi, rfl, hslice⟩ .nil
      code := congrArg (· ++ [lineFeed]) hslice }

theorem tokens_shifted (h : line'.body = line.body) :
    List.Forall₂ (Token.Shifted line.indent.length line'.indent.length)
      (lexLine .host .initial line.content).tokens
      (lexLine .host .initial line'.content).tokens := by
  have htokens : ∀ line : Line, (lexLine .host .initial line.content).tokens =
      (Lexeme.lexCode .host 0 0 line.body).tokens.map fun token =>
        { token with column := token.column + line.indent.length } := by
    intro line
    conv => lhs; rw [← RawLine.indent_append_body line.toRawLine]
    exact congrArg Lexeme.Reached.tokens
      (Lexeme.lexCode_append (RawLine.isIndent_of_mem_indent line.toRawLine))
  rw [htokens, htokens, h, List.forall₂_map_left_iff, List.forall₂_map_right_iff]
  exact List.forall₂_same.mpr fun token _ =>
    ⟨rfl, rfl, token.column, Nat.add_comm .., Nat.add_comm ..⟩

theorem body_of_marker {first : Token} {rest : List Token}
    (h : (lexLine .host .initial line.content).tokens = first :: rest)
    (hp : first.isPunct marker) :
    ∃ t, line.body = marker :: t ∧ first.column = line.indent.length := by
  obtain ⟨w, t, hc, hw, hcolumn⟩ := first_marker_iff.mp ⟨first, rest, h, hp, rfl⟩
  have hindent : line.indent = w := by rw [RawLine.indent, hc, indentation_marker hw]
  have hbody := RawLine.indent_append_body line.toRawLine
  rw [hc, hindent, List.append_cancel_left_eq] at hbody
  exact ⟨t, hbody, by rw [hindent, hcolumn]⟩

theorem ofMarker_shifted (hi : line'.index = line.index) (hbody : line'.body = line.body)
    (ht : line.body = marker :: t) :
    Agree StructureError.SameLine (Beside StructureError.SameLine Region.SameCode line line')
      (ofMarker line line.indent.length) (ofMarker line' line'.indent.length) := by
  have hc : line.content = line.indent ++ marker :: t := by rw [← ht, RawLine.indent_append_body]
  have hc' : line'.content = line'.indent ++ marker :: t := by
    rw [← ht, ← hbody, RawLine.indent_append_body]
  rw [ofMarker_eq hc, ofMarker_eq hc', hi]
  split
  · exact .error StructureError.sameLine_introducer
  · exact .ok (.statement (sameCode_ofStatement hi hc hc'))

theorem recognize_marker_shifted {first first' : Token} {rest rest' : List Token}
    (hi : line'.index = line.index) (hbody : line'.body = line.body)
    (h : Token.Shifted line.indent.length line'.indent.length first first')
    (htokens : (lexLine .host .initial line.content).tokens = first :: rest)
    (hp : first.isPunct marker) :
    Agree StructureError.SameLine (Beside StructureError.SameLine Region.SameCode line line')
      (recognize line .initial (first :: rest)) (recognize line' .initial (first' :: rest')) := by
  obtain ⟨t, ht, hcolumn⟩ := body_of_marker htokens hp
  obtain ⟨c, hc, hc'⟩ := h.column
  have hzero : c = 0 := by omega
  have hp' : first'.isPunct marker := by rw [h.isPunct, hp]
  unfold recognize
  rw [if_neg (by decide), if_neg (by decide)]
  dsimp only
  rw [if_pos hp, if_pos hp', hcolumn, hc', hzero, Nat.add_zero]
  exact ofMarker_shifted hi hbody ht

theorem recognize_header_shifted {first first' : Token} {rest rest' : List Token}
    (hi : line'.index = line.index)
    (h : List.Forall₂ (Token.Shifted line.indent.length line'.indent.length)
      (first :: rest) (first' :: rest'))
    (hp : ¬ first.isPunct marker) (hp' : ¬ first'.isPunct marker) :
    Agree StructureError.SameLine (Beside StructureError.SameLine Region.SameCode line line')
      (recognize line .initial (first :: rest)) (recognize line' .initial (first' :: rest')) := by
  have hheader := Header.ofTokens?_shifted h
  unfold recognize
  rw [if_neg (by decide), if_neg (by decide)]
  dsimp only
  rw [if_neg hp, if_neg hp']
  generalize Header.ofTokens? (first :: rest) = header at hheader ⊢
  generalize Header.ofTokens? (first' :: rest') = header' at hheader ⊢
  cases hheader with
  | @error refusal refusal' hfault =>
    have hfault : refusal'.fault = refusal.fault := hfault
    refine .error ?_
    rw [refusalError, refusalError, hfault, hi]
    exact StructureError.sameLine_introducer
  | ok hheader =>
    cases hheader with
    | none => exact .ok .none
    | @some a b hab =>
      obtain ⟨header, colon⟩ := a
      obtain ⟨_, colon'⟩ := b
      obtain rfl : _ = header := hab
      refine .ok (.block ?_)
      rw [hi]
      exact StructureError.sameLine_introducer

theorem recognize_shifted (hi : line'.index = line.index) (hbody : line'.body = line.body)
    (s : LexState) :
    Agree StructureError.SameLine (Beside StructureError.SameLine Region.SameCode line line')
      (recognize line s (lexLine .host s line.content).tokens)
      (recognize line' s (lexLine .host s line'.content).tokens) := by
  by_cases hs : s = .initial
  · subst hs
    have htokens := tokens_shifted hbody
    generalize hl : (lexLine .host .initial line.content).tokens = tokens at htokens ⊢
    generalize (lexLine .host .initial line'.content).tokens = tokens' at htokens ⊢
    cases htokens with
    | nil => exact .ok .none
    | @cons first first' rest rest' hfirst hrest =>
      by_cases hp : first.isPunct marker
      · exact recognize_marker_shifted hi hbody hfirst hl hp
      · exact recognize_header_shifted hi (.cons hfirst hrest) hp (by rwa [hfirst.isPunct])
  · rw [recognize_of_ne_initial line _ hs, recognize_of_ne_initial line' _ hs]
    exact .ok .none

end Introducer

end

end Inlay
