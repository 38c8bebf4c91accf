import Inlay.Proofs.Outcomes
import Inlay.Proofs.Tokens

/-!
# Where diagnostics point

A diagnostic comes from a header, from the lines of a block, or from the engine, whose places are in
the code of a region. All of them name a line of the document, and most of them a unit of it or the
end of its content.
-/

namespace Inlay

open CodeUnit

-- ---------------------------------------------------------------------------
-- Tokens
-- ---------------------------------------------------------------------------

theorem Lexeme.column_lt_of_mem_lexCode {dialect : Dialect} {column depth : Nat} {t : Text}
    {token : Token} (h : token ∈ (lexCode dialect column depth t).tokens) :
    token.column < column + t.length := by
  have htiled := tiled_lexCode dialect column depth t
  obtain ⟨-, hstop⟩ := htiled.within h
  have hpos := List.length_pos_iff.mpr (htiled.text_ne_nil h)
  rw [Token.stop] at hstop
  omega

-- ---------------------------------------------------------------------------
-- Headers
-- ---------------------------------------------------------------------------

namespace Header

variable {tokens : List Token}

/-- What a reader yields satisfies a condition, and a token that it stops at was given to it. -/
def Yields (tokens : List Token) (P : α → Prop) : Except HeaderRefusal α → Prop
  | .ok a => P a
  | .error refusal => ∀ token ∈ refusal.found, token ∈ tokens

theorem Yields.bind {P : α → Prop} {Q : β → Prop} {x : Except HeaderRefusal α}
    {f : α → Except HeaderRefusal β} (hx : Yields tokens P x)
    (hf : ∀ a, P a → Yields tokens Q (f a)) : Yields tokens Q (x >>= f) := by
  cases x with
  | ok a => exact hf a hx
  | error refusal => exact hx

theorem Yields.mono {P Q : α → Prop} {x : Except HeaderRefusal α} (h : Yields rest P x)
    (hrest : rest <:+ tokens) (hPQ : ∀ a, P a → Q a) : Yields tokens Q x := by
  cases x with
  | ok a => exact hPQ a h
  | error refusal => exact fun token hm => hrest.mem (h token hm)

theorem takeWord_suffix (word : Text) (tokens : List Token) :
    (takeWord word tokens).2 <:+ tokens := by
  fun_cases takeWord word tokens <;> simp

theorem takeNames_yields (tokens : List Token) :
    Yields tokens (·.2 <:+ tokens) (takeNames tokens) := by
  fun_induction takeNames tokens with
  | case1 | case2 | case3 | case5 | case6 | case7 => simp [Yields]
  | case4 name _ separator _ next rest _ ih =>
    have hrest : next :: rest <:+ name :: separator :: next :: rest := ⟨[name, separator], rfl⟩
    refine (ih.mono hrest fun _ h => h).bind ?_
    rintro ⟨names, left⟩ hleft
    exact hleft.trans hrest

theorem takeStore_yields (tokens : List Token) :
    Yields tokens (·.2 <:+ tokens) (takeStore tokens) := by
  have hword := takeWord_suffix inWord tokens
  rw [takeStore]
  split
  · next rest heq =>
    rw [heq] at hword
    exact hword
  · next rest heq =>
    rw [heq] at hword
    refine ((takeNames_yields rest).mono hword fun _ h => h.trans hword).bind ?_
    rintro ⟨names, left⟩ hleft
    dsimp only
    split
    · exact fun token hm => hleft.mem (List.mem_of_head? hm)
    · exact hleft

theorem takeColon_yields (tokens : List Token) :
    Yields tokens (fun column => ∃ token ∈ tokens, token.column = column) (takeColon tokens) := by
  fun_cases takeColon tokens <;> simp_all [Yields]

theorem ofClauses_yields (init : Bool) (priority : Option Number) (tokens : List Token) :
    Yields tokens (fun found => ∃ token ∈ tokens, token.column = found.2)
      (ofClauses init priority tokens) := by
  have hwords := (takeWord_suffix hideWord _).trans (takeWord_suffix earlyWord tokens)
  refine ((takeStore_yields _).mono hwords fun _ h => h.trans hwords).bind ?_
  rintro ⟨store, rest⟩ hrest
  refine ((takeColon_yields rest).mono hrest ?_).bind fun column h => h
  rintro column ⟨token, hm, hcolumn⟩
  exact ⟨token, hrest.mem hm, hcolumn⟩

theorem takePriority_suffix {rest : List Token} {priority : Option Number}
    (h : takePriority tokens = some (priority, rest)) : rest <:+ tokens := by
  revert h
  fun_cases takePriority tokens with
  | case1 | case6 => rintro ⟨⟩; exact List.suffix_rfl
  | case2 | case4 => rintro ⟨⟩
  | case3 first _ _ digits => rintro ⟨⟩; exact ⟨[first, digits], rfl⟩
  | case5 first => rintro ⟨⟩; exact ⟨[first], rfl⟩

theorem ofTokens?_yields (tokens : List Token) :
    Yields tokens (fun found => ∀ block ∈ found, ∃ token ∈ tokens, token.column = block.2)
      (ofTokens? tokens) := by
  have hclauses {init : Bool} {priority : Option Number} {rest : List Token} (hrest : rest <:+ tokens) :
      Yields tokens (fun found => ∀ block ∈ found, ∃ token ∈ tokens, token.column = block.2)
        (some <$> ofClauses init priority rest) := by
    have h := ofClauses_yields init priority rest
    cases hresult : ofClauses init priority rest with
    | error refusal =>
      rw [hresult] at h
      exact fun token hm => hrest.mem (h token hm)
    | ok found =>
      rw [hresult] at h
      obtain ⟨token, hm, hcolumn⟩ := h
      rintro _ ⟨⟩
      exact ⟨token, hrest.mem hm, hcolumn⟩
  fun_cases ofTokens? tokens with
  | case1 | case2 | case4 | case6 | case7 => exact nofun
  | case3 first rest => exact hclauses (List.suffix_cons first rest)
  | case5 first rest _ _ priority left hpriority behind hpython =>
    have hbehind := takeWord_suffix pythonWord left
    rw [hpython] at hbehind
    exact hclauses ((hbehind.trans (takePriority_suffix hpriority)).trans
      (List.suffix_cons first rest))

end Header

-- ---------------------------------------------------------------------------
-- Structure errors
-- ---------------------------------------------------------------------------

/-- The place of an error is a unit of a line or the end of its content. -/
structure StructureError.On (above : Line) (e : StructureError) : Prop where
  line : e.line = above.index + 1
  one_le : 1 ≤ e.column
  column_le : e.column ≤ above.content.length + 1

namespace Introducer

variable {line : Line} {s : LexState} {tokens : List Token}

theorem column_lt_of_mem_tokens {token : Token}
    (h : token ∈ (lexLine .host .initial line.content).tokens) :
    token.column < line.content.length := by
  simpa using Lexeme.column_lt_of_mem_lexCode h

/-- What a line is recognized as, or why not, is found on the line. -/
def FoundOn (line : Line) : Except StructureError Introducer → Prop
  | .ok (.block _ colon) => colon < line.content.length
  | .ok _ => True
  | .error e => e.On line

theorem foundOn_ofMarker {column : Nat} (h : column < line.content.length) :
    FoundOn line (ofMarker line column) := by
  unfold ofMarker
  dsimp only
  split
  · exact ⟨rfl, by simp, by dsimp only; omega⟩
  · trivial

theorem on_refusalError {refusal : HeaderRefusal}
    (h : ∀ token ∈ refusal.found, token.column < line.content.length) :
    (refusalError line refusal).On line := by
  refine ⟨rfl, by simp [refusalError], ?_⟩
  have htrim := (Text.trimEnd_prefix line.content).length_le
  cases hfound : refusal.found with
  | none => simpa [refusalError, hfound] using htrim
  | some token =>
    have hlt := h token hfound
    simp only [refusalError, hfound, Option.map_some, Option.getD_some]
    omega

theorem foundOn_recognize (htokens : ∀ token ∈ tokens, token.column < line.content.length) :
    FoundOn line (recognize line s tokens) := by
  unfold recognize
  split
  · trivial
  · split
    · trivial
    · next first rest =>
      split
      · exact foundOn_ofMarker (htokens first (by simp))
      · have hyields := Header.ofTokens?_yields (first :: rest)
        split
        · next header colon hblock =>
          rw [hblock] at hyields
          obtain ⟨token, hm, rfl⟩ := hyields _ rfl
          exact htokens token hm
        · trivial
        · next refusal hrefusal =>
          rw [hrefusal] at hyields
          exact on_refusalError fun token hm => htokens token (hyields token hm)

theorem foundOn_recognize_lexLine (line : Line) (s : LexState) :
    FoundOn line (recognize line s (lexLine .host s line.content).tokens) := by
  by_cases hs : s = .initial
  · subst hs
    exact foundOn_recognize fun token hm => column_lt_of_mem_tokens hm
  · rw [recognize_of_ne_initial line _ hs]
    trivial

end Introducer

namespace Region

variable {indentation : Indentation} {style : LineStyle} {above : Line} {variant : BlockVariant}
  {header : Header} {behind : Nat} {below : List Line} {e : StructureError}

theorem on_start {line : Line} (cause : StructureCause) : StructureError.On line ⟨cause, line.index + 1, 1⟩ :=
  ⟨rfl, le_rfl, by simp⟩

theorem on_of_dedentLine {margin : Text} {b : BodyLine}
    (h : dedentLine indentation margin b = .error e) : e.On b.line := by
  obtain ⟨-, rfl⟩ := dedentLine_eq_error_iff.mp h
  exact on_start _

theorem exists_on_of_ofBody {body : List Line} (hbehind : behind ≤ above.content.length)
    (h : ofBody indentation style above variant header behind (lexedFrom .initial body) =
      .error e) : ∃ line ∈ above :: body, e.On line := by
  unfold ofBody at h
  split at h
  · rcases bind_eq_error_iff.mp h with h | ⟨lines, -, h⟩
    · obtain ⟨b, hb, h⟩ := exists_mem_of_mapM_eq_error h
      exact ⟨b.line, .tail _ (line_mem_of_mem_lexedFrom hb), on_of_dedentLine h⟩
    · cases h
  · cases h
    exact ⟨above, .head _, rfl, by simp, by simpa using hbehind⟩

theorem exists_on_of_ofBlock (hbehind : behind ≤ above.content.length)
    (h : ofBlock indentation style above variant header behind below = .error e) :
    ∃ line ∈ above :: below, e.On line := by
  have hbody (h : ofBody indentation style above variant header behind
      (lexedFrom .initial (dropEndWhile (·.isBlank) (below.takeWhile
        (stays indentation.tabWidth (Indent.width indentation.tabWidth above.indent))))) =
      .error e) : ∃ line ∈ above :: below, e.On line := by
    obtain ⟨line, hm, hon⟩ := exists_on_of_ofBody hbehind h
    have hbelow (hm : line ∈ dropEndWhile (·.isBlank) (below.takeWhile
        (stays indentation.tabWidth (Indent.width indentation.tabWidth above.indent)))) :
        line ∈ below := (List.takeWhile_prefix _).mem (mem_of_mem_dropEndWhile hm)
    exact ⟨line, List.mem_cons.mpr ((List.mem_cons.mp hm).imp_right hbelow), hon⟩
  rw [ofBlock_eq rfl] at h
  split at h
  · next leaving hleaving =>
    split at h
    · cases h
      exact ⟨leaving, .tail _ (List.mem_of_mem_drop (List.mem_of_head? hleaving)), on_start _⟩
    · exact hbody h
  · exact hbody h

end Region

theorem Partition.exists_on_of_readFrom {indentation : Indentation} {style : LineStyle}
    {s : LexState} {lines : List Line} {e : StructureError}
    (h : readFrom indentation style s lines = .error e) : ∃ line ∈ lines, e.On line := by
  fun_induction readFrom indentation style s lines with
  | case1 => cases h
  | case2 s line below lexed hfinish hinitial hbehind =>
    have hfound := Introducer.foundOn_recognize_lexLine line s
    rcases bind_eq_error_iff.mp h with h | ⟨i, hi, h⟩
    · rw [h] at hfound
      exact ⟨line, .head _, hfound⟩
    · rw [hi] at hfound
      cases i with
      | none =>
        rcases bind_eq_error_iff.mp h with h | ⟨_, _, h⟩
        · obtain ⟨found, hm, hon⟩ := hfinish h
          exact ⟨found, .tail _ hm, hon⟩
        · cases h
      | statement column code stop =>
        rcases bind_eq_error_iff.mp h with h | ⟨_, _, h⟩
        · obtain ⟨found, hm, hon⟩ := hinitial h
          exact ⟨found, .tail _ hm, hon⟩
        · cases h
      | block header colon =>
        rcases bind_eq_error_iff.mp h with h | ⟨region, _, h⟩
        · exact Region.exists_on_of_ofBlock hfound h
        · rcases bind_eq_error_iff.mp h with h | ⟨_, _, h⟩
          · obtain ⟨found, hm, hon⟩ := hbehind region h
            exact ⟨found, .tail _ (List.mem_of_mem_drop hm), hon⟩
          · cases h

theorem Partition.exists_on_of_build {indentation : Indentation} {t : Text} {e : StructureError}
    (h : build indentation (.ofText t) = .error e) : ∃ line ∈ Line.scan t, e.On line := by
  rcases bind_eq_error_iff.mp h with h | ⟨_, _, h⟩
  · exact exists_on_of_readFrom h
  · cases h

-- ---------------------------------------------------------------------------
-- The lines of a region
-- ---------------------------------------------------------------------------

/-- A line of a region stands on a line of the document: behind its indentation up to the end in a
block, behind a column in a statement. -/
def Region.StandsOn (r : Region) (found : RegionLine) (line : Line) : Prop :=
  found.index = line.index ∧ ∃ before after, line.content = before ++ found.body ++ after ∧
    if r.isStatement then before.length = r.codeColumn ∧ found.codeIndent = []
    else before = found.indent ∧ after = []

section

variable {indentation : Indentation} {style : LineStyle} {s : LexState} {lines : List Line}
  {rs : List Reading} {r : Region} {found : RegionLine}

theorem Region.Taken.standsOn {above : Line} {variant : BlockVariant} {header : Header}
    {body : List Line} (h : Taken indentation style above variant header body r)
    (hm : found ∈ r.lines) : ∃ line ∈ body, r.StandsOn found line := by
  obtain ⟨b, hb, hline⟩ := exists_mem_of_forall₂ h.lines hm
  obtain ⟨codeIndent, -, rfl⟩ := dedentLine_eq_ok_iff.mp hline
  have hcontent := RawLine.indent_append_body b.line.toRawLine
  refine ⟨b.line, line_mem_of_mem_lexedFrom hb, rfl, b.line.indent, [], by simp [hcontent], ?_⟩
  rw [h.isStatement]
  exact ⟨rfl, rfl⟩

theorem Region.standsOn_ofStatement {line : Line} {code stop : Nat} (hcode : code ≤ stop)
    (hstop : stop ≤ line.content.length) (hm : found ∈ (ofStatement line code stop).lines) :
    (ofStatement line code stop).StandsOn found line := by
  obtain rfl := List.mem_singleton.mp hm
  refine ⟨rfl, line.content.take code, line.content.drop stop, ?_, ?_⟩
  · have hslice := Text.slice_append_drop (t := line.content) hcode
    rw [List.append_assoc, hslice, List.take_append_drop]
  · simp only [ofStatement, Region.isStatement, RegionForm.isStatement, if_true, and_true]
    exact List.length_take_of_le (hcode.trans hstop)

theorem Reads.standsOn (h : Reads indentation style s lines rs)
    (hr : r ∈ rs.filterMap Reading.region) (hm : found ∈ r.lines) :
    ∃ line ∈ lines, r.StandsOn found line := by
  induction h with
  | nil => cases hr
  | host _ _ ih =>
    obtain ⟨line, hline, hstands⟩ := ih hr
    exact ⟨line, .tail _ hline, hstands⟩
  | statement hrecognize _ ih =>
    rcases List.mem_cons.mp hr with rfl | hr
    · obtain ⟨-, -, -, rfl, hlt⟩ := Introducer.recognize_eq_statement_iff.mp hrecognize
      exact ⟨_, .head _, Region.standsOn_ofStatement hlt.le (Text.trimEnd_prefix _).length_le hm⟩
    · obtain ⟨line, hline, hstands⟩ := ih hr
      exact ⟨line, .tail _ hline, hstands⟩
  | block _ _ ht _ ih =>
    rcases List.mem_cons.mp hr with rfl | hr
    · obtain ⟨line, hline, hstands⟩ := ht.standsOn hm
      exact ⟨line, by simp [hline], hstands⟩
    · obtain ⟨line, hline, hstands⟩ := ih hr
      refine ⟨line, .tail _ ?_, hstands⟩
      rw [List.append_assoc]
      exact List.mem_append_right _ hline

end

section

variable {indentation : Indentation} {t : Text} {p : Partition} {r : Region} {found : RegionLine}

theorem Partition.standsOn (h : build indentation (.ofText t) = .ok p) (hr : r ∈ p.regions)
    (hm : found ∈ r.lines) : ∃ line ∈ Line.scan t, r.StandsOn found line := by
  obtain ⟨rs, hreads, rfl⟩ := build_eq_ok_iff.mp h
  exact hreads.standsOn hr hm

theorem Partition.unbroken_body (h : build indentation (.ofText t) = .ok p) (hr : r ∈ p.regions)
    (hm : found ∈ r.lines) : found.body.Unbroken := by
  obtain ⟨line, hline, -, before, after, hcontent, -⟩ := standsOn h hr hm
  have hunbroken := Line.unbroken_of_mem_scan hline
  rw [hcontent, Text.unbroken_append, Text.unbroken_append] at hunbroken
  exact hunbroken.1.2

theorem Partition.splitOn_code (h : build indentation (.ofText t) = .ok p) (hr : r ∈ p.regions) :
    ∃ pieces, Text.splitOn lineFeed r.code = pieces ++ [[]] ∧
      List.Forall₂ (fun piece found => piece.length ≤ found.codeIndent.length + found.body.length)
        pieces r.lines := by
  cases hs : r.isStatement with
  | true =>
    obtain ⟨line, s, column, code, stop, -, rfl⟩ := statement_of_mem h hr hs
    have hbody := unbroken_body h hr (List.mem_singleton_self _)
    refine ⟨[Text.slice line.content code stop], ?_, .cons ?_ .nil⟩
    · exact Text.splitOn_append fun hm => (hbody _ hm).1 rfl
    · simp
  | false =>
    obtain ⟨above, line, header, body, blanks, left, hlines, he, ht⟩ := block_of_mem h hr hs
    refine ⟨r.lines.map RegionLine.code, ?_, ?_⟩
    · have hne : r.lines.map RegionLine.code ≠ [] := by simpa using lines_ne_nil h hr
      change Line.scan t = _ at hlines
      obtain ⟨hunbroken, -⟩ := ht.lines_of_code he
        fun line hm => Line.unbroken_of_mem_scan (t := t) (by simp [hlines, hm])
      rw [ht.code, Region.blockCode]
      exact Text.splitOn_joinWith_concat hne fun piece hpiece hm => (hunbroken piece hpiece _ hm).1 rfl
    · rw [List.forall₂_map_left_iff]
      refine List.forall₂_same.mpr fun found _ => ?_
      rw [RegionLine.code, List.length_append]
      split <;> simp

end

-- ---------------------------------------------------------------------------
-- Places in the code of a region
-- ---------------------------------------------------------------------------

/-- A place in a source is on one of its lines, on a unit of it or right behind the last. -/
def EngineError.PlacedIn (source : Text) : EngineError → Prop
  | .syntaxError _ line column => ∃ (n : Nat) (piece : Text),
      (Text.splitOn lineFeed source)[n]? = some piece ∧ line = n + 1 ∧
        1 ≤ column ∧ column ≤ piece.length + 1
  | _ => True

def Answer.PlacedIn (source : Text) : Answer → Prop
  | .output _ => True
  | .error failure => failure.PlacedIn source
  | .silence cancelled => ∀ failure ∈ cancelled, failure.PlacedIn source

namespace Region

/-- A column in the indentation of a line of the code lies past the end of the line. -/
def Overruns (r : Region) (line column : Rat) : Prop :=
  r.isStatement = false ∧ ∃ found, r.lineAt? line = some found ∧
    column ≤ found.codeIndent.length ∧ found.indent.length + found.body.length + 1 < column

/-- The first line of a block ends before the margin does. -/
def StartsShort (r : Region) : Prop :=
  r.isStatement = false ∧ ∃ found, r.lines.head? = some found ∧
    found.indent.length + found.body.length < r.margin.length

variable {r : Region}

theorem length_codeIndent_le {indentation : Indentation} {margin codeIndent : Text} {b : BodyLine}
    (hpolicy : indentation.policy = .reject)
    (h : dedented? indentation margin b = some codeIndent) :
    codeIndent.length ≤ b.line.indent.length := by
  obtain hextends | rfl := extends_or_eq_nil h
  · rw [hextends.eq_append hpolicy, List.length_append]
    exact Nat.le_add_left ..
  · exact Nat.zero_le _

theorem mem_of_lineAt? {line : Rat} {found : RegionLine} (h : r.lineAt? line = some found) :
    found ∈ r.lines := by
  unfold lineAt? at h
  dsimp only at h
  split_ifs at h <;> exact List.mem_of_getElem? h

theorem lineAt?_succ (r : Region) (n : Nat) :
    r.lineAt? (n + 1) = r.lines[min n (r.lines.length - 1)]? := by
  have hfirst : ¬ (n + 1 : Rat) < 1 := by simp
  have hlast : (r.lines.length : Rat) < n + 1 ↔ r.lines.length ≤ n := by
    exact_mod_cast Nat.lt_succ_iff
  have hcast : (n + 1 : Rat) = ((n + 1 : Nat) : Rat) := by push_cast; rfl
  have hnum : (n + 1 : Rat).num.toNat - 1 = n := by
    rw [hcast, Rat.num_natCast]
    rfl
  have hden : (n + 1 : Rat).den = 1 := by rw [hcast, Rat.den_natCast]
  simp only [lineAt?, hfirst, hlast, hnum, hden, if_true, if_false]
  split
  · next hle => rw [min_eq_right (by omega)]
  · next hlt => rw [min_eq_left (by omega)]

end Region

section

variable {indentation : Indentation} {t : Text} {p : Partition} {r : Region}

theorem Partition.exists_lineAt? (h : build indentation (.ofText t) = .ok p) (hr : r ∈ p.regions)
    {n : Nat} {piece : Text} (hpiece : (Text.splitOn lineFeed r.code)[n]? = some piece) :
    ∃ found ∈ r.lines, r.lineAt? (n + 1) = some found ∧
      piece.length ≤ found.codeIndent.length + found.body.length := by
  obtain ⟨pieces, hsplit, hpieces⟩ := splitOn_code h hr
  have hpos : 0 < r.lines.length := List.length_pos_iff.mpr (lines_ne_nil h hr)
  rw [hsplit] at hpiece
  have hlength := hpieces.length_eq
  by_cases hn : n < r.lines.length
  · rw [List.getElem?_append_left (by omega), List.getElem?_eq_some_iff] at hpiece
    obtain ⟨hlt, rfl⟩ := hpiece
    refine ⟨r.lines[n], List.getElem_mem _, ?_, hpieces.get hlt hn⟩
    rw [Region.lineAt?_succ, min_eq_left (by omega), List.getElem?_eq_getElem]
  · rw [List.getElem?_append_right (by omega)] at hpiece
    obtain rfl : [] = piece := by
      rw [List.getElem?_singleton] at hpiece
      simpa using (Option.ite_none_right_eq_some.mp hpiece).2
    refine ⟨r.lines[r.lines.length - 1], List.getElem_mem _, ?_, by simp⟩
    rw [Region.lineAt?_succ, min_eq_right (by omega), List.getElem?_eq_getElem]

theorem Partition.exists_dedented {found : RegionLine}
    (h : build indentation (.ofText t) = .ok p) (hr : r ∈ p.regions) (hs : r.isStatement = false)
    (hm : found ∈ r.lines) : ∃ b : Region.BodyLine,
      found.indent = b.line.indent ∧
        Region.dedented? indentation r.margin b = some found.codeIndent := by
  obtain ⟨above, line, header, body, blanks, left, hlines, he, ht⟩ := block_of_mem h hr hs
  obtain ⟨b, -, hline⟩ := exists_mem_of_forall₂ ht.lines hm
  obtain ⟨codeIndent, hdedented, rfl⟩ := Region.dedentLine_eq_ok_iff.mp hline
  exact ⟨b, rfl, hdedented⟩

/-- A place in the code of a region is carried to a line of the document, and past its end only if
it overruns. -/
theorem Partition.exists_toDocument (h : build indentation (.ofText t) = .ok p)
    (hr : r ∈ p.regions) {n : Nat} {piece : Text} {column : Rat}
    (hpiece : (Text.splitOn lineFeed r.code)[n]? = some piece) (hone : 1 ≤ column)
    (hcolumn : column ≤ piece.length + 1) :
    ∃ place, ∃ line ∈ Line.scan t, r.toDocument? (n + 1) column = some place ∧
      place.line = line.index + 1 ∧ 1 ≤ place.column ∧
      (place.column ≤ line.content.length + 1 ↔ ¬ r.Overruns (n + 1) column) := by
  obtain ⟨found, hm, hfound, hlength⟩ := exists_lineAt? h hr hpiece
  obtain ⟨line, hline, hindex, before, after, hcontent, hstands⟩ := standsOn h hr hm
  have hlengths : (line.content.length : Rat) =
      before.length + found.body.length + after.length := by
    rw [hcontent]
    push_cast [List.length_append]
    rfl
  have hcolumn : column ≤ found.codeIndent.length + found.body.length + 1 :=
    hcolumn.trans (by exact_mod_cast Nat.succ_le_succ hlength)
  refine ⟨_, line, hline, by rw [Region.toDocument?, hfound]; rfl, by simp [hindex], ?_⟩
  cases hs : r.isStatement with
  | true =>
    rw [hs, if_pos rfl] at hstands
    obtain ⟨hbefore, hcode⟩ := hstands
    simp only [hcode, hbefore, List.length_nil, Nat.cast_zero, zero_add, if_true] at *
    refine ⟨by linarith [Nat.cast_nonneg (α := Rat) r.codeColumn], iff_of_true ?_ ?_⟩
    · linarith [Nat.cast_nonneg (α := Rat) after.length]
    · rintro ⟨hblock, -⟩
      cases hs.symm.trans hblock
  | false =>
    rw [hs] at hstands
    obtain ⟨rfl, rfl⟩ := hstands
    have hoverruns : r.Overruns (n + 1) column ↔ column ≤ found.codeIndent.length ∧
        found.indent.length + found.body.length + 1 < column := by
      simp [Region.Overruns, hs, hfound]
    simp only [hoverruns, hlengths, List.length_nil, Nat.cast_zero, Bool.false_eq_true, if_false]
    split
    · next hle => exact ⟨hone, by simp [hle]⟩
    · next hlt =>
      refine ⟨?_, iff_of_true (by linarith) fun h => hlt h.1⟩
      obtain ⟨b, hb, hdedented⟩ := exists_dedented h hr hs hm
      by_cases hnil : found.indent = []
      · rw [Region.dedented?_of_indent_eq_nil hdedented (hb.symm.trans hnil)] at hlt ⊢
        simpa [hnil] using hone
      · have hpos : (1 : Rat) ≤ found.indent.length := by
          exact_mod_cast List.length_pos_iff.mpr hnil
        linarith

theorem Partition.not_overruns (h : build indentation (.ofText t) = .ok p) (hr : r ∈ p.regions)
    (hpolicy : indentation.policy = .reject) (line column : Rat) : ¬ r.Overruns line column := by
  rintro ⟨hs, found, hfound, hle, hlt⟩
  obtain ⟨b, hindent, hdedented⟩ := exists_dedented h hr hs (Region.mem_of_lineAt? hfound)
  have hshort : (found.codeIndent.length : Rat) ≤ found.indent.length := by
    rw [hindent]
    exact_mod_cast Region.length_codeIndent_le hpolicy hdedented
  have hbody := Nat.cast_nonneg (α := Rat) found.body.length
  linarith

end

-- ---------------------------------------------------------------------------
-- Diagnostics
-- ---------------------------------------------------------------------------

/-- A diagnostic points at a line of a text, to a unit of it or right behind the last. -/
def Diagnostic.Inside (t : Text) (d : Diagnostic) : Prop :=
  ∃ (i : Nat) (line : Line), (Line.scan t)[i]? = some line ∧ d.line = i + 1 ∧
    1 ≤ d.column ∧ d.column ≤ line.content.length + 1

/-- A diagnostic names a line of a text and a column. -/
def Diagnostic.NamesLine (t : Text) (d : Diagnostic) : Prop :=
  ∃ i < (Line.scan t).length, d.line = (i + 1 : Nat) ∧ 1 ≤ d.column

namespace Diagnostic

variable {t : Text} {d : Diagnostic} {line : Line} (hm : line ∈ Line.scan t)
  (hline : d.line = line.index + 1) (hone : 1 ≤ d.column)

include hm hline hone

theorem namesLine_of_mem : d.NamesLine t := by
  have hlt := ((Line.placed_scan t).index_of_mem hm).2
  exact ⟨line.index, by simpa using hlt, by simp [hline], hone⟩

theorem inside_iff_of_mem : d.Inside t ↔ d.column ≤ line.content.length + 1 := by
  obtain ⟨k, hlt, hk⟩ := List.mem_iff_getElem.mp hm
  have hk := List.getElem?_eq_some_iff.mpr ⟨hlt, hk⟩
  have hindex : line.index = k := by simpa using (Line.placed_scan t).index_getElem hk
  constructor
  · rintro ⟨i, line', hi, hline', -, hle⟩
    obtain rfl : k = i := by
      rw [hline, hindex] at hline'
      exact_mod_cast add_right_cancel hline'
    rwa [Option.some.inj (hk.symm.trans hi)]
  · intro hle
    exact ⟨k, line, hk, by rw [hline, hindex], hone, hle⟩

end Diagnostic

namespace Region

/-- The place of a failure is carried past the end of its line. A failure without a place is put
where the margin of its region ends. -/
def MisplacesError (r : Region) : EngineError → Prop
  | .syntaxError _ line column => r.Overruns line column
  | _ => r.StartsShort

/-- What comes of an answer is put past the end of a line. -/
def Misplaces (r : Region) : Answer → Prop
  | .output code => ¬ r.Accepts (.output code) ∧ r.StartsShort
  | .error failure => r.MisplacesError failure
  | .silence none => r.StartsShort
  | .silence (some failure) => r.MisplacesError failure

end Region

namespace RegionReport

variable {file t : Text} {report : RegionReport} {past : Prop}

/-- The diagnostics of a report name lines of a text, and point past the end of one exactly if a
condition holds. -/
def Points (file t : Text) (report : RegionReport) (past : Prop) : Prop :=
  (∀ d ∈ report.diagnostics file, d.NamesLine t) ∧
    ((∀ d ∈ report.diagnostics file, d.Inside t) ↔ ¬ past)

theorem points_of_line {d : Diagnostic} {line : Line} (hd : report.diagnostics file = [d])
    (hm : line ∈ Line.scan t) (hline : d.line = line.index + 1) (hone : 1 ≤ d.column)
    (hpast : d.column ≤ line.content.length + 1 ↔ ¬ past) : report.Points file t past := by
  rw [Points, hd]
  simp only [List.mem_singleton, forall_eq]
  exact ⟨Diagnostic.namesLine_of_mem hm hline hone,
    (Diagnostic.inside_iff_of_mem hm hline hone).trans hpast⟩

variable {indentation : Indentation} {p : Partition} {r : Region} {changed : Bool}

theorem points_engineError (h : Partition.build indentation (.ofText t) = .ok p)
    (hr : r ∈ p.regions) (message : Text) :
    Points file t ⟨r, .failed (.engineError message), changed⟩ r.StartsShort := by
  obtain ⟨found, hfound⟩ := Option.ne_none_iff_exists'.mp
    (mt List.head?_eq_none_iff.mp (Partition.lines_ne_nil h hr))
  obtain ⟨line, hline, hindex, before, after, hcontent, hstands⟩ :=
    Partition.standsOn h hr (List.mem_of_head? hfound)
  have hlength : line.content.length = before.length + found.body.length + after.length := by
    rw [hcontent, List.length_append, List.length_append]
  have hstart : r.startLine = line.index := by simp [Region.startLine, hfound, hindex]
  refine points_of_line rfl hline (by simp [hstart]) ?_ ?_
  · simp only [failureColumn]
    split <;> simp
  · cases hs : r.isStatement with
    | true =>
      rw [hs, if_pos rfl] at hstands
      refine iff_of_true ?_ fun hshort => by cases hs.symm.trans hshort.1
      simp only [failureColumn, hs, if_true]
      exact_mod_cast Nat.succ_le_succ (by omega)
    | false =>
      rw [hs] at hstands
      obtain ⟨rfl, rfl⟩ := hstands
      have hshort : r.StartsShort ↔
          found.indent.length + found.body.length < r.margin.length := by
        simp [Region.StartsShort, hs, hfound]
      rw [hshort, not_lt]
      simp only [failureColumn, hs, Bool.false_eq_true, if_false, hlength, List.length_nil]
      norm_cast
      omega

theorem points_failure (h : Partition.build indentation (.ofText t) = .ok p)
    (hr : r ∈ p.regions) {e : EngineError} {failure : RegionFailure}
    (hplaced : e.PlacedIn r.code) (he : r.failureOf e = .ok failure) :
    Points file t ⟨r, .failed failure, changed⟩ (r.MisplacesError e) := by
  cases e with
  | syntaxError message place column =>
    obtain ⟨n, piece, hpiece, rfl, hone, hcolumn⟩ := hplaced
    obtain ⟨place, line, hline, hto, hplace, hfirst, hlast⟩ :=
      Partition.exists_toDocument h hr hpiece hone hcolumn
    simp only [Region.failureOf, hto] at he
    cases he
    exact points_of_line rfl hline (by simp [hplace]) hfirst hlast
  | failure failure =>
    cases he
    exact points_engineError h hr _
  | other message =>
    cases he
    exact points_engineError h hr _
  | textless complaint => cases he

theorem points_answer (h : Partition.build indentation (.ofText t) = .ok p)
    (hr : r ∈ p.regions) {engine : Text} {timeout : Number} {answer : Answer}
    {result : RegionResult} (hplaced : answer.PlacedIn r.code)
    (hresult : r.resultOf engine timeout answer = .ok result) :
    Points file t ⟨r, result, changed⟩ (r.Misplaces answer) := by
  rcases answer with output | e | _ | e
  · have hiff : (∃ code, r.clean output = .ok code) ↔ r.Accepts (.output output) :=
      Region.clean_eq_ok_iff (Partition.isBlank_code h hr)
    rw [Region.resultOf] at hresult
    cases hclean : r.clean output with
    | ok code =>
      rw [hclean] at hresult
      cases hresult
      have hnone : ∀ d, d ∉ diagnostics file ⟨r, .formatted code, changed⟩ :=
        fun _ => List.not_mem_nil
      exact ⟨fun d hd => absurd hd (hnone d), iff_of_true (fun d hd => absurd hd (hnone d))
        fun hmis => hmis.1 (hiff.mp ⟨code, hclean⟩)⟩
    | error problem =>
      rw [hclean] at hresult
      cases hresult
      have hnot : ¬ r.Accepts (.output output) := by
        rw [← hiff, hclean]
        rintro ⟨code, ⟨⟩⟩
      simpa [Region.Misplaces, hnot] using points_engineError h hr problem.message
  · obtain ⟨failure, hfailure, rfl⟩ := map_eq_ok_iff.mp hresult
    exact points_failure h hr hplaced hfailure
  · cases hresult
    exact points_engineError h hr _
  · obtain ⟨failure, hfailure, rfl⟩ := map_eq_ok_iff.mp hresult
    exact points_failure h hr (hplaced e rfl) hfailure

end RegionReport

theorem DoneDocument.Accounts.mem_diagnostics_iff {engine : Behaviour} {options : DispatchOptions}
    {file : Text} {regions : List Region} {d : DoneDocument}
    (h : d.Accounts engine options file regions) {diagnostic : Diagnostic} :
    diagnostic ∈ d.diagnostics ↔ ∃ report ∈ d.regions, diagnostic ∈ report.diagnostics file := by
  constructor
  · intro hm
    obtain ⟨report, hreport, hone⟩ := exists_mem_of_forall₂ h.diagnostics hm
    exact ⟨report, List.mem_of_mem_filter hreport, by simp [hone]⟩
  · rintro ⟨report, hreport, hm⟩
    have hfailed : report.result.isFailed := by
      cases hresult : report.result with
      | formatted code => simp [RegionReport.diagnostics, hresult] at hm
      | failed failure => rfl
    obtain ⟨found, hfound, hone⟩ := exists_mem_of_forall₂ h.diagnostics.flip
      (List.mem_filter.mpr ⟨hreport, hfailed⟩)
    rw [hone, List.mem_singleton] at hm
    rwa [hm]

section

variable {engine : Behaviour} {limit : PoolLimit} {options : PipelineOptions} {file t : Text}
  {p : Partition}

theorem DoneDocument.Accounts.points {d : DoneDocument}
    (h : d.Accounts engine options.dispatch file p.regions)
    (hp : Partition.build options.indentation (.ofText t) = .ok p)
    (hengine : ∀ id call, (engine.answer id call).PlacedIn call.source) {id : Nat} {r : Region}
    (hr : p.regions[id]? = some r) :
    ∃ report, d.regions[id]? = some report ∧
      report.Points file t (r.Misplaces (engine.answer id (r.call options.dispatch))) := by
  rw [← h.order, List.getElem?_map] at hr
  obtain ⟨report, hreport, rfl⟩ := Option.map_eq_some_iff.mp hr
  refine ⟨report, hreport, ?_⟩
  have hm : report.region ∈ p.regions := by
    rw [← h.order]
    exact List.mem_map_of_mem (List.mem_of_getElem? hreport)
  exact RegionReport.points_answer hp hm (hengine id _) (h.results id report hreport)

/-- Every diagnostic names a line of the document. All of them point inside of it exactly if no
answer makes one point past the end of its line. A place in the code of a region does so only
where tabs are expanded. -/
theorem formatDocument_diagnostics_inside {outcome : Outcome}
    (hengine : ∀ id call, (engine.answer id call).PlacedIn call.source)
    (h : formatDocument engine limit options file t = .ok outcome) :
    (∀ d ∈ outcome.diagnostics, d.NamesLine t) ∧
    ((∀ d ∈ outcome.diagnostics, d.Inside t) ↔
      ∀ p, Partition.build options.indentation (.ofText t) = .ok p →
        ∀ (id : Nat) (r : Region), p.regions[id]? = some r →
          ¬ r.Misplaces (engine.answer id (r.call options.dispatch))) ∧
    (options.indentation.policy = .reject →
      ∀ p, Partition.build options.indentation (.ofText t) = .ok p →
        ∀ r ∈ p.regions, ∀ line column, ¬ r.Overruns line column) := by
  refine and_assoc.mp ⟨?_, fun hpolicy p hp r hr => Partition.not_overruns hp hr hpolicy⟩
  cases hp : Partition.build options.indentation (.ofText t) with
  | error e =>
    rw [formatDocument_of_error hp] at h
    cases h
    obtain ⟨line, hline, hon⟩ := Partition.exists_on_of_build hp
    simp only [Outcome.ofStructureError, Outcome.diagnostics, List.mem_singleton, forall_eq]
    have hplace : (e.line : Rat) = line.index + 1 := by exact_mod_cast hon.line
    have hone : (1 : Rat) ≤ e.column := by exact_mod_cast hon.one_le
    refine ⟨Diagnostic.namesLine_of_mem hline hplace hone, iff_of_true ?_ nofun⟩
    refine (Diagnostic.inside_iff_of_mem hline hplace hone).mpr ?_
    simp only
    exact_mod_cast hon.column_le
  | ok p =>
    obtain ⟨d, rfl⟩ : ∃ d, outcome = .done d := by
      rw [formatDocument_eq hp] at h
      obtain ⟨results, -, rfl⟩ := map_eq_ok_iff.mp h
      exact ⟨_, rfl⟩
    obtain ⟨p', hp', haccounts⟩ := exists_accounts_of_done h
    obtain rfl : p = p' := Except.ok.inj (hp.symm.trans hp')
    -- a report belongs to the region with its number
    have hreports {report : RegionReport} (hm : report ∈ d.regions) : ∃ id : Nat, ∃ r : Region,
        p.regions[id]? = some r ∧
          report.Points file t (r.Misplaces (engine.answer id (r.call options.dispatch))) := by
      obtain ⟨id, hlt, hid⟩ := List.mem_iff_getElem.mp hm
      have hid := List.getElem?_eq_some_iff.mpr ⟨hlt, hid⟩
      have hr : p.regions[id]? = some report.region := by
        rw [← haccounts.order, List.getElem?_map, hid]
        rfl
      obtain ⟨report', hreport', hpoint⟩ := haccounts.points hp hengine hr
      obtain rfl := Option.some.inj (hid.symm.trans hreport')
      exact ⟨id, report.region, hr, hpoint⟩
    refine ⟨fun diagnostic hm => ?_, fun hinside p' hp' id r hr => ?_, fun hnone diagnostic hm => ?_⟩
    · obtain ⟨report, hreport, hm⟩ := haccounts.mem_diagnostics_iff.mp hm
      obtain ⟨id, r, -, hpoint⟩ := hreports hreport
      exact hpoint.1 diagnostic hm
    · obtain rfl := Except.ok.inj hp'
      obtain ⟨report, hreport, hpoint⟩ := haccounts.points hp hengine hr
      exact hpoint.2.mp fun diagnostic hm => hinside diagnostic
        (haccounts.mem_diagnostics_iff.mpr ⟨report, List.mem_of_getElem? hreport, hm⟩)
    · obtain ⟨report, hreport, hm⟩ := haccounts.mem_diagnostics_iff.mp hm
      obtain ⟨id, r, hr, hpoint⟩ := hreports hreport
      exact hpoint.2.mpr (hnone p rfl id r hr) diagnostic hm

/-- A block that begins with a blank line is reported behind the end of that line if the engine
fails. -/
theorem formatDocument_diagnostics_inside_blank :
    let engine : Behaviour := ⟨text "engine", fun _ _ => .error (.other (text "crashed"))⟩
    let options : PipelineOptions := ⟨⟨.ofNat 88, .ofNat 1000, .ofNat 1000⟩, ⟨.reject, 8⟩⟩
    ∃ outcome, formatDocument engine ⟨1, Nat.le_refl 1⟩ options (text "a.rpy")
        (text "python:\n\n    a\n") = .ok outcome ∧
      (∀ d ∈ outcome.diagnostics, d.NamesLine (text "python:\n\n    a\n")) ∧
      ¬ ∀ d ∈ outcome.diagnostics, d.Inside (text "python:\n\n    a\n") := by
  intro engine options
  have hengine : ∀ id call, (engine.answer id call).PlacedIn call.source := fun _ _ => trivial
  have hstarts : (Partition.build options.indentation (.ofText (text "python:\n\n    a\n"))).map
      (fun p => p.regions.map fun r =>
        (r.isStatement, r.lines.head?.map (fun found => (found.indent, found.body)),
          r.margin.length)) = .ok [(false, some ([], []), 4)] := by cbv
  obtain ⟨p, hp, hstarts⟩ := map_eq_ok_iff.mp hstarts
  obtain ⟨r, hregions, hr⟩ := List.map_eq_singleton_iff.mp hstarts
  simp only [Prod.mk.injEq, Option.map_eq_some_iff] at hr
  obtain ⟨hs, ⟨found, hfound, hindent, hbody⟩, hmargin⟩ := hr
  have hshort : r.StartsShort := ⟨hs, found, hfound, by simp [hindent, hbody, hmargin]⟩
  have hdone : (formatDocument engine ⟨1, Nat.le_refl 1⟩ options (text "a.rpy")
      (text "python:\n\n    a\n")).map (·.isAborted) = .ok false := by cbv
  obtain ⟨outcome, houtcome, -⟩ := map_eq_ok_iff.mp hdone
  obtain ⟨hnames, hinside, -⟩ := formatDocument_diagnostics_inside hengine houtcome
  exact ⟨outcome, houtcome, hnames, fun h => hinside.mp h p hp 0 r (by simp [hregions]) hshort⟩

end

end Inlay
