import Inlay.Proofs.Representation

/-!
# The lexer over a block and over its code

A block is lexed twice: over its lines in the document, when its margin is found, and over the lines
of its code, when that is put back. The two runs see different text and are in the same state before
every line (`Partition.start_eq_before_code`).
-/

namespace Inlay

open CodeUnit

namespace LexState

/-- The states before consecutive lines, the first of which begins in a state. -/
def before (dialect : Dialect) (s : LexState) : List Text → List LexState
  | [] => []
  | t :: ts => s :: before dialect (s.after dialect t) ts

variable {dialect : Dialect} {s : LexState} {t : Text} {ts : List Text}

@[simp] theorem length_before : (before dialect s ts).length = ts.length := by
  induction ts generalizing s with
  | nil => rfl
  | cons t ts ih => exact congrArg Nat.succ ih

theorem getElem?_before (hk : k < ts.length) :
    (before dialect s ts)[k]? = some (afterAll dialect s (ts.take k)) := by
  induction ts generalizing s k with
  | nil => cases hk
  | cons t ts ih =>
    cases k with
    | zero => rfl
    | succ k =>
      rw [before, List.getElem?_cons_succ, ih (Nat.lt_of_succ_lt_succ hk), List.take_succ_cons,
        afterAll_cons]

end LexState

namespace Region

variable {indentation : Indentation} {margin : Text} {s : LexState} {line : Line}
  {lines : List Line} {k : Nat}

theorem margined_eq_zipWith (margin : Text) (s : LexState) (ts : List Text) :
    margined margin s ts = List.zipWith (atMargin margin) (LexState.before .embedded s ts) ts := by
  induction ts generalizing s with
  | nil => rfl
  | cons t ts ih => rw [margined_cons, ih, LexState.before, List.zipWith_cons_cons]

theorem getElem?_lexedFrom (hk : lines[k]? = some line) :
    (lexedFrom s lines)[k]? =
      some ⟨line, LexState.afterAll .embedded s ((lines.take k).map (·.content))⟩ := by
  induction lines generalizing s k with
  | nil => cases hk
  | cons first lines ih =>
    cases k with
    | zero =>
      cases hk
      rfl
    | succ k =>
      rw [lexedFrom, List.getElem?_cons_succ, ih hk, List.take_succ_cons, List.map_cons,
        LexState.afterAll_cons]

/-- The lines of the code leave the lexer where the lines do that they come from. -/
theorem before_code {body : List Line} {lines : List RegionLine}
    (h : List.Forall₂ (fun b line => dedentLine indentation margin b = .ok line)
      (lexedFrom s body) lines) :
    LexState.before .embedded s (lines.map RegionLine.code) =
      LexState.before .embedded s (body.map (·.content)) := by
  induction body generalizing s lines with
  | nil =>
    cases h
    rfl
  | cons first body ih =>
    cases h with
    | cons hline hlines =>
      rw [List.map_cons, List.map_cons, LexState.before, LexState.before, after_code hline,
        ih hlines]

end Region

/-- The lexer is in the same state before every line of a block and before that line of its code.
The first of these states is one that the block is found with, the second one that the code is put
back with. -/
theorem Partition.start_eq_before_code {indentation : Indentation} {t : Text} {p : Partition}
    (h : build indentation (.ofText t) = .ok p) :
    ∀ r ∈ p.regions, r.isStatement = false →
      let reached := Region.bodyFrom indentation.tabWidth
        (Indent.width indentation.tabWidth r.outerIndent) .initial
        ((Line.scan t).drop (r.introducer + 1))
      let states := LexState.before .embedded .initial r.codeLines
      let joined := Text.joinWith r.lineBreak.text
        (List.zipWith (Region.atMargin r.margin) states r.codeLines)
      states.length = r.lines.length ∧
      (∀ k < r.lines.length, ∃ b line, reached[k]? = some b ∧ r.lines[k]? = some line ∧
        line.index = b.line.index ∧ line.raw = b.line.toRawLine ∧
        b.start = LexState.afterAll .embedded .initial
          ((reached.take k).map (·.line.content)) ∧
        b.start = LexState.afterAll .embedded .initial (r.codeLines.take k) ∧
        states[k]? = some b.start) ∧
      r.reindent r.code = if r.endsWithBreak then joined ++ r.lineBreak.text else joined := by
  intro r hr hb reached states joined
  obtain ⟨introducer, header, body, blanks, left, -, -, hbelow, -, -, he, ht⟩ :=
    exists_below h hr hb
  have hcode := codeInvariant h hr
  have hreached : reached = Region.lexedFrom .initial (body ++ blanks) := by
    change Region.bodyFrom _ _ _ _ = _
    rw [hbelow, ht.outerIndent, Region.bodyFrom_eq, he.bounds.takeWhile_stays]
  have hstates : states = LexState.before .embedded .initial (body.map (·.content)) := by
    change LexState.before _ _ r.codeLines = _
    rw [hcode.codeLines, Region.before_code ht.lines]
  refine ⟨?_, fun k hk => ?_, ?_⟩
  · rw [hstates, LexState.length_before, List.length_map, ht.length_lines]
  · have hlt : k < body.length := ht.length_lines ▸ hk
    obtain ⟨hindex, hraw⟩ := ht.forall₂_lines.get hk hlt
    have hline : (body ++ blanks)[k]? = some body[k] := by
      rw [List.getElem?_append_left hlt, List.getElem?_eq_getElem hlt]
    have htake : (body ++ blanks).take k = body.take k := List.take_append_of_le_length hlt.le
    have hcontents : (reached.take k).map (·.line.content) = (body.take k).map (·.content) := by
      rw [List.map_take, hreached, Region.map_content_lexedFrom, ← List.map_take, htake]
    have hstate : states[k]? =
        some (LexState.afterAll .embedded .initial ((body.take k).map (·.content))) := by
      rw [hstates, LexState.getElem?_before (by rwa [List.length_map]), List.map_take]
    refine ⟨_, r.lines[k], by rw [hreached, Region.getElem?_lexedFrom hline],
      List.getElem?_eq_getElem hk, hindex, hraw, ?_, ?_, ?_⟩
    · rw [hcontents, htake]
    · have hcodes : k < r.codeLines.length := by rwa [hcode.codeLines, List.length_map]
      rw [LexState.getElem?_before hcodes] at hstate
      rw [htake, Option.some.inj hstate]
    · rw [hstate, htake]
  · rw [Region.reindent, hb, hcode.isEmpty_unterminated, Region.margined_eq_zipWith]
    rfl

theorem Partition.start_eq_before_code_string :
    ∃ p r b, build ⟨.expandTabs, 4⟩ (.ofText (text "python:\n\ts = \"\"\"\n\t\t#\n\t\"\"\"\n")) =
        .ok p ∧
      r ∈ p.regions ∧ r.isStatement = false ∧
      r.codeLines = [text "s = \"\"\"", text "    #", text "\"\"\""] ∧
      (Region.bodyFrom 4 (Indent.width 4 r.outerIndent) .initial
        ((Line.scan (text "python:\n\ts = \"\"\"\n\t\t#\n\t\"\"\"\n")).drop
          (r.introducer + 1)))[1]? = some b ∧
      b.start = LexState.afterAll .embedded .initial (r.codeLines.take 1) ∧ b.inString := by
  have hbuild : (build ⟨.expandTabs, 4⟩
        (.ofText (text "python:\n\ts = \"\"\"\n\t\t#\n\t\"\"\"\n"))).map
      (fun p => p.regions.map fun r => (r.isStatement, r.lines.length, r.codeLines)) =
      .ok [(false, 3, [text "s = \"\"\"", text "    #", text "\"\"\""])] := by cbv
  obtain ⟨p, hp, hregions⟩ := map_eq_ok_iff.mp hbuild
  obtain ⟨r, rs, hp', hr, -⟩ := List.map_eq_cons_iff.mp hregions
  obtain ⟨hb, hr⟩ := Prod.mk.inj hr
  obtain ⟨hlength, hlines⟩ := Prod.mk.inj hr
  have hmem : r ∈ p.regions := hp' ▸ List.mem_cons_self
  obtain ⟨b, line, hreached, -, -, -, -, hstart, -⟩ :=
    (start_eq_before_code hp r hmem hb).2.1 1 (by rw [hlength]; decide)
  refine ⟨p, r, b, hp, hmem, hb, hlines, hreached, hstart, ?_⟩
  rw [Region.BodyLine.inString, hstart, hlines]
  cbv

end Inlay
