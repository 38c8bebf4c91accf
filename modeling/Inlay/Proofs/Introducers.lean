import Inlay.Introducer
import Inlay.Proofs.Lexing

/-!
# What introduces a region

A statement is introduced by a marker that is the first unit behind the indentation, and what is
recognized depends on the content of a line and on the state in which it begins, not on its place.
-/

namespace Inlay

open CodeUnit

namespace Introducer

variable {line line' : Line} {s : LexState} {tokens : List Token}

theorem lexCode_marker (column depth : Nat) (t : Text) :
    Lexeme.lexCode .host column depth (marker :: t) =
      (Lexeme.lexCode .host (column + 1) depth t).behind ⟨.punct, [marker], column⟩ :=
  Lexeme.lexCode_punct (by decide) (by decide) (fun q => by cases q <;> decide) (by decide)
    (by decide)

theorem lexCode_first_punct (hu : u.isIndent = false)
    (h : (Lexeme.lexCode .host column depth (u :: t)).tokens = first :: rest)
    (hp : first.isPunct p) : u = p ∧ first.column = column := by
  rw [Lexeme.lexCode, if_neg (by simp [hu])] at h
  split at h
  · cases h
    simp [Token.isPunct] at hp
  · split at h
    · dsimp only at h
      split at h <;> cases h <;> simp [Token.isPunct] at hp
    · split at h
      · cases h
        simp [Token.isPunct] at hp
      · split at h
        · cases h
          simp [Token.isPunct] at hp
        · cases h
          simpa [Token.isPunct] using hp

theorem first_marker_iff {content : Text} :
    (∃ first rest, (lexLine .host .initial content).tokens = first :: rest ∧
      first.isPunct marker ∧ first.column = column) ↔
    ∃ w t, content = w ++ marker :: t ∧ (∀ u ∈ w, u.isIndent) ∧ w.length = column := by
  constructor
  · rintro ⟨first, rest, h, hp, rfl⟩
    have hw : ∀ u ∈ content.indentation, u.isIndent := fun _ => Text.isIndent_of_mem_indentation
    have hcontent := Text.indentation_append_unindented content
    rw [← hcontent] at h
    cases ht : content.unindented with
    | nil =>
      change (Lexeme.lexCode _ _ _ _).tokens = _ at h
      rw [Lexeme.lexCode_append hw, ht] at h
      simp [Lexeme.lexCode, Lexeme.Reached.moved] at h
    | cons u t =>
      change (Lexeme.lexCode _ _ _ _).tokens = _ at h
      rw [Lexeme.lexCode_append hw, ← Lexeme.lexCode_add, ht] at h
      obtain ⟨rfl, hc⟩ := lexCode_first_punct (Text.not_isIndent_of_unindented ht) h hp
      exact ⟨content.indentation, t, by rw [← ht, hcontent], hw, by simp [hc]⟩
  · rintro ⟨w, t, rfl, hw, rfl⟩
    have htokens : (lexLine .host .initial (w ++ marker :: t)).tokens =
        ⟨.punct, [marker], w.length⟩ ::
          (Lexeme.lexCode .host (w.length + 1) 0 t).tokens := by
      change (Lexeme.lexCode _ _ _ _).tokens = _
      rw [Lexeme.lexCode_append hw, ← Lexeme.lexCode_add, lexCode_marker, Nat.zero_add]
      rfl
    exact ⟨_, _, htokens, by simp [Token.isPunct], rfl⟩

theorem recognize_of_ne_initial (line : Line) (tokens : List Token) (h : s ≠ .initial) :
    recognize line s tokens = .ok none := by
  simp [recognize, Bool.eq_false_iff.mpr (mt LexState.startsStatement_iff.mp h)]

theorem recognize_of_isBlank (h : line.isBlank) :
    recognize line s (lexLine .host s line.content).tokens = .ok none := by
  by_cases hs : s = .initial
  · subst hs
    obtain ⟨-, -, htokens⟩ := Lexeme.lexCode_of_isBlank .host 0 0 h
    unfold recognize
    rw [if_neg (by decide)]
    cases hl : (lexLine .host .initial line.content).tokens with
    | nil => rfl
    | cons first rest =>
      obtain ⟨hkind, u, hu, htext⟩ := htokens first (by
        change first ∈ (lexLine .host .initial line.content).tokens
        simp [hl])
      have hne : u ≠ marker := ne_of_isBlank hu (by decide)
      have hm : first.isPunct marker = false := by simp [Token.isPunct, htext, hne]
      have hw (word : Text) : first.isWord word = false := by simp [Token.isWord, hkind]
      simp [hm, Header.ofTokens?, hw]
  · exact recognize_of_ne_initial line _ hs

theorem content_ne_nil_of_recognize (hi : i ≠ none)
    (h : recognize line s (lexLine .host s line.content).tokens = .ok i) : line.content ≠ [] := by
  intro hc
  rw [recognize_of_isBlank (RawLine.isBlank_of_content_eq_nil hc)] at h
  exact hi (Except.ok.inj h).symm

theorem recognize_congr (hc : line.content = line'.content)
    (h : recognize line s tokens = .ok i) : recognize line' s tokens = .ok i := by
  unfold recognize at h ⊢
  split
  · next hs => simpa [hs] using h
  · next hs =>
    rw [if_neg hs] at h
    cases tokens with
    | nil => exact h
    | cons first rest =>
      simp only at h ⊢
      split
      · next hp =>
        rw [if_pos hp] at h
        simp only [ofMarker, hc] at h ⊢
        split
        · next hle => simp [hle] at h
        · next hle => simpa [hle] using h
      · next hp =>
        rw [if_neg hp] at h
        split
        · next heq => simpa [heq] using h
        · next heq => simpa [heq] using h
        · next heq => simp [heq] at h

theorem recognize_eq_statement_iff :
    recognize line s tokens = .ok (.statement column code stop) ↔
      s = .initial ∧ (∃ first rest, tokens = first :: rest ∧ first.isPunct marker ∧
        first.column = column) ∧
      code = column + 1 + gap (line.content.drop (column + 1)) ∧
      stop = line.content.trimEnd.length ∧ code < stop := by
  by_cases hs : s = .initial
  · subst hs
    unfold recognize
    rw [if_neg (by decide)]
    cases tokens with
    | nil => simp
    | cons first rest =>
      by_cases hp : first.isPunct marker
      · simp only [hp, ofMarker, if_true, true_and]
        constructor
        · intro h
          split at h
          · cases h
          · next hle =>
            cases h
            exact ⟨⟨first, rest, rfl, hp, rfl⟩, rfl, rfl, Nat.lt_of_not_le hle⟩
        · rintro ⟨⟨_, _, heq, -, rfl⟩, rfl, rfl, hlt⟩
          cases heq
          rw [if_neg (Nat.not_le_of_lt hlt)]
      · simp only [hp, Bool.false_eq_true, if_false, true_and]
        constructor
        · intro h
          split at h <;> cases h
        · rintro ⟨⟨_, _, heq, hp', -⟩, -⟩
          cases heq
          exact absurd hp' hp
  · simp [recognize_of_ne_initial line tokens hs, hs]

theorem indentation_marker {w t : Text} (hw : ∀ u ∈ w, u.isIndent) :
    Text.indentation (w ++ marker :: t) = w := by
  rw [Text.indentation_append hw]
  exact List.append_nil w

theorem isBlank_marker (w t : Text) : Text.isBlank (w ++ marker :: t) = false := by
  rw [Text.isBlank_append]
  exact Bool.and_false _

theorem drop_marker (w t : Text) : (w ++ marker :: t).drop (w.length + 1) = t := by
  rw [← List.drop_drop, List.drop_left]
  rfl

theorem gap_append {g rest : Text} (hg : ∀ u ∈ g, u = space ∨ u = tab)
    (hrest : ∀ u, rest.head? = some u → u ≠ space ∧ u ≠ tab) : gap (g ++ rest) = g.length := by
  rw [gap, List.takeWhile_append_of_pos (by simpa using hg)]
  cases rest with
  | nil => simp
  | cons u rest => simp [hrest u rfl]

theorem recognize_marker {w g rest : Text} (hc : line.content = w ++ marker :: (g ++ rest))
    (hw : ∀ u ∈ w, u.isIndent) (hg : ∀ u ∈ g, u = space ∨ u = tab)
    (hrest : ∀ u, rest.head? = some u → u ≠ space ∧ u ≠ tab)
    (hlt : w.length + 1 + g.length < line.content.trimEnd.length) :
    recognize line .initial (lexLine .host .initial line.content).tokens =
      .ok (.statement w.length (w.length + 1 + g.length) line.content.trimEnd.length) := by
  refine recognize_eq_statement_iff.mpr ⟨rfl, first_marker_iff.mpr ⟨w, g ++ rest, hc, hw, rfl⟩, ?_,
    rfl, hlt⟩
  rw [hc, drop_marker, gap_append hg hrest]

theorem exists_marker
    (h : recognize line s (lexLine .host s line.content).tokens =
      .ok (.statement column code stop)) :
    s = .initial ∧ ∃ w g rest, line.content = w ++ marker :: (g ++ rest) ∧
      (∀ u ∈ w, u.isIndent) ∧ (∀ u ∈ g, u = space ∨ u = tab) ∧
      (∀ u, rest.head? = some u → u ≠ space ∧ u ≠ tab) ∧ column = w.length ∧
      code = w.length + 1 + g.length ∧ stop = line.content.trimEnd.length := by
  obtain ⟨rfl, hfirst, hcode, hstop, -⟩ := recognize_eq_statement_iff.mp h
  obtain ⟨w, t, hc, hw, rfl⟩ := first_marker_iff.mp hfirst
  refine ⟨rfl, w, t.takeWhile fun u => u == space || u == tab,
    t.dropWhile fun u => u == space || u == tab, ?_, hw, ?_, ?_, rfl, ?_, hstop⟩
  · rw [List.takeWhile_append_dropWhile, hc]
  · intro u hu
    have hgap := List.all_eq_true.mp List.all_takeWhile u hu
    simpa using hgap
  · intro u hu
    have hrest := List.head?_dropWhile_not (fun u => u == space || u == tab) t
    rw [hu] at hrest
    simpa using hrest
  · rw [hcode, hc, drop_marker, gap]

end Introducer

end Inlay
