import Mathlib.Data.List.TakeWhile
import Inlay.Engine.StandIn
import Inlay.Proofs.Cleaning

/-!
# Spacing assignments

A line that was formatted is left as it is by formatting it again (`formatLine_formatLine`), though
trimming takes the space behind an equals sign at its end that spacing puts there, and so is a
source (`format_format`). Formatting keeps the units that are neither white space nor equals signs
next to each other as they were, so it makes no marker of a stand-in engine
(`infix_of_infix_formatLine`), and it indents a line by a space only if the line begins with a lone
equals sign. The engine answers with the formatted source where it finds no marker and fails where
it finds one (`answer_of_unmarked`, `answer_ne_output`).
-/

namespace Inlay

open CodeUnit

namespace Assignments

variable {before : Option CodeUnit} {t z rest : Text} {u : CodeUnit}

-- ---------------------------------------------------------------------------
-- Lone equals signs
-- ---------------------------------------------------------------------------

theorem loneEquals?_of_isBlank (h : Text.isBlank t) : loneEquals? before t = none := by
  have hnone : t.dropWhile CodeUnit.isBlank = [] :=
    List.dropWhile_eq_nil_iff.mpr (List.all_eq_true.mp h)
  simp [loneEquals?, hnone]

theorem not_mem_operatorUnits (hu : u.isBlank) : u ∉ operatorUnits := by
  have hall : operatorUnits.all (!·.isBlank) = true := by decide +kernel
  intro hm
  simpa [hu] using List.all_eq_true.mp hall u hm

theorem loneEquals?_cons_of_blank (hu : u.isBlank) :
    loneEquals? before (u :: t) = loneEquals? (some u) t := by
  simp [loneEquals?, hu, not_mem_operatorUnits hu]

theorem loneEquals?_cons (hu : u.isBlank = false) :
    loneEquals? before (u :: t) =
      if u = equals && t.head? != some equals && !before.any operatorUnits.contains then some t
      else none := by
  simp [loneEquals?, hu]

theorem loneEquals?_append (hz : Text.isBlank z) :
    loneEquals? before (t ++ z) = (loneEquals? before t).map (· ++ z) := by
  induction t generalizing before with
  | nil => simp [loneEquals?_of_isBlank hz, loneEquals?_of_isBlank (t := []) rfl]
  | cons u t ih =>
    cases hu : u.isBlank with
    | true => rw [List.cons_append, loneEquals?_cons_of_blank hu, loneEquals?_cons_of_blank hu, ih]
    | false =>
      have hhead : ((t ++ z).head? != some equals) = (t.head? != some equals) := by
        cases t with
        | cons v t => rfl
        | nil =>
          cases z with
          | nil => rfl
          | cons v z =>
            have hv : v.isBlank := List.all_eq_true.mp hz v List.mem_cons_self
            have hne : v ≠ equals := by
              rintro rfl
              cases hv
            have hne' : (some v : Option CodeUnit) ≠ some equals := by simpa using hne
            rw [List.nil_append, List.head?_cons, bne_iff_ne.mpr hne']
            rfl
      rw [List.cons_append, loneEquals?_cons hu, loneEquals?_cons hu, hhead]
      split <;> rfl

-- ---------------------------------------------------------------------------
-- Spacing
-- ---------------------------------------------------------------------------

theorem padded (t : Text) : text " = " ++ t = space :: equals :: space :: t := rfl

theorem spaced_nil : spaced before [] = [] := by
  rw [spaced]
  rfl

theorem spaced_of_some (h : loneEquals? before t = some rest) :
    spaced before t = space :: equals :: space ::
      spaced ((rest.takeWhile CodeUnit.isBlank).getLast? <|> some equals)
        (rest.dropWhile CodeUnit.isBlank) := by
  rw [spaced]
  split
  · next rest' h' =>
    obtain rfl := Option.some.inj (h.symm.trans h')
    rfl
  · next h' => cases h.symm.trans h'

theorem spaced_cons (h : loneEquals? before (u :: t) = none) :
    spaced before (u :: t) = u :: spaced (some u) t := by
  rw [spaced]
  split
  · next rest' h' => cases h.symm.trans h'
  · rfl

theorem isBlank_spaced : Text.isBlank (spaced before t) = Text.isBlank t := by
  fun_induction spaced before t with
  | case1 before t rest h gap ih =>
    rw [padded, Text.isBlank_eq_false_of_mem (List.mem_cons_of_mem _ List.mem_cons_self) (by decide)]
    refine (Bool.eq_false_iff.mpr fun hb => ?_).symm
    cases h.symm.trans (loneEquals?_of_isBlank hb)
  | case2 before h => rfl
  | case3 before u rest h ih => simp_all [Text.isBlank]

theorem loneEquals?_equals (h : t.head? = some equals) :
    loneEquals? (some equals) t = none := by
  obtain ⟨t, rfl⟩ := List.head?_eq_some_iff.mp h
  have hoperator : equals ∈ operatorUnits := by decide
  rw [loneEquals?_cons (by decide)]
  simp [hoperator]

theorem head?_spaced_of_none (h : loneEquals? before t = none) :
    (spaced before t).head? = t.head? := by
  cases t with
  | nil => rw [spaced_nil]
  | cons u t => rw [spaced_cons h]; rfl

theorem loneEquals?_spaced (h : loneEquals? before t = none) :
    loneEquals? before (spaced before t) = none := by
  induction t generalizing before with
  | nil => rwa [spaced_nil]
  | cons u t ih =>
    rw [spaced_cons h]
    cases hu : u.isBlank with
    | true =>
      rw [loneEquals?_cons_of_blank hu] at h ⊢
      exact ih h
    | false =>
      rw [loneEquals?_cons hu] at h ⊢
      have hhead : u = equals → t.head? = some equals →
          (spaced (some u) t).head? = some equals := by
        rintro rfl hhead
        rw [head?_spaced_of_none (loneEquals?_equals hhead), hhead]
      grind

theorem head?_ne_of_loneEquals? (h : loneEquals? before t = some rest) :
    rest.head? ≠ some equals := by
  induction t generalizing before with
  | nil => cases h.symm.trans (loneEquals?_of_isBlank rfl)
  | cons u t ih =>
    cases hu : u.isBlank with
    | true => exact ih (loneEquals?_cons_of_blank hu ▸ h)
    | false =>
      rw [loneEquals?_cons hu] at h
      split at h
      · next hlone =>
        cases h
        simp only [Bool.and_eq_true, bne_iff_ne] at hlone
        exact hlone.1.2
      · cases h

theorem suffix_of_loneEquals? (h : loneEquals? before t = some rest) : equals :: rest <:+ t := by
  induction t generalizing before with
  | nil => cases h.symm.trans (loneEquals?_of_isBlank rfl)
  | cons u t ih =>
    cases hu : u.isBlank with
    | true => exact (ih (loneEquals?_cons_of_blank hu ▸ h)).trans (List.suffix_cons u t)
    | false =>
      rw [loneEquals?_cons hu] at h
      split at h
      · next hlone =>
        cases h
        simp only [Bool.and_eq_true, decide_eq_true_eq] at hlone
        rw [hlone.1.1]
      · cases h

theorem spaced_congr {before' : Option CodeUnit} (h : loneEquals? before t = none)
    (h' : loneEquals? before' t = none) : spaced before t = spaced before' t := by
  cases t with
  | nil => rw [spaced_nil, spaced_nil]
  | cons u t => rw [spaced_cons h, spaced_cons h']

theorem isBlank_of_getLast?_takeWhile (h : (t.takeWhile CodeUnit.isBlank).getLast? = some u) :
    u.isBlank :=
  List.mem_takeWhile_imp (List.mem_of_getLast? h)

theorem loneEquals?_dropWhile {c : CodeUnit} (hrest : rest.head? ≠ some equals)
    (hc : c.isBlank)
    (h : loneEquals? ((rest.takeWhile CodeUnit.isBlank).getLast? <|> some equals)
      (rest.dropWhile CodeUnit.isBlank) = none) :
    loneEquals? (some c) (rest.dropWhile CodeUnit.isBlank) = none := by
  cases hrest' : rest.dropWhile CodeUnit.isBlank with
  | nil => exact loneEquals?_of_isBlank rfl
  | cons v r =>
    have hv : v.isBlank = false := by
      simpa [hrest'] using List.head?_dropWhile_not CodeUnit.isBlank rest
    rw [hrest', loneEquals?_cons hv] at h
    rw [loneEquals?_cons hv]
    cases hgap : (rest.takeWhile CodeUnit.isBlank).getLast? with
    | some g =>
      have hg := not_mem_operatorUnits (isBlank_of_getLast?_takeWhile hgap)
      rw [hgap] at h
      simpa [hg, not_mem_operatorUnits hc] using h
    | none =>
      -- nothing stands between, so what follows is no equals sign
      have hnil := List.getLast?_eq_none_iff.mp hgap
      have hsame := List.takeWhile_append_dropWhile (p := CodeUnit.isBlank) (l := rest)
      rw [hnil, hrest', List.nil_append] at hsame
      rw [← hsame] at hrest
      have hne : v ≠ equals := by simpa using hrest
      simp [hne]

theorem loneEquals?_sign {c : CodeUnit} (hc : c.isBlank) (t : Text) :
    loneEquals? (some c) (equals :: space :: t) = some (space :: t) := by
  have hcontains : operatorUnits.contains c = false := by simpa using not_mem_operatorUnits hc
  rw [loneEquals?_cons (by decide), Option.any_some, hcontains]
  rfl

theorem spaced_padded (before : Option CodeUnit) (t : Text) :
    spaced before (space :: equals :: space :: t) = space :: equals :: space ::
      spaced (((space :: t).takeWhile CodeUnit.isBlank).getLast? <|> some equals)
        ((space :: t).dropWhile CodeUnit.isBlank) := by
  have hlone : loneEquals? before (space :: equals :: space :: t) = some (space :: t) := by
    rw [loneEquals?_cons_of_blank (by decide), loneEquals?_sign (by decide)]
  exact spaced_of_some hlone

theorem spaced_sign {c : CodeUnit} (hc : c.isBlank) (before : Option CodeUnit) (t : Text) :
    spaced (some c) (equals :: space :: t) = spaced before (space :: equals :: space :: t) := by
  rw [spaced_of_some (loneEquals?_sign hc t), spaced_padded]

theorem spaced_spaced : spaced before (spaced before t) = spaced before t := by
  fun_induction spaced before t with
  | case1 before t rest h gap ih =>
    obtain ⟨c, hgap⟩ : ∃ c, ((space :: spaced (gap.getLast? <|> some equals)
        (rest.dropWhile CodeUnit.isBlank)).takeWhile CodeUnit.isBlank).getLast? = some c := by
      rw [List.takeWhile_cons_of_pos (by decide), List.getLast?_cons]
      exact ⟨_, rfl⟩
    have hc := isBlank_of_getLast?_takeWhile hgap
    rw [padded, spaced_padded, hgap, List.dropWhile_cons_of_pos (by decide)]
    refine congrArg (space :: equals :: space :: ·) ?_
    cases hlone : loneEquals? (gap.getLast? <|> some equals) (rest.dropWhile CodeUnit.isBlank) with
    | some behind =>
      rw [spaced_of_some hlone] at ih ⊢
      exact (spaced_sign hc _ _).trans ih
    | none =>
      have hlone' := loneEquals?_dropWhile (head?_ne_of_loneEquals? h) hc hlone
      have hsame := spaced_congr hlone hlone'
      have hfirst : (spaced (gap.getLast? <|> some equals)
          (rest.dropWhile CodeUnit.isBlank)).dropWhile CodeUnit.isBlank =
            spaced (gap.getLast? <|> some equals) (rest.dropWhile CodeUnit.isBlank) := by
        have hhead := head?_spaced_of_none hlone
        generalize spaced (gap.getLast? <|> some equals) (rest.dropWhile CodeUnit.isBlank) = s
          at hhead
        cases s with
        | nil => rfl
        | cons v s =>
          have hv := List.head?_dropWhile_not CodeUnit.isBlank rest
          rw [← hhead] at hv
          exact List.dropWhile_cons_of_neg (by simpa using hv)
      rw [hfirst]
      have hspaced := loneEquals?_spaced hlone'
      rw [← hsame] at hspaced
      exact (spaced_congr hspaced (loneEquals?_spaced hlone)).trans ih
  | case2 before h => rw [spaced_nil]
  | case3 before u rest h ih =>
    rw [spaced_cons (by simpa [spaced_cons h] using loneEquals?_spaced h), ih]

-- ---------------------------------------------------------------------------
-- Lines
-- ---------------------------------------------------------------------------

theorem trimEnd_append_congr {a b : Text} (c : Text) (h : Text.trimEnd a = Text.trimEnd b) :
    Text.trimEnd (c ++ a) = Text.trimEnd (c ++ b) := by
  induction c with
  | nil => exact h
  | cons u c ih =>
    simp only [Text.trimEnd, List.cons_append, dropEndWhile] at ih ⊢
    rw [ih]

theorem trimEnd_spaced_append (hz : Text.isBlank z) :
    Text.trimEnd (spaced before (t ++ z)) = Text.trimEnd (spaced before t) := by
  have hblanks := List.all_eq_true.mp hz
  fun_induction spaced before t with
  | case1 before t rest h gap ih =>
    have hmore : loneEquals? before (t ++ z) = some (rest ++ z) := by
      rw [loneEquals?_append hz, h]
      rfl
    rw [spaced_of_some hmore, List.takeWhile_append, List.dropWhile_append]
    refine trimEnd_append_congr [space, equals, space] ?_
    cases hrest : rest.dropWhile CodeUnit.isBlank with
    | nil =>
      rw [List.isEmpty_nil, if_pos rfl, List.dropWhile_eq_nil_iff.mpr hblanks, spaced_nil, spaced_nil]
    | cons v behind =>
      have hlength : ¬ (rest.takeWhile CodeUnit.isBlank).length = rest.length := by
        intro hlength
        have hsame := congrArg List.length
          (List.takeWhile_append_dropWhile (p := CodeUnit.isBlank) (l := rest))
        simp [hrest, hlength] at hsame
      rw [List.isEmpty_cons, if_neg Bool.false_ne_true, if_neg hlength, ← hrest]
      exact ih
  | case2 before h =>
    have hnone : Text.isBlank (spaced before ([] ++ z)) := isBlank_spaced.trans hz
    rw [Text.trimEnd_eq_nil_iff.mpr hnone]
    rfl
  | case3 before u rest h ih =>
    have hmore : loneEquals? before (u :: (rest ++ z)) = none := by
      rw [← List.cons_append, loneEquals?_append hz, h]
      rfl
    rw [List.cons_append, spaced_cons hmore]
    exact trimEnd_append_congr [u] ih

theorem formatLine_formatLine (line : Text) : formatLine (formatLine line) = formatLine line := by
  obtain ⟨z, hspaced, hz⟩ := dropEndWhile_append_dropped CodeUnit.isBlank (spaced none line)
  have hagain : Text.trimEnd (spaced none (spaced none line)) =
      Text.trimEnd (spaced none (Text.trimEnd (spaced none line))) := by
    conv => lhs; rw [hspaced]
    exact trimEnd_spaced_append hz
  rw [formatLine, formatLine, ← hagain, spaced_spaced]

theorem formatLine_eq_nil_iff {line : Text} : formatLine line = [] ↔ Text.isBlank line := by
  rw [formatLine, Text.trimEnd_eq_nil_iff, isBlank_spaced]

theorem exists_getLast?_formatLine {line : Text} (h : Text.isBlank line = false) :
    ∃ u, (formatLine line).getLast? = some u ∧ u.isBlank = false := by
  have hne : formatLine line ≠ [] := by simp [formatLine_eq_nil_iff, h]
  obtain ⟨u, hu⟩ := Option.ne_none_iff_exists'.mp (mt List.getLast?_eq_none_iff.mp hne)
  exact ⟨u, hu, getLast?_dropEndWhile hu⟩

theorem isBlank_formatLine (line : Text) : Text.isBlank (formatLine line) = Text.isBlank line := by
  cases h : Text.isBlank line with
  | true => rw [formatLine_eq_nil_iff.mpr h]; rfl
  | false =>
    obtain ⟨u, hlast, hu⟩ := exists_getLast?_formatLine h
    exact Text.isBlank_eq_false_of_mem (List.mem_of_getLast? hlast) hu

theorem mem_spaced (h : u ∈ spaced before t) : u ∈ t ∨ u = space ∨ u = equals := by
  fun_induction spaced before t with
  | case1 before t rest hlone gap ih =>
    simp only [padded, List.mem_cons] at h
    rcases h with rfl | rfl | rfl | h
    · simp
    · simp
    · simp
    · refine (ih h).imp_left fun h => ?_
      have hm := (List.dropWhile_suffix CodeUnit.isBlank).mem h
      exact (suffix_of_loneEquals? hlone).mem (.tail _ hm)
  | case2 => simp at h
  | case3 before v rest hnone ih =>
    rcases List.mem_cons.mp h with rfl | h
    · simp
    · exact (ih h).imp_left (List.mem_cons_of_mem _)

theorem prefix_of_prefix_spaced {m : Text} (hm : ∀ v ∈ m, v ≠ space)
    (h : m <+: spaced before t) : m <+: t := by
  induction m generalizing before t with
  | nil => exact List.nil_prefix
  | cons v m ih =>
    cases hlone : loneEquals? before t with
    | some rest =>
      rw [spaced_of_some hlone] at h
      obtain ⟨hv, -⟩ := List.cons_prefix_cons.mp h
      exact absurd hv (hm v List.mem_cons_self)
    | none =>
      cases t with
      | nil => rwa [spaced_nil] at h
      | cons u t =>
        rw [spaced_cons hlone] at h
        obtain ⟨rfl, h⟩ := List.cons_prefix_cons.mp h
        exact List.cons_prefix_cons.mpr ⟨rfl, ih (fun v hv => hm v (.tail _ hv)) h⟩

theorem infix_of_infix_formatLine {line m : Text} (hne : m ≠ [])
    (hm : ∀ v ∈ m, v ≠ space ∧ v ≠ equals) (h : m <:+: formatLine line) : m <:+: line := by
  have hspaced : m <:+: spaced none line := h.trans (Text.trimEnd_prefix _).isInfix
  clear h
  have hspace : ∀ v ∈ m, v ≠ space := fun v hv => (hm v hv).1
  have hfirst {u : CodeUnit} {t : Text} (hu : u = space ∨ u = equals) : ¬ m <+: u :: t := by
    intro hprefix
    cases m with
    | nil => contradiction
    | cons v m =>
      obtain ⟨rfl, -⟩ := List.cons_prefix_cons.mp hprefix
      have := hm v List.mem_cons_self
      simp_all
  generalize (none : Option CodeUnit) = before at hspaced
  fun_induction spaced before line with
  | case1 before t rest hlone gap ih =>
    rw [padded] at hspaced
    have hrest := (List.infix_cons_iff.mp hspaced).resolve_left (hfirst (.inl rfl))
    have hrest := (List.infix_cons_iff.mp hrest).resolve_left (hfirst (.inr rfl))
    have hrest := (List.infix_cons_iff.mp hrest).resolve_left (hfirst (.inl rfl))
    have hsuffix := (List.dropWhile_suffix CodeUnit.isBlank).trans
      ((List.suffix_cons equals rest).trans (suffix_of_loneEquals? hlone))
    exact (ih hrest).trans hsuffix.isInfix
  | case2 => exact hspaced
  | case3 before u rest hnone ih =>
    rcases List.infix_cons_iff.mp hspaced with hprefix | hinfix
    · rw [← spaced_cons hnone] at hprefix
      exact (prefix_of_prefix_spaced hspace hprefix).isInfix
    · exact (ih hinfix).trans (List.suffix_cons u rest).isInfix

-- ---------------------------------------------------------------------------
-- How a line begins
-- ---------------------------------------------------------------------------

theorem exists_spaced_of_formatLine (line : Text) :
    ∃ z, spaced none line = formatLine line ++ z ∧ Text.isBlank z := by
  obtain ⟨z, hspaced, hz⟩ := dropEndWhile_append_dropped CodeUnit.isBlank (spaced none line)
  exact ⟨z, hspaced, hz⟩

theorem not_equals_head? (hz : Text.isBlank z) : z.head? ≠ some equals := by
  intro hhead
  have := List.all_eq_true.mp hz equals (List.mem_of_head? hhead)
  revert this
  decide

/-- A formatted line does not begin with a lone equals sign. -/
theorem head?_of_formatLine {line behind : Text} (h : formatLine line = equals :: behind) :
    behind.head? = some equals := by
  obtain ⟨z, hspaced, hz⟩ := exists_spaced_of_formatLine line
  rw [h] at hspaced
  cases hlone : loneEquals? none line with
  | some rest =>
    rw [spaced_of_some hlone] at hspaced
    cases (List.cons.inj hspaced).1
  | none =>
    cases line with
    | nil => rw [spaced_nil] at hspaced; cases hspaced
    | cons u line =>
      rw [spaced_cons hlone] at hspaced
      obtain ⟨rfl, hspaced⟩ := List.cons.inj hspaced
      rw [loneEquals?_cons (by decide)] at hlone
      have hnext : line.head? = some equals := by simpa using hlone
      rw [← head?_spaced_of_none (loneEquals?_equals hnext), hspaced] at hnext
      cases behind with
      | nil => exact absurd hnext (not_equals_head? hz)
      | cons v behind => exact hnext

theorem exists_of_formatLine {line behind : Text} (hline : line.head? ≠ some space)
    (h : formatLine line = space :: behind) :
    ∃ rest, behind = equals :: rest ∧ rest.head? ≠ some equals := by
  obtain ⟨z, hspaced, hz⟩ := exists_spaced_of_formatLine line
  rw [h] at hspaced
  cases hlone : loneEquals? none line with
  | none =>
    have hhead := head?_spaced_of_none hlone
    rw [hspaced] at hhead
    exact absurd hhead.symm hline
  | some rest =>
    rw [spaced_of_some hlone] at hspaced
    obtain ⟨-, hspaced⟩ := List.cons.inj hspaced
    cases behind with
    | nil =>
      have hhead : z.head? = some equals := by
        rw [show z = _ from hspaced.symm]
        rfl
      exact absurd hhead (not_equals_head? hz)
    | cons v behind =>
      obtain ⟨rfl, hbehind⟩ := List.cons.inj hspaced
      refine ⟨behind, rfl, ?_⟩
      cases behind with
      | nil => simp
      | cons w behind =>
        obtain ⟨rfl, -⟩ := List.cons.inj hbehind
        simp only [List.head?_cons, ne_eq, Option.some.injEq]
        decide

theorem head?_formatLine {line : Text} (h : (formatLine line).head? = some u) :
    u = space ∨ line.head? = some u := by
  obtain ⟨z, hspaced, -⟩ := exists_spaced_of_formatLine line
  have hhead : (spaced none line).head? = some u := by
    rw [hspaced, List.head?_append, h]
    rfl
  cases hlone : loneEquals? none line with
  | some rest =>
    rw [spaced_of_some hlone] at hhead
    exact .inl (Option.some.inj hhead).symm
  | none => exact .inr (head?_spaced_of_none hlone ▸ hhead)

/-- No indentation is put before a line that has none and is formatted on its own. -/
theorem eq_nil_of_formatLine_append {line line' x : Text} (hx : ∀ u ∈ x, u.isIndent)
    (hline : ∀ u, line.head? = some u → u.isIndent = false)
    (h : formatLine line = x ++ formatLine line') : x = [] := by
  cases x with
  | nil => rfl
  | cons u x =>
    obtain ⟨hu, hx⟩ := List.forall_mem_cons.mp hx
    have hspace : line.head? ≠ some space := by
      intro hhead
      cases hline space hhead
    have hhead : (formatLine line).head? = some u := by rw [h]; rfl
    obtain rfl := (head?_formatLine hhead).resolve_right fun hhead => by
      rw [hline u hhead] at hu
      cases hu
    obtain ⟨rest, hrest, hne⟩ := exists_of_formatLine hspace h
    cases x with
    | nil => exact absurd (head?_of_formatLine hrest) hne
    | cons v x =>
      obtain ⟨rfl, -⟩ := List.cons.inj hrest
      exact absurd (hx equals (by simp)) (by decide)

theorem mem_formatLine {line : Text} (h : u ∈ formatLine line) :
    u ∈ line ∨ u = space ∨ u = equals :=
  mem_spaced ((Text.trimEnd_prefix _).mem h)

theorem unbroken_formatLine {line : Text} (h : line.Unbroken) : (formatLine line).Unbroken := by
  intro u hu
  obtain hm | rfl | rfl := mem_formatLine hu
  · exact h u hm
  · decide
  · decide

theorem mem_indentation_spaced (h : u ∈ Text.indentation (spaced before t)) :
    u = space ∨ u ∈ Text.indentation t := by
  fun_induction spaced before t with
  | case1 before t rest hlone gap ih =>
    rw [padded] at h
    have hindent : Text.indentation (space :: equals :: space ::
      spaced (gap.getLast? <|> some equals) (rest.dropWhile CodeUnit.isBlank)) = [space] := rfl
    rw [hindent] at h
    exact .inl (List.mem_singleton.mp h)
  | case2 => simp [Text.indentation] at h
  | case3 before v rest hnone ih =>
    simp only [Text.indentation, List.takeWhile_cons] at h ih ⊢
    split at h
    · next hv =>
      rw [if_pos hv]
      rcases List.mem_cons.mp h with rfl | h
      · simp
      · exact (ih h).imp_right (List.mem_cons_of_mem _)
    · simp at h

theorem mem_indentation_formatLine {line : Text} (h : u ∈ Text.indentation (formatLine line)) :
    u = space ∨ u ∈ Text.indentation line := by
  obtain ⟨z, hspaced, -⟩ := exists_spaced_of_formatLine line
  refine mem_indentation_spaced (show u ∈ Text.indentation (spaced none line) from ?_)
  rw [hspaced, Text.indentation, List.takeWhile_append]
  split
  · exact List.mem_append_left _ ((List.takeWhile_prefix _).mem h)
  · exact h

-- ---------------------------------------------------------------------------
-- Sources
-- ---------------------------------------------------------------------------

theorem format_joinWith {lines : List Text} {last : Text} (hlf : ∀ line ∈ lines, lineFeed ∉ line)
    (hlast : lines.getLast? = some last) (hblank : Text.isBlank last = false) :
    format (Text.joinWith [lineFeed] lines ++ [lineFeed]) =
      Text.joinWith [lineFeed] (lines.map formatLine) ++ [lineFeed] := by
  have hne : lines ≠ [] := by
    rintro rfl
    cases hlast
  have hlast' : (lines.map formatLine).getLast? = some (formatLine last) := by
    rw [List.getLast?_map, hlast]
    rfl
  have hfull : (formatLine last).isEmpty = false := by simp [formatLine_eq_nil_iff, hblank]
  have hnil : formatLine [] = [] := formatLine_eq_nil_iff.mpr rfl
  have hkept : dropEndWhile List.isEmpty ((lines ++ [[]]).map formatLine) =
      lines.map formatLine := by
    rw [List.map_append, List.map_singleton, hnil, dropEndWhile_append rfl,
      dropEndWhile_of_getLast? hlast' hfull]
  simp only [format, Text.splitOn_joinWith_concat hne hlf, hkept]
  exact if_neg (by simpa using hne)

theorem format_format (source : Text) : format (format source) = format source := by
  generalize hkept : dropEndWhile List.isEmpty ((Text.splitOn lineFeed source).map formatLine) = kept
  have hmem : ∀ t ∈ kept, ∃ line ∈ Text.splitOn lineFeed source, formatLine line = t :=
    fun t ht => List.mem_map.mp (mem_of_mem_dropEndWhile (hkept ▸ ht))
  cases hlast : kept.getLast? with
  | none =>
    obtain rfl := List.getLast?_eq_none_iff.mp hlast
    have hnone : format source = [] := by
      simp only [format, hkept]
      rfl
    have hnil : formatLine [] = [] := formatLine_eq_nil_iff.mpr rfl
    rw [hnone]
    simp [format, Text.splitOn, dropEndWhile, hnil]
  | some last =>
    have hne : kept ≠ [] := List.ne_nil_of_mem (List.mem_of_getLast? hlast)
    have hsource : format source = Text.joinWith [lineFeed] kept ++ [lineFeed] := by
      simp only [format, hkept]
      exact if_neg (by simpa using hne)
    have hlf : ∀ t ∈ kept, lineFeed ∉ t := by
      intro t ht hm
      obtain ⟨line, hline, rfl⟩ := hmem t ht
      obtain hm | hm | hm := mem_formatLine hm
      · exact Text.not_mem_of_mem_splitOn hline hm
      · exact absurd hm (by decide)
      · exact absurd hm (by decide)
    have hblank : Text.isBlank last = false := by
      obtain ⟨line, -, rfl⟩ := hmem last (List.mem_of_getLast? hlast)
      have hfull := getLast?_dropEndWhile (hkept ▸ hlast)
      rw [isBlank_formatLine, Bool.eq_false_iff]
      exact fun hblank => by simp [formatLine_eq_nil_iff.mpr hblank] at hfull
    have htwice : kept.map formatLine = kept := by
      refine (List.map_congr_left fun t ht => ?_).trans (List.map_id kept)
      obtain ⟨line, -, rfl⟩ := hmem t ht
      exact formatLine_formatLine line
    rw [hsource, format_joinWith hlf hlast hblank, htwice]

end Assignments

-- ---------------------------------------------------------------------------
-- Texts in texts
-- ---------------------------------------------------------------------------

namespace Text

variable {t : Text}

theorem offsetOf?_isSome_iff {needle : Text} : (offsetOf? needle t).isSome ↔ needle <:+: t := by
  induction t with
  | nil => cases needle <;> simp [offsetOf?]
  | cons u t ih =>
    rw [offsetOf?, List.infix_cons_iff, ← ih, ← List.isPrefixOf_iff_prefix]
    split <;> simp_all

theorem containsText_iff {needle : Text} : containsText t needle ↔ needle <:+: t :=
  offsetOf?_isSome_iff

end Text

namespace StandIn

def markers : List Text := [hangMarker, crashMarker, syntaxMarker]

def Unmarked (source : Text) : Prop := ∀ m ∈ markers, ¬ m <:+: source

instance (t : Text) : Decidable (Unmarked t) :=
  inferInstanceAs (Decidable (∀ m ∈ markers, ¬ m <:+: t))

variable {m a b w source : Text} {u : CodeUnit} {lines : List Text} {number : Nat}
  {transform : Text → Answer} {call : EngineCall}

theorem ne_nil_of_mem_markers (h : m ∈ markers) : m ≠ [] := by
  have hall : ∀ m ∈ markers, m ≠ [] := by decide +kernel
  exact hall m h

theorem not_isBlank_of_mem_markers (h : m ∈ markers) (hu : u ∈ m) :
    u.isBlank = false ∧ u ≠ Assignments.equals := by
  have hall : markers.all (fun m => m.all fun u => !u.isBlank && u != Assignments.equals) := by
    decide +kernel
  simpa using List.all_eq_true.mp (List.all_eq_true.mp hall m h) u hu

theorem not_mem_of_mem_markers (h : m ∈ markers) (hu : u.isBlank) : u ∉ m := fun hm =>
  Bool.eq_false_iff.mp (not_isBlank_of_mem_markers h hm).1 hu

theorem Unmarked.mono (h : Unmarked b) (hab : a <:+: b) : Unmarked a :=
  fun m hm hma => h m hm (hma.trans hab)

theorem unmarked_append_cons (hu : u.isBlank) :
    Unmarked (a ++ u :: b) ↔ Unmarked a ∧ Unmarked b := by
  rw [Unmarked, Unmarked, Unmarked, ← forall₂_and]
  refine forall₂_congr fun m hm => ?_
  rw [Text.infix_append_cons_iff (ne_nil_of_mem_markers hm) (not_mem_of_mem_markers hm hu), not_or]

theorem unmarked_nil : Unmarked [] := fun _ hm hnil =>
  ne_nil_of_mem_markers hm (List.infix_nil.mp hnil)

theorem unmarked_append_of_isBlank (hw : Text.isBlank w) : Unmarked (w ++ a) ↔ Unmarked a := by
  induction w with
  | nil => rfl
  | cons u w ih =>
    obtain ⟨hu, hw⟩ : u.isBlank ∧ Text.isBlank w := by simpa [Text.isBlank] using hw
    rw [List.cons_append, ← List.nil_append (u :: (w ++ a)), unmarked_append_cons hu,
      and_iff_right unmarked_nil, ih hw]

theorem unmarked_joinWith :
    Unmarked (Text.joinWith [lineFeed] lines ++ [lineFeed]) ↔ ∀ line ∈ lines, Unmarked line := by
  rw [unmarked_append_cons (by decide), and_iff_left unmarked_nil]
  constructor
  · intro h line hline m hm hinfix
    refine h m hm ((Text.infix_joinWith_iff (ne_nil_of_mem_markers hm) ?_).mpr ⟨line, hline, hinfix⟩)
    exact not_mem_of_mem_markers hm (by decide)
  · intro h m hm hinfix
    obtain ⟨line, hline, hinfix⟩ := (Text.infix_joinWith_iff (ne_nil_of_mem_markers hm)
      (not_mem_of_mem_markers hm (by decide))).mp hinfix
    exact h line hline m hm hinfix

theorem Unmarked.formatLine (h : Unmarked a) : Unmarked (Assignments.formatLine a) := by
  intro m hm hinfix
  refine h m hm (Assignments.infix_of_infix_formatLine (ne_nil_of_mem_markers hm) ?_ hinfix)
  intro v hv
  obtain ⟨hblank, hequals⟩ := not_isBlank_of_mem_markers hm hv
  refine ⟨?_, hequals⟩
  rintro rfl
  cases hblank

theorem refusal?_eq_none_iff :
    refusal? number lines = none ↔ ∀ line ∈ lines, ¬ syntaxMarker <:+: line := by
  induction lines generalizing number with
  | nil => simp [refusal?]
  | cons line lines ih =>
    rw [refusal?, List.forall_mem_cons, ← Text.offsetOf?_isSome_iff]
    cases Text.offsetOf? syntaxMarker line with
    | none => simpa using ih
    | some offset => simp

theorem answer_of_unmarked (h : Unmarked call.source) :
    answer transform call = transform call.source := by
  have hsyntax : refusal? 1 (Text.splitOn lineFeed call.source) = none := by
    refine refusal?_eq_none_iff.mpr fun line hline hinfix => h syntaxMarker (by simp [markers]) ?_
    rw [← Text.join_splitOn lineFeed call.source]
    exact (Text.infix_joinWith_iff (ne_nil_of_mem_markers (by simp [markers]))
      (not_mem_of_mem_markers (by simp [markers]) (by decide))).mpr ⟨line, hline, hinfix⟩
  rw [answer, if_neg (mt Text.containsText_iff.mp (h hangMarker (by simp [markers]))),
    if_neg (mt Text.containsText_iff.mp (h crashMarker (by simp [markers]))), hsyntax]

theorem answer_ne_output (h : ¬ Unmarked call.source) (output : Text) :
    answer transform call ≠ .output output := by
  simp only [Unmarked, not_forall, not_not] at h
  obtain ⟨m, hm, hinfix⟩ := h
  rw [answer]
  split
  · simp
  · next hhang =>
    split
    · simp
    · next hcrash =>
      split
      · simp
      · next hsyntax =>
        have hline := refusal?_eq_none_iff.mp hsyntax
        simp only [markers, List.mem_cons, List.not_mem_nil, or_false] at hm
        rcases hm with rfl | rfl | rfl
        · exact absurd (Text.containsText_iff.mpr hinfix) hhang
        · exact absurd (Text.containsText_iff.mpr hinfix) hcrash
        · rw [← Text.join_splitOn lineFeed call.source, Text.infix_joinWith_iff
            (ne_nil_of_mem_markers (by simp [markers]))
            (not_mem_of_mem_markers (by simp [markers]) (by decide))] at hinfix
          obtain ⟨line, hmem, hinfix⟩ := hinfix
          exact absurd hinfix (hline line hmem)

end StandIn

end Inlay
