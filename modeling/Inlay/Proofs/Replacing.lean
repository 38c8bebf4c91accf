import Inlay.Proofs.Spacing

/-!
# Spacing is replacing a pattern

The rule for a line is a replacement. The pattern is an equals sign with white space on both sides,
no sign of an operator right in front and no equals sign right behind, and what it matches becomes
an equals sign between two spaces. `Replaced` says what it is to replace every match from the left,
each as long as it can be, where what is in front is read on the line as it was. Spacing is this
replacement (`replaced_iff`), and so a formatted source is one whose lines were replaced and
trimmed, without the empty ones at the end (`formatted_iff`). Doing all this again changes nothing
(`format_normalizes`).
-/

namespace Inlay

open CodeUnit

theorem Text.joinWith_append_eq_flatMap {separator : Text} {pieces : List Text}
    (hne : pieces ≠ []) :
    joinWith separator pieces ++ separator = pieces.flatMap (· ++ separator) := by
  induction pieces with
  | nil => contradiction
  | cons piece pieces ih =>
    cases pieces with
    | nil => simp [joinWith]
    | cons next pieces =>
      have hne' : next :: pieces ≠ [] := List.cons_ne_nil next pieces
      rw [joinWith_cons hne', List.flatMap_cons, ← ih hne', List.append_assoc]

namespace Assignments

/-- An equals sign with white space on both sides stands alone between what is in front and
behind. -/
structure StandsAlone (front blanks gap behind : Text) : Prop where
  isBlank_blanks : Text.isBlank blanks
  isBlank_gap : Text.isBlank gap
  /-- No sign of an operator is right in front of the equals sign. -/
  not_joined : ∀ u, (front ++ blanks).getLast? = some u → u ∉ operatorUnits
  /-- No equals sign is right behind it. -/
  not_doubled : (gap ++ behind).head? ≠ some equals

/-- The pattern matches a text between what is in front and behind. -/
def Matches (front taken behind : Text) : Prop :=
  ∃ blanks gap, taken = blanks ++ equals :: gap ∧ StandsAlone front blanks gap behind

/-- The pattern matches the text and no longer one from the same place. -/
def MatchesLongest (front taken behind : Text) : Prop :=
  Matches front taken behind ∧ ∀ taken' behind', taken' ++ behind' = taken ++ behind →
    Matches front taken' behind' → taken'.length ≤ taken.length

/-- What becomes of a text, behind another one on its line, by replacing all matches from the
left. -/
inductive Replaced : (front t out : Text) → Prop
  | done {front : Text} : Replaced front [] []
  | keep {front t out : Text} {u : CodeUnit} :
      (∀ taken behind, taken ++ behind = u :: t → ¬ Matches front taken behind) →
      Replaced (front ++ [u]) t out → Replaced front (u :: t) (u :: out)
  | take {front taken behind out : Text} : MatchesLongest front taken behind →
      Replaced (front ++ taken) behind out →
      Replaced front (taken ++ behind) (text " = " ++ out)

/-- What becomes of a source: its lines are replaced and trimmed at the end, and each is ended by a
line feed but for the empty ones after all others. -/
def Formatted (source out : Text) : Prop :=
  ∃ lines kept : List Text, ∃ dropped : Nat,
    List.Forall₂ (Replaced []) (Text.splitOn lineFeed source) lines ∧
    lines.map Text.trimEnd = kept ++ List.replicate dropped [] ∧ kept.getLast? ≠ some [] ∧
    out = kept.flatMap (· ++ [lineFeed])

variable {front blanks gap t taken taken' behind behind' rest out source : Text} {u : CodeUnit}

-- ---------------------------------------------------------------------------
-- Matches
-- ---------------------------------------------------------------------------

theorem standsAlone_gap : StandsAlone front blanks gap behind ↔
    StandsAlone front blanks [] (gap ++ behind) ∧ Text.isBlank gap :=
  ⟨fun h => ⟨⟨h.isBlank_blanks, rfl, h.not_joined, h.not_doubled⟩, h.isBlank_gap⟩,
    fun ⟨h, hgap⟩ => ⟨h.isBlank_blanks, hgap, h.not_joined, h.not_doubled⟩⟩

theorem standsAlone_cons (hu : u.isBlank) : StandsAlone front (u :: blanks) gap behind ↔
    StandsAlone (front ++ [u]) blanks gap behind := by
  constructor
  · intro h
    have hblanks : Text.isBlank blanks := by simpa [Text.isBlank, hu] using h.isBlank_blanks
    exact ⟨hblanks, h.isBlank_gap, by simpa using h.not_joined, h.not_doubled⟩
  · intro h
    have hblanks : Text.isBlank (u :: blanks) := by simpa [Text.isBlank, hu] using h.isBlank_blanks
    exact ⟨hblanks, h.isBlank_gap, by simpa using h.not_joined, h.not_doubled⟩

theorem loneEquals?_eq_some_iff : loneEquals? front.getLast? t = some rest ↔
    ∃ blanks, t = blanks ++ equals :: rest ∧ StandsAlone front blanks [] rest := by
  induction t generalizing front with
  | nil => simp [loneEquals?]
  | cons u t ih =>
    cases hu : u.isBlank with
    | true =>
      have hlast : (front ++ [u]).getLast? = some u := by simp
      rw [loneEquals?_cons_of_blank hu, ← hlast, ih]
      constructor
      · rintro ⟨blanks, rfl, h⟩
        exact ⟨u :: blanks, rfl, (standsAlone_cons hu).mpr h⟩
      · rintro ⟨_ | ⟨v, blanks⟩, heq, h⟩
        · obtain ⟨rfl, -⟩ := List.cons.inj heq
          cases hu
        · obtain ⟨rfl, rfl⟩ := List.cons.inj heq
          exact ⟨blanks, rfl, (standsAlone_cons hu).mp h⟩
    | false =>
      have hjoined : front.getLast?.any operatorUnits.contains = false ↔
          ∀ v, front.getLast? = some v → v ∉ operatorUnits := by
        cases front.getLast? <;> simp
      rw [loneEquals?_cons hu, Option.ite_none_right_eq_some]
      simp only [Bool.and_eq_true, decide_eq_true_eq, bne_iff_ne, Bool.not_eq_true', hjoined]
      constructor
      · rintro ⟨⟨⟨rfl, hrest⟩, hfront⟩, ⟨⟩⟩
        exact ⟨[], rfl, rfl, rfl, by simpa using hfront, hrest⟩
      · rintro ⟨_ | ⟨v, blanks⟩, heq, h⟩
        · obtain ⟨rfl, rfl⟩ := List.cons.inj heq
          exact ⟨⟨⟨rfl, h.not_doubled⟩, by simpa using h.not_joined⟩, rfl⟩
        · obtain ⟨rfl, -⟩ := List.cons.inj heq
          have hblank := h.isBlank_blanks
          simp [Text.isBlank, hu] at hblank

theorem Matches.loneEquals? (h : Matches front taken behind) : ∃ blanks gap,
    taken = blanks ++ equals :: gap ∧ Text.isBlank gap ∧
      Assignments.loneEquals? front.getLast? (taken ++ behind) = some (gap ++ behind) := by
  obtain ⟨blanks, gap, rfl, h⟩ := h
  refine ⟨blanks, gap, rfl, h.isBlank_gap, loneEquals?_eq_some_iff.mpr ⟨blanks, by simp, ?_⟩⟩
  exact (standsAlone_gap.mp h).1

theorem length_le_length_takeWhile (hgap : Text.isBlank gap) (behind : Text) :
    gap.length ≤ ((gap ++ behind).takeWhile CodeUnit.isBlank).length := by
  rw [List.takeWhile_append_of_pos (List.all_eq_true.mp hgap)]
  simp

theorem getLast?_append_cons (front blanks gap : Text) :
    (front ++ (blanks ++ u :: gap)).getLast? = (gap.getLast? <|> some u) := by
  rw [← List.append_assoc, List.getLast?_append, List.getLast?_cons]
  cases gap.getLast? <;> rfl

theorem matchesLongest_of_loneEquals? (h : loneEquals? front.getLast? t = some rest) :
    ∃ taken, t = taken ++ rest.dropWhile CodeUnit.isBlank ∧
      MatchesLongest front taken (rest.dropWhile CodeUnit.isBlank) ∧
      (front ++ taken).getLast? =
        ((rest.takeWhile CodeUnit.isBlank).getLast? <|> some equals) := by
  have hrest := List.takeWhile_append_dropWhile (p := CodeUnit.isBlank) (l := rest)
  obtain ⟨blanks, ht, hstands⟩ := loneEquals?_eq_some_iff.mp h
  have ht' : t = (blanks ++ equals :: rest.takeWhile CodeUnit.isBlank) ++
      rest.dropWhile CodeUnit.isBlank := by rw [ht]; simp [hrest]
  refine ⟨blanks ++ equals :: rest.takeWhile CodeUnit.isBlank, ht', ⟨?_, ?_⟩, ?_⟩
  · refine ⟨blanks, _, rfl, standsAlone_gap.mpr ⟨by rwa [hrest], ?_⟩⟩
    exact List.all_takeWhile
  · intro taken' behind' heq hmatches
    obtain ⟨blanks', gap', rfl, hgap', hlone⟩ := hmatches.loneEquals?
    rw [heq, ← ht', h] at hlone
    obtain rfl := Option.some.inj hlone
    -- both signs have the same text behind them, and so as much in front
    have hlength := congrArg List.length (heq.trans ht'.symm)
    have hgap := length_le_length_takeWhile hgap' behind'
    simp only [ht, List.length_append, List.length_cons] at hlength ⊢
    omega
  · exact getLast?_append_cons ..

theorem MatchesLongest.eq (h : MatchesLongest front taken behind)
    (h' : MatchesLongest front taken' behind') (heq : taken ++ behind = taken' ++ behind') :
    taken = taken' ∧ behind = behind' :=
  List.append_inj heq
    (Nat.le_antisymm (h'.2 taken behind heq h.1) (h.2 taken' behind' heq.symm h'.1))

-- ---------------------------------------------------------------------------
-- Replacing
-- ---------------------------------------------------------------------------

theorem replaced_spaced (front t : Text) : Replaced front t (spaced front.getLast? t) := by
  generalize hbefore : front.getLast? = before
  fun_induction spaced before t generalizing front with
  | case1 before t rest h gap ih =>
    subst hbefore
    obtain ⟨taken, ht, hlongest, hlast⟩ := matchesLongest_of_loneEquals? h
    rw [ht]
    exact .take hlongest (ih (front ++ taken) hlast)
  | case2 => exact .done
  | case3 before u t h ih =>
    subst hbefore
    refine .keep (fun taken behind heq hmatches => ?_) (ih (front ++ [u]) (by simp))
    obtain ⟨_, _, -, -, hlone⟩ := hmatches.loneEquals?
    rw [heq, h] at hlone
    cases hlone

/-- Replacing from the left leaves no choice. -/
theorem Replaced.eq_spaced (h : Replaced front t out) : out = spaced front.getLast? t := by
  induction h with
  | done => rw [spaced_nil]
  | @keep front t out u hnone _ ih =>
    have hlone : loneEquals? front.getLast? (u :: t) = none := by
      refine Option.eq_none_iff_forall_ne_some.mpr fun rest hrest => ?_
      obtain ⟨taken, ht, hlongest, -⟩ := matchesLongest_of_loneEquals? hrest
      exact hnone taken _ ht.symm hlongest.1
    rw [spaced_cons hlone, ih]
    simp
  | @take front taken behind out hlongest _ ih =>
    obtain ⟨_, gap, -, -, hlone⟩ := hlongest.1.loneEquals?
    obtain ⟨taken', ht, hlongest', hlast⟩ := matchesLongest_of_loneEquals? hlone
    obtain ⟨rfl, hbehind⟩ := hlongest.eq hlongest' ht
    rw [spaced_of_some hlone, ih, hlast, ← hbehind]
    rfl

theorem replaced_iff : Replaced front t out ↔ out = spaced front.getLast? t :=
  ⟨Replaced.eq_spaced, fun h => h ▸ replaced_spaced front t⟩

-- ---------------------------------------------------------------------------
-- Sources
-- ---------------------------------------------------------------------------

theorem forall₂_replaced_iff {lines replaced : List Text} :
    List.Forall₂ (Replaced []) lines replaced ↔ replaced = lines.map (spaced none) := by
  induction lines generalizing replaced with
  | nil => simp
  | cons line lines ih =>
    simp [List.forall₂_cons_left_iff, replaced_iff, ih]

theorem format_eq_flatMap (source : Text) : format source =
    (dropEndWhile List.isEmpty ((Text.splitOn lineFeed source).map formatLine)).flatMap
      (· ++ [lineFeed]) := by
  rw [format]
  split
  · next hnone => rw [List.isEmpty_iff.mp hnone, List.flatMap_nil]
  · next hsome => exact Text.joinWith_append_eq_flatMap (by simpa using hsome)

theorem dropEndWhile_isEmpty_eq_iff {lines kept : List Text} :
    dropEndWhile List.isEmpty lines = kept ↔
      ∃ dropped, lines = kept ++ List.replicate dropped [] ∧ kept.getLast? ≠ some [] := by
  constructor
  · rintro rfl
    obtain ⟨dropped, hlines, hempty⟩ := dropEndWhile_append_dropped List.isEmpty lines
    have hreplicate : dropped = List.replicate dropped.length [] :=
      List.eq_replicate_of_mem (by simpa using hempty)
    refine ⟨dropped.length, by rwa [← hreplicate], fun hlast => ?_⟩
    cases getLast?_dropEndWhile hlast
  · rintro ⟨dropped, rfl, hlast⟩
    rw [dropEndWhile_append (by simp)]
    cases hkept : kept.getLast? with
    | none =>
      rw [List.getLast?_eq_none_iff.mp hkept]
      rfl
    | some last =>
      refine dropEndWhile_of_getLast? hkept (Bool.eq_false_iff.mpr fun hempty => hlast ?_)
      rw [hkept, List.isEmpty_iff.mp hempty]

theorem formatted_iff : Formatted source out ↔ out = format source := by
  have hlines : ((Text.splitOn lineFeed source).map (spaced none)).map Text.trimEnd =
      (Text.splitOn lineFeed source).map formatLine := List.map_map
  rw [format_eq_flatMap, ← hlines]
  simp only [Formatted, forall₂_replaced_iff]
  constructor
  · rintro ⟨_, kept, dropped, rfl, hkept, hlast, rfl⟩
    rw [dropEndWhile_isEmpty_eq_iff.mpr ⟨dropped, hkept, hlast⟩]
  · rintro rfl
    generalize hkept : dropEndWhile List.isEmpty _ = kept
    obtain ⟨dropped, hlines, hlast⟩ := dropEndWhile_isEmpty_eq_iff.mp hkept
    exact ⟨_, kept, dropped, rfl, hlines, hlast, rfl⟩

/-- Formatting replaces the pattern in every line, and once is enough. -/
theorem format_normalizes (source : Text) :
    (∀ out, Formatted source out ↔ out = format source) ∧ format (format source) = format source :=
  ⟨fun _ => formatted_iff, format_format source⟩

example : format (text "a= =b \n x+=1\n\n") = text "a =  = b\n x+=1\n" := by decide +kernel

end Assignments

end Inlay
