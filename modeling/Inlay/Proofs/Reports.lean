import Inlay.Engine.SyntaxReport
import Inlay.Proofs.Margins

/-!
# Where a report is read from

A report is read from the first phrase behind which a position stands, and behind it from the first
colon at which one does. `SyntaxReport.Place` takes apart what an engine wrote around this colon,
and `inStyle?_eq_some_iff` says that the report is that of the first place.
-/

namespace Inlay

open CodeUnit

namespace SyntaxReport

-- ---------------------------------------------------------------------------
-- The pieces of a report
-- ---------------------------------------------------------------------------

structure IsNumber (t : Text) : Prop where
  ne_nil : t ≠ []
  digit : ∀ u ∈ t, u.isDigit

/-- What stands behind the colon of a position: white space and the digits of the line, the digits
of the column, white space and the detail, and the lines below. -/
structure Pieces where
  gap : Text
  line : Text
  column : Text
  blanks : Text
  detail : Text
  after : Text

def Pieces.text (p : Pieces) : Text :=
  p.gap ++ (p.line ++ colon :: (p.column ++ colon :: (p.blanks ++ (p.detail ++ p.after))))

/-- The pieces are cut as a style asks for: the white space reaches as far as it can, over the ends
of lines too, and the detail up to the end of its line. -/
structure Pieces.Reads (style : ReportStyle) (p : Pieces) : Prop where
  gap : Text.isBlank p.gap
  close : style.spaced = false → p.gap = []
  line : IsNumber p.line
  column : IsNumber p.column
  blanks : Text.isBlank p.blanks
  solid : ∀ u, (p.detail ++ p.after).head? = some u → u.isBlank = false
  detail : lineFeed ∉ p.detail
  after : ∀ u, p.after.head? = some u → u = lineFeed

/-- What the pieces report. -/
def Pieces.report (style : ReportStyle) (p : Pieces) : SyntaxReport :=
  ⟨detailMessage p.detail, Number.roundNat (Text.decimal p.line),
    Number.roundNat (Number.roundNat (Text.decimal p.column) + style.columnOffset)⟩

/-- The pieces stand behind a colon on the first line of a text. -/
structure Pieces.Behind (style : ReportStyle) (t between : Text) (p : Pieces) : Prop where
  text : t = between ++ colon :: p.text
  between : lineFeed ∉ between
  reads : p.Reads style

/-- A place in what an engine wrote, with what stands before the phrase and what stands between the
phrase and the colon of a position. -/
structure Place extends Pieces where
  before : Text
  between : Text

def Place.At (style : ReportStyle) (t : Text) (p : Place) : Prop :=
  ∃ behind, t = p.before ++ (style.phrase ++ behind) ∧ p.toPieces.Behind style behind p.between

/-- No phrase before this one goes on to a position, and none before this colon goes on to one. -/
structure Place.First (style : ReportStyle) (t : Text) (p : Place) : Prop where
  here : p.At style t
  first : ∀ q : Place, q.At style t → p.before.length ≤ q.before.length
  lazy : ∀ q : Place, q.At style t → q.before = p.before → p.between.length ≤ q.between.length

section

variable {style : ReportStyle} {t rest : Text} {r : SyntaxReport} {n : Nat}

-- ---------------------------------------------------------------------------
-- Positions
-- ---------------------------------------------------------------------------

theorem takeNumber?_eq_some_iff :
    takeNumber? t = some (n, rest) ↔
      ∃ digits, IsNumber digits ∧ t = digits ++ colon :: rest ∧ n = Text.decimal digits := by
  constructor
  · intro h
    have ht := List.takeWhile_append_dropWhile (p := isDigit) (l := t)
    unfold takeNumber? at h
    dsimp only at h
    split at h
    · next u behind hbehind =>
      split at h
      · next hu =>
        simp only [Bool.and_eq_true, decide_eq_true_eq, Bool.not_eq_true', List.isEmpty_eq_false_iff]
          at hu
        obtain ⟨rfl, hne⟩ := hu
        cases h
        refine ⟨_, ⟨hne, fun u hu => List.all_eq_true.mp List.all_takeWhile u hu⟩, ?_, rfl⟩
        rw [← hbehind, ht]
      · cases h
    · cases h
  · rintro ⟨digits, ⟨hne, hdigits⟩, rfl, rfl⟩
    have hcolon : ∀ u, (colon :: rest).head? = some u → u.isDigit = false := by
      rintro _ ⟨⟩
      decide
    simp [takeNumber?, takeWhile_append_of_head hdigits hcolon,
      dropWhile_append_of_head hdigits hcolon, hne]

theorem IsNumber.head_not_blank {digits : Text} (h : IsNumber digits) :
    ∀ u, (digits ++ rest).head? = some u → u.isBlank = false := by
  obtain ⟨v, w, rfl⟩ := List.exists_cons_of_ne_nil h.ne_nil
  rintro _ ⟨⟩
  have hv := h.digit v List.mem_cons_self
  by_contra hblank
  simp [isDigit_of_isBlank (by simpa using hblank)] at hv

theorem Pieces.Reads.ofPosition?_eq {p : Pieces} (h : p.Reads style) :
    ofPosition? style p.text = some (p.report style) := by
  have hgap : (if style.spaced then Text.trimStart p.text else p.text) =
      p.line ++ colon :: (p.column ++ colon :: (p.blanks ++ (p.detail ++ p.after))) := by
    split
    · exact dropWhile_append_of_head (List.all_eq_true.mp h.gap) h.line.head_not_blank
    · next hclose => simp [text, h.close (by simpa using hclose)]
  have hline := takeNumber?_eq_some_iff.mpr ⟨p.line, h.line, hgap, rfl⟩
  have hcolumn : takeNumber? (p.column ++ colon :: (p.blanks ++ (p.detail ++ p.after))) = _ :=
    takeNumber?_eq_some_iff.mpr ⟨p.column, h.column, rfl, rfl⟩
  have hblanks : Text.trimStart (p.blanks ++ (p.detail ++ p.after)) = p.detail ++ p.after :=
    dropWhile_append_of_head (List.all_eq_true.mp h.blanks) h.solid
  have hdetail : (p.detail ++ p.after).takeWhile (· != lineFeed) = p.detail := by
    refine takeWhile_append_of_head (fun u hu => ?_) fun u hu => by simp [h.after u hu]
    simpa using ne_of_mem_of_not_mem hu h.detail
  simp [ofPosition?, hline, hcolumn, hblanks, hdetail, report]

theorem ofPosition?_eq_some_iff :
    ofPosition? style t = some r ↔
      ∃ p : Pieces, p.Reads style ∧ t = p.text ∧ r = p.report style := by
  constructor
  · intro h
    simp only [ofPosition?, bind, Option.bind_eq_some_iff] at h
    obtain ⟨⟨line, t₁⟩, hline, ⟨column, t₂⟩, hcolumn, h⟩ := h
    obtain ⟨digits, hdigits, ht, rfl⟩ := takeNumber?_eq_some_iff.mp hline
    obtain ⟨digits', hdigits', rfl, rfl⟩ := takeNumber?_eq_some_iff.mp hcolumn
    let gap := if style.spaced then t.takeWhile isBlank else []
    let behind := Text.trimStart t₂
    have hgap : t = gap ++ (if style.spaced then Text.trimStart t else t) := by
      by_cases hs : style.spaced <;> simp [gap, hs, Text.trimStart]
    have hblanks : t₂ = t₂.takeWhile isBlank ++ behind := List.takeWhile_append_dropWhile.symm
    have hdetail : behind = behind.takeWhile (· != lineFeed) ++ behind.dropWhile (· != lineFeed) :=
      List.takeWhile_append_dropWhile.symm
    refine ⟨⟨gap, digits, digits', t₂.takeWhile isBlank, behind.takeWhile (· != lineFeed),
      behind.dropWhile (· != lineFeed)⟩, ?_, ?_, (Option.some.inj h).symm⟩
    · constructor
      case gap => by_cases hs : style.spaced <;> simp [gap, hs, Text.isBlank]
      case close => intro hs; simp [gap, hs]
      case line => exact hdigits
      case column => exact hdigits'
      case blanks => exact List.all_takeWhile
      case solid => rw [← hdetail]; exact fun u hu => eq_false_of_head?_dropWhile hu
      case detail => exact not_mem_takeWhile lineFeed behind
      case after => exact fun u hu => by simpa using eq_false_of_head?_dropWhile hu
    · rw [Pieces.text, ← hdetail, ← hblanks, ← ht, ← hgap]
  · rintro ⟨p, hp, rfl, rfl⟩
    exact hp.ofPosition?_eq

-- ---------------------------------------------------------------------------
-- The first colon
-- ---------------------------------------------------------------------------

theorem ofPosition?_here_iff {u : CodeUnit} :
    (if u = colon then ofPosition? style rest else none) = some r ↔
      ∃ p : Pieces, p.Behind style (u :: rest) [] ∧ r = p.report style := by
  constructor
  · intro h
    split at h
    · next hu =>
      obtain ⟨p, hreads, rfl, rfl⟩ := ofPosition?_eq_some_iff.mp h
      exact ⟨p, ⟨by simp [hu], List.not_mem_nil, hreads⟩, rfl⟩
    · cases h
  · rintro ⟨p, ⟨ht, -, hreads⟩, rfl⟩
    obtain ⟨rfl, rfl⟩ := List.cons.inj ht
    simpa using hreads.ofPosition?_eq

theorem Pieces.behind_cons_iff {u v : CodeUnit} {between : Text} {p : Pieces} :
    p.Behind style (u :: rest) (v :: between) ↔
      v = u ∧ u ≠ lineFeed ∧ p.Behind style rest between := by
  constructor
  · rintro ⟨ht, hbetween, hreads⟩
    obtain ⟨rfl, hrest⟩ := List.cons.inj ht
    obtain ⟨hu, hbetween⟩ := not_or.mp (mt List.mem_cons.mpr hbetween)
    exact ⟨rfl, Ne.symm hu, hrest, hbetween, hreads⟩
  · rintro ⟨rfl, hu, ht, hbetween, hreads⟩
    exact ⟨by simp [ht], by simp [Ne.symm hu, hbetween], hreads⟩

theorem Pieces.Behind.text_ne_nil {between : Text} {p : Pieces} (h : p.Behind style t between) :
    t ≠ [] := by
  simp [h.text]

theorem behindPhrase?_eq_none_iff :
    behindPhrase? style t = none ↔ ∀ (p : Pieces) between, ¬ p.Behind style t between := by
  fun_induction behindPhrase? style t with
  | case1 => exact iff_of_true rfl fun p between h => h.text_ne_nil rfl
  | case2 rest =>
    refine iff_of_true rfl fun p between h => ?_
    cases between with
    | nil => exact absurd (List.cons.inj h.text).1 (by decide)
    | cons v between => exact (Pieces.behind_cons_iff.mp h).2.1 rfl
  | case3 u rest hu ih =>
    rw [Option.orElse_eq_orElse, Option.orElse_eq_or, Option.or_eq_none_iff, ih,
      Option.eq_none_iff_forall_ne_some]
    constructor
    · rintro ⟨hhere, hrest⟩ p (_ | ⟨v, between⟩) h
      · exact hhere _ (ofPosition?_here_iff.mpr ⟨p, h, rfl⟩)
      · exact hrest p between (Pieces.behind_cons_iff.mp h).2.2
    · refine fun hnone => ⟨fun r h => ?_, fun p between h => ?_⟩
      · obtain ⟨p, hp, -⟩ := ofPosition?_here_iff.mp h
        exact hnone p [] hp
      · exact hnone p (u :: between) (Pieces.behind_cons_iff.mpr ⟨rfl, hu, h⟩)

theorem exists_least_of_behindPhrase? (h : behindPhrase? style t = some r) :
    ∃ (p : Pieces) (between : Text), p.Behind style t between ∧ r = p.report style ∧
      ∀ (q : Pieces) between', q.Behind style t between' → between.length ≤ between'.length := by
  fun_induction behindPhrase? style t with
  | case1 => cases h
  | case2 rest => cases h
  | case3 u rest hu ih =>
    rw [Option.orElse_eq_orElse, Option.orElse_eq_or, Option.or_eq_some_iff] at h
    obtain hhere | ⟨hhere, hrest⟩ := h
    · obtain ⟨p, hp, hr⟩ := ofPosition?_here_iff.mp hhere
      exact ⟨p, [], hp, hr, fun q between' _ => Nat.zero_le _⟩
    · obtain ⟨p, between, hp, hr, hleast⟩ := ih hrest
      refine ⟨p, u :: between, Pieces.behind_cons_iff.mpr ⟨rfl, hu, hp⟩, hr, ?_⟩
      rintro q (_ | ⟨v, between'⟩) hq
      · rw [ofPosition?_here_iff.mpr ⟨q, hq, rfl⟩] at hhere
        cases hhere
      · exact Nat.succ_le_succ (hleast q between' (Pieces.behind_cons_iff.mp hq).2.2)

-- ---------------------------------------------------------------------------
-- The first phrase
-- ---------------------------------------------------------------------------

theorem phrase_here_iff {u : CodeUnit} :
    (if style.phrase.isPrefixOf (u :: rest) then
      behindPhrase? style ((u :: rest).drop style.phrase.length) else none) = some r ↔
      ∃ behind, u :: rest = style.phrase ++ behind ∧ behindPhrase? style behind = some r := by
  constructor
  · intro h
    split at h
    · next hphrase =>
      obtain ⟨behind, hbehind⟩ := List.isPrefixOf_iff_prefix.mp hphrase
      rw [← hbehind, List.drop_left] at h
      exact ⟨behind, hbehind.symm, h⟩
    · cases h
  · rintro ⟨behind, hbehind, h⟩
    rw [hbehind, List.drop_left, if_pos (List.isPrefixOf_iff_prefix.mpr ⟨behind, rfl⟩), h]

theorem Place.at_nil_iff {p : Place} (hp : p.before = []) :
    p.At style t ↔ ∃ behind, t = style.phrase ++ behind ∧
      p.toPieces.Behind style behind p.between := by
  simp [At, hp]

theorem Place.at_cons_iff {u v : CodeUnit} {p : Place} {before : Text}
    (hp : p.before = v :: before) :
    p.At style (u :: rest) ↔ v = u ∧ { p with before }.At style rest := by
  simp [At, hp, eq_comm, and_assoc]

theorem Place.At.exists_here {u : CodeUnit} {p : Place} (hp : p.At style (u :: rest))
    (hbefore : p.before = []) :
    ∃ r, (if style.phrase.isPrefixOf (u :: rest) then
      behindPhrase? style ((u :: rest).drop style.phrase.length) else none) = some r := by
  obtain ⟨behind, ht, hbehind⟩ := (at_nil_iff hbefore).mp hp
  have hsome : behindPhrase? style behind ≠ none := fun hnone =>
    behindPhrase?_eq_none_iff.mp hnone _ _ hbehind
  obtain ⟨r, hr⟩ := Option.ne_none_iff_exists'.mp hsome
  exact ⟨r, phrase_here_iff.mpr ⟨behind, ht, hr⟩⟩

theorem inStyle?_eq_none_iff : inStyle? style t = none ↔ ∀ p : Place, ¬ p.At style t := by
  fun_induction inStyle? style t with
  | case1 =>
    refine iff_of_true rfl ?_
    rintro p ⟨behind, ht, hbehind⟩
    have hempty := hbehind.text_ne_nil
    simp_all
  | case2 u rest ih =>
    rw [Option.orElse_eq_orElse, Option.orElse_eq_or, Option.or_eq_none_iff, ih,
      Option.eq_none_iff_forall_ne_some]
    constructor
    · rintro ⟨hhere, hrest⟩ p hp
      cases hbefore : p.before with
      | nil =>
        obtain ⟨r, hr⟩ := hp.exists_here hbefore
        exact hhere r hr
      | cons v before => exact hrest _ ((Place.at_cons_iff hbefore).mp hp).2
    · refine fun hnone => ⟨fun r h => ?_, fun p hp => ?_⟩
      · obtain ⟨behind, ht, hr⟩ := phrase_here_iff.mp h
        obtain ⟨p, between, hp, -⟩ := exists_least_of_behindPhrase? hr
        exact hnone ⟨p, [], between⟩ ⟨behind, ht, hp⟩
      · exact hnone { p with before := u :: p.before } ((Place.at_cons_iff rfl).mpr ⟨rfl, hp⟩)

theorem exists_first_of_inStyle? (h : inStyle? style t = some r) :
    ∃ p : Place, p.First style t ∧ r = p.report style := by
  fun_induction inStyle? style t with
  | case1 => cases h
  | case2 u rest ih =>
    rw [Option.orElse_eq_orElse, Option.orElse_eq_or, Option.or_eq_some_iff] at h
    obtain hhere | ⟨hhere, hrest⟩ := h
    · obtain ⟨behind, ht, hr⟩ := phrase_here_iff.mp hhere
      obtain ⟨p, between, hp, hr, hleast⟩ := exists_least_of_behindPhrase? hr
      refine ⟨⟨p, [], between⟩, ⟨⟨behind, ht, hp⟩, fun q _ => Nat.zero_le _, fun q hq hbefore => ?_⟩,
        hr⟩
      obtain ⟨behind', ht', hq⟩ := (Place.at_nil_iff hbefore).mp hq
      obtain rfl := List.append_cancel_left (ht.symm.trans ht')
      exact hleast _ _ hq
    · obtain ⟨p, hp, hr⟩ := ih hrest
      refine ⟨{ p with before := u :: p.before },
        ⟨(Place.at_cons_iff rfl).mpr ⟨rfl, hp.here⟩, fun q hq => ?_, fun q hq hbefore => ?_⟩, hr⟩
      · cases hbefore : q.before with
        | nil =>
          obtain ⟨r', hr'⟩ := hq.exists_here hbefore
          cases hhere.symm.trans hr'
        | cons v before =>
          exact Nat.succ_le_succ (hp.first _ ((Place.at_cons_iff hbefore).mp hq).2)
      · exact hp.lazy { q with before := p.before } ((Place.at_cons_iff hbefore).mp hq).2 rfl

/-- There is only one report to be read from the first place. -/
theorem Place.First.report_eq {p q : Place} (hp : p.First style t) (hq : q.First style t) :
    p.report style = q.report style := by
  obtain ⟨behind, ht, hbehind⟩ := hp.here
  obtain ⟨behind', ht', hbehind'⟩ := hq.here
  have hlength := Nat.le_antisymm (hp.first q hq.here) (hq.first p hp.here)
  obtain ⟨hbefore, hphrase⟩ := List.append_inj (ht.symm.trans ht') hlength
  obtain rfl := List.append_cancel_left hphrase
  have hlength := Nat.le_antisymm (hp.lazy q hq.here hbefore.symm) (hq.lazy p hp.here hbefore)
  obtain ⟨-, hcolon⟩ := List.append_inj (hbehind.text.symm.trans hbehind'.text) hlength
  have hread := hbehind.reads.ofPosition?_eq
  rw [(List.cons.inj hcolon).2, hbehind'.reads.ofPosition?_eq] at hread
  exact (Option.some.inj hread).symm

theorem inStyle?_eq_some_iff :
    inStyle? style t = some r ↔ ∃ p : Place, p.First style t ∧ r = p.report style := by
  constructor
  · exact exists_first_of_inStyle?
  · rintro ⟨p, hp, rfl⟩
    have hsome : inStyle? style t ≠ none := fun hnone => inStyle?_eq_none_iff.mp hnone p hp.here
    obtain ⟨r, hr⟩ := Option.ne_none_iff_exists'.mp hsome
    obtain ⟨q, hq, rfl⟩ := exists_first_of_inStyle? hr
    rw [hr, hq.report_eq hp]

-- ---------------------------------------------------------------------------
-- The line of a report
-- ---------------------------------------------------------------------------

/-- What a report is read from, from the phrase up to the end of the detail, or of the position if
there is no detail. -/
def Place.words (style : ReportStyle) (p : Place) : Text :=
  style.phrase ++ (p.between ++ colon :: (p.gap ++ (p.line ++ colon :: (p.column ++ colon ::
    if p.detail = [] then [] else p.blanks ++ p.detail))))

theorem Place.At.words_infix {p : Place} (h : p.At style t) : p.words style <:+: t := by
  obtain ⟨behind, rfl, hbehind⟩ := h
  rw [hbehind.text]
  refine ⟨p.before, if p.detail = [] then p.blanks ++ p.after else p.after, ?_⟩
  by_cases hdetail : p.detail = [] <;> simp [words, Pieces.text, hdetail]

theorem mem_of_mem_detailMessage {detail : Text} {u : CodeUnit} (h : u ∈ detailMessage detail) :
    u ∈ text "Cannot parse: " ∨ u ∈ detail := by
  unfold detailMessage at h
  dsimp only at h
  split at h
  · exact .inl ((List.prefix_append (text "Cannot parse") (text ": ")).mem h)
  · refine (List.mem_append.mp h).imp_right fun hm => ?_
    exact (List.dropWhile_sublist _).mem (mem_of_mem_dropEndWhile hm)

theorem IsNumber.not_mem {digits : Text} (h : IsNumber digits) : lineFeed ∉ digits :=
  fun hm => absurd (h.digit _ hm) (by decide)

theorem Place.At.lineFeed_mem_words_iff {p : Place} (h : p.At style t)
    (hphrase : lineFeed ∉ style.phrase) :
    lineFeed ∈ p.words style ↔ lineFeed ∈ p.gap ∨ lineFeed ∈ p.blanks ∧ p.detail ≠ [] := by
  obtain ⟨behind, -, hbehind⟩ := h
  have hcolon : lineFeed ≠ colon := by decide
  by_cases hdetail : p.detail = [] <;>
    simp [words, hphrase, hcolon, hbehind.between, hbehind.reads.line.not_mem,
      hbehind.reads.column.not_mem, hbehind.reads.detail, hdetail]

theorem Place.At.one_line_iff {p : Place} (h : p.At style t) (hphrase : lineFeed ∉ style.phrase) :
    (∃ line ∈ Text.splitOn lineFeed t, p.words style <:+: line) ↔
      lineFeed ∉ p.gap ∧ (lineFeed ∉ p.blanks ∨ p.detail = []) := by
  have hne : p.words style ≠ [] := by simp [words]
  rw [← not_iff_not, not_and_or, not_or, not_not, not_not, ← h.lineFeed_mem_words_iff hphrase]
  constructor
  · intro hnone
    by_contra hm
    exact hnone ((Text.infix_splitOn_iff hne hm).mp h.words_infix)
  · rintro hm ⟨line, hline, hwords⟩
    exact Text.not_mem_of_mem_splitOn hline (hwords.mem hm)

end

/-- A report is that of the first place of a style, of the second style if the first has none. What
it is read from, the phrase, the position and the detail if there is one, stands on one line exactly
if the white space before the line number has no line feed in it, and that before a detail has none.
-/
theorem ofStderr?_one_line_iff {stderr : Text} {r : SyntaxReport} (h : ofStderr? stderr = some r) :
    ∃ (style : ReportStyle) (p : Place),
      (style = blackStyle ∨ style = ruffStyle ∧ inStyle? blackStyle stderr = none) ∧
      p.First style stderr ∧ r = p.report style ∧
      ((∃ line ∈ Text.splitOn lineFeed stderr, p.words style <:+: line) ↔
        lineFeed ∉ p.gap ∧ (lineFeed ∉ p.blanks ∨ p.detail = [])) := by
  rw [ofStderr?, Option.orElse_eq_orElse, Option.orElse_eq_or, Option.or_eq_some_iff] at h
  obtain h | ⟨hblack, h⟩ := h
  · obtain ⟨p, hp, hr⟩ := inStyle?_eq_some_iff.mp h
    exact ⟨blackStyle, p, .inl rfl, hp, hr, hp.here.one_line_iff (by decide)⟩
  · obtain ⟨p, hp, hr⟩ := inStyle?_eq_some_iff.mp h
    exact ⟨ruffStyle, p, .inr ⟨rfl, hblack⟩, hp, hr, hp.here.one_line_iff (by decide)⟩

/-- Of a report without a detail the next line is taken for one. -/
theorem ofStderr?_one_line_iff_next_line :
    let stderr := text "Cannot parse: 1:0:\nOh no!\n"
    ofStderr? stderr = some ⟨text "Cannot parse: Oh no!", 1, 1⟩ ∧
      ∃ (style : ReportStyle) (p : Place), p.First style stderr ∧
        ⟨text "Cannot parse: Oh no!", 1, 1⟩ = p.report style ∧
        ¬ ∃ line ∈ Text.splitOn lineFeed stderr, p.words style <:+: line := by
  intro stderr
  have hread : ofStderr? stderr = some ⟨text "Cannot parse: Oh no!", 1, 1⟩ := by decide
  obtain ⟨style, p, hstyle, hp, hr, hlines⟩ := ofStderr?_one_line_iff hread
  refine ⟨hread, style, p, hp, hr, ?_⟩
  rintro ⟨line, hline, hwords⟩
  have hdetail : ofChar 'O' ∈ p.detail := by
    have hmessage : text "Cannot parse: Oh no!" = detailMessage p.detail :=
      congrArg SyntaxReport.message hr
    exact (mem_of_mem_detailMessage (hmessage ▸ by decide)).resolve_left (by decide)
  have hletter : ofChar 'O' ∈ line := by
    refine hwords.mem ?_
    simp [Place.words, List.ne_nil_of_mem hdetail, hdetail]
  have hphrase : ofChar 'p' ∈ line := by
    refine hwords.mem (List.mem_append_left _ ?_)
    obtain rfl | ⟨rfl, -⟩ := hstyle <;> decide
  have hnone : ∀ line ∈ Text.splitOn lineFeed stderr, ofChar 'O' ∈ line → ofChar 'p' ∉ line := by
    decide
  exact hnone line hline hletter hphrase

end SyntaxReport

end Inlay
