import Mathlib.Data.List.DropRight
import Mathlib.Tactic.IntervalCases
import Inlay.Proofs.Reports

/-!
# Reports as engines write them

Both engines write a phrase, some text, the line and the column of the error, and on the rest of the
line a detail. Whatever else they write, that is what is read back (`ofStderr?_written`).
-/

namespace Inlay

open CodeUnit

namespace Text

-- ---------------------------------------------------------------------------
-- Decimal digits
-- ---------------------------------------------------------------------------

theorem unitsOf_digitChar {d : Nat} (h : d < 10) :
    unitsOf (Nat.digitChar d) = [(48 + d).toUInt16] := by
  interval_cases d <;> rfl

theorem ofNat_eq (n : Nat) :
    ofNat n = (if n < 10 then [] else ofNat (n / 10)) ++ [(48 + n % 10).toUInt16] := by
  have hlast : n % 10 < 10 := Nat.mod_lt n (by decide)
  simp only [ofNat, text, ofString, Nat.repr_eq_ofList_toDigits, String.toList_ofList]
  rw [Nat.toDigits_eq_if (by decide)]
  split
  · next hn => simp [unitsOf_digitChar hn, Nat.mod_eq_of_lt hn]
  · simp [unitsOf_digitChar hlast]

theorem ofNat_digit (n : Nat) : ∀ u ∈ ofNat n, u.isDigit := by
  induction n using Nat.strong_induction_on with
  | _ n ih =>
    have hlast : isDigit (48 + n % 10).toUInt16 := by
      have hdigits : ∀ d < 10, isDigit (48 + d).toUInt16 = true := by decide
      exact hdigits _ (Nat.mod_lt n (by decide))
    intro u hu
    rw [ofNat_eq] at hu
    split at hu
    · simp_all
    · next hn =>
      rcases List.mem_append.mp hu with hu | hu
      · exact ih (n / 10) (by omega) u hu
      · simp_all

theorem decimal_ofNat (n : Nat) : decimal (ofNat n) = n := by
  induction n using Nat.strong_induction_on with
  | _ n ih =>
    have hlast : digitValue? (48 + n % 10).toUInt16 = some (n % 10) := by
      have hdigits : ∀ d < 10, digitValue? (48 + d).toUInt16 = some d := by decide
      exact hdigits _ (Nat.mod_lt n (by decide))
    have hfront : decimal (if n < 10 then [] else ofNat (n / 10)) = n / 10 := by
      split
      · next hn => simp [decimal, Nat.div_eq_of_lt hn]
      · next hn => exact ih (n / 10) (by omega)
    rw [ofNat_eq, decimal, List.foldl_append, ← decimal, hfront, List.foldl_cons, List.foldl_nil,
      hlast, Option.getD_some]
    exact Nat.div_add_mod n 10

-- ---------------------------------------------------------------------------
-- Occurrences and trimming
-- ---------------------------------------------------------------------------

/-- Where one text occurs in another, only `before` stands before it. -/
def OccursOnly (needle before t : Text) : Prop :=
  ∀ front back, t = front ++ (needle ++ back) → front = before

theorem occursOnly_of_head {u : CodeUnit} {w before rest : Text} (hbefore : u ∉ before)
    (hrest : u ∉ rest) : OccursOnly (u :: w) before (before ++ u :: rest) := by
  intro front back h
  obtain ⟨more, rfl, hmore⟩ | ⟨more, rfl, hmore⟩ := List.append_eq_append_iff.mp h
  · cases more with
    | nil => simp
    | cons v more =>
      obtain ⟨rfl, rfl⟩ := List.cons.inj hmore
      simp at hrest
  · cases more with
    | nil => simp
    | cons v more =>
      obtain ⟨rfl, -⟩ := List.cons.inj hmore
      simp at hbefore

def restOfLine (t : Text) : Text := t.takeWhile (· != lineFeed)

theorem trimEnd_append_eq_iff {t w : Text} : trimEnd (t ++ w) = trimEnd t ↔ isBlank w := by
  constructor
  · intro h
    obtain ⟨dropped, ht, hdropped⟩ := dropEndWhile_append_dropped CodeUnit.isBlank (t ++ w)
    have hlength : (dropEndWhile CodeUnit.isBlank (t ++ w)).length ≤ t.length :=
      (congrArg List.length h).trans_le (length_dropEndWhile_le _ t)
    have hsuffix : w <:+ dropped := by
      refine List.suffix_of_suffix_length_le (List.suffix_append t w) ⟨_, ht.symm⟩ ?_
      have := congrArg List.length ht
      simp only [List.length_append] at this
      omega
    exact List.all_eq_true.mpr fun u hu => List.all_eq_true.mp hdropped u (hsuffix.mem hu)
  · exact dropEndWhile_append

end Text

theorem Number.roundNat_of_lt {n : Nat} (h : n < 2 ^ 53) : roundNat n = n :=
  if_pos h

theorem Number.roundNat_of_le {n : Nat} (h : n ≤ 2 ^ 53) : roundNat n = n := by
  obtain h | rfl := Nat.lt_or_eq_of_le h
  · exact roundNat_of_lt h
  · decide +kernel

namespace SyntaxReport

section

variable {style : ReportStyle} {t before m detail after : Text} {line column : Nat}

-- ---------------------------------------------------------------------------
-- The one place of a report
-- ---------------------------------------------------------------------------

theorem isNumber_ofNat (n : Nat) : IsNumber (Text.ofNat n) where
  ne_nil := by
    rw [Text.ofNat_eq]
    simp
  digit := Text.ofNat_digit n

theorem inStyle?_eq_none_of_not_infix (h : ¬ style.phrase <:+: t) : inStyle? style t = none := by
  refine inStyle?_eq_none_iff.mpr ?_
  rintro p ⟨behind, rfl, -⟩
  exact h ⟨p.before, behind, List.append_assoc ..⟩

theorem Place.At.first {p : Place} (h : p.At style t)
    (honly : Text.OccursOnly style.phrase p.before t) (hcolon : colon ∉ p.between) :
    p.First style t := by
  have hbefore (q : Place) (hq : q.At style t) : q.before = p.before := by
    obtain ⟨behind, ht, -⟩ := hq
    exact honly _ _ ht
  refine ⟨h, fun q hq => (congrArg _ (hbefore q hq)).ge, fun q hq hsame => ?_⟩
  obtain ⟨behind, ht, hp⟩ := h
  obtain ⟨behind', ht', hq⟩ := hq
  rw [ht, hsame] at ht'
  obtain rfl := List.append_cancel_left (List.append_cancel_left ht')
  obtain ⟨more, hmore, -⟩ | ⟨more, hmore, hbehind⟩ :=
    List.append_eq_append_iff.mp (hp.text.symm.trans hq.text)
  · simp [hmore]
  · cases more with
    | nil => simp [hmore]
    | cons u more =>
      obtain ⟨rfl, -⟩ := List.cons.inj hbehind
      exact absurd (by simp [hmore]) hcolon

theorem isBlank_trimStart (t : Text) : Text.isBlank (Text.trimStart t) = Text.isBlank t := by
  have ht : t.takeWhile isBlank ++ Text.trimStart t = t := List.takeWhile_append_dropWhile
  have hfront : Text.isBlank (t.takeWhile isBlank) = true := List.all_takeWhile
  conv_rhs => rw [← ht, Text.isBlank_append, hfront, Bool.true_and]

theorem trimStart_ne_nil (h : Text.isBlank t = false) : Text.trimStart t ≠ [] := by
  rintro hnil
  rw [← isBlank_trimStart, hnil] at h
  cases h

theorem trimStart_append (h : Text.isBlank detail = false) :
    Text.trimStart (detail ++ t) = Text.trimStart detail ++ t := by
  have hne := trimStart_ne_nil h
  simp only [Text.trimStart] at hne
  simp [Text.trimStart, List.dropWhile_append, hne]

theorem detailMessage_trimStart (h : Text.isBlank detail = false) :
    detailMessage (Text.trimStart detail) = text "Cannot parse: " ++ Text.trim detail := by
  have htrim : Text.trim (Text.trimStart detail) = Text.trim detail :=
    congrArg Text.trimEnd (List.dropWhile_idempotent isBlank detail)
  have hne : Text.trim detail ≠ [] := fun hnil => by
    rw [← isBlank_trimStart, Text.trimEnd_eq_nil_iff.mp hnil] at h
    cases h
  simp [detailMessage, htrim, hne]

/-- The place of a report that is written out. Its detail goes on up to the line feed that ends the
line. -/
def written (before m gap detail after : Text) (line column : Nat) : Place where
  before := before
  between := m
  gap := gap
  line := Text.ofNat line
  column := Text.ofNat column
  blanks := space :: detail.takeWhile isBlank
  detail := Text.trimStart (detail ++ Text.restOfLine after)
  after := after.dropWhile (· != lineFeed)

section

variable {gap : Text} (hblank : Text.isBlank detail = false)

include hblank

theorem detail_append_after :
    Text.trimStart (detail ++ Text.restOfLine after) ++ after.dropWhile (· != lineFeed) =
      Text.trimStart detail ++ after := by
  have hafter : Text.restOfLine after ++ after.dropWhile (· != lineFeed) = after :=
    List.takeWhile_append_dropWhile
  rw [trimStart_append hblank, List.append_assoc, hafter]

theorem text_written :
    (written before m gap detail after line column).text =
      gap ++ (Text.ofNat line ++ colon :: (Text.ofNat column ++
        colon :: (space :: (detail ++ after)))) := by
  have hdetail : detail.takeWhile isBlank ++ (Text.trimStart detail ++ after) = detail ++ after := by
    rw [← List.append_assoc, Text.trimStart, List.takeWhile_append_dropWhile]
  rw [Pieces.text, written, detail_append_after hblank, List.cons_append, hdetail]

theorem reads_written (hgap : Text.isBlank gap) (hclose : style.spaced = false → gap = [])
    (hdetail : lineFeed ∉ detail) :
    (written before m gap detail after line column).Reads style where
  gap := hgap
  close := hclose
  line := isNumber_ofNat line
  column := isNumber_ofNat column
  blanks := List.all_eq_true.mpr (List.forall_mem_cons.mpr
    ⟨by decide, List.all_eq_true.mp List.all_takeWhile⟩)
  solid := fun u hu => by
    rw [written, detail_append_after hblank,
      List.head?_append_of_ne_nil _ (trimStart_ne_nil hblank)] at hu
    exact eq_false_of_head?_dropWhile hu
  detail := fun hm => by
    rcases List.mem_append.mp ((List.dropWhile_sublist _).mem hm) with hm | hm
    · exact hdetail hm
    · exact not_mem_takeWhile lineFeed after hm
  after := fun u hu => by simpa using eq_false_of_head?_dropWhile hu

theorem report_written (hline : line < 2 ^ 53) (hcolumn : column < 2 ^ 53)
    (hoffset : style.columnOffset ≤ 1) :
    (written before m gap detail after line column).report style =
      ⟨text "Cannot parse: " ++ Text.trim (detail ++ Text.restOfLine after), line,
        column + style.columnOffset⟩ := by
  have hsolid : Text.isBlank (detail ++ Text.restOfLine after) = false := by
    simp [Text.isBlank_append, hblank]
  simp only [Pieces.report, written, detailMessage_trimStart hsolid, Text.decimal_ofNat,
    Number.roundNat_of_lt hline, Number.roundNat_of_lt hcolumn]
  rw [Number.roundNat_of_le (by omega)]

theorem inStyle?_written (hline : line < 2 ^ 53) (hcolumn : column < 2 ^ 53)
    (hoffset : style.columnOffset ≤ 1) (hgap : Text.isBlank gap)
    (hclose : style.spaced = false → gap = []) (hm : colon ∉ m ∧ lineFeed ∉ m)
    (hdetail : lineFeed ∉ detail)
    (ht : t = before ++ (style.phrase ++ (m ++ colon :: (gap ++ (Text.ofNat line ++
      colon :: (Text.ofNat column ++ colon :: (space :: (detail ++ after))))))))
    (honly : Text.OccursOnly style.phrase before t) :
    inStyle? style t = some ⟨text "Cannot parse: " ++ Text.trim (detail ++ Text.restOfLine after),
      line, column + style.columnOffset⟩ := by
  have hbehind : (written before m gap detail after line column).Behind style
      (m ++ colon :: (gap ++ (Text.ofNat line ++ colon :: (Text.ofNat column ++
        colon :: (space :: (detail ++ after)))))) m :=
    ⟨by rw [text_written hblank], hm.2, reads_written hblank hgap hclose hdetail⟩
  have hplace : (written before m gap detail after line column).At style t := ⟨_, ht, hbehind⟩
  rw [← report_written hblank hline hcolumn hoffset]
  exact inStyle?_eq_some_iff.mpr ⟨_, hplace.first honly hm.1, rfl⟩

end

theorem message_eq_iff (h : Text.isBlank detail = false) :
    text "Cannot parse: " ++ Text.trim (detail ++ t) = text "Cannot parse: " ++ Text.trim detail ↔
      Text.isBlank t := by
  rw [List.append_right_inj, Text.trim, trimStart_append h]
  exact Text.trimEnd_append_eq_iff

end

-- ---------------------------------------------------------------------------
-- Both engines
-- ---------------------------------------------------------------------------

/-- The report of either engine is read back, with a column from 1, whatever stands around it. The
message is the trimmed detail, if nothing but white space stands between the detail and the line
feed that ends the line. -/
theorem ofStderr?_written {before m detail after : Text} {line column : Nat}
    (hline : line < 2 ^ 53) (hcolumn : column < 2 ^ 53) (hm : colon ∉ m ∧ lineFeed ∉ m)
    (hdetail : lineFeed ∉ detail) (hblank : Text.isBlank detail = false) :
    (∀ stderr, stderr = before ++ text "Cannot parse" ++ m ++ text ": " ++ Text.ofNat line ++
        text ":" ++ Text.ofNat column ++ text ": " ++ detail ++ after →
      Text.OccursOnly (text "Cannot parse") before stderr →
      ∃ message, ofStderr? stderr = some ⟨message, line, column + 1⟩ ∧
        (message = text "Cannot parse: " ++ Text.trim detail ↔
          Text.isBlank (Text.restOfLine after))) ∧
    (∀ stderr, stderr = before ++ text "Failed to parse" ++ m ++ text ":" ++ Text.ofNat line ++
        text ":" ++ Text.ofNat column ++ text ": " ++ detail ++ after →
      Text.OccursOnly (text "Failed to parse") before stderr →
      ¬ text "Cannot parse" <:+: stderr →
      ∃ message, ofStderr? stderr = some ⟨message, line, column⟩ ∧
        (message = text "Cannot parse: " ++ Text.trim detail ↔
          Text.isBlank (Text.restOfLine after))) := by
  have hcolon : text ":" = [colon] := by decide
  have hspaced : text ": " = [colon, space] := by decide
  constructor
  · intro stderr hstderr honly
    have hpieces : stderr = before ++ (blackStyle.phrase ++ (m ++ colon :: ([space] ++
        (Text.ofNat line ++ colon :: (Text.ofNat column ++ colon ::
          (space :: (detail ++ after))))))) := by
      simp [hstderr, hcolon, hspaced, blackStyle]
    have hread := inStyle?_written hblank hline hcolumn le_rfl (by decide) (by simp [blackStyle]) hm
      hdetail hpieces honly
    refine ⟨_, ?_, message_eq_iff hblank⟩
    rw [ofStderr?, hread]
    rfl
  · intro stderr hstderr honly hother
    have hpieces : stderr = before ++ (ruffStyle.phrase ++ (m ++ colon :: ([] ++
        (Text.ofNat line ++ colon :: (Text.ofNat column ++ colon ::
          (space :: (detail ++ after))))))) := by
      simp [hstderr, hcolon, hspaced, ruffStyle]
    have hread := inStyle?_written hblank hline hcolumn (Nat.zero_le 1) rfl (fun _ => rfl) hm hdetail
      hpieces honly
    have hblack : inStyle? blackStyle stderr = none := inStyle?_eq_none_of_not_infix hother
    refine ⟨_, ?_, message_eq_iff hblank⟩
    rw [ofStderr?, hblack, hread]
    rfl

/-- Details with colons and numbers in them, on lines that end in CR LF. -/
theorem ofStderr?_written_crlf :
    ofStderr? (text "error: cannot format -: Cannot parse for 3.12: 2:4: a: 7:8 =\r\nOh no!") =
        some ⟨text "Cannot parse: a: 7:8 =", 2, 5⟩ ∧
      ofStderr? (text "error: Failed to parse -:3:9: Expected: 1:2: x\r\n") =
        some ⟨text "Cannot parse: Expected: 1:2: x", 3, 9⟩ := by
  constructor
  · obtain ⟨message, hread, hmessage⟩ := (@ofStderr?_written (text "error: cannot format -: ")
      (text " for 3.12") (text "a: 7:8 =") (text "\r\nOh no!") 2 4
      (by decide) (by decide) (by decide) (by decide) (by decide)).1 _ rfl
      (Text.occursOnly_of_head (by decide) (by decide))
    rw [hmessage.mpr (by decide)] at hread
    exact hread
  · obtain ⟨message, hread, hmessage⟩ := (@ofStderr?_written (text "error: ")
      (text " -") (text "Expected: 1:2: x") (text "\r\n") 3 9
      (by decide) (by decide) (by decide) (by decide) (by decide)).2 _ rfl
      (Text.occursOnly_of_head (by decide) (by decide))
      (fun h => absurd (h.mem (a := ofChar 'C') (by decide)) (by decide))
    rw [hmessage.mpr (by decide)] at hread
    exact hread

/-- A lone CR ends no line of a report, so that what stands behind it belongs to the detail. -/
theorem message_ne_of_cr :
    let detail := text "x"
    let after := text "\ry"
    let stderr := [] ++ text "Cannot parse" ++ [] ++ text ": " ++ Text.ofNat 1 ++ text ":" ++
      Text.ofNat 0 ++ text ": " ++ detail ++ after
    LineBreak.cr.text <+: after ∧ Text.Unbroken detail ∧ Text.isBlank detail = false ∧
      Text.OccursOnly (text "Cannot parse") [] stderr ∧ ¬ text "Failed to parse" <:+: stderr ∧
      ofStderr? stderr = some ⟨text "Cannot parse: x\ry", 1, 1⟩ ∧
      ofStderr? stderr ≠ some ⟨text "Cannot parse: " ++ Text.trim detail, 1, 0 + 1⟩ := by
  intro detail after stderr
  refine ⟨by decide, by decide, by decide, ?_, ?_, by decide, by decide⟩
  · exact Text.occursOnly_of_head (by decide) (by decide)
  · exact fun h => absurd (h.mem (a := ofChar 'F') (by decide)) (by decide)

end SyntaxReport

end Inlay
