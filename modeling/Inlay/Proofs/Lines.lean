import Inlay.Line

/-!
# Lines and the text they are cut from

Cutting a text into lines and joining them are inverse: `join_split` holds of every text, and
`split_join` of every list of lines that is `Scannable`, which is what cutting gives
(`scannable_split`). Lines with their places are `Placed`: numbers and offsets follow one another.
-/

namespace Inlay

/-- No unit of the text ends a line. -/
def Text.Unbroken (t : Text) : Prop :=
  ∀ u ∈ t, u ≠ CodeUnit.lineFeed ∧ u ≠ CodeUnit.carriageReturn

instance : Decidable (Text.Unbroken t) :=
  List.decidableBAll (fun u => u ≠ CodeUnit.lineFeed ∧ u ≠ CodeUnit.carriageReturn) t

theorem Text.unbroken_append : Text.Unbroken (t ++ t') ↔ Text.Unbroken t ∧ Text.Unbroken t' :=
  List.forall_mem_append

theorem Text.unbroken_of_isIndent (h : ∀ u ∈ t, u.isIndent) : Text.Unbroken t := by
  intro u hu
  have hu := h u hu
  constructor <;> rintro rfl <;> revert hu <;> decide

namespace RawLine

open CodeUnit

@[simp] theorem join_nil : join [] = [] := rfl

theorem join_append (a b : List RawLine) : join (a ++ b) = join a ++ join b :=
  List.flatMap_append

/-- The lines could be those of a text. Only the last may have no break, and then it has content;
a lone CR is not followed by a LF, which would belong to it. -/
def Scannable : List RawLine → Prop
  | [] => True
  | line :: rest =>
    Text.Unbroken line.content ∧ Scannable rest ∧
      match line.ending with
      | none => line.content ≠ [] ∧ rest = []
      | some .cr => rest.head? ≠ some ⟨[], some .lf⟩
      | some _ => True

theorem Scannable.unbroken (h : Scannable lines) (hm : line ∈ lines) : line.content.Unbroken := by
  induction lines with
  | nil => simp at hm
  | cons first lines ih =>
    obtain ⟨hu, hs, -⟩ := h
    rcases List.mem_cons.mp hm with rfl | hm
    · exact hu
    · exact ih hs hm

theorem split_cons (hlf : u ≠ lineFeed) (hcr : u ≠ carriageReturn) :
    split (u :: rest) = consUnit u (split rest) := by
  conv => lhs; unfold split
  simp [hlf, hcr]

theorem split_unbroken {t : Text} (h : t.Unbroken) (hne : t ≠ []) : split t = [⟨t, none⟩] := by
  induction t with
  | nil => exact absurd rfl hne
  | cons u rest ih =>
    obtain ⟨hlf, hcr⟩ := h u (by simp)
    rw [split_cons hlf hcr]
    cases rest with
    | nil => rfl
    | cons v behind =>
      rw [ih (fun w hw => h w (by simp [hw])) (by simp)]
      rfl

/-- The text behind a line does not go on with the line feed that its CR could take. -/
def Detached (e : LineBreak) (behind : Text) : Prop :=
  e = .cr → behind.head? ≠ some lineFeed

theorem split_break (hd : Detached e behind) :
    split (e.text ++ behind) = ⟨[], some e⟩ :: split behind := by
  have hne : carriageReturn ≠ lineFeed := by decide
  cases e with
  | lf =>
    conv => lhs; unfold split
    simp [LineBreak.text]
  | crlf => simp [split, LineBreak.text, hne]
  | cr =>
    have hd := hd rfl
    cases behind with
    | nil => simp [split, LineBreak.text, hne]
    | cons v behind =>
      simp only [List.head?_cons, ne_eq, Option.some.injEq] at hd
      simp [split, LineBreak.text, hne, hd]

theorem split_append {t : Text} (h : t.Unbroken) (hd : Detached e behind) :
    split (t ++ (e.text ++ behind)) = ⟨t, some e⟩ :: split behind := by
  induction t with
  | nil => exact split_break hd
  | cons u rest ih =>
    obtain ⟨hlf, hcr⟩ := h u (by simp)
    rw [List.cons_append, split_cons hlf hcr, ih (fun w hw => h w (by simp [hw]))]
    rfl

theorem head?_join_eq_lineFeed (h : Scannable lines)
    (hf : (join lines).head? = some lineFeed) : lines.head? = some ⟨[], some .lf⟩ := by
  cases lines with
  | nil => simp [join] at hf
  | cons line rest =>
    obtain ⟨hu, -, hl⟩ := h
    obtain ⟨content, ending⟩ := line
    rw [join_cons] at hf
    cases content with
    | cons u content =>
      have hlf := (hu u (by simp)).1
      simp_all [text]
    | nil =>
      cases ending with
      | none => exact absurd rfl hl.1
      | some e =>
        cases e with
        | lf => rfl
        | crlf => simp [text, endingText, LineBreak.text] at hf; exact absurd hf (by decide)
        | cr => simp [text, endingText, LineBreak.text] at hf; exact absurd hf (by decide)

theorem split_join {lines : List RawLine} (h : Scannable lines) : split (join lines) = lines := by
  induction lines with
  | nil => rfl
  | cons line rest ih =>
    obtain ⟨content, ending⟩ := line
    have hs := h
    obtain ⟨hu, hrest, hl⟩ := hs
    cases ending with
    | none =>
      obtain ⟨hne, rfl⟩ := hl
      simpa [join, text, endingText] using split_unbroken hu hne
    | some e =>
      have hd : Detached e (join rest) := by
        rintro rfl hf
        exact hl (head?_join_eq_lineFeed hrest hf)
      rw [join_cons, text, List.append_assoc, endingText, Option.elim_some, split_append hu hd,
        ih hrest]

theorem scannable_consUnit (hlf : u ≠ lineFeed) (hcr : u ≠ carriageReturn)
    (h : Scannable lines) : Scannable (consUnit u lines) := by
  cases lines with
  | nil => simp [consUnit, Scannable, Text.Unbroken, hlf, hcr]
  | cons line rest =>
    obtain ⟨hu, hrest, hl⟩ := h
    refine ⟨?_, hrest, ?_⟩
    · intro v hv
      rcases List.mem_cons.mp hv with rfl | hv
      · exact ⟨hlf, hcr⟩
      · exact hu v hv
    · cases hending : line.ending with
      | none => simp_all
      | some e => cases e <;> simp_all

theorem head?_split_ne (h : v ≠ lineFeed) :
    (split (v :: behind)).head? ≠ some ⟨[], some .lf⟩ := by
  unfold split
  simp only [h, if_false]
  split
  · split
    · split <;> simp
    · simp
  · cases split behind <;> simp [consUnit]

theorem scannable_split (t : Text) : Scannable (split t) := by
  fun_induction split t with
  | case1 => trivial
  | case2 rest ih => exact ⟨by simp [Text.Unbroken], ih, trivial⟩
  | case3 behind _ ih => exact ⟨by simp [Text.Unbroken], ih, trivial⟩
  | case4 v behind hv _ ih => exact ⟨by simp [Text.Unbroken], ih, head?_split_ne hv⟩
  | case5 => simp [Scannable, Text.Unbroken]
  | case6 u rest hlf hcr ih => exact scannable_consUnit hlf hcr ih

theorem split_eq_iff : split t = lines ↔ Scannable lines ∧ join lines = t := by
  constructor
  · rintro rfl
    exact ⟨scannable_split t, join_split t⟩
  · rintro ⟨hscan, rfl⟩
    exact split_join hscan

/-- A line can stand before others: it has a break, unless there are none, and this is no CR that
takes the line feed of the next. -/
def Joins (line : RawLine) (rest : List RawLine) : Prop :=
  (line.ending = none → rest = []) ∧
    (line.ending = some .cr → rest.head? ≠ some ⟨[], some .lf⟩)

theorem scannable_cons_iff :
    Scannable (line :: b) ↔
      line.content.Unbroken ∧ (line.ending = none → line.content ≠ []) ∧ Scannable b ∧
        line.Joins b := by
  obtain ⟨content, ending⟩ := line
  rcases ending with _ | _ | _ | _ <;> simp [Scannable, Joins, and_comm, and_assoc]

theorem scannable_append_iff :
    Scannable (a ++ b) ↔
      Scannable a ∧ Scannable b ∧ ∀ line, a.getLast? = some line → line.Joins b := by
  induction a with
  | nil => simp [Scannable]
  | cons first a ih =>
    rw [List.cons_append, scannable_cons_iff, scannable_cons_iff, ih]
    cases a with
    | nil => simp [Scannable, Joins, and_assoc]
    | cons next a => simp [Joins, and_assoc, and_comm, and_left_comm]

/-- No line ends in another kind of break. -/
def Uniform (e : LineBreak) (lines : List RawLine) : Prop :=
  ∀ line ∈ lines, line.ending = none ∨ line.ending = some e

theorem scannable_cons {line : RawLine} (hu : line.content.Unbroken)
    (hlast : line.ending = none → line.content ≠ [] ∧ rest = []) (hrest : Scannable rest)
    (he : Uniform e (line :: rest)) : Scannable (line :: rest) := by
  refine ⟨hu, hrest, ?_⟩
  obtain ⟨hline, he⟩ := List.forall_mem_cons.mp he
  split
  · next hn => exact hlast hn
  · next hcr =>
    intro hhead
    have hlf : LineBreak.lf = e := by simpa using he _ (List.mem_of_head? hhead)
    rw [hcr, ← hlf] at hline
    simp at hline
  · trivial

theorem Scannable.right {a : List RawLine} (h : Scannable (a ++ b)) : Scannable b := by
  induction a with
  | nil => exact h
  | cons line a ih => exact ih h.2.1

theorem Scannable.left {a : List RawLine} (h : Scannable (a ++ b)) : Scannable a := by
  induction a with
  | nil => trivial
  | cons line a ih =>
    obtain ⟨hu, hs, hl⟩ := h
    refine ⟨hu, ih hs, ?_⟩
    split at hl
    · exact ⟨hl.1, (List.append_eq_nil_iff.mp hl.2).1⟩
    · intro hhead
      exact hl (by rw [List.append_eq, List.head?_append, hhead]; rfl)
    · trivial

theorem join_eq_join_iff (ha : Scannable a) (hb : Scannable b) : join a = join b ↔ a = b := by
  constructor
  · intro h
    rw [← split_join ha, h, split_join hb]
  · rintro rfl
    rfl

theorem Scannable.append_congr {a : List RawLine} (h : Scannable (a ++ b)) (hb : Scannable b')
    (he : Uniform e (a ++ b')) (hnil : b = [] → b' = []) : Scannable (a ++ b') := by
  induction a with
  | nil => exact hb
  | cons line a ih =>
    obtain ⟨hu, hs, hl⟩ := h
    refine scannable_cons hu ?_ (ih hs (List.forall_mem_cons.mp he).2) he
    intro hn
    rw [hn] at hl
    obtain ⟨ha, hb⟩ := List.append_eq_nil_iff.mp hl.2
    exact ⟨hl.1, by rw [ha, hnil hb]; rfl⟩

end RawLine

-- ---------------------------------------------------------------------------
-- The kind of break
-- ---------------------------------------------------------------------------

namespace LineStyle

open RawLine

variable {lines : List RawLine} {e kind : LineBreak}

theorem count_of_uniform (h : Uniform e lines) (hk : kind ≠ e) : count lines kind = 0 := by
  refine List.countP_eq_zero.mpr fun line hm => ?_
  rcases h line hm with hn | he
  · simp [hn]
  · simp [he, Ne.symm hk]

theorem count_pos (hm : line ∈ lines) (he : line.ending = some e) : 0 < count lines e :=
  List.countP_pos_iff.mpr ⟨line, hm, by simp [he]⟩

theorem dominant_of_only (hpos : 0 < count lines kind)
    (hzero : ∀ k, k ≠ kind → count lines k = 0) : (ofLines lines).dominant = kind := by
  cases kind with
  | lf => simp [ofLines, hzero .crlf (by decide), hzero .cr (by decide)]
  | crlf => simp [ofLines, hzero .lf (by decide), hzero .cr (by decide), Nat.ne_of_gt hpos]
  | cr => simp [ofLines, hzero .lf (by decide), hzero .crlf (by decide), Nat.ne_of_gt hpos]

theorem count_of_not_mixed (h : (ofLines lines).mixed = false) (hpos : 0 < count lines kind) :
    ∀ k, k ≠ kind → count lines k = 0 := by
  intro k hk
  refine (Nat.eq_zero_or_pos _).resolve_right fun hother => hk ?_
  have hmem {k : LineBreak} (hpos : 0 < count lines k) :
      k ∈ [LineBreak.lf, .crlf, .cr].filter fun kind => 0 < count lines kind :=
    List.mem_filter.mpr ⟨by cases k <;> simp, by simpa using hpos⟩
  have hkind := hmem hpos
  have hother := hmem hother
  simp only [ofLines, decide_eq_false_iff_not, Nat.not_lt] at h
  generalize [LineBreak.lf, .crlf, .cr].filter _ = kinds at h hkind hother
  match kinds, h with
  | [only], _ => rw [List.mem_singleton.mp hother, List.mem_singleton.mp hkind]

theorem uniform_dominant (h : (ofLines lines).mixed = false) :
    Uniform (ofLines lines).dominant lines := by
  intro line hm
  cases he : line.ending with
  | none => exact .inl rfl
  | some kind =>
    have hpos := count_pos hm he
    rw [dominant_of_only hpos (count_of_not_mixed h hpos)]
    exact .inr rfl

end LineStyle

-- ---------------------------------------------------------------------------
-- Lines with their places
-- ---------------------------------------------------------------------------

namespace Line

variable {index start : Nat} {line last : Line} {lines a b : List Line}

def joined (lines : List Line) : Text := RawLine.join (lines.map toRawLine)

@[simp] theorem joined_nil : joined [] = [] := rfl

@[simp] theorem joined_cons : joined (line :: lines) = line.text ++ joined lines :=
  RawLine.join_cons ..

@[simp] theorem joined_append : joined (a ++ b) = joined a ++ joined b := by
  simp [joined, RawLine.join]

theorem map_content_toRawLine (lines : List Line) :
    (lines.map toRawLine).map (·.content) = lines.map (·.content) := List.map_map ..

theorem map_content_congr (h : b.map toRawLine = a.map toRawLine) :
    b.map (·.content) = a.map (·.content) := by
  rw [← map_content_toRawLine, h, map_content_toRawLine]

theorem exists_mem_of_map_eq (h : b.map toRawLine = a.map toRawLine) (hm : line ∈ b) :
    ∃ line' ∈ a, line'.toRawLine = line.toRawLine := by
  rw [← List.mem_map, ← h]
  exact List.mem_map_of_mem hm

theorem joined_scan (t : Text) : joined (scan t) = t := by
  rw [joined, map_toRawLine_scan, RawLine.join_split]

theorem scannable_scan (t : Text) : RawLine.Scannable ((scan t).map toRawLine) := by
  rw [map_toRawLine_scan]
  exact RawLine.scannable_split t

theorem unbroken_of_mem_scan {t : Text} (hm : line ∈ scan t) : line.content.Unbroken :=
  (scannable_scan t).unbroken (List.mem_map_of_mem hm)

/-- Lines that follow one another, the first of which has the given number and offset. -/
def Placed (index start : Nat) : List Line → Prop
  | [] => True
  | line :: lines => line.index = index ∧ line.start = start ∧ Placed (index + 1) line.next lines

theorem placed_place (raws : List RawLine) : Placed index start (place index start raws) := by
  induction raws generalizing index start with
  | nil => trivial
  | cons line raws ih => exact ⟨rfl, rfl, ih⟩

theorem placed_scan (t : Text) : Placed 0 0 (scan t) := placed_place _

theorem placed_append :
    Placed index start (a ++ b) ↔
      Placed index start a ∧ Placed (index + a.length) (start + (joined a).length) b := by
  induction a generalizing index start with
  | nil => simp [Placed]
  | cons line a ih =>
    simp only [List.cons_append, Placed, ih, and_assoc, joined_cons, List.length_append,
      List.length_cons]
    refine and_congr_right fun _ => and_congr_right fun hs => and_congr_right fun _ => ?_
    rw [next, hs, Nat.add_assoc, Nat.add_assoc, Nat.add_comm a.length 1]

theorem Placed.next_getLast (h : Placed index start lines) (hl : lines.getLast? = some last) :
    last.next = start + (joined lines).length := by
  obtain ⟨a, rfl⟩ := List.getLast?_eq_some_iff.mp hl
  obtain ⟨-, -, hs, -⟩ := placed_append.mp h
  simp [next, hs, Nat.add_assoc]

theorem Placed.index_getElem (h : Placed index start lines) (hk : lines[k]? = some line) :
    line.index = index + k := by
  induction lines generalizing index start k with
  | nil => simp at hk
  | cons first lines ih =>
    obtain ⟨hi, -, h⟩ := h
    cases k with
    | zero => simpa [← Option.some.inj hk] using hi
    | succ k => rw [ih h hk, Nat.add_assoc, Nat.add_comm 1]

theorem Placed.start_getElem (h : Placed index start lines) (hk : lines[k]? = some line) :
    line.start = start + (joined (lines.take k)).length := by
  obtain ⟨hlt, rfl⟩ := List.getElem?_eq_some_iff.mp hk
  have hcut := List.take_append_drop k lines
  rw [List.drop_eq_getElem_cons hlt] at hcut
  rw [← hcut, placed_append] at h
  exact h.2.2.1

theorem Placed.index_of_mem (h : Placed index start lines) (hm : line ∈ lines) :
    index ≤ line.index ∧ line.index < index + lines.length := by
  obtain ⟨k, hlt, hk⟩ := List.mem_iff_getElem.mp hm
  have := h.index_getElem (List.getElem?_eq_some_iff.mpr ⟨hlt, hk⟩)
  omega

theorem Placed.boundary (h : Placed index start (a ++ b)) (hm : line ∈ a ++ b) :
    line.next ≤ start + (joined a).length ∨ start + (joined a).length ≤ line.start := by
  induction a generalizing index start with
  | nil =>
    right
    induction b generalizing index start with
    | nil => simp at hm
    | cons first b ih =>
      obtain ⟨-, rfl, h⟩ := h
      rcases List.mem_cons.mp hm with rfl | hm
      · simp
      · have := ih h hm
        simp only [joined_nil, List.length_nil, next] at this ⊢
        omega
  | cons first a ih =>
    obtain ⟨-, rfl, h⟩ := h
    rcases List.mem_cons.mp hm with rfl | hm
    · left
      simp only [joined_cons, List.length_append, next]
      omega
    · simpa [next, Nat.add_assoc] using ih h hm

end Line

end Inlay
