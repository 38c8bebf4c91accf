import Inlay.Proofs.Margins
import Inlay.Proofs.Readings

/-!
# Documents that are read alike

Two documents whose lines correspond are read in step: the same lines introduce regions, the same
lines belong to blocks, and where one cannot be read the other cannot either. What must correspond
is said line by line (`Corresponding`), and what then corresponds region by region
(`readFrom_agree`). The documents may differ in how their lines end, in the width of their tabs, or
in the policy that takes the margin off.
-/

namespace Inlay

-- ---------------------------------------------------------------------------
-- Computations that end alike
-- ---------------------------------------------------------------------------

/-- Both computations fail, with errors that correspond, or both have results that do. -/
inductive Agree (E : ε → ε' → Prop) (A : α → β → Prop) : Except ε α → Except ε' β → Prop
  | ok {a b} : A a b → Agree E A (.ok a) (.ok b)
  | error {e e'} : E e e' → Agree E A (.error e) (.error e')

namespace Agree

variable {E : ε → ε' → Prop} {A : α → β → Prop} {x : Except ε α} {y : Except ε' β}

theorem refl {E : ε → ε → Prop} {A : α → α → Prop} (he : ∀ e, E e e) (ha : ∀ a, A a a)
    (x : Except ε α) : Agree E A x x := by
  cases x with
  | ok a => exact .ok (ha a)
  | error e => exact .error (he e)

theorem imp {E' : ε → ε' → Prop} {A' : α → β → Prop} (h : Agree E A x y)
    (he : ∀ e e', E e e' → E' e e') (ha : ∀ a b, A a b → A' a b) : Agree E' A' x y := by
  cases h with
  | ok h => exact .ok (ha _ _ h)
  | error h => exact .error (he _ _ h)

theorem bind {B : γ → δ → Prop} {f : α → Except ε γ} {g : β → Except ε' δ} (h : Agree E A x y)
    (hf : ∀ a b, A a b → Agree E B (f a) (g b)) : Agree E B (x >>= f) (y >>= g) := by
  cases h with
  | ok h => exact hf _ _ h
  | error h => exact .error h

theorem map {B : γ → δ → Prop} {f : α → γ} {g : β → δ} (h : Agree E A x y)
    (hf : ∀ a b, A a b → B (f a) (g b)) : Agree E B (f <$> x) (g <$> y) := by
  cases h with
  | ok h => exact .ok (hf _ _ h)
  | error h => exact .error h

theorem mapM {f : α → Except ε γ} {g : β → Except ε' δ} {C : γ → δ → Prop} {as : List α}
    {bs : List β} (h : List.Forall₂ (fun a b => Agree E C (f a) (g b)) as bs) :
    Agree E (List.Forall₂ C) (as.mapM f) (bs.mapM g) := by
  induction h with
  | nil => exact .ok .nil
  | cons hab _ ih =>
    rw [List.mapM_cons, List.mapM_cons]
    exact hab.bind fun _ _ hc => ih.bind fun _ _ hcs => .ok (.cons hc hcs)

theorem trans {ε'' γ : Type*} {E' : ε' → ε'' → Prop} {E'' : ε → ε'' → Prop} {B : β → γ → Prop}
    {C : α → γ → Prop} {z : Except ε'' γ} (h : Agree E A x y) (h' : Agree E' B y z)
    (he : ∀ e e' e'', E e e' → E' e' e'' → E'' e e'') (hc : ∀ a b c, A a b → B b c → C a c) :
    Agree E'' C x z := by
  cases h with
  | ok h =>
    cases h' with
    | ok h' => exact .ok (hc _ _ _ h h')
  | error h =>
    cases h' with
    | error h' => exact .error (he _ _ _ h h')

theorem with_eq (h : Agree E A x y) :
    Agree E (fun a b => A a b ∧ x = .ok a ∧ y = .ok b) x y := by
  cases h with
  | ok h => exact .ok ⟨h, rfl, rfl⟩
  | error h => exact .error h

theorem exists_left (h : Agree E A x (.ok b)) : ∃ a, x = .ok a ∧ A a b := by
  cases h with
  | ok h => exact ⟨_, rfl, h⟩

theorem eq {x y : Except ε α} (h : Agree Eq Eq x y) : y = x := by
  cases h with
  | ok h => rw [h]
  | error h => rw [h]

end Agree

-- ---------------------------------------------------------------------------
-- Lists side by side
-- ---------------------------------------------------------------------------

theorem forall₂_takeWhile {R : α → β → Prop} {p : α → Bool} {q : β → Bool} {as : List α}
    {bs : List β} (h : List.Forall₂ R as bs) (hpq : ∀ a b, R a b → q b = p a) :
    List.Forall₂ R (as.takeWhile p) (bs.takeWhile q) := by
  induction h with
  | nil => exact .nil
  | @cons a b as bs hab _ ih =>
    rw [List.takeWhile_cons, List.takeWhile_cons, hpq a b hab]
    split
    · exact .cons hab ih
    · exact .nil

theorem forall₂_dropEndWhile {R : α → β → Prop} {p : α → Bool} {q : β → Bool} {as : List α}
    {bs : List β} (h : List.Forall₂ R as bs) (hpq : ∀ a b, R a b → q b = p a) :
    List.Forall₂ R (dropEndWhile p as) (dropEndWhile q bs) := by
  induction h with
  | nil => exact .nil
  | @cons a b as bs hab _ ih =>
    rw [dropEndWhile, dropEndWhile, hpq a b hab]
    generalize dropEndWhile p as = kept at ih ⊢
    generalize dropEndWhile q bs = kept' at ih ⊢
    cases ih with
    | nil =>
      simp only
      split
      · exact .nil
      · exact .cons hab .nil
    | cons hk hks => exact .cons hab (.cons hk hks)

-- ---------------------------------------------------------------------------
-- Lines that differ in their indentation
-- ---------------------------------------------------------------------------

variable {tabWidth tabWidth' : Nat} {line line' : Line} {s : LexState} {dialect : Dialect}

theorem RawLine.isBlank_body (line : RawLine) : Text.isBlank line.body = line.isBlank := by
  rw [isBlank, ← indent_append_body, Text.isBlank_append,
    Text.isBlank_of_isIndent (isIndent_of_mem_indent line), Bool.true_and]

theorem LexState.after_body (s : LexState) (line : RawLine) :
    s.after dialect line.body = s.after dialect line.content := by
  rw [← RawLine.indent_append_body line, after_indent s (RawLine.isIndent_of_mem_indent line)]

theorem LexState.kinds_body (s : LexState) (line : RawLine) :
    (lexLine dialect s line.body).tokens.map (·.kind) =
      (lexLine dialect s line.content).tokens.map (·.kind) := by
  rw [← RawLine.indent_append_body line, kinds_indent s (RawLine.isIndent_of_mem_indent line)]

namespace Line

/-- The lines have the same number, are equally far indented, and go on alike. -/
structure Alike (tabWidth tabWidth' : Nat) (line line' : Line) : Prop where
  index : line'.index = line.index
  body : line'.body = line.body
  width : Indent.width tabWidth' line'.indent = Indent.width tabWidth line.indent

namespace Alike

theorem isBlank (h : Alike tabWidth tabWidth' line line') : line'.isBlank = line.isBlank := by
  rw [← RawLine.isBlank_body, h.body, RawLine.isBlank_body]

theorem after (h : Alike tabWidth tabWidth' line line') (s : LexState) :
    s.after dialect line'.content = s.after dialect line.content := by
  rw [← LexState.after_body s line'.toRawLine, h.body, LexState.after_body]

theorem stays {above above' : Line} (h : Alike tabWidth tabWidth' line line')
    (habove : Alike tabWidth tabWidth' above above') :
    Region.stays tabWidth' (Indent.width tabWidth' above'.indent) line' =
      Region.stays tabWidth (Indent.width tabWidth above.indent) line := by
  rw [Region.stays, Region.stays, h.isBlank, h.width, habove.width]

end Alike

end Line

-- ---------------------------------------------------------------------------
-- Blocks side by side
-- ---------------------------------------------------------------------------

namespace Region

/-- Lines of two blocks that correspond and begin in the same state. -/
structure Beside (R : Line → Line → Prop) (b b' : BodyLine) : Prop where
  start : b'.start = b.start
  line : R b.line b'.line

section

variable {R : Line → Line → Prop} {b b' : BodyLine} {body body' : List Line}

theorem Beside.inString (h : Beside R b b') : b'.inString = b.inString := by
  rw [BodyLine.inString, h.start]
  rfl

theorem Beside.startsStatement (h : Beside R b b') : b'.startsStatement = b.startsStatement := by
  rw [BodyLine.startsStatement, h.start]
  rfl

theorem isBlank_of_alike (h : Line.Alike tabWidth tabWidth' b.line b'.line) :
    b'.isBlank = b.isBlank :=
  h.isBlank

theorem Beside.isComment (h : Beside R b b') (hR : Line.Alike tabWidth tabWidth' b.line b'.line) :
    b'.isComment = b.isComment := by
  refine isComment_congr h.start ?_
  rw [h.start, ← LexState.kinds_body b.start b'.line.toRawLine, hR.body, LexState.kinds_body]

theorem Beside.isAnchor (h : Beside R b b') (hR : Line.Alike tabWidth tabWidth' b.line b'.line) :
    b'.isAnchor = b.isAnchor :=
  isAnchor_congr h.start hR.isBlank (h.isComment hR)

theorem forall₂_lexedFrom
    (hR : ∀ {line line'}, R line line' → Line.Alike tabWidth tabWidth' line line')
    (h : List.Forall₂ R body body') :
    List.Forall₂ (Beside R) (lexedFrom s body) (lexedFrom s body') := by
  induction h generalizing s with
  | nil => exact .nil
  | cons hline _ ih =>
    refine .cons ⟨rfl, hline⟩ ?_
    rw [(hR hline).after]
    exact ih

theorem Beside.comparable
    (hR : ∀ {line line'}, R line line' → Line.Alike tabWidth tabWidth' line line') :
    Comparable tabWidth tabWidth' (Beside R) where
  isBlank h := (hR h.line).isBlank
  isAnchor h := h.isAnchor (hR h.line)
  width ha hb _ _ := by rw [(hR ha.line).width, (hR hb.line).width]

theorem afterAll_of_forall₂
    (hR : ∀ {line line'}, R line line' → Line.Alike tabWidth tabWidth' line line')
    (h : List.Forall₂ R body body') :
    LexState.afterAll dialect s (body'.map (·.content)) =
      LexState.afterAll dialect s (body.map (·.content)) := by
  induction h generalizing s with
  | nil => rfl
  | cons hline _ ih =>
    rw [List.map_cons, List.map_cons, LexState.afterAll_cons, LexState.afterAll_cons,
      (hR hline).after, ih]

end

-- ---------------------------------------------------------------------------
-- The regions of two blocks
-- ---------------------------------------------------------------------------

variable {indentation indentation' : Indentation} {style style' : LineStyle}
  {above above' : Line} {variant : BlockVariant} {header : Header} {behind behind' : Nat}
  {R : Line → Line → Prop} {E : StructureError → StructureError → Prop}
  {L : RegionLine → RegionLine → Prop} {body body' below below' : List Line}

theorem ofBody_eq (indentation : Indentation) (style : LineStyle) (above : Line)
    (variant : BlockVariant) (header : Header) (behind : Nat) (hne : body ≠ []) :
    ∃ region : List RegionLine → Region, (∀ lines, (region lines).lines = lines) ∧
      ofBody indentation style above variant header behind (lexedFrom .initial body) =
        ((lexedFrom .initial body).mapM (dedentLine indentation
          (bodyMargin indentation.tabWidth (lexedFrom .initial body)))).map region := by
  cases body with
  | nil => contradiction
  | cons first more =>
    cases hl : (lexedFrom .initial (first :: more)).getLast? with
    | none => simp [lexedFrom] at hl
    | some last =>
      have hfirst : (lexedFrom .initial (first :: more)).head? = some ⟨first, .initial⟩ := rfl
      rw [ofBody, hfirst, hl]
      exact ⟨_, fun _ => rfl, rfl⟩

/-- The margins of blocks side by side come off, or do not, with results that correspond. -/
def Dedents (indentation indentation' : Indentation) (R : Line → Line → Prop)
    (E : StructureError → StructureError → Prop) (L : RegionLine → RegionLine → Prop) : Prop :=
  ∀ bs bs', List.Forall₂ (Beside R) bs bs' → (∃ b ∈ bs, b.isBlank = false) →
    List.Forall₂
      (fun b b' => Agree E L
        (dedentLine indentation (bodyMargin indentation.tabWidth bs) b)
        (dedentLine indentation' (bodyMargin indentation'.tabWidth bs') b'))
      bs bs'

/-- The regions are taken from blocks side by side, which are not blank. -/
def TakenBeside (take take' : List Line → Region → Prop) (R : Line → Line → Prop)
    (L : RegionLine → RegionLine → Prop) (r r' : Region) : Prop :=
  ∃ body body', List.Forall₂ R body body' ∧ (∃ line ∈ body, line.isBlank = false) ∧
    take body r ∧ take' body' r' ∧ List.Forall₂ L r.lines r'.lines

theorem ofBody_agree
    (hR : ∀ {line line'}, R line line' →
      Line.Alike indentation.tabWidth indentation'.tabWidth line line')
    (h : List.Forall₂ R body body') (hblank : body ≠ [] → ∃ line ∈ body, line.isBlank = false)
    (hmissing : E ⟨.introducer .missingBlock, above.index + 1, behind + 1⟩
      ⟨.introducer .missingBlock, above'.index + 1, behind' + 1⟩)
    (hdedent : Dedents indentation indentation' R E L) :
    Agree E
      (TakenBeside (Taken indentation style above variant header)
        (Taken indentation' style' above' variant header) R L)
      (ofBody indentation style above variant header behind (lexedFrom .initial body))
      (ofBody indentation' style' above' variant header behind' (lexedFrom .initial body')) := by
  by_cases hne : body = []
  · subst hne
    cases h
    exact .error hmissing
  · have hne' : body' ≠ [] := by
      rintro rfl
      exact hne (List.forall₂_nil_right_iff.mp h)
    obtain ⟨region, hregion, hbody⟩ := ofBody_eq indentation style above variant header behind hne
    obtain ⟨region', hregion', hbody'⟩ :=
      ofBody_eq indentation' style' above' variant header behind' hne'
    obtain ⟨line, hm, hb⟩ := hblank hne
    obtain ⟨b, hmem, rfl⟩ := exists_mem_lexedFrom hm
    have hlines := Agree.mapM (hdedent _ _ (forall₂_lexedFrom hR h) ⟨b, hmem, hb⟩)
    generalize (lexedFrom .initial body).mapM (dedentLine _ _) = lines at hlines hbody
    generalize (lexedFrom .initial body').mapM (dedentLine _ _) = lines' at hlines hbody'
    cases hlines with
    | error he =>
      rw [hbody, hbody']
      exact .error he
    | ok hl =>
      have ht := (ofBody_eq_ok_iff.mp hbody).2
      have ht' := (ofBody_eq_ok_iff.mp hbody').2
      rw [hbody, hbody']
      exact .ok ⟨body, body', h, hblank hne, ht, ht', by rwa [hregion, hregion']⟩

theorem ofBlock_agree
    (hR : ∀ {line line'}, R line line' →
      Line.Alike indentation.tabWidth indentation'.tabWidth line line')
    (habove : R above above') (h : List.Forall₂ R below below')
    (hopen : ∀ {line line'}, R line line' →
      E ⟨.indentation .openDedent, line.index + 1, 1⟩
        ⟨.indentation .openDedent, line'.index + 1, 1⟩)
    (hmissing : E ⟨.introducer .missingBlock, above.index + 1, behind + 1⟩
      ⟨.introducer .missingBlock, above'.index + 1, behind' + 1⟩)
    (hdedent : Dedents indentation indentation' R E L) :
    Agree E
      (TakenBeside (Taken indentation style above variant header)
        (Taken indentation' style' above' variant header) R L)
      (ofBlock indentation style above variant header behind below)
      (ofBlock indentation' style' above' variant header behind' below') := by
  have htaken := forall₂_takeWhile h fun _ _ hline => (hR hline).stays (hR habove)
  rw [ofBlock_eq rfl, ofBlock_eq rfl]
  generalize below.takeWhile _ = taken at htaken ⊢
  generalize below'.takeWhile _ = taken' at htaken ⊢
  have hbody : Agree E _ (ofBody indentation style above variant header behind _)
      (ofBody indentation' style' above' variant header behind' _) :=
    ofBody_agree hR (forall₂_dropEndWhile htaken fun _ _ hline => (hR hline).isBlank)
      exists_mem_dropEndWhile hmissing hdedent
  have hleft := List.forall₂_drop taken.length h
  rw [afterAll_of_forall₂ hR htaken, ← htaken.length_eq]
  generalize below.drop taken.length = left at hleft ⊢
  generalize below'.drop taken.length = left' at hleft ⊢
  cases hleft with
  | nil => exact hbody
  | cons hleaving _ =>
    simp only [List.head?_cons]
    split
    · exact .error (hopen hleaving)
    · exact hbody

end Region

-- ---------------------------------------------------------------------------
-- Documents side by side
-- ---------------------------------------------------------------------------

/-- The lines introduce nothing, or statements, or blocks with the same header. -/
inductive Introducer.Beside (E : StructureError → StructureError → Prop)
    (Q : Region → Region → Prop) (line line' : Line) : Introducer → Introducer → Prop
  | none : Beside E Q line line' .none .none
  | statement {column column' code code' stop stop'} :
    Q (.ofStatement line code stop) (.ofStatement line' code' stop') →
    Beside E Q line line' (.statement column code stop) (.statement column' code' stop')
  | block {header colon colon'} :
    E ⟨.introducer .missingBlock, line.index + 1, colon + 1 + 1⟩
      ⟨.introducer .missingBlock, line'.index + 1, colon' + 1 + 1⟩ →
    Beside E Q line line' (.block header colon) (.block header colon')

theorem Introducer.Beside.refl {E : StructureError → StructureError → Prop}
    {Q : Region → Region → Prop} (he : ∀ e, E e e) (hq : ∀ r, Q r r) (line : Line)
    (i : Introducer) : Beside E Q line line i i := by
  cases i with
  | none => exact .none
  | statement => exact .statement (hq _)
  | block => exact .block (he _)

/-- What makes two documents be read alike: `R` is how their lines correspond, `E` how their errors
do, `L` how the lines of their regions do, and `Q` how the regions do. -/
structure Corresponding (indentation indentation' : Indentation) (style style' : LineStyle)
    (R : Line → Line → Prop) (E : StructureError → StructureError → Prop)
    (L : RegionLine → RegionLine → Prop) (Q : Region → Region → Prop) : Prop where
  alike : ∀ {line line'}, R line line' →
    Line.Alike indentation.tabWidth indentation'.tabWidth line line'
  recognize : ∀ {line line'} s, R line line' → Agree E (Introducer.Beside E Q line line')
    (Introducer.recognize line s (lexLine .host s line.content).tokens)
    (Introducer.recognize line' s (lexLine .host s line'.content).tokens)
  openDedent : ∀ {line line'}, R line line' →
    E ⟨.indentation .openDedent, line.index + 1, 1⟩ ⟨.indentation .openDedent, line'.index + 1, 1⟩
  dedents : Region.Dedents indentation indentation' R E L
  taken : ∀ {above above' variant header r r'}, R above above' →
    Region.TakenBeside (Region.Taken indentation style above variant header)
      (Region.Taken indentation' style' above' variant header) R L r r' → Q r r'

/-- The lines correspond, and so do the regions that they introduce. -/
structure Reading.Beside (R : Line → Line → Prop) (Q : Region → Region → Prop)
    (rd rd' : Reading) : Prop where
  line : R rd.line rd'.line
  region : Option.Rel Q rd.region rd'.region

section

variable {indentation indentation' : Indentation} {style style' : LineStyle} {s : LexState}
  {R : Line → Line → Prop} {E : StructureError → StructureError → Prop}
  {L : RegionLine → RegionLine → Prop} {Q : Region → Region → Prop} {lines lines' : List Line}
  {rs rs' : List Reading}

/-- Documents are read alike if their lines correspond. -/
theorem readFrom_agree (hc : Corresponding indentation indentation' style style' R E L Q)
    (h : List.Forall₂ R lines lines') :
    Agree E (List.Forall₂ (Reading.Beside R Q))
      (Partition.readFrom indentation style s lines)
      (Partition.readFrom indentation' style' s lines') := by
  -- the lines of a block are passed over on both sides, which are as many
  fun_induction Partition.readFrom indentation style s lines generalizing lines' with
  | case1 =>
    cases h
    rw [Partition.readFrom]
    exact .ok .nil
  | case2 =>
    rename_i s line below lexed hfinish hinitial hbehind
    cases h with
    | @cons _ line' _ below' hline hbelow =>
    rw [Partition.readFrom]
    refine (hc.recognize _ hline).bind fun i i' hi => ?_
    cases hi with
    | none =>
      have hstate : (lexLine .host s line'.content).finish = lexed.finish :=
        (hc.alike hline).after s
      rw [hstate]
      exact (hfinish hbelow).bind fun _ _ hrs => .ok (.cons ⟨hline, .none⟩ hrs)
    | statement hq =>
      exact (hinitial hbelow).bind fun _ _ hrs => .ok (.cons ⟨hline, .some hq⟩ hrs)
    | block hmissing =>
      refine (Region.ofBlock_agree hc.alike hline hbelow hc.openDedent hmissing hc.dedents).bind
        fun region region' hregion => ?_
      obtain ⟨-, -, -, -, -, -, hlines⟩ := id hregion
      rw [← hlines.length_eq]
      exact (hbehind region (List.forall₂_drop _ hbelow)).bind fun _ _ hrs =>
        .ok (.cons ⟨hline, .some (hc.taken hline hregion)⟩ hrs)

theorem forall₂_regions (h : List.Forall₂ (Reading.Beside R Q) rs rs') :
    List.Forall₂ Q (rs.filterMap Reading.region) (rs'.filterMap Reading.region) := by
  induction h with
  | nil => exact .nil
  | @cons rd rd' rs rs' hrd _ ih =>
    obtain ⟨line, s, region⟩ := rd
    obtain ⟨line', s', region'⟩ := rd'
    cases hrd.region with
    | none => exact ih
    | some hq => exact .cons hq ih

theorem Partition.build_agree {document document' : Document}
    (hc : Corresponding indentation indentation' document.style document'.style R E L Q)
    (h : List.Forall₂ R document.lines document'.lines) :
    Agree E (fun p p' => List.Forall₂ Q p.regions p'.regions)
      (build indentation document) (build indentation' document') :=
  (readFrom_agree hc h).bind fun _ _ hrs => .ok (forall₂_regions hrs)

end

end Inlay
