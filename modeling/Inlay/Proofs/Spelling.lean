import Inlay.Proofs.Recognition

/-!
# Written headers

`Header.Spells` says in which ways a header is written as the text of a line: how much white space
stands where, with or without a sign before the digits, with or without a comment. However it is
written, the line is recognized as the block with that header (`recognize_spells`). The lexer takes
the pieces of such a text one by one, since none but white space or a sign stands behind a word
(`Lexeme.Lexes.append`).
-/

namespace Inlay

open CodeUnit

-- ---------------------------------------------------------------------------
-- How a header is written
-- ---------------------------------------------------------------------------

/-- An integer that 53 bits are enough for. -/
def Number.IsSafe (x : Number) : Prop := ∃ n : Int, x = .finite n ∧ |n| < 2 ^ 53

namespace Header

def White (t : Text) : Prop := ∀ u ∈ t, u.isIndent

/-- The white space between two words. -/
structure Gap (t : Text) : Prop where
  white : White t
  ne_nil : t ≠ []

structure Identifier (t : Text) : Prop where
  head : ∃ u, t.head? = some u ∧ Lexeme.isWordStart u
  tail : ∀ u ∈ t.tail, Lexeme.isWordPart u

structure Digits (t : Text) : Prop where
  ne_nil : t ≠ []
  digit : ∀ u ∈ t, u.isDigit

inductive SpellsWord (word : Text) : Bool → Text → Prop
  | absent : SpellsWord word false []
  | present {gap} : Gap gap → SpellsWord word true (gap ++ word)

inductive SpellsInt : Int → Text → Prop
  | plain {digits} : Digits digits → SpellsInt (Text.decimal digits) digits
  | plus {digits} : Digits digits → SpellsInt (Text.decimal digits) (ofChar '+' :: digits)
  | minus {digits} : Digits digits → SpellsInt (-(Text.decimal digits : Int)) (ofChar '-' :: digits)

inductive SpellsPriority : Option Number → Text → Prop
  | absent : SpellsPriority none []
  | present {gap n t} : Gap gap → SpellsInt n t → SpellsPriority (some (.finite n)) (gap ++ t)

inductive SpellsOpening : Bool → Option Number → Text → Prop
  | plain : SpellsOpening false none pythonWord
  | init {priority t gap} : SpellsPriority priority t → Gap gap →
    SpellsOpening true priority (initWord ++ (t ++ (gap ++ pythonWord)))

/-- Names with points between them, and white space on either side of a point. -/
inductive SpellsNames : List Text → Text → Prop
  | one {name} : Identifier name → SpellsNames [name] name
  | more {name before behind names t} : Identifier name → White before → White behind →
    SpellsNames names t →
    SpellsNames (name :: names) (name ++ (before ++ point :: (behind ++ t)))

inductive SpellsStore : Option Text → Text → Prop
  | absent : SpellsStore none []
  | present {gap gap' names t} : Gap gap → Gap gap' → SpellsNames names t →
    SpellsStore (some (Text.joinWith [point] names)) (gap ++ (inWord ++ (gap' ++ t)))

inductive SpellsComment : Text → Prop
  | absent : SpellsComment []
  | present {t} : SpellsComment (ofChar '#' :: t)

/-- The ways to write a header, and the column at which its colon stands. -/
inductive Spells : Header → Nat → Text → Prop
  | mk {init priority early hide store indent a b c d gap gap' comment} : White indent →
    SpellsOpening init priority a → SpellsWord earlyWord early b → SpellsWord hideWord hide c →
    SpellsStore store d → White gap → White gap' → SpellsComment comment →
    Spells ⟨init, priority, early, hide, store⟩
      (indent ++ (a ++ (b ++ (c ++ (d ++ gap))))).length
      ((indent ++ (a ++ (b ++ (c ++ (d ++ gap))))) ++ colon :: (gap' ++ comment))

/-- The headers that can be written: a priority belongs to `init` and is a safe integer, and a
store is one or more identifiers. -/
structure Writable (header : Header) : Prop where
  init : header.priority ≠ none → header.init
  priority : ∀ x, header.priority = some x → x.IsSafe
  store : ∀ t, header.store = some t →
    ∃ names, t = Text.joinWith [point] names ∧ names ≠ [] ∧ ∀ name ∈ names, Identifier name

end Header

-- ---------------------------------------------------------------------------
-- Safe integers
-- ---------------------------------------------------------------------------

namespace Number

theorem lastPlace_of_lt {n : Nat} (hne : n ≠ 0) (h : n < 2 ^ 53) :
    lastPlace n 1 = -((52 - n.log2 : Nat) : Int) := by
  have hfirst := Nat.log2_self_le hne
  have hlog := (Nat.log2_lt hne).mpr h
  have hone : Nat.log2 1 = 0 := by decide
  simp only [lastPlace, hone]
  rw [if_neg (by simpa using hfirst)]
  omega

theorem nearestMagnitude_of_lt {n : Nat} (hne : n ≠ 0) (h : n < 2 ^ 53) :
    nearestMagnitude n 1 = n := by
  have hround (k : Nat) : roundRatio k 1 = k := by simp [roundRatio, Nat.mod_one]
  simp only [nearestMagnitude, lastPlace_of_lt hne h, neg_neg, Int.toNat_natCast,
    Int.toNat_neg_natCast, Nat.pow_eq, Nat.pow_zero, Nat.mul_one, hround]
  rw [Rat.mkRat_eq_div]
  push_cast
  field_simp

theorem ofInt_of_lt {n : Int} (h : |n| < 2 ^ 53) : ofInt n = .finite n := by
  rcases eq_or_ne n 0 with rfl | hne
  · rfl
  have habs := Int.natCast_natAbs n
  have hsafe : n.natAbs < 2 ^ 53 := by omega
  have hmagnitude := nearestMagnitude_of_lt (Int.natAbs_ne_zero.mpr hne) hsafe
  have hlarge {k : Nat} (hk : 53 ≤ k) : n.natAbs < Nat.pow 2 k :=
    hsafe.trans_le (Nat.pow_le_pow_right (by decide) hk)
  have hfinite : ¬ (n.natAbs : Rat).num ≥ Nat.pow 2 1024 := by
    rw [Rat.num_natCast, ge_iff_le, Nat.cast_le]
    -- the power itself is too large to be computed
    generalize hk : 1024 = k
    exact Nat.not_le.mpr (hlarge (by omega))
  simp only [ofInt, nearest, Rat.num_intCast, Rat.den_intCast, hne, hmagnitude, hfinite, if_false]
  congr 1
  rw [Nat.cast_natAbs, Int.cast_abs]
  split_ifs with hneg
  · rw [abs_of_neg (by exact_mod_cast hneg), neg_neg]
  · rw [abs_of_nonneg (by exact_mod_cast not_lt.mp hneg)]

end Number

-- ---------------------------------------------------------------------------
-- One piece of a line
-- ---------------------------------------------------------------------------

namespace Lexeme

variable {dialect : Dialect} {column depth : Nat} {u : CodeUnit} {w t rest : Text}

theorem isWordStart_of_isDigit (h : u.isDigit) : isWordStart u = false := by
  simp only [isDigit, Bool.and_eq_true, decide_eq_true_eq, UInt16.le_iff_toNat_le] at h
  obtain ⟨hlow, hhigh⟩ : 48 ≤ u.toNat ∧ u.toNat ≤ 57 := h
  have hne : u ≠ ofChar '_' := by
    rintro rfl
    exact absurd hhigh (by decide)
  simp only [isWordStart, isUpper, isLower, hne, Bool.or_eq_false_iff, Bool.and_eq_false_iff,
    decide_eq_false_iff_not, UInt16.le_iff_toNat_le, decide_false, and_true]
  refine ⟨.inl ?_, .inl ?_⟩
  · change ¬ 65 ≤ u.toNat
    omega
  · change ¬ 97 ≤ u.toNat
    omega

theorem lexCode_word (hu : isWordStart u) (hw : ∀ v ∈ w, isWordPart v)
    (hrest : ∀ v, rest.head? = some v → isWordPart v = false) :
    lexCode dialect column depth (u :: (w ++ rest)) =
      (lexCode dialect (column + (w.length + 1)) depth rest).behind ⟨.word, u :: w, column⟩ := by
  obtain ⟨hindent, hcomment, hquote⟩ := of_isWordPart (u := u) (by simp [isWordPart, hu])
  rw [lexCode, if_neg (by simp [hindent]), if_neg hcomment,
    Dialect.opening?_eq_none hquote]
  simp only [hu, if_true, takeWhile_append_of_head hw hrest, dropWhile_append_of_head hw hrest,
    List.length_cons]

theorem lexCode_digits (hu : u.isDigit) (hw : ∀ v ∈ w, v.isDigit)
    (hrest : ∀ v, rest.head? = some v → isWordPart v = false) :
    lexCode dialect column depth (u :: (w ++ rest)) =
      (lexCode dialect (column + (w.length + 1)) depth rest).behind ⟨.number, u :: w, column⟩ := by
  obtain ⟨hindent, hcomment, hquote⟩ := of_isWordPart (u := u) (by simp [isWordPart, hu])
  have hdigit : ∀ v, rest.head? = some v → v.isDigit = false := fun v hv => by
    have hv := hrest v hv
    simp only [isWordPart, Bool.or_eq_false_iff] at hv
    exact hv.2
  rw [lexCode, if_neg (by simp [hindent]), if_neg hcomment,
    Dialect.opening?_eq_none hquote]
  simp only [hu, isWordStart_of_isDigit hu, Bool.false_eq_true, if_false, if_true,
    takeWhile_append_of_head hw hdigit, dropWhile_append_of_head hw hdigit, List.length_cons]

/-- The signs that stand in a header. -/
def headerSigns : List CodeUnit := [Header.point, Header.colon, ofChar '+', ofChar '-']

theorem lexCode_sign (hu : u ∈ headerSigns) :
    lexCode dialect column depth (u :: rest) =
      (lexCode dialect (column + 1) depth rest).behind ⟨.punct, [u], column⟩ := by
  simp only [headerSigns, List.mem_cons, List.not_mem_nil, or_false] at hu
  obtain ⟨hindent, hcomment, hword, hdigit⟩ : u.isIndent = false ∧ u ≠ ofChar '#' ∧
      isWordStart u = false ∧ isDigit u = false := by
    rcases hu with rfl | rfl | rfl | rfl <;> decide
  have hquote (q : Quote) : q.unit ≠ u := by
    rcases hu with rfl | rfl | rfl | rfl <;> cases q <;> decide
  have hdepth : bracketDepth depth u = depth := by
    rcases hu with rfl | rfl | rfl | rfl <;> rfl
  rw [lexCode_punct hindent hcomment hquote hword hdigit, hdepth]

theorem lexCode_comment (t : Text) :
    lexCode dialect column depth (ofChar '#' :: t) =
      ⟨[⟨.comment, ofChar '#' :: t, column⟩], .comment, depth⟩ := by
  rw [lexCode, if_neg (by decide), if_pos rfl]

-- ---------------------------------------------------------------------------
-- Piece after piece
-- ---------------------------------------------------------------------------

/-- A word before the text ends with it. -/
def Apart (t : Text) : Prop := ∀ u, t.head? = some u → isWordPart u = false

/-- The text at a column holds the tokens, whatever stands behind it that no word goes on with. -/
def Lexes (column : Nat) (t : Text) (tokens : List Token) : Prop :=
  ∀ rest, Apart rest → (lexCode .host column 0 (t ++ rest)).tokens =
    tokens ++ (lexCode .host (column + t.length) 0 rest).tokens

theorem Apart.append {t' : Text} (h : Apart t) (h' : Apart t') : Apart (t ++ t') := by
  cases t with
  | nil => exact h'
  | cons u t => exact h

theorem apart_gap {gap : Text} (h : Header.Gap gap) (t : Text) : Apart (gap ++ t) := by
  obtain ⟨u, gap, rfl⟩ := List.exists_cons_of_ne_nil h.ne_nil
  rintro _ ⟨⟩
  exact isWordPart_of_isIndent (h.white u List.mem_cons_self)

theorem apart_sign (hu : u ∈ headerSigns) (t : Text) : Apart (u :: t) := by
  rintro _ ⟨⟩
  simp only [headerSigns, List.mem_cons, List.not_mem_nil, or_false] at hu
  rcases hu with rfl | rfl | rfl | rfl <;> decide

theorem apart_white {white : Text} (h : Header.White white) (ht : Apart t) :
    Apart (white ++ t) := by
  cases white with
  | nil => exact ht
  | cons v white => exact apart_gap ⟨h, nofun⟩ t

namespace Lexes

variable {tokens tokens' : List Token} {t' : Text}

theorem nil : Lexes column [] [] := fun _ _ => rfl

theorem append (h : Lexes column t tokens) (ht' : Apart t')
    (h' : Lexes (column + t.length) t' tokens') : Lexes column (t ++ t') (tokens ++ tokens') := by
  intro rest hrest
  rw [List.append_assoc, h _ (ht'.append hrest), h' rest hrest, List.append_assoc,
    List.length_append, Nat.add_assoc]

theorem white {white : Text} (hwhite : Header.White white)
    (h : Lexes (column + white.length) t tokens) : Lexes column (white ++ t) tokens := by
  intro rest hrest
  rw [List.append_assoc, lexCode_append hwhite, ← lexCode_add, h rest hrest, List.length_append,
    Nat.add_assoc]

theorem sign (hu : u ∈ headerSigns) (h : Lexes (column + 1) t tokens) :
    Lexes column (u :: t) (⟨.punct, [u], column⟩ :: tokens) := by
  intro rest hrest
  rw [List.cons_append, lexCode_sign hu, List.length_cons, Nat.add_comm t.length, ← Nat.add_assoc]
  exact congrArg _ (h rest hrest)

theorem word (h : Header.Identifier w) : Lexes column w [⟨.word, w, column⟩] := by
  intro rest hrest
  obtain ⟨u, hhead, hu⟩ := h.head
  obtain ⟨w, rfl⟩ := List.head?_eq_some_iff.mp hhead
  have htail : ∀ v ∈ w, isWordPart v := h.tail
  rw [List.cons_append, lexCode_word hu htail hrest]
  rfl

theorem digits (h : Header.Digits w) : Lexes column w [⟨.number, w, column⟩] := by
  intro rest hrest
  obtain ⟨u, w, rfl⟩ := List.exists_cons_of_ne_nil h.ne_nil
  obtain ⟨hu, hw⟩ := List.forall_mem_cons.mp h.digit
  rw [List.cons_append, lexCode_digits hu hw hrest]
  rfl

end Lexes

end Lexeme

-- ---------------------------------------------------------------------------
-- The pieces of a header
-- ---------------------------------------------------------------------------

namespace Header

open Lexeme (Lexes Apart)

variable {column : Nat} {word t : Text}

theorem identifier_keyword (h : word ∈ [pythonWord, initWord, earlyWord, hideWord, inWord]) :
    Identifier word := by
  simp only [List.mem_cons, List.not_mem_nil, or_false] at h
  rcases h with rfl | rfl | rfl | rfl | rfl <;>
    exact ⟨⟨_, rfl, by decide⟩, List.all_eq_true.mp (by decide)⟩

theorem isWord_word (word : Text) (column : Nat) : Token.isWord ⟨.word, word, column⟩ word := by
  simp [Token.isWord]

theorem isPunct_sign (u : CodeUnit) (column : Nat) : Token.isPunct ⟨.punct, [u], column⟩ u := by
  simp [Token.isPunct]

theorem SpellsWord.lexes {found : Bool} (h : SpellsWord word found t) (hword : Identifier word)
    (column : Nat) : Apart t ∧ ∃ tokens, Lexes column t tokens ∧ MayBe word found tokens := by
  cases h with
  | absent => exact ⟨nofun, [], .nil, .absent⟩
  | present hgap =>
    exact ⟨Lexeme.apart_gap hgap _, _, .white hgap.white (.word hword), .present (isWord_word ..)⟩

theorem SpellsInt.lexes {n : Int} (h : SpellsInt n t) (hsafe : |n| < 2 ^ 53) {gap : Text}
    (hgap : Gap gap) (column : Nat) :
    ∃ tokens, Lexes column (gap ++ t) tokens ∧ IsPriority (some (.finite n)) tokens := by
  rw [← Number.ofInt_of_lt hsafe]
  cases h with
  | plain hdigits =>
    exact ⟨_, .white hgap.white (.digits hdigits), @IsPriority.plain ⟨.number, _, _⟩ rfl⟩
  | plus hdigits =>
    exact ⟨_, .white hgap.white (.sign (by simp [Lexeme.headerSigns]) (.digits hdigits)),
      @IsPriority.plus _ ⟨.number, _, _⟩ (isPunct_sign ..) rfl rfl⟩
  | minus hdigits =>
    exact ⟨_, .white hgap.white (.sign (by simp [Lexeme.headerSigns]) (.digits hdigits)),
      @IsPriority.minus _ ⟨.number, _, _⟩ (isPunct_sign ..) rfl rfl⟩

theorem SpellsPriority.lexes {priority : Option Number} (h : SpellsPriority priority t)
    (hsafe : ∀ x, priority = some x → x.IsSafe) (column : Nat) :
    Apart t ∧ ∃ tokens, Lexes column t tokens ∧ IsPriority priority tokens := by
  cases h with
  | absent => exact ⟨nofun, [], .nil, .absent⟩
  | present hgap hint =>
    obtain ⟨n, hn, hsafe⟩ := hsafe _ rfl
    obtain rfl := Int.cast_injective (Number.finite.inj hn)
    exact ⟨Lexeme.apart_gap hgap _, hint.lexes hsafe hgap column⟩

theorem SpellsOpening.lexes {init : Bool} {priority : Option Number}
    (h : SpellsOpening init priority t) (hsafe : ∀ x, priority = some x → x.IsSafe)
    (column : Nat) :
    ∃ front python, Lexes column t (front ++ [python]) ∧ IsInit init priority front ∧
      python.isWord pythonWord := by
  cases h with
  | plain => exact ⟨[], _, .word (identifier_keyword (by simp)), .absent, isWord_word ..⟩
  | @init priority t gap hpriority hgap =>
    obtain ⟨hapart, tokens, htokens, hread⟩ := hpriority.lexes hsafe (column + initWord.length)
    have hinit : Lexes column initWord _ := .word (identifier_keyword (by simp))
    have hpython : Lexes (column + initWord.length + t.length) (gap ++ pythonWord) _ :=
      .white hgap.white (.word (identifier_keyword (by simp)))
    have hgapApart : Apart (gap ++ pythonWord) := Lexeme.apart_gap hgap _
    exact ⟨⟨.word, initWord, column⟩ :: tokens, _,
      hinit.append (hapart.append hgapApart) (htokens.append hgapApart hpython),
      .present (isWord_word ..) hread, isWord_word ..⟩

theorem SpellsNames.lexes {names : List Text} (h : SpellsNames names t) (column : Nat) :
    ∃ tokens, Lexes column t tokens ∧ IsNames names tokens := by
  induction h generalizing column with
  | one hname => exact ⟨_, .word hname, @IsNames.one ⟨.word, _, _⟩ rfl⟩
  | @more name before behind names t hname hbefore hbehind _ ih =>
    have hpoint : point ∈ Lexeme.headerSigns := by simp [Lexeme.headerSigns]
    obtain ⟨tokens, htokens, hread⟩ :=
      ih (column + name.length + before.length + 1 + behind.length)
    exact ⟨_, .append (.word hname) (Lexeme.apart_white hbefore (Lexeme.apart_sign hpoint _))
      (.white hbefore (.sign hpoint (.white hbehind htokens))),
      @IsNames.more ⟨.word, _, _⟩ _ _ _ rfl (isPunct_sign ..) hread⟩

theorem SpellsStore.lexes {store : Option Text} (h : SpellsStore store t) (column : Nat) :
    Apart t ∧ ∃ tokens, Lexes column t tokens ∧ IsStore store tokens := by
  cases h with
  | absent => exact ⟨nofun, [], .nil, .absent⟩
  | @present gap gap' names t hgap hgap' hnames =>
    obtain ⟨tokens, htokens, hread⟩ :=
      hnames.lexes (column + gap.length + inWord.length + gap'.length)
    exact ⟨Lexeme.apart_gap hgap _, _,
      .white hgap.white (.append (.word (identifier_keyword (by simp))) (Lexeme.apart_gap hgap' _)
        (.white hgap'.white htokens)), .present (isWord_word ..) hread⟩

theorem SpellsComment.kind (h : SpellsComment t) {white : Text} (hwhite : White white) :
    ∀ token ∈ (Lexeme.lexCode .host column 0 (white ++ t)).tokens, token.kind = .comment := by
  rw [Lexeme.lexCode_append hwhite, ← Lexeme.lexCode_add]
  cases h with
  | absent => simp [Lexeme.lexCode]
  | present => simp [Lexeme.lexCode_comment]

/-- The pieces between `python` and the colon are lexed one by one, since each but the white space
at their end begins with a gap, or is not there. -/
theorem exists_lexes_clauses {early hide : Bool} {store : Option Text} {a b c gap : Text}
    (ha : SpellsWord earlyWord early a) (hb : SpellsWord hideWord hide b)
    (hc : SpellsStore store c) (hgap : White gap) (column : Nat) :
    Apart (a ++ (b ++ (c ++ gap))) ∧ ∃ early' hide' store',
      Lexes column (a ++ (b ++ (c ++ gap))) (early' ++ (hide' ++ store')) ∧
        MayBe earlyWord early early' ∧ MayBe hideWord hide hide' ∧ IsStore store store' := by
  obtain ⟨haApart, early', ha, hearly⟩ := ha.lexes (identifier_keyword (by simp)) column
  obtain ⟨hbApart, hide', hb, hhide⟩ :=
    hb.lexes (identifier_keyword (by simp)) (column + a.length)
  obtain ⟨hcApart, store', hc, hstore⟩ := hc.lexes (column + a.length + b.length)
  have hgapApart : Apart gap := by simpa using Lexeme.apart_white hgap (t := []) nofun
  have hgap : Lexes (column + a.length + b.length + c.length) gap [] := by
    simpa using Lexes.white hgap .nil
  have hcApart := hcApart.append hgapApart
  have hbApart := hbApart.append hcApart
  have hclauses := ha.append hbApart (hb.append hcApart (hc.append hgapApart hgap))
  rw [List.append_nil] at hclauses
  exact ⟨haApart.append hbApart, early', hide', store', hclauses, hearly, hhide, hstore⟩

theorem Spells.derives {header : Header} (h : Spells header column t)
    (hwritable : header.Writable) :
    ∃ used comment, (lexLine .host .initial t).tokens = used ++ comment ∧
      Derives header column used ∧ ∀ token ∈ comment, token.kind = .comment := by
  obtain ⟨hindent, ha, hb, hc, hd, hgap, hgap', hcomment⟩ := h
  rename_i init priority early hide store indent a b c d gap gap' comment
  obtain ⟨front, python, hfront, hinit, hpython⟩ := ha.lexes hwritable.priority (0 + indent.length)
  obtain ⟨hclausesApart, early', hide', store', hclauses, hearly, hhide, hstore⟩ :=
    exists_lexes_clauses hb hc hd hgap (0 + indent.length + a.length)
  have hbefore := Lexes.white hindent (hfront.append hclausesApart hclauses)
  generalize indent ++ (a ++ (b ++ (c ++ (d ++ gap)))) = before at hbefore
  have hcolon : colon ∈ Lexeme.headerSigns := by simp [Lexeme.headerSigns]
  have hline := hbefore (colon :: (gap' ++ comment)) (Lexeme.apart_sign hcolon _)
  rw [Lexeme.lexCode_sign hcolon, Nat.zero_add] at hline
  refine ⟨front ++ python :: (early' ++ (hide' ++ (store' ++ [⟨.punct, [colon], before.length⟩]))),
    (Lexeme.lexCode .host (before.length + 1) 0 (gap' ++ comment)).tokens, ?_, ?_,
    hcomment.kind hgap'⟩
  · change (Lexeme.lexCode _ 0 0 _).tokens = _
    simpa [Lexeme.Reached.behind] using hline
  · exact .mk hinit hpython (.mk hearly hhide hstore (isPunct_sign colon before.length))

-- ---------------------------------------------------------------------------
-- Every header is written in some way
-- ---------------------------------------------------------------------------

theorem decimal_concat (t : Text) (u : CodeUnit) :
    Text.decimal (t ++ [u]) = 10 * Text.decimal t + u.digitValue?.getD 0 := by
  simp [Text.decimal]

theorem exists_digit : ∀ k : Fin 10, ∃ u : CodeUnit, u.isDigit ∧ u.digitValue? = some k.val :=
  fun k => ⟨UInt16.ofNat (48 + k), by revert k; decide, by revert k; decide⟩

theorem exists_digits (n : Nat) : ∃ digits, Digits digits ∧ Text.decimal digits = n := by
  induction n using Nat.strongRecOn with
  | ind n ih =>
    obtain ⟨u, hu, hvalue⟩ := exists_digit ⟨n % 10, Nat.mod_lt n (by decide)⟩
    by_cases hn : n < 10
    · refine ⟨[u], ⟨by simp, by simpa using hu⟩, ?_⟩
      simp [Text.decimal, hvalue, Nat.mod_eq_of_lt hn]
    · obtain ⟨digits, hdigits, hdecimal⟩ := ih (n / 10) (by omega)
      refine ⟨digits ++ [u], ⟨by simp, ?_⟩, ?_⟩
      · simpa [or_imp, forall_and] using ⟨hdigits.digit, hu⟩
      · rw [decimal_concat, hdecimal, hvalue, Option.getD_some, Nat.div_add_mod]

theorem gap_space : Gap [space] := ⟨by simp [White, isIndent], by simp⟩

theorem exists_spellsInt (n : Int) : ∃ t, SpellsInt n t := by
  obtain ⟨digits, hdigits, hdecimal⟩ := exists_digits n.natAbs
  rcases Int.natAbs_eq n with hn | hn
  · rw [hn, ← hdecimal]
    exact ⟨_, .plain hdigits⟩
  · rw [hn, ← hdecimal]
    exact ⟨_, .minus hdigits⟩

theorem Writable.exists_spellsPriority {header : Header} (h : header.Writable) :
    ∃ t, SpellsPriority header.priority t := by
  cases hpriority : header.priority with
  | none => exact ⟨_, .absent⟩
  | some x =>
    obtain ⟨n, rfl, -⟩ := h.priority x hpriority
    obtain ⟨t, ht⟩ := exists_spellsInt n
    exact ⟨_, .present gap_space ht⟩

theorem exists_spellsWord (word : Text) (found : Bool) : ∃ t, SpellsWord word found t := by
  cases found with
  | false => exact ⟨_, .absent⟩
  | true => exact ⟨_, .present gap_space⟩

theorem exists_spellsNames {names : List Text} (hne : names ≠ [])
    (h : ∀ name ∈ names, Identifier name) : ∃ t, SpellsNames names t := by
  induction names with
  | nil => exact absurd rfl hne
  | cons name names ih =>
    obtain ⟨hname, hnames⟩ := List.forall_mem_cons.mp h
    cases names with
    | nil => exact ⟨_, .one hname⟩
    | cons next names =>
      obtain ⟨t, ht⟩ := ih nofun hnames
      exact ⟨_, @SpellsNames.more name [] [] (next :: names) t hname nofun nofun ht⟩

theorem Writable.exists_spells {header : Header} (h : header.Writable) :
    ∃ column t, header.Spells column t := by
  obtain ⟨init, priority, early, hide, store⟩ := header
  obtain ⟨a, ha⟩ : ∃ t, SpellsOpening init priority t := by
    cases init with
    | true =>
      obtain ⟨t, ht⟩ := h.exists_spellsPriority
      exact ⟨_, .init ht gap_space⟩
    | false =>
      obtain rfl : priority = none := by
        by_contra hne
        exact absurd (h.init hne) nofun
      exact ⟨_, .plain⟩
  obtain ⟨b, hb⟩ := exists_spellsWord earlyWord early
  obtain ⟨c, hc⟩ := exists_spellsWord hideWord hide
  obtain ⟨d, hd⟩ : ∃ t, SpellsStore store t := by
    cases store with
    | none => exact ⟨_, .absent⟩
    | some t =>
      obtain ⟨names, rfl, hne, hnames⟩ := h.store t rfl
      obtain ⟨t, ht⟩ := exists_spellsNames hne hnames
      exact ⟨_, .present gap_space gap_space ht⟩
  have hnone : White [] := nofun
  exact ⟨_, _, .mk hnone ha hb hc hd hnone hnone .absent⟩

end Header

-- ---------------------------------------------------------------------------
-- The line of a written header
-- ---------------------------------------------------------------------------

namespace Introducer

/-- Every header can be written, and however it is, a line that starts no inside of a logical line
is recognized as the block with exactly this header. -/
theorem recognize_spells {header : Header} (h : header.Writable) :
    (∃ column t, header.Spells column t) ∧
    ∀ (line : Line) (s : LexState) (column : Nat), s.isOpen = false →
      header.Spells column line.content →
      recognize line s (lexLine .host s line.content).tokens = .ok (.block header column) ∧
      line.content[column]? = some Header.colon ∧
      header.variant =
        match header.early, header.init with
        | true, _ => .earlyBlock
        | false, true => .initBlock
        | false, false => .block := by
  refine ⟨h.exists_spells, fun line s column hs hspells => ⟨?_, ?_, ?_⟩⟩
  · obtain rfl := LexState.isOpen_eq_false_iff.mp hs
    obtain ⟨used, comment, htokens, hderives, hcomment⟩ := hspells.derives h
    refine recognize_eq_block_iff.mpr ⟨by decide, Header.ofTokens?_eq_ok_some_iff.mpr ?_⟩
    exact ⟨used, comment, htokens, hderives, fun token hm => hcomment token (List.mem_of_head? hm)⟩
  · generalize line.content = content at hspells
    obtain ⟨-, -, -, -, -, -, -, -⟩ := hspells
    simp
  · cases hearly : header.early <;> cases hinit : header.init <;>
      simp [Header.variant, hearly, hinit]

theorem recognize_spells_early :
    let header : Header := ⟨true, some (.finite (-5)), true, false, some (text "python.audio")⟩
    let line : Line := ⟨⟨text "  init -5 python early in python . audio :  # 'x':", .none⟩, 0, 0⟩
    header.Writable ∧ LexState.initial.isOpen = false ∧ header.Spells 41 line.content ∧
      recognize line .initial (lexLine .host .initial line.content).tokens =
        .ok (.block header 41) := by
  intro header line
  have hgap : Header.Gap [space] := Header.gap_space
  have hpython : Header.Identifier (text "python") := Header.identifier_keyword (by decide)
  have haudio : Header.Identifier (text "audio") :=
    ⟨⟨_, rfl, by decide⟩, List.all_eq_true.mp (by decide)⟩
  have hwritable : header.Writable := by
    refine ⟨fun _ => rfl, ?_, ?_⟩
    · rintro _ ⟨⟩
      exact ⟨-5, by norm_num, by decide⟩
    · rintro _ ⟨⟩
      exact ⟨[text "python", text "audio"], by decide, by decide, by simp [hpython, haudio]⟩
  have hdigits : Header.Digits (text "5") := ⟨by decide, List.all_eq_true.mp (by decide)⟩
  have hspells : header.Spells 41 line.content := by
    have hopening := Header.SpellsOpening.init (.present hgap (.minus hdigits)) hgap
    have hnames : Header.SpellsNames _ _ := .more hpython hgap.white hgap.white (.one haudio)
    have h := Header.Spells.mk (List.all_eq_true.mp (show (text "  ").all isIndent by decide))
      hopening (.present hgap) .absent (.present hgap hgap hnames) hgap.white
      (List.all_eq_true.mp (show (text "  ").all isIndent by decide))
      (.present (t := text " 'x':"))
    exact h
  exact ⟨hwritable, by decide, hspells,
    ((recognize_spells hwritable).2 line .initial 41 (by decide) hspells).1⟩

end Introducer

end Inlay
