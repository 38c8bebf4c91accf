import Inlay.Proofs.Shifting

/-!
# The grammar of headers

`Header.Derives` is the grammar of block headers over tokens, said without its readers. Each reader
takes the longest front that has the form it reads (`takeWord_eq_iff`, `takeNames_eq_ok_iff`,
`takeStore_eq_ok_iff`), so the tokens that are read as a header are those that the grammar derives
(`ofTokens?_eq_ok_some_iff`), and those that are no header are `Ordinary`.
-/

namespace Inlay

open CodeUnit

-- ---------------------------------------------------------------------------
-- Tokens
-- ---------------------------------------------------------------------------

namespace Token

variable {token : Token} {word other : Text} {u : CodeUnit}

theorem isWord_iff : token.isWord word ↔ token.kind = .word ∧ token.text = word := by
  simp [isWord]

theorem isPunct_iff : token.isPunct u ↔ token.kind = .punct ∧ token.text = [u] := by
  simp [isPunct]

theorem isWord_of_ne (h : token.isWord word) (hne : word ≠ other) : token.isWord other = false := by
  simp_all [isWord]

theorem isPunct_of_ne {v : CodeUnit} (h : token.isPunct u) (hne : u ≠ v) :
    token.isPunct v = false := by
  simp_all [isPunct]

theorem isWord_of_isPunct (h : token.isPunct u) : token.isWord word = false := by
  simp_all [isPunct, isWord]

theorem isPunct_of_isWord (h : token.isWord word) : token.isPunct u = false := by
  simp_all [isPunct, isWord]

/-- A token that is neither a string nor a comment, which no header holds. -/
structure IsPlain (token : Token) : Prop where
  not_string : token.kind ≠ .string
  not_comment : token.kind ≠ .comment

theorem isPlain_of_word (h : token.kind = .word) : token.IsPlain := by
  constructor <;> simp [h]

theorem isPlain_of_number (h : token.kind = .number) : token.IsPlain := by
  constructor <;> simp [h]

theorem isPlain_of_isWord (h : token.isWord word) : token.IsPlain :=
  isPlain_of_word (isWord_iff.mp h).1

theorem isPlain_of_isPunct (h : token.isPunct u) : token.IsPlain := by
  constructor <;> simp [(isPunct_iff.mp h).1]

end Token

-- ---------------------------------------------------------------------------
-- The grammar
-- ---------------------------------------------------------------------------

namespace Header

/-- A word that may be there. -/
inductive MayBe (word : Text) : Bool → List Token → Prop
  | absent : MayBe word false []
  | present {token} : token.isWord word → MayBe word true [token]

/-- `[[+|-] digits]`, where a sign stands immediately before its digits. The number is the double
nearest to the integer that is written. -/
inductive IsPriority : Option Number → List Token → Prop
  | absent : IsPriority none []
  | plain {digits} : digits.kind = .number →
    IsPriority (some (.ofInt (Text.decimal digits.text))) [digits]
  | plus {sign digits} : sign.isPunct (ofChar '+') → digits.kind = .number →
    digits.column = sign.column + 1 →
    IsPriority (some (.ofInt (Text.decimal digits.text))) [sign, digits]
  | minus {sign digits} : sign.isPunct (ofChar '-') → digits.kind = .number →
    digits.column = sign.column + 1 →
    IsPriority (some (.ofInt (-(Text.decimal digits.text : Int)))) [sign, digits]

/-- `[init [[+|-] digits]]` -/
inductive IsInit : Bool → Option Number → List Token → Prop
  | absent : IsInit false none []
  | present {token priority rest} : token.isWord initWord → IsPriority priority rest →
    IsInit true priority (token :: rest)

/-- `name {. name}` -/
inductive IsNames : List Text → List Token → Prop
  | one {name} : name.kind = .word → IsNames [name.text] [name]
  | more {name separator names rest} : name.kind = .word → separator.isPunct point →
    IsNames names rest → IsNames (name.text :: names) (name :: separator :: rest)

/-- `[in name {. name}]` -/
inductive IsStore : Option Text → List Token → Prop
  | absent : IsStore none []
  | present {token names rest} : token.isWord inWord → IsNames names rest →
    IsStore (some (Text.joinWith [point] names)) (token :: rest)

/-- `[early] [hide] [in name {. name}] :` -/
inductive IsClauses (init : Bool) (priority : Option Number) : Header → Nat → List Token → Prop
  | mk {early hide store a b c sign} : MayBe earlyWord early a → MayBe hideWord hide b →
    IsStore store c → sign.isPunct colon →
    IsClauses init priority ⟨init, priority, early, hide, store⟩ sign.column
      (a ++ (b ++ (c ++ [sign])))

/-- The tokens of a header, what it says, and the column of its colon:

    [init [[+|-] digits]] python [early] [hide] [in name {. name}] : -/
inductive Derives : Header → Nat → List Token → Prop
  | mk {init priority header column front python clauses} : IsInit init priority front →
    python.isWord pythonWord → IsClauses init priority header column clauses →
    Derives header column (front ++ python :: clauses)

/-- The tokens behind `init` go on with `[[+|-] digits] python`. -/
def IsInitPython (tokens : List Token) : Prop :=
  ∃ priority front python behind, tokens = front ++ python :: behind ∧
    IsPriority priority front ∧ python.isWord pythonWord

/-- Tokens that begin neither as a statement nor as the header of a block. -/
inductive Ordinary : List Token → Prop
  | nil : Ordinary []
  | other {first rest} : first.isPunct Introducer.marker = false →
    first.isWord pythonWord = false → first.isWord initWord = false → Ordinary (first :: rest)
  | init {first rest} : first.isWord initWord → ¬ IsInitPython rest → Ordinary (first :: rest)
  | dialogue {first next rest} : first.isWord pythonWord → next.kind = .string →
    Ordinary (first :: next :: rest)

variable {tokens rest used : List Token} {word : Text}

-- ---------------------------------------------------------------------------
-- What the tokens of a header are
-- ---------------------------------------------------------------------------

theorem MayBe.isPlain {found : Bool} (h : MayBe word found tokens) :
    ∀ token ∈ tokens, token.IsPlain := by
  cases h with
  | absent => simp
  | present hword => simpa using Token.isPlain_of_isWord hword

theorem IsPriority.isPlain {priority : Option Number} (h : IsPriority priority tokens) :
    ∀ token ∈ tokens, token.IsPlain := by
  cases h with
  | absent => simp
  | plain hkind => simpa using Token.isPlain_of_number hkind
  | plus hsign hkind _ =>
    simpa using ⟨Token.isPlain_of_isPunct hsign, Token.isPlain_of_number hkind⟩
  | minus hsign hkind _ =>
    simpa using ⟨Token.isPlain_of_isPunct hsign, Token.isPlain_of_number hkind⟩

theorem IsInit.isPlain {init : Bool} {priority : Option Number} (h : IsInit init priority tokens) :
    ∀ token ∈ tokens, token.IsPlain := by
  cases h with
  | absent => simp
  | present hinit hpriority =>
    exact List.forall_mem_cons.mpr ⟨Token.isPlain_of_isWord hinit, hpriority.isPlain⟩

theorem IsNames.isPlain {names : List Text} (h : IsNames names tokens) :
    ∀ token ∈ tokens, token.IsPlain := by
  induction h with
  | one hname => simpa using Token.isPlain_of_word hname
  | more hname hpoint _ ih =>
    simpa using ⟨Token.isPlain_of_word hname, Token.isPlain_of_isPunct hpoint, ih⟩

theorem IsStore.isPlain {store : Option Text} (h : IsStore store tokens) :
    ∀ token ∈ tokens, token.IsPlain := by
  cases h with
  | absent => simp
  | present hin hnames =>
    exact List.forall_mem_cons.mpr ⟨Token.isPlain_of_isWord hin, hnames.isPlain⟩

theorem IsClauses.isPlain {init : Bool} {priority : Option Number} {header : Header} {column : Nat}
    (h : IsClauses init priority header column tokens) : ∀ token ∈ tokens, token.IsPlain := by
  obtain ⟨ha, hb, hc, hsign⟩ := h
  simp only [List.forall_mem_append, List.forall_mem_singleton]
  exact ⟨ha.isPlain, hb.isPlain, hc.isPlain, Token.isPlain_of_isPunct hsign⟩

theorem Derives.isPlain {header : Header} {column : Nat} (h : Derives header column tokens) :
    ∀ token ∈ tokens, token.IsPlain := by
  obtain ⟨hfront, hpython, hclauses⟩ := h
  rw [List.forall_mem_append, List.forall_mem_cons]
  exact ⟨hfront.isPlain, Token.isPlain_of_isWord hpython, hclauses.isPlain⟩

theorem IsClauses.exists_head? {init : Bool} {priority : Option Number} {header : Header}
    {column : Nat} (h : IsClauses init priority header column tokens) (behind : List Token) :
    ∃ token, (tokens ++ behind).head? = some token ∧ token ∈ tokens := by
  have hne : tokens ≠ [] := by
    obtain ⟨-, -, -, -⟩ := h
    simp
  obtain ⟨token, more, rfl⟩ := List.exists_cons_of_ne_nil hne
  exact ⟨token, rfl, List.mem_cons_self⟩

-- ---------------------------------------------------------------------------
-- What the readers take
-- ---------------------------------------------------------------------------

theorem takeWord_eq_iff {found : Bool} :
    takeWord word tokens = (found, rest) ↔
      ∃ used, tokens = used ++ rest ∧ MayBe word found used ∧
        (found = false → ∀ token, rest.head? = some token → token.isWord word = false) := by
  constructor
  · fun_cases takeWord word tokens with
    | case1 =>
      rintro ⟨⟩
      exact ⟨[], rfl, .absent, by simp⟩
    | case2 token more hword =>
      rintro ⟨⟩
      exact ⟨[token], rfl, .present hword, by simp⟩
    | case3 token more hword =>
      rintro ⟨⟩
      exact ⟨[], rfl, .absent, by simpa using hword⟩
  · rintro ⟨used, rfl, hused, hrest⟩
    cases hused with
    | present hword => simp [takeWord, hword]
    | absent =>
      cases rest with
      | nil => rfl
      | cons token more => simp [takeWord, hrest rfl token rfl]

theorem takeNames_of_isNames {names : List Text} (h : IsNames names used)
    (hrest : ∀ token, rest.head? = some token → token.isPunct point = false) :
    takeNames (used ++ rest) = .ok (names, rest) := by
  induction h with
  | one hname =>
    cases rest with
    | nil => simp [takeNames, hname]
    | cons token more => simp [takeNames, hname, hrest token rfl]
  | @more name separator names behind hname hpoint hbehind ih =>
    cases hbehind with
    | one hnext =>
      rw [List.cons_append, List.nil_append] at ih
      simp [takeNames.eq_def (name :: _), hname, hpoint, hnext, ih, bind, Except.bind]
    | more hnext _ _ =>
      simp only [List.cons_append] at ih
      simp [takeNames.eq_def (name :: _), hname, hpoint, hnext, ih, bind, Except.bind]

theorem takeNames_eq_ok_iff {names : List Text} :
    takeNames tokens = .ok (names, rest) ↔
      (∃ used, tokens = used ++ rest ∧ IsNames names used ∧
        ∀ token, rest.head? = some token → token.isPunct point = false) ∨
      (names = [] ∧ rest = tokens ∧ ∀ token, tokens.head? = some token → token.kind ≠ .word) := by
  constructor
  · fun_induction takeNames tokens generalizing names rest with
    | case1 =>
      rintro ⟨⟩
      exact .inr ⟨rfl, rfl, by simp⟩
    | case2 name hname =>
      rintro ⟨⟩
      exact .inl ⟨[name], rfl, .one hname, by simp⟩
    | case3 => rintro ⟨⟩
    | case4 name hname separator hpoint next behind hnext ih =>
      intro h
      obtain ⟨⟨names, left⟩, hnames, h⟩ := bind_eq_ok_iff.mp h
      cases h
      obtain ⟨used, htokens, hused, hleft⟩ | ⟨-, -, hhead⟩ := ih hnames
      · exact .inl ⟨name :: separator :: used, by simp [htokens], .more hname hpoint hused, hleft⟩
      · exact absurd hnext (hhead next rfl)
    | case5 => rintro ⟨⟩
    | case6 name hname separator behind hpoint =>
      rintro ⟨⟩
      exact .inl ⟨[name], rfl, .one hname, by simpa using hpoint⟩
    | case7 name behind hname =>
      rintro ⟨⟩
      exact .inr ⟨rfl, rfl, by simpa using hname⟩
  · rintro (⟨used, rfl, hused, hrest⟩ | ⟨rfl, rfl, hhead⟩)
    · exact takeNames_of_isNames hused hrest
    · cases rest with
      | nil => rfl
      | cons token more => rw [takeNames.eq_def]; simp [hhead token rfl]

theorem takeStore_eq_ok_iff {store : Option Text} :
    takeStore tokens = .ok (store, rest) ↔
      ∃ used, tokens = used ++ rest ∧ IsStore store used ∧
        (store = none → ∀ token, rest.head? = some token → token.isWord inWord = false) ∧
        (store ≠ none → ∀ token, rest.head? = some token → token.isPunct point = false) := by
  constructor
  · intro h
    unfold takeStore at h
    split at h
    · next left hword =>
      obtain ⟨used, htokens, hused, hleft⟩ := takeWord_eq_iff.mp hword
      cases h
      cases hused
      exact ⟨[], htokens, .absent, fun _ => hleft rfl, nofun⟩
    · next left hword =>
      obtain ⟨used, rfl, hused, -⟩ := takeWord_eq_iff.mp hword
      obtain ⟨⟨names, behind⟩, hnames, hstore⟩ := bind_eq_ok_iff.mp h
      obtain _ | ⟨hin⟩ := hused
      obtain ⟨front, rfl, hfront, hbehind⟩ | ⟨rfl, -, -⟩ := takeNames_eq_ok_iff.mp hnames
      · have hne : names.isEmpty = false := by cases hfront <;> rfl
        dsimp only at hstore
        rw [if_neg (by simp [hne])] at hstore
        cases hstore
        exact ⟨_, rfl, .present hin hfront, nofun, fun _ => hbehind⟩
      · cases hstore
  · rintro ⟨used, rfl, hused, hin, hpoint⟩
    unfold takeStore
    cases hused with
    | absent =>
      have hword : takeWord inWord rest = (false, rest) :=
        takeWord_eq_iff.mpr ⟨[], rfl, .absent, fun _ => hin rfl⟩
      rw [List.nil_append, hword]
    | @present token names front hword hfront =>
      have hne : names.isEmpty = false := by cases hfront <;> rfl
      have hnames := takeNames_of_isNames hfront (hpoint nofun)
      simp [takeWord, hword, hnames, hne, bind, Except.bind]

theorem takeColon_eq_ok_iff {column : Nat} :
    takeColon tokens = .ok column ↔
      ∃ sign behind, tokens = sign :: behind ∧ sign.isPunct colon ∧ sign.column = column ∧
        ∀ token, behind.head? = some token → token.kind = .comment := by
  fun_cases takeColon tokens <;> simp_all

theorem takePriority_eq_some_iff {priority : Option Number} :
    takePriority tokens = some (priority, rest) ↔
      ∃ used, tokens = used ++ rest ∧ IsPriority priority used ∧
        (priority = none → ∀ token, rest.head? = some token →
          token.isPunct (ofChar '-') = false ∧ token.isPunct (ofChar '+') = false ∧
            token.kind ≠ .number) := by
  constructor
  · fun_cases takePriority tokens with
    | case1 =>
      rintro ⟨⟩
      exact ⟨[], rfl, .absent, by simp⟩
    | case2 => rintro ⟨⟩
    | case3 sign negative hsign digits behind hdigits =>
      rintro ⟨⟩
      obtain ⟨hkind, hcolumn⟩ : digits.kind = .number ∧ digits.column = sign.column + 1 := by
        simpa using hdigits
      refine ⟨[sign, digits], rfl, ?_, by simp⟩
      cases hminus : sign.isPunct (ofChar '-') with
      | true => simpa [negative, hminus] using IsPriority.minus hminus hkind hcolumn
      | false =>
        have hplus : sign.isPunct (ofChar '+') := by simpa [negative, hminus] using hsign
        simpa [negative, hminus] using IsPriority.plus hplus hkind hcolumn
    | case4 => rintro ⟨⟩
    | case5 digits behind negative hsign hkind =>
      rintro ⟨⟩
      exact ⟨[digits], rfl, .plain hkind, by simp⟩
    | case6 token behind negative hsign hkind =>
      rintro ⟨⟩
      exact ⟨[], rfl, .absent, by simpa [negative, hkind] using hsign⟩
  · rintro ⟨used, rfl, hused, hrest⟩
    cases hused with
    | absent =>
      cases rest with
      | nil => rfl
      | cons token behind =>
        obtain ⟨hminus, hplus, hkind⟩ := hrest rfl token rfl
        simp [takePriority, hminus, hplus, hkind]
    | @plain digits hkind =>
      have hsign (u : CodeUnit) : digits.isPunct u = false := by simp [Token.isPunct, hkind]
      simp [takePriority, hsign, hkind]
    | @plus sign digits hplus hkind hcolumn =>
      have hminus : sign.isPunct (ofChar '-') = false := Token.isPunct_of_ne hplus (by decide)
      simp [takePriority, hplus, hminus, hkind, hcolumn]
    | minus hminus hkind hcolumn => simp [takePriority, hminus, hkind, hcolumn]

-- ---------------------------------------------------------------------------
-- The clauses behind the word
-- ---------------------------------------------------------------------------

section

variable {init : Bool} {priority : Option Number} {early hide : Bool} {a b : List Token}

/-- The clauses behind the words that may stand before a store. -/
def ofStore (init : Bool) (priority : Option Number) (early hide : Bool) (tokens : List Token) :
    Except HeaderRefusal (Header × Nat) := do
  let (store, tokens) ← takeStore tokens
  let column ← takeColon tokens
  .ok (⟨init, priority, early, hide, store⟩, column)

theorem ofClauses_eq (ha : MayBe earlyWord early a) (hb : MayBe hideWord hide b)
    (hearly : early = false → ∀ token, (b ++ rest).head? = some token →
      token.isWord earlyWord = false)
    (hhide : hide = false → ∀ token, rest.head? = some token → token.isWord hideWord = false) :
    ofClauses init priority (a ++ (b ++ rest)) = ofStore init priority early hide rest := by
  have htakeEarly : takeWord earlyWord (a ++ (b ++ rest)) = (early, b ++ rest) :=
    takeWord_eq_iff.mpr ⟨a, rfl, ha, hearly⟩
  have htakeHide : takeWord hideWord (b ++ rest) = (hide, rest) :=
    takeWord_eq_iff.mpr ⟨b, rfl, hb, hhide⟩
  unfold ofClauses
  rw [htakeEarly]
  dsimp only
  rw [htakeHide]
  rfl

theorem exists_ofClauses_front (tokens : List Token) :
    ∃ early hide a b rest, tokens = a ++ (b ++ rest) ∧ MayBe earlyWord early a ∧
      MayBe hideWord hide b ∧
      (early = false → ∀ token, (b ++ rest).head? = some token → token.isWord earlyWord = false) ∧
      (hide = false → ∀ token, rest.head? = some token → token.isWord hideWord = false) := by
  cases htakeEarly : takeWord earlyWord tokens with
  | mk early left =>
    cases htakeHide : takeWord hideWord left with
    | mk hide rest =>
      obtain ⟨a, rfl, ha, hearly⟩ := takeWord_eq_iff.mp htakeEarly
      obtain ⟨b, rfl, hb, hhide⟩ := takeWord_eq_iff.mp htakeHide
      exact ⟨early, hide, a, b, rest, rfl, ha, hb, hearly, hhide⟩

theorem ofClauses_eq_ok_iff {header : Header} {column : Nat} :
    ofClauses init priority tokens = .ok (header, column) ↔
      ∃ used behind, tokens = used ++ behind ∧ IsClauses init priority header column used ∧
        ∀ token, behind.head? = some token → token.kind = .comment := by
  constructor
  · obtain ⟨early, hide, a, b, rest, rfl, ha, hb, hearly, hhide⟩ := exists_ofClauses_front tokens
    rw [ofClauses_eq ha hb hearly hhide]
    intro h
    obtain ⟨⟨store, left⟩, hstore, h⟩ := bind_eq_ok_iff.mp h
    obtain ⟨column, hcolumn, h⟩ := bind_eq_ok_iff.mp h
    cases h
    obtain ⟨c, rfl, hc, -, -⟩ := takeStore_eq_ok_iff.mp hstore
    obtain ⟨sign, behind, rfl, hsign, rfl, hbehind⟩ := takeColon_eq_ok_iff.mp hcolumn
    exact ⟨a ++ (b ++ (c ++ [sign])), behind, by simp, .mk ha hb hc hsign, hbehind⟩
  · rintro ⟨_, behind, rfl, ⟨ha, hb, hc, hsign⟩, hbehind⟩
    rename_i early hide store a b c sign
    -- no clause begins with the word of an earlier one
    have hcolon (word : Text) : sign.isWord word = false := Token.isWord_of_isPunct hsign
    have hstore : takeStore (c ++ sign :: behind) = .ok (store, sign :: behind) := by
      refine takeStore_eq_ok_iff.mpr ⟨c, rfl, hc, fun _ => ?_, fun _ => ?_⟩
      · simp [hcolon]
      · simpa using Token.isPunct_of_ne hsign (by decide)
    have hhide : ∀ token, (c ++ sign :: behind).head? = some token →
        token.isWord hideWord = false := by
      cases hc with
      | absent => simp [hcolon]
      | present hin _ => simpa using Token.isWord_of_ne hin (by decide)
    have hearly : ∀ token, (b ++ (c ++ sign :: behind)).head? = some token →
        token.isWord earlyWord = false := by
      cases hb with
      | present hword => simpa using Token.isWord_of_ne hword (by decide)
      | absent =>
        cases hc with
        | absent => simp [hcolon]
        | present hin _ => simpa using Token.isWord_of_ne hin (by decide)
    have hcolumn : takeColon (sign :: behind) = .ok sign.column :=
      takeColon_eq_ok_iff.mpr ⟨sign, behind, rfl, hsign, rfl, hbehind⟩
    have heq : ofClauses init priority (a ++ (b ++ (c ++ sign :: behind))) =
        ofStore init priority early hide (c ++ sign :: behind) :=
      ofClauses_eq ha hb (fun _ => hearly) fun _ => hhide
    simp only [List.append_assoc, List.singleton_append]
    rw [heq]
    exact bind_eq_ok_iff.mpr ⟨_, hstore, bind_eq_ok_iff.mpr ⟨_, hcolumn, rfl⟩⟩

end

-- ---------------------------------------------------------------------------
-- The line of a header
-- ---------------------------------------------------------------------------

section

variable {first python : Token} {behind front : List Token} {init : Bool} {priority : Option Number}

theorem ofTokens?_of_isInit (h : IsInit init priority front) (hpython : python.isWord pythonWord)
    (hbehind : init = false → ∀ token, behind.head? = some token → token.kind ≠ .string) :
    ofTokens? (front ++ python :: behind) = some <$> ofClauses init priority behind := by
  cases h with
  | absent =>
    have hstring : behind.head?.any (·.kind = .string) = false := by
      cases behind with
      | nil => rfl
      | cons token more => simpa using hbehind rfl token rfl
    simp [ofTokens?, hpython, hstring]
  | @present token _ rest hinit hpriority =>
    have hnot : token.isWord pythonWord = false := Token.isWord_of_ne hinit (by decide)
    have htake : takePriority (rest ++ python :: behind) = some (priority, python :: behind) := by
      refine takePriority_eq_some_iff.mpr ⟨rest, rfl, hpriority, ?_⟩
      rintro - token ⟨⟩
      refine ⟨Token.isPunct_of_isWord hpython, Token.isPunct_of_isWord hpython, ?_⟩
      simp [(Token.isWord_iff.mp hpython).1]
    simp [ofTokens?, hnot, hinit, htake, takeWord, hpython]

theorem isInitPython_of_takePriority (h : takePriority rest = some (priority, behind))
    (hpython : takeWord pythonWord behind = (true, tokens)) : IsInitPython rest := by
  obtain ⟨front, rfl, hfront, -⟩ := takePriority_eq_some_iff.mp h
  obtain ⟨used, rfl, _ | ⟨hword⟩, -⟩ := takeWord_eq_iff.mp hpython
  exact ⟨priority, front, _, tokens, rfl, hfront, hword⟩

theorem ofTokens?_of_ordinary (h : Ordinary tokens) : ofTokens? tokens = .ok none := by
  cases h with
  | nil => rfl
  | other _ hpython hinit => simp [ofTokens?, hpython, hinit]
  | @init first rest hinit hnot =>
    have hpython : first.isWord pythonWord = false := Token.isWord_of_ne hinit (by decide)
    simp only [ofTokens?, hpython, hinit, Bool.false_eq_true, if_false, if_true]
    split
    · rfl
    · next priority behind htake =>
      split
      · next left hword => exact absurd (isInitPython_of_takePriority htake hword) hnot
      · rfl
  | dialogue hpython hstring => simp [ofTokens?, hpython, hstring]

/-- Tokens that begin no statement are ordinary, or are read as the header that they begin as. -/
theorem ordinary_or_isInit (tokens : List Token) :
    (∃ first rest, tokens = first :: rest ∧ first.isPunct Introducer.marker) ∨ Ordinary tokens ∨
      ∃ init priority front python behind, tokens = front ++ python :: behind ∧
        IsInit init priority front ∧ python.isWord pythonWord ∧
        (init = false → ∀ token, behind.head? = some token → token.kind ≠ .string) := by
  rcases tokens with _ | ⟨first, rest⟩
  · exact .inr (.inl .nil)
  by_cases hpython : first.isWord pythonWord
  · rcases rest with _ | ⟨next, rest⟩
    · exact .inr (.inr ⟨false, none, [], first, [], rfl, .absent, hpython, by simp⟩)
    · by_cases hstring : next.kind = .string
      · exact .inr (.inl (.dialogue hpython hstring))
      · exact .inr (.inr ⟨false, none, [], first, next :: rest, rfl, .absent, hpython,
          by simpa using hstring⟩)
  by_cases hinit : first.isWord initWord
  · by_cases hrest : IsInitPython rest
    · obtain ⟨priority, front, python, behind, rfl, hfront, hword⟩ := hrest
      exact .inr (.inr ⟨true, priority, first :: front, python, behind, rfl,
        .present hinit hfront, hword, nofun⟩)
    · exact .inr (.inl (.init hinit hrest))
  by_cases hmarker : first.isPunct Introducer.marker
  · exact .inl ⟨first, rest, rfl, hmarker⟩
  · exact .inr (.inl (.other (by simpa using hmarker) (by simpa using hpython)
      (by simpa using hinit)))

theorem ofTokens?_eq_ok_some_iff {header : Header} {column : Nat} :
    ofTokens? tokens = .ok (some (header, column)) ↔
      ∃ used behind, tokens = used ++ behind ∧ Derives header column used ∧
        ∀ token, behind.head? = some token → token.kind = .comment := by
  constructor
  · intro h
    obtain ⟨first, rest, rfl, hmarker⟩ | hordinary |
      ⟨init, priority, front, python, behind, rfl, hfront, hpython, hbehind⟩ :=
      ordinary_or_isInit tokens
    · have hword (word : Text) : first.isWord word = false := Token.isWord_of_isPunct hmarker
      simp [ofTokens?, hword] at h
    · rw [ofTokens?_of_ordinary hordinary] at h
      cases h
    · rw [ofTokens?_of_isInit hfront hpython hbehind] at h
      cases hclauses : ofClauses init priority behind with
      | error refusal =>
        rw [hclauses] at h
        cases h
      | ok found =>
        rw [hclauses] at h
        cases h
        obtain ⟨used, left, rfl, hused, hleft⟩ := ofClauses_eq_ok_iff.mp hclauses
        exact ⟨front ++ python :: used, left, by simp, .mk hfront hpython hused, hleft⟩
  · rintro ⟨_, behind, rfl, @⟨init, priority, _, _, front, python, clauses, hfront, hpython,
      hclauses⟩, hbehind⟩
    have hof : ofClauses init priority (clauses ++ behind) = .ok (header, column) :=
      ofClauses_eq_ok_iff.mpr ⟨clauses, behind, rfl, hclauses, hbehind⟩
    have hstring : ∀ token, (clauses ++ behind).head? = some token → token.kind ≠ .string := by
      obtain ⟨token, hhead, hm⟩ := hclauses.exists_head? behind
      rintro _ htoken
      cases hhead.symm.trans htoken
      exact (hclauses.isPlain token hm).not_string
    rw [List.append_assoc, List.cons_append, ofTokens?_of_isInit hfront hpython fun _ => hstring,
      hof]
    rfl

theorem ofTokens?_eq_ok_none_iff
    (h : ∀ first, tokens.head? = some first → first.isPunct Introducer.marker = false) :
    ofTokens? tokens = .ok none ↔ Ordinary tokens := by
  refine ⟨fun hnone => ?_, ofTokens?_of_ordinary⟩
  obtain ⟨first, rest, rfl, hmarker⟩ | hordinary |
    ⟨init, priority, front, python, behind, rfl, hfront, hpython, hbehind⟩ :=
    ordinary_or_isInit tokens
  · simp [h first rfl] at hmarker
  · exact hordinary
  · rw [ofTokens?_of_isInit hfront hpython hbehind] at hnone
    cases hclauses : ofClauses init priority behind <;> rw [hclauses] at hnone <;> cases hnone

end

end Header

end Inlay
