import Inlay.Proofs.Grammar
import Inlay.Proofs.Tokens

/-!
# What a line is recognized as

`recognize_derives` says for every line whether it is a block, a statement, host text or an error,
by the grammar of its tokens. A header is refused at the first token that no header has in this
place: each reader that refuses tokens does so whatever stands behind that one (`Header.Stops`), and
those before it can be gone on with (`Header.Begins`). A comment at the end of a line is left out of
account, since no header holds one.
-/

namespace Inlay

open CodeUnit

namespace Header

variable {tokens rest used : List Token} {word : Text}

-- ---------------------------------------------------------------------------
-- Where tokens are refused
-- ---------------------------------------------------------------------------

/-- The tokens go on to a header in some way. -/
def Begins (tokens : List Token) : Prop :=
  ∃ more header column, Derives header column (tokens ++ more)

/-- A reader refuses tokens at the first one behind `used`, whatever follows that, or at their
end. -/
inductive Stops (read : List Token → Except HeaderRefusal α) (used : List Token) :
    List Token → HeaderRefusal → Prop
  | token {token after refusal} : refusal.found = some token →
    (∀ after, ∃ refusal, read (used ++ token :: after) = .error refusal) →
    Stops read used (used ++ token :: after) refusal
  | finish {refusal} : refusal.found = none → Stops read used used refusal

section

variable {refusal : HeaderRefusal} {init : Bool} {priority : Option Number}

/-- A reader that begins with another stops where that one does. -/
theorem Stops.lift {read : List Token → Except HeaderRefusal α}
    {read' : List Token → Except HeaderRefusal β} (h : Stops read used rest refusal)
    (front : List Token)
    (hread : ∀ rest', rest'.head? = rest.head? → (∃ refusal, read rest' = .error refusal) →
      ∃ refusal, read' (front ++ rest') = .error refusal) :
    Stops read' (front ++ used) (front ++ rest) refusal := by
  cases h with
  | finish hfound => exact .finish hfound
  | @token token after _ hfound herror =>
    rw [← List.append_assoc]
    refine .token hfound fun after' => ?_
    rw [List.append_assoc]
    exact hread _ (by cases used <;> rfl) (herror after')

theorem takeNames_stops (h : takeNames tokens = .error refusal) :
    ∃ used, Stops takeNames used tokens refusal ∧
      ∀ name, name.kind = .word → ∃ names, IsNames names (used ++ [name]) := by
  fun_induction takeNames tokens with
  | case1 | case2 | case6 | case7 => cases h
  | case3 first hfirst separator hpoint =>
    cases h
    exact ⟨[first, separator], .finish rfl,
      fun name hname => ⟨_, .more hfirst hpoint (.one hname)⟩⟩
  | case4 first hfirst separator hpoint next behind hnext ih =>
    obtain h | ⟨_, _, h⟩ := bind_eq_error_iff.mp h
    · obtain ⟨used, hstops, hused⟩ := ih h
      refine ⟨first :: separator :: used, hstops.lift [first, separator] ?_, fun name hname => ?_⟩
      · rintro rest' hhead ⟨refusal', hrefusal⟩
        obtain ⟨more, rfl⟩ := List.head?_eq_some_iff.mp hhead
        rw [List.cons_append, List.cons_append, List.nil_append, takeNames.eq_def]
        simp [hfirst, hpoint, hnext, hrefusal, bind, Except.bind]
      · obtain ⟨names, hnames⟩ := hused name hname
        exact ⟨_, .more hfirst hpoint hnames⟩
    · cases h
  | case5 first hfirst separator hpoint next behind hnext =>
    cases h
    refine ⟨[first, separator], .token rfl fun after => ?_,
      fun name hname => ⟨_, .more hfirst hpoint (.one hname)⟩⟩
    rw [List.cons_append, List.cons_append, List.nil_append, takeNames.eq_def]
    simp [hfirst, hpoint, hnext]

theorem takeStore_stops (h : takeStore tokens = .error refusal) :
    ∃ used, Stops takeStore used tokens refusal ∧
      ∀ name, name.kind = .word → ∃ store, IsStore store (used ++ [name]) := by
  unfold takeStore at h
  split at h
  · cases h
  · next left hword =>
    obtain ⟨_, rfl, _ | @⟨token, hin⟩, -⟩ := takeWord_eq_iff.mp hword
    have hwordOf (rest : List Token) : takeWord inWord (token :: rest) = (true, rest) := by
      simp [takeWord, hin]
    obtain hnames | ⟨⟨names, behind⟩, hnames, hempty⟩ := bind_eq_error_iff.mp h
    · obtain ⟨used, hstops, hused⟩ := takeNames_stops hnames
      refine ⟨token :: used, hstops.lift [token] ?_, fun name hname => ?_⟩
      · rintro rest' - ⟨refusal', hrefusal⟩
        exact ⟨refusal', by simp [takeStore, hwordOf, hrefusal, bind, Except.bind]⟩
      · obtain ⟨names, hnames⟩ := hused name hname
        exact ⟨_, .present hin hnames⟩
    · obtain ⟨front, rfl, hfront, -⟩ | ⟨rfl, rfl, hhead⟩ := takeNames_eq_ok_iff.mp hnames
      · have hne : names.isEmpty = false := by cases hfront <;> rfl
        simp [hne] at hempty
      · refine ⟨[token], ?_, fun name hname => ⟨_, .present hin (.one hname)⟩⟩
        obtain rfl : _ = refusal := by simpa using hempty
        cases behind with
        | nil => exact .finish rfl
        | cons next more =>
          refine .token rfl fun after => ?_
          have hnone : takeNames (next :: after) = .ok ([], next :: after) :=
            takeNames_eq_ok_iff.mpr (.inr ⟨rfl, rfl, by simpa using hhead⟩)
          exact ⟨_, by simp [takeStore, hwordOf, hnone, bind, Except.bind]; rfl⟩

theorem takeColon_stops (h : takeColon tokens = .error refusal) :
    ∃ used, Stops takeColon used tokens refusal ∧
      (used = [] ∨ ∃ sign, used = [sign] ∧ sign.isPunct colon) := by
  revert h
  fun_cases takeColon tokens with
  | case1 =>
    rintro ⟨⟩
    exact ⟨[], .finish rfl, .inl rfl⟩
  | case2 | case3 => rintro ⟨⟩
  | case4 sign hsign next behind hnext =>
    rintro ⟨⟩
    refine ⟨[sign], .token rfl fun after => ?_, .inr ⟨sign, rfl, hsign⟩⟩
    exact ⟨_, by simp [takeColon, hsign, hnext]; rfl⟩
  | case5 token behind hsign =>
    rintro ⟨⟩
    refine ⟨[], .token rfl fun after => ?_, .inl rfl⟩
    exact ⟨_, by simp [takeColon, hsign]; rfl⟩

theorem ofStore_stops {early hide : Bool}
    (h : ofStore init priority early hide tokens = .error refusal) :
    ∃ used, Stops (ofStore init priority early hide) used tokens refusal ∧
      ∃ more store c sign, used ++ more = c ++ [sign] ∧ IsStore store c ∧ sign.isPunct colon := by
  obtain hstore | ⟨⟨store, left⟩, hstore, h⟩ := bind_eq_error_iff.mp h
  · obtain ⟨used, hstops, hused⟩ := takeStore_stops hstore
    obtain ⟨store, hc⟩ := hused ⟨.word, pythonWord, 0⟩ rfl
    refine ⟨used, hstops.lift [] ?_, [⟨.word, pythonWord, 0⟩, ⟨.punct, [colon], 0⟩], store, _,
      ⟨.punct, [colon], 0⟩, by simp, hc, by decide⟩
    rintro rest' - ⟨refusal', hrefusal⟩
    exact ⟨refusal', bind_eq_error_iff.mpr (.inl hrefusal)⟩
  · obtain hcolon | ⟨_, _, h⟩ := bind_eq_error_iff.mp h
    · obtain ⟨used, hstops, hused⟩ := takeColon_stops hcolon
      obtain ⟨c, rfl, hc, hin, hpoint⟩ := takeStore_eq_ok_iff.mp hstore
      refine ⟨c ++ used, hstops.lift c ?_, ?_⟩
      · rintro rest' hhead ⟨refusal', hrefusal⟩
        have hstore' : takeStore (c ++ rest') = .ok (store, rest') :=
          takeStore_eq_ok_iff.mpr ⟨c, rfl, hc, hhead ▸ hin, hhead ▸ hpoint⟩
        exact ⟨refusal', bind_eq_error_iff.mpr
          (.inr ⟨_, hstore', bind_eq_error_iff.mpr (.inl hrefusal)⟩)⟩
      · obtain rfl | ⟨sign, rfl, hsign⟩ := hused
        · exact ⟨[⟨.punct, [colon], 0⟩], store, c, _, by simp; rfl, hc, by decide⟩
        · exact ⟨[], store, c, sign, by simp, hc, hsign⟩
    · cases h

theorem ofClauses_stops (h : ofClauses init priority tokens = .error refusal) :
    ∃ used, Stops (ofClauses init priority) used tokens refusal ∧
      ∃ more header column, IsClauses init priority header column (used ++ more) := by
  obtain ⟨early, hide, a, b, rest, rfl, ha, hb, hearly, hhide⟩ := exists_ofClauses_front tokens
  rw [ofClauses_eq ha hb hearly hhide] at h
  obtain ⟨used, hstops, more, store, c, sign, hmore, hc, hsign⟩ := ofStore_stops h
  refine ⟨a ++ (b ++ used), ?_, more, ⟨init, priority, early, hide, store⟩, sign.column, ?_⟩
  · have hlift : Stops (ofClauses init priority) (a ++ b ++ used) (a ++ b ++ rest) refusal := by
      refine hstops.lift (a ++ b) fun rest' hhead hrefused => ?_
      -- the words are taken alike before whatever begins like the rest
      have hhead' : (b ++ rest').head? = (b ++ rest).head? := by
        rw [List.head?_append, List.head?_append, hhead]
      rwa [List.append_assoc, ofClauses_eq ha hb (hhead' ▸ hearly) (hhead ▸ hhide)]
    simpa only [List.append_assoc] using hlift
  · rw [List.append_assoc, List.append_assoc, hmore]
    exact .mk ha hb hc hsign

theorem ofTokens?_stops (h : ofTokens? tokens = .error refusal) :
    ∃ used, Stops ofTokens? used tokens refusal ∧ Begins used := by
  obtain ⟨first, rest, rfl, hmarker⟩ | hordinary |
    ⟨init, priority, front, python, behind, rfl, hfront, hpython, hbehind⟩ :=
    ordinary_or_isInit tokens
  · have hword (word : Text) : first.isWord word = false := Token.isWord_of_isPunct hmarker
    simp [ofTokens?, hword] at h
  · rw [ofTokens?_of_ordinary hordinary] at h
    cases h
  · rw [ofTokens?_of_isInit hfront hpython hbehind] at h
    obtain hclauses | ⟨_, _, h⟩ := bind_eq_error_iff.mp ((map_eq_pure_bind _ _).symm.trans h)
    · obtain ⟨used, hstops, more, header, column, hmore⟩ := ofClauses_stops hclauses
      refine ⟨front ++ python :: used, ?_, more, header, column, ?_⟩
      · have hlift : Stops ofTokens? (front ++ [python] ++ used) (front ++ [python] ++ behind)
            refusal := by
          refine hstops.lift (front ++ [python]) ?_
          rintro rest' hhead ⟨refusal', hrefusal⟩
          refine ⟨refusal', ?_⟩
          rw [List.append_assoc, List.singleton_append,
            ofTokens?_of_isInit hfront hpython (hhead ▸ hbehind), hrefusal]
          rfl
        simpa using hlift
      · rw [List.append_assoc]
        exact .mk hfront hpython hmore
    · cases h

theorem Begins.exists_ofTokens?_eq {token : Token} (h : Begins (used ++ [token])) :
    ∃ more found, ofTokens? (used ++ token :: more) = .ok found := by
  obtain ⟨more, header, column, hderives⟩ := h
  refine ⟨more, some (header, column), ofTokens?_eq_ok_some_iff.mpr ⟨_, [], ?_, hderives, nofun⟩⟩
  simp

end

end Header

-- ---------------------------------------------------------------------------
-- The tokens of a line
-- ---------------------------------------------------------------------------

def LexedLine.codeTokens (lexed : LexedLine) : List Token :=
  if lexed.tokens.getLast?.any (·.kind = .comment) then lexed.tokens.dropLast else lexed.tokens

namespace Lexeme

variable {dialect : Dialect}

/-- Only the last token may be a comment. -/
def CommentLast (tokens : List Token) : Prop := ∀ token ∈ tokens.dropLast, token.kind ≠ .comment

theorem Tiled.commentLast {column : Nat} {t : Text} {tokens : List Token}
    (h : Tiled column t tokens) : CommentLast tokens := by
  induction h with
  | nil => simp [CommentLast]
  | indent _ _ ih => exact ih
  | @token first t tokens _ hcomment h ih =>
    cases tokens with
    | nil => simp [CommentLast]
    | cons next more =>
      -- a token stands behind the first, so that the text goes on there
      have hkind : first.kind ≠ .comment := fun hkind => by simpa using h.eq_nil (hcomment hkind)
      exact List.forall_mem_cons.mpr ⟨hkind, ih⟩

theorem reach_commentLast (s : LexState) (content : Text) :
    CommentLast (reach dialect s content).tokens := by
  by_cases h : content = [] ∧ s.inString
  · rw [h.1, tokens_reach_nil h.2]
    simp [CommentLast]
  · exact (tiled_reach s content fun hnil => by simpa [hnil] using h).commentLast

end Lexeme

theorem LexedLine.exists_tokens_eq (dialect : Dialect) (s : LexState) (content : Text) :
    ∃ comment, (lexLine dialect s content).tokens =
        (lexLine dialect s content).codeTokens ++ comment ∧
      (∀ token ∈ (lexLine dialect s content).codeTokens, token.kind ≠ .comment) ∧
      ∀ token ∈ comment, token.kind = .comment := by
  have hlast : Lexeme.CommentLast (lexLine dialect s content).tokens :=
    Lexeme.reach_commentLast s content
  unfold codeTokens
  generalize (lexLine dialect s content).tokens = tokens at hlast
  rcases List.eq_nil_or_concat tokens with rfl | ⟨front, last, rfl⟩
  · exact ⟨[], by simp⟩
  · have hfront : ∀ token ∈ front, token.kind ≠ .comment := by
      simpa [Lexeme.CommentLast] using hlast
    by_cases hkind : last.kind = .comment
    · exact ⟨[last], by simpa [hkind] using hfront⟩
    · exact ⟨[], by simpa [hkind, or_imp, forall_and] using hfront⟩

-- ---------------------------------------------------------------------------
-- A comment behind the tokens
-- ---------------------------------------------------------------------------

namespace Header

variable {tokens used behind comment : List Token}

theorem exists_eq_append_of_comment (h : tokens ++ comment = used ++ behind)
    (hcomment : ∀ token ∈ comment, token.kind = .comment)
    (hused : ∀ token ∈ used, token.kind ≠ .comment) :
    ∃ left, tokens = used ++ left ∧ behind = left ++ comment := by
  rcases List.append_eq_append_iff.mp h with ⟨extra, rfl, hextra⟩ | ⟨left, htokens, hbehind⟩
  · have hnil : extra = [] := by
      refine List.eq_nil_iff_forall_not_mem.mpr fun token hm => ?_
      exact hused token (List.mem_append_right _ hm)
        (hcomment token (hextra ▸ List.mem_append_left _ hm))
    subst hnil
    exact ⟨[], by simp, by simpa using hextra.symm⟩
  · exact ⟨left, htokens, hbehind⟩

theorem IsInitPython.append_comment_iff (hcomment : ∀ token ∈ comment, token.kind = .comment) :
    IsInitPython (tokens ++ comment) ↔ IsInitPython tokens := by
  constructor
  · rintro ⟨priority, front, python, behind, htokens, hfront, hpython⟩
    have hused : ∀ token ∈ front ++ [python], token.kind ≠ .comment := by
      rw [List.forall_mem_append, List.forall_mem_singleton]
      exact ⟨fun token hm => (hfront.isPlain token hm).not_comment,
        (Token.isPlain_of_isWord hpython).not_comment⟩
    have hsplit : tokens ++ comment = (front ++ [python]) ++ behind := by simpa using htokens
    obtain ⟨left, rfl, -⟩ := exists_eq_append_of_comment hsplit hcomment hused
    exact ⟨priority, front, python, left, by simp, hfront, hpython⟩
  · rintro ⟨priority, front, python, behind, rfl, hfront, hpython⟩
    exact ⟨priority, front, python, behind ++ comment, by simp, hfront, hpython⟩

theorem Ordinary.append_comment_iff (hcomment : ∀ token ∈ comment, token.kind = .comment) :
    Ordinary (tokens ++ comment) ↔ Ordinary tokens := by
  constructor
  · intro h
    cases tokens with
    | nil => exact .nil
    | cons first rest =>
      generalize hbehind : rest ++ comment = behind at h
      rw [List.cons_append, hbehind] at h
      cases h with
      | other hmarker hpython hinit => exact .other hmarker hpython hinit
      | init hinit hnot =>
        subst hbehind
        exact .init hinit (mt (IsInitPython.append_comment_iff hcomment).mpr hnot)
      | @dialogue _ next behind hpython hstring =>
        have hsplit : rest ++ comment = [next] ++ behind := hbehind
        obtain ⟨left, rfl, -⟩ := exists_eq_append_of_comment hsplit hcomment (by simp [hstring])
        exact .dialogue hpython hstring
  · intro h
    cases h with
    | nil =>
      cases comment with
      | nil => exact .nil
      | cons token more =>
        have hkind : token.kind = .comment := hcomment token List.mem_cons_self
        exact .other (by simp [Token.isPunct, hkind]) (by simp [Token.isWord, hkind])
          (by simp [Token.isWord, hkind])
    | other hmarker hpython hinit => exact .other hmarker hpython hinit
    | init hinit hnot => exact .init hinit (mt (IsInitPython.append_comment_iff hcomment).mp hnot)
    | dialogue hpython hstring => exact .dialogue hpython hstring

theorem ofTokens?_append_comment_iff {header : Header} {column : Nat}
    (htokens : ∀ token ∈ tokens, token.kind ≠ .comment)
    (hcomment : ∀ token ∈ comment, token.kind = .comment) :
    ofTokens? (tokens ++ comment) = .ok (some (header, column)) ↔ Derives header column tokens := by
  rw [ofTokens?_eq_ok_some_iff]
  constructor
  · rintro ⟨used, behind, heq, hused, hbehind⟩
    obtain ⟨left, rfl, rfl⟩ := exists_eq_append_of_comment heq hcomment
      fun token hm => (hused.isPlain token hm).not_comment
    cases left with
    | nil => simpa using hused
    | cons token more => exact absurd (hbehind token rfl) (htokens token (by simp))
  · intro h
    exact ⟨tokens, comment, rfl, h, fun token hhead => hcomment token (List.mem_of_head? hhead)⟩

theorem Derives.unique {header header' : Header} {column column' : Nat}
    (h : Derives header column tokens) (h' : Derives header' column' tokens) :
    header' = header ∧ column' = column := by
  have hof := ofTokens?_eq_ok_some_iff.mpr ⟨tokens, [], (List.append_nil _).symm, h, nofun⟩
  have hof' := ofTokens?_eq_ok_some_iff.mpr ⟨tokens, [], (List.append_nil _).symm, h', nofun⟩
  simpa using hof'.symm.trans hof

theorem variant_eq_iff (header : Header) :
    (header.variant = .earlyBlock ↔ header.early) ∧
      (header.variant = .initBlock ↔ header.init ∧ ¬ header.early) ∧
      (header.variant = .block ↔ ¬ header.init ∧ ¬ header.early) := by
  cases hearly : header.early <;> cases hinit : header.init <;> simp [variant, hearly, hinit]

end Header

-- ---------------------------------------------------------------------------
-- What a line is recognized as
-- ---------------------------------------------------------------------------

namespace Introducer

variable {line : Line} {s : LexState} {tokens : List Token} {header : Header} {colon : Nat}

/-- A line is refused at the marker that has no code behind it, at the first token behind which no
header goes on, or at the end of a line that only begins a header. -/
inductive RefusedAt (line : Line) (tokens : List Token) : Nat → Prop
  | marker {first rest} : tokens = first :: rest → first.isPunct marker →
    RefusedAt line tokens first.column
  | token {used token after} : tokens = used ++ token :: after → Header.Begins used →
    ¬ Header.Begins (used ++ [token]) → RefusedAt line tokens token.column
  | finish : Header.Begins tokens → (∀ header column, ¬ Header.Derives header column tokens) →
    RefusedAt line tokens (Text.trimEnd line.content).length

theorem ofMarker_eq_error_or_ok (line : Line) (column : Nat) :
    (ofMarker line column = .error ⟨.introducer .missingCode, line.index + 1, column + 1⟩) ∨
      ∃ code stop, ofMarker line column = .ok (.statement column code stop) := by
  unfold ofMarker
  dsimp only
  split
  · exact .inl rfl
  · exact .inr ⟨_, _, rfl⟩

theorem recognize_eq_ofMarker {first : Token} {rest : List Token} (hs : s.startsStatement)
    (hmarker : first.isPunct marker) :
    recognize line s (first :: rest) = ofMarker line first.column := by
  simp [recognize, hs, hmarker]

theorem recognize_eq_ofTokens? (hs : s.startsStatement)
    (h : ∀ first, tokens.head? = some first → first.isPunct marker = false) :
    recognize line s tokens =
      match Header.ofTokens? tokens with
      | .ok (some (header, colon)) => .ok (.block header colon)
      | .ok .none => .ok .none
      | .error refusal => .error (refusalError line refusal) := by
  cases tokens with
  | nil => simp [recognize, hs, Header.ofTokens?]
  | cons first rest =>
    simp only [recognize, hs, h first rfl]
    rfl

theorem marker_or_not (tokens : List Token) :
    (∃ first rest, tokens = first :: rest ∧ first.isPunct marker) ∨
      ∀ first, tokens.head? = some first → first.isPunct marker = false := by
  cases tokens with
  | nil => simp
  | cons first rest => cases h : first.isPunct marker <;> simp [h]

theorem recognize_eq_block_iff :
    recognize line s tokens = .ok (.block header colon) ↔
      s.startsStatement ∧ Header.ofTokens? tokens = .ok (some (header, colon)) := by
  cases hs : s.startsStatement
  · simp [recognize, hs]
  obtain ⟨first, rest, rfl, hmarker⟩ | hfirst := marker_or_not tokens
  · have hword (word : Text) : first.isWord word = false := Token.isWord_of_isPunct hmarker
    rw [recognize_eq_ofMarker hs hmarker]
    obtain herror | ⟨_, _, hok⟩ := ofMarker_eq_error_or_ok line first.column
    · simp [herror, Header.ofTokens?, hword]
    · simp [hok, Header.ofTokens?, hword]
  · rw [recognize_eq_ofTokens? hs hfirst]
    split <;> simp_all

theorem recognize_eq_none_iff :
    recognize line s tokens = .ok .none ↔ ¬ s.startsStatement ∨ Header.Ordinary tokens := by
  cases hs : s.startsStatement
  · simp [recognize, hs]
  obtain ⟨first, rest, rfl, hmarker⟩ | hfirst := marker_or_not tokens
  · have hword (word : Text) : first.isWord word = false := Token.isWord_of_isPunct hmarker
    have hnot : ¬ Header.Ordinary (first :: rest) := by
      rintro (_ | ⟨hother⟩ | ⟨hinit⟩ | ⟨hpython⟩) <;> simp_all
    rw [recognize_eq_ofMarker hs hmarker]
    obtain herror | ⟨_, _, hok⟩ := ofMarker_eq_error_or_ok line first.column
    · simp [herror, hnot]
    · simp [hok, hnot]
  · rw [recognize_eq_ofTokens? hs hfirst, ← Header.ofTokens?_eq_ok_none_iff hfirst]
    split <;> simp_all

theorem refusedAt_of_recognize {e : StructureError} (h : recognize line s tokens = .error e) :
    ∃ fault column, e = ⟨.introducer fault, line.index + 1, column + 1⟩ ∧
      RefusedAt line tokens column := by
  cases hs : s.startsStatement
  · simp [recognize, hs] at h
  obtain ⟨first, rest, rfl, hmarker⟩ | hfirst := marker_or_not tokens
  · rw [recognize_eq_ofMarker hs hmarker] at h
    obtain herror | ⟨_, _, hok⟩ := ofMarker_eq_error_or_ok line first.column
    · cases h.symm.trans herror
      exact ⟨_, _, rfl, .marker rfl hmarker⟩
    · cases h.symm.trans hok
  · rw [recognize_eq_ofTokens? hs hfirst] at h
    split at h
    · cases h
    · cases h
    · next refusal hrefusal =>
      cases h
      refine ⟨refusal.fault, _, rfl, ?_⟩
      obtain ⟨used, hstops, hbegins⟩ := Header.ofTokens?_stops hrefusal
      cases hstops with
      | @token token after _ hfound herror =>
        simp only [hfound, Option.map_some, Option.getD_some]
        refine .token rfl hbegins fun hmore => ?_
        obtain ⟨more, found, hok⟩ := hmore.exists_ofTokens?_eq
        obtain ⟨_, herror⟩ := herror more
        cases hok.symm.trans herror
      | finish hfound =>
        simp only [hfound, Option.map_none, Option.getD_none]
        refine .finish hbegins fun header column hderives => ?_
        have hok := Header.ofTokens?_eq_ok_some_iff.mpr
          ⟨tokens, [], (List.append_nil _).symm, hderives, by simp⟩
        cases hok.symm.trans hrefusal

theorem exists_marker_append_iff {comment : List Token} {column : Nat}
    (hcomment : ∀ token ∈ comment, token.kind = .comment) :
    (∃ first rest, tokens ++ comment = first :: rest ∧ first.isPunct marker ∧
        first.column = column) ↔
      ∃ first rest, tokens = first :: rest ∧ first.isPunct marker ∧ first.column = column := by
  cases tokens with
  | cons first rest => simp
  | nil =>
    cases comment with
    | nil => simp
    | cons token more =>
      have hpunct : token.isPunct marker = false := by
        simp [Token.isPunct, hcomment token List.mem_cons_self]
      simp [hpunct]

theorem recognize_eq_statement_iff_trimEnd {column code stop : Nat} :
    recognize line s tokens = .ok (.statement column code stop) ↔
      s.startsStatement ∧ (∃ first rest, tokens = first :: rest ∧ first.isPunct marker ∧
        first.column = column) ∧
      code = column + 1 + gap (line.content.drop (column + 1)) ∧
      Text.trimEnd (line.content.drop code) ≠ [] ∧
      stop = code + (Text.trimEnd (line.content.drop code)).length := by
  have htrim : Text.trimEnd (line.content.drop code) = (Text.trimEnd line.content).drop code :=
    (drop_dropEndWhile CodeUnit.isBlank line.content code).symm
  rw [recognize_eq_statement_iff, LexState.startsStatement_iff, htrim, Ne, List.drop_eq_nil_iff,
    List.length_drop]
  refine and_congr_right fun _ => and_congr_right fun _ => and_congr_right fun _ => ?_
  constructor <;> rintro ⟨h, h'⟩ <;> constructor <;> omega

/-- A line is recognized as the block whose header its tokens derive, and they derive one at most;
as the statement whose code stands behind its marker; as host text if it starts no statement or its
tokens are ordinary; and in every other case it is refused, where no header goes on. -/
theorem recognize_derives (line : Line) (s : LexState) :
    let lexed := lexLine .host s line.content
    let tokens := lexed.codeTokens
    (∀ header colon, recognize line s lexed.tokens = .ok (.block header colon) ↔
      s.startsStatement ∧ Header.Derives header colon tokens) ∧
    (∀ header colon header' colon', Header.Derives header colon tokens →
      Header.Derives header' colon' tokens → header' = header ∧ colon' = colon) ∧
    (∀ header : Header, (header.variant = .earlyBlock ↔ header.early) ∧
      (header.variant = .initBlock ↔ header.init ∧ ¬ header.early) ∧
      (header.variant = .block ↔ ¬ header.init ∧ ¬ header.early)) ∧
    (recognize line s lexed.tokens = .ok .none ↔
      ¬ s.startsStatement ∨ Header.Ordinary tokens) ∧
    (∀ column code stop, recognize line s lexed.tokens = .ok (.statement column code stop) ↔
      s.startsStatement ∧
      (∃ first rest, tokens = first :: rest ∧ first.isPunct marker ∧ first.column = column) ∧
      code = column + 1 + gap (line.content.drop (column + 1)) ∧
      Text.trimEnd (line.content.drop code) ≠ [] ∧
      stop = code + (Text.trimEnd (line.content.drop code)).length) ∧
    ∀ e, recognize line s lexed.tokens = .error e → ∃ fault column,
      e = ⟨.introducer fault, line.index + 1, column + 1⟩ ∧
        RefusedAt line lexed.tokens column := by
  intro lexed tokens
  obtain ⟨comment, hlexed, htokens, hcomment⟩ :=
    LexedLine.exists_tokens_eq .host s line.content
  refine ⟨fun header colon => ?_, fun _ _ _ _ h h' => h.unique h', Header.variant_eq_iff, ?_,
    fun column code stop => ?_, fun _ => refusedAt_of_recognize⟩
  · rw [hlexed, recognize_eq_block_iff, Header.ofTokens?_append_comment_iff htokens hcomment]
  · rw [hlexed, recognize_eq_none_iff, Header.Ordinary.append_comment_iff hcomment]
  · rw [hlexed, recognize_eq_statement_iff_trimEnd, exists_marker_append_iff hcomment]

end Introducer

end Inlay
