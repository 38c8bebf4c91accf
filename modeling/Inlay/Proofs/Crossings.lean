import Mathlib.Algebra.Ring.Parity
import Inlay.Proofs.Tokens

/-!
# Strings that cross the end of a line

`Context.walk` reads a line unit by unit, without tokens, and says in which context its units run
out. The lexer runs out in the same context (`Lexeme.reach_context`), and in a string the last
backslash takes the end of the line exactly if an odd number of them stand there. What the
lexer of the embedded language asks is whether there is any at all
(`LexState.after_embedded_string_iff`).
-/

namespace Inlay

open CodeUnit

-- ---------------------------------------------------------------------------
-- Reading unit by unit
-- ---------------------------------------------------------------------------

/-- The context in which the units of a text run out. Some units ahead may have been accounted for
already: what is left of a delimiter, or the unit that a backslash takes. With the context comes the
number of those that are missing, so that there is one if a backslash takes the end of the line. -/
def Context.walk (dialect : Dialect) : Context → Nat → Text → Context × Nat
  | c, ahead, [] => (c, ahead)
  | c, ahead + 1, _ :: rest => walk dialect c ahead rest
  | .string d, 0, u :: rest =>
    if u = backslash then walk dialect (.string d) 1 rest
    else if d.text.isPrefixOf (u :: rest) then walk dialect .code (d.text.length - 1) rest
    else walk dialect (.string d) 0 rest
  | .code, 0, u :: rest =>
    if u = ofChar '#' then (.comment, 0)
    else
      match dialect.opening? (u :: rest) with
      | some d => walk dialect (.string d) (d.text.length - 1) rest
      | none => walk dialect .code 0 rest
  | .comment, 0, _ :: _ => (.comment, 0)

def Context.inPlainString : Context → Bool
  | .string d => !d.triple
  | _ => false

/-- The context in which a line is read on: a comment has ended with its own line. -/
def LexState.resumed (s : LexState) : Context :=
  match s.context with
  | .comment => .code
  | c => c

def Text.finalBackslashes (t : Text) : Nat := (t.reverse.takeWhile (· == backslash)).length

-- ---------------------------------------------------------------------------
-- Backslashes at the end
-- ---------------------------------------------------------------------------

namespace Text

variable {t w : Text} {u : CodeUnit}

theorem finalBackslashes_append (w t : Text) :
    finalBackslashes (w ++ t) =
      if t.finalBackslashes = t.length then t.length + w.finalBackslashes
      else t.finalBackslashes := by
  have hlength : t.finalBackslashes = (t.reverse.takeWhile (· == backslash)).length := rfl
  by_cases hall : t.finalBackslashes = t.length
  · rw [if_pos hall, finalBackslashes, List.reverse_append, List.takeWhile_append, ← hlength,
      List.length_reverse, if_pos hall, List.length_append, List.length_reverse, finalBackslashes]
  · rw [if_neg hall, finalBackslashes, List.reverse_append, List.takeWhile_append, ← hlength,
      List.length_reverse, if_neg hall, hlength]

theorem finalBackslashes_append_mod (h : w.finalBackslashes % 2 = 0) :
    finalBackslashes (w ++ t) % 2 = t.finalBackslashes % 2 := by
  rw [finalBackslashes_append]
  split <;> omega

theorem finalBackslashes_append_of_mem (h : ∃ v ∈ t, v ≠ backslash) (w : Text) :
    finalBackslashes (w ++ t) = t.finalBackslashes := by
  rw [finalBackslashes_append, if_neg]
  intro hlength
  obtain ⟨v, hm, hv⟩ := h
  have hall : t.reverse.takeWhile (· == backslash) = t.reverse :=
    (List.takeWhile_prefix _).eq_of_length (by rw [List.length_reverse]; exact hlength)
  have hv' := List.all_eq_true.mp List.all_takeWhile v (hall.symm ▸ List.mem_reverse.mpr hm)
  exact hv (eq_of_beq hv')

theorem finalBackslashes_eq_zero_iff :
    t.finalBackslashes = 0 ↔ t.getLast? ≠ some backslash := by
  rw [finalBackslashes, ← List.head?_reverse]
  cases t.reverse with
  | nil => simp
  | cons u rest => by_cases hu : u = backslash <;> simp [hu]

end Text

section

variable {dialect : Dialect} {c c' : Context} {d : Delimiter} {t w : Text} {u : CodeUnit}
  {n depth column : Nat}

namespace Context

theorem walk_drop (h : n ≤ t.length) : walk dialect c n t = walk dialect c 0 (t.drop n) := by
  induction n generalizing t with
  | zero => rfl
  | succ n ih =>
    cases t with
    | nil => cases h
    | cons u t =>
      rw [walk, ih (Nat.le_of_succ_le_succ h)]
      rfl

theorem walk_delimiter (h : d.text <+: u :: t) :
    walk dialect c (d.text.length - 1) t = walk dialect c 0 ((u :: t).drop d.text.length) := by
  have hpos := d.length_text_pos
  have hle := h.length_le
  rw [List.length_cons] at hle
  rw [walk_drop (by omega), List.drop_cons hpos]

theorem walk_string_of_closing? (h : d.closing? t = some n) :
    walk dialect (.string d) 0 t = walk dialect .code 0 (t.drop n) := by
  fun_induction Delimiter.closing? d t generalizing n with
  | case1 | case2 => cases h
  | case3 v rest ih =>
    obtain ⟨m, hm, rfl⟩ := Option.map_eq_some_iff.mp h
    rw [walk, if_pos rfl, walk, ih hm]
    rfl
  | case4 u rest hu hclose =>
    cases h
    rw [walk, if_neg hu, if_pos hclose, walk_delimiter (List.isPrefixOf_iff_prefix.mp hclose)]
  | case5 u rest hu hclose ih =>
    obtain ⟨m, hm, rfl⟩ := Option.map_eq_some_iff.mp h
    rw [walk, if_neg hu, if_neg hclose, ih hm]
    rfl

/-- In a string that does not end, every other backslash of those in a row takes the unit behind
it. -/
theorem walk_string_of_not_closing (h : d.closing? t = none) :
    walk dialect (.string d) 0 t = (.string d, t.finalBackslashes % 2) := by
  fun_induction Delimiter.closing? d t with
  | case1 => rfl
  | case2 => rfl
  | case3 v rest ih =>
    have hpair : Text.finalBackslashes [backslash, v] % 2 = 0 := by
      by_cases hv : v = backslash
      · rw [hv]; rfl
      · simp [Text.finalBackslashes, hv]
    rw [walk, if_pos rfl, walk, ih (Option.map_eq_none_iff.mp h)]
    rw [← Text.finalBackslashes_append_mod hpair]
    rfl
  | case4 => cases h
  | case5 u rest hu hclose ih =>
    have hunit : Text.finalBackslashes [u] % 2 = 0 := by simp [Text.finalBackslashes, hu]
    rw [walk, if_neg hu, if_neg hclose, ih (Option.map_eq_none_iff.mp h)]
    rw [← Text.finalBackslashes_append_mod hunit]
    rfl

theorem walk_code_cons (hcomment : u ≠ ofChar '#') (hquote : dialect.opening? (u :: t) = none) :
    walk dialect .code 0 (u :: t) = walk dialect .code 0 t := by
  rw [walk, if_neg hcomment, hquote]

theorem walk_code_opening (hcomment : u ≠ ofChar '#')
    (hopening : dialect.opening? (u :: t) = some d) :
    walk dialect .code 0 (u :: t) = walk dialect (.string d) 0 ((u :: t).drop d.text.length) := by
  rw [walk, if_neg hcomment, hopening]
  exact walk_delimiter (Dialect.prefix_of_opening? hopening)

theorem walk_code_word (h : ∀ u ∈ w, Lexeme.isWordPart u) :
    walk dialect .code 0 (w ++ t) = walk dialect .code 0 t := by
  induction w with
  | nil => rfl
  | cons u w ih =>
    obtain ⟨hu, hw⟩ := List.forall_mem_cons.mp h
    obtain ⟨-, hcomment, hquote⟩ := Lexeme.of_isWordPart hu
    rw [List.cons_append, walk_code_cons hcomment (Dialect.opening?_eq_none hquote _), ih hw]

/-- The units of a text run out in a context. If this is a string, the last backslash takes the end
of the text exactly if an odd number of them stand there. -/
structure RunsOut (dialect : Dialect) (start : Context) (t : Text) (c : Context) : Prop where
  context : (walk dialect start 0 t).1 = c
  ahead : ∀ d, c = .string d →
    (∃ v ∈ t, v ≠ backslash) ∧ (walk dialect start 0 t).2 = t.finalBackslashes % 2

theorem RunsOut.behind {start start' : Context} (h : RunsOut dialect start t c)
    (hwalk : walk dialect start' 0 (w ++ t) = walk dialect start 0 t) :
    RunsOut dialect start' (w ++ t) c := by
  refine ⟨hwalk ▸ h.context, fun d hd => ?_⟩
  obtain ⟨⟨v, hm, hv⟩, hahead⟩ := h.ahead d hd
  refine ⟨⟨v, List.mem_append_right _ hm, hv⟩, ?_⟩
  rw [hwalk, hahead, Text.finalBackslashes_append_of_mem ⟨v, hm, hv⟩]

end Context

theorem Delimiter.ne_backslash (hm : u ∈ d.text) : u ≠ backslash := by
  rw [List.eq_of_mem_replicate hm]
  cases d.quote <;> decide

-- ---------------------------------------------------------------------------
-- Where the lexer runs out
-- ---------------------------------------------------------------------------

namespace Lexeme

open Context

theorem runsOut_opening (hcomment : u ≠ ofChar '#')
    (hopening : dialect.opening? (u :: t) = some d)
    (hclosing : d.closing? ((u :: t).drop d.text.length) = none) :
    RunsOut dialect .code (u :: t) (.string d) := by
  obtain ⟨body, hbody⟩ := Dialect.prefix_of_opening? hopening
  rw [← hbody, List.drop_left] at hclosing
  have hwalk : walk dialect .code 0 (u :: t) = (.string d, Text.finalBackslashes body % 2) := by
    rw [walk_code_opening hcomment hopening, ← hbody, List.drop_left,
      walk_string_of_not_closing hclosing]
  refine ⟨by rw [hwalk], fun _ _ => ⟨?_, ?_⟩⟩
  · obtain ⟨v, hv⟩ := List.exists_mem_of_length_pos d.length_text_pos
    exact ⟨v, hbody ▸ List.mem_append_left _ hv, Delimiter.ne_backslash hv⟩
  · have hdelimiter : d.text.finalBackslashes = 0 :=
      Text.finalBackslashes_eq_zero_iff.mpr fun hlast =>
        Delimiter.ne_backslash (List.mem_of_getLast? hlast) rfl
    rw [hwalk, ← hbody, Text.finalBackslashes_append_mod (by rw [hdelimiter])]

theorem runsOut_lexCode (dialect : Dialect) (column depth : Nat) (t : Text) :
    RunsOut dialect .code t (lexCode dialect column depth t).context := by
  fun_induction lexCode dialect column depth t with
  | case1 => exact ⟨rfl, fun d hd => by cases hd⟩
  | case2 column depth u rest hu ih =>
    have hblank := isBlank_of_isIndent hu
    exact ih.behind (w := [u])
      (walk_code_cons (ne_of_isBlank hblank (by decide)) (Dialect.opening?_of_isBlank hblank))
  | case3 column depth rest =>
    exact ⟨by rw [walk, if_pos rfl], fun d hd => by cases hd⟩
  | case4 column depth u rest _ hcomment d hd opening closing hclosing size ih =>
    have hpos := (Delimiter.closing?_bounds hclosing).1
    have hdrop : (u :: rest).drop size = rest.drop (size - 1) := List.drop_cons (by omega)
    rw [← List.take_append_drop size (u :: rest), hdrop]
    refine ih.behind ?_
    rw [← hdrop, List.take_append_drop, walk_code_opening hcomment hd,
      walk_string_of_closing? hclosing, List.drop_drop]
  | case5 column depth u rest _ hcomment d hd opening hclosing =>
    exact runsOut_opening hcomment hd hclosing
  | case6 column depth u rest _ _ _ hu word ih =>
    have hword : ∀ v ∈ word, isWordPart v :=
      List.forall_mem_cons.mpr ⟨by simp [isWordPart, hu], List.all_eq_true.mp List.all_takeWhile⟩
    have h := ih.behind (walk_code_word hword)
    rwa [List.cons_append, List.takeWhile_append_dropWhile] at h
  | case7 column depth u rest _ _ _ _ hu digits ih =>
    have hdigits : ∀ v ∈ digits, isWordPart v := by
      refine List.forall_mem_cons.mpr ⟨by simp [isWordPart, hu], fun v hv => ?_⟩
      simp [isWordPart, List.all_eq_true.mp List.all_takeWhile v hv]
    have h := ih.behind (walk_code_word hdigits)
    rwa [List.cons_append, List.takeWhile_append_dropWhile] at h
  | case8 column depth u rest _ hcomment hd _ _ ih =>
    exact ih.behind (w := [u]) (walk_code_cons hcomment hd)

theorem reach_context (dialect : Dialect) (s : LexState) (content : Text) :
    (walk dialect s.resumed 0 content).1 = (reach dialect s content).context ∧
      ∀ d, (reach dialect s content).context = .string d →
        (walk dialect s.resumed 0 content).2 = content.finalBackslashes % 2 := by
  obtain ⟨context, depth, continued⟩ := s
  have hcode := runsOut_lexCode dialect 0 depth content
  cases context with
  | code | comment => exact ⟨hcode.context, fun d hd => (hcode.ahead d hd).2⟩
  | string d =>
    simp only [reach, LexState.resumed]
    split
    · next n hclosing =>
      have h : RunsOut dialect (.string d) (content.take n ++ content.drop n)
          (lexCode dialect n depth (content.drop n)).context :=
        (runsOut_lexCode ..).behind
          (by rw [List.take_append_drop, walk_string_of_closing? hclosing])
      rw [List.take_append_drop] at h
      exact ⟨h.context, fun d hd => (h.ahead d hd).2⟩
    · next hclosing =>
      rw [walk_string_of_not_closing hclosing]
      exact ⟨rfl, fun _ _ => rfl⟩

end Lexeme

end

-- ---------------------------------------------------------------------------
-- Behind the end of the line
-- ---------------------------------------------------------------------------

theorem Context.inPlainString_iff {c : Context} :
    c.inPlainString ↔ ∃ d, c = .string d ∧ d.triple = false := by
  cases c <;> simp [inPlainString]

theorem Lexeme.Reached.finish_embedded_iff {r : Reached} {content : Text} {d : Delimiter} :
    (r.finish .embedded content).context = .string d ↔
      r.context = .string d ∧ (d.triple ∨ 0 < content.finalBackslashes) := by
  have hescaped : 0 < content.finalBackslashes ↔ content.getLast? = some backslash := by
    rw [Nat.pos_iff_ne_zero, ne_eq, Text.finalBackslashes_eq_zero_iff, not_not]
  rw [hescaped]
  cases hr : r.context with
  | code | comment => simp [finish, hr]
  | string d' =>
    by_cases hcrosses : d'.triple ∨ content.getLast? = some backslash
    · have hfinish : (r.finish .embedded content).context = .string d' := by
        simp [finish, hr, Dialect.embedded, hcrosses]
      rw [hfinish]
      exact ⟨fun h => ⟨h, Context.string.inj h ▸ hcrosses⟩, And.left⟩
    · have hfinish : (r.finish .embedded content).context = .code := by
        simp [finish, hr, Dialect.embedded, hcrosses]
      rw [hfinish]
      constructor
      · intro h
        cases h
      · rintro ⟨h, hd⟩
        rw [← Context.string.inj h] at hd
        exact absurd hd hcrosses

/-- In the embedded language a line ends in a string exactly if its units run out there and, unless
the string is between three quotation marks, a backslash stands at the end. Where they run out in a
string, the last backslash takes the end of the line exactly if an odd number of them stand there,
so that too many strings go on: those at the end of which the backslashes take one another. -/
theorem LexState.after_embedded_string_iff (s : LexState) (content : Text) :
    let finish := (s.after .embedded content).context
    let reached := Context.walk .embedded s.resumed 0 content
    let backslashes := content.finalBackslashes
    (∀ d, finish = .string d ↔ reached.1 = .string d ∧ (d.triple ∨ 0 < backslashes)) ∧
    (∀ d, reached.1 = .string d → (reached.2 = 1 ↔ Odd backslashes)) ∧
    ((finish.inPlainString ↔ reached.1.inPlainString ∧ Odd backslashes) ↔
      ¬ (reached.1.inPlainString ∧ 0 < backslashes ∧ Even backslashes)) := by
  intro finish reached backslashes
  obtain ⟨hcontext, hahead⟩ := Lexeme.reach_context .embedded s content
  have hfinish : ∀ d, finish = .string d ↔
      reached.1 = .string d ∧ (d.triple ∨ 0 < backslashes) := by
    intro d
    rw [hcontext]
    exact Lexeme.Reached.finish_embedded_iff
  have hcrosses : finish.inPlainString ↔ reached.1.inPlainString ∧ 0 < backslashes := by
    rw [Context.inPlainString_iff, Context.inPlainString_iff]
    constructor
    · rintro ⟨d, hd, hplain⟩
      obtain ⟨hreached, hd⟩ := (hfinish d).mp hd
      exact ⟨⟨d, hreached, hplain⟩, hd.resolve_left (by simp [hplain])⟩
    · rintro ⟨⟨d, hreached, hplain⟩, hpos⟩
      exact ⟨d, (hfinish d).mpr ⟨hreached, .inr hpos⟩, hplain⟩
  refine ⟨hfinish, fun d hd => ?_, ?_⟩
  · rw [hahead d (hcontext ▸ hd), Nat.odd_iff]
  · have hodd : Odd backslashes → 0 < backslashes := by
      rintro ⟨n, hn⟩
      omega
    rw [hcrosses, ← Nat.not_odd_iff_even]
    tauto

/-- Two backslashes at the end of a line take one another, and yet the string goes on. -/
theorem LexState.after_embedded_string_iff_two_backslashes :
    let content := text "x = 'a\\\\"
    let finish := (initial.after .embedded content).context
    let reached := Context.walk .embedded initial.resumed 0 content
    content.finalBackslashes = 2 ∧ reached = (.string ⟨.single, false⟩, 0) ∧
      finish = .string ⟨.single, false⟩ ∧
      ¬ (finish.inPlainString ↔ reached.1.inPlainString ∧ Odd content.finalBackslashes) := by
  intro content finish reached
  obtain ⟨hfinish, -, hclaim⟩ := after_embedded_string_iff initial content
  have hbackslashes : content.finalBackslashes = 2 := by decide
  have hreached : reached = (.string ⟨.single, false⟩, 0) := by decide
  have hplain : reached.1.inPlainString := by rw [hreached]; rfl
  refine ⟨hbackslashes, hreached, (hfinish _).mpr ⟨congrArg Prod.fst hreached, .inr ?_⟩, ?_⟩
  · rw [hbackslashes]
    decide
  · rw [hclaim, not_not, hbackslashes]
    exact ⟨hplain, by decide, by decide⟩

end Inlay
