import Inlay.Text.Search

/-!
# Lexemes

A line lexer that knows just enough to tell code from strings and comments, and to follow a
logical line across physical ones: through open strings, open brackets and backslashes at the end
of a line. The state at the end of a line is where the next line starts. Both languages of a
document are lexed alike and differ only in a `Dialect`.
-/

namespace Inlay

open CodeUnit

inductive Quote
  | double
  | single
  | backtick
  deriving DecidableEq, Repr

def Quote.unit : Quote → CodeUnit
  | double => ofChar '"'
  | single => ofChar '\''
  | backtick => ofChar '\x60'

structure Dialect where
  quotes : List Quote
  /-- A string between single quotation marks may run past the end of a line. -/
  multiline : Bool
  deriving DecidableEq

def Dialect.host : Dialect := ⟨[.double, .single, .backtick], true⟩

def Dialect.embedded : Dialect := ⟨[.double, .single], false⟩

structure Delimiter where
  quote : Quote
  triple : Bool
  deriving DecidableEq, Repr

namespace Delimiter

def text (d : Delimiter) : Text := List.replicate (if d.triple then 3 else 1) d.quote.unit

/-- The number of units through the closing delimiter, if the string ends in the given text. A
backslash takes the unit behind it out of consideration. -/
def closing? (d : Delimiter) : Text → Option Nat
  | [] => none
  | u :: rest =>
    if u = backslash then
      match rest with
      | [] => none
      | _ :: rest => (closing? d rest).map (· + 2)
    else if d.text.isPrefixOf (u :: rest) then some d.text.length
    else (closing? d rest).map (· + 1)

end Delimiter

def Dialect.opening? (dialect : Dialect) : Text → Option Delimiter
  | [] => none
  | u :: rest =>
    (dialect.quotes.find? (·.unit = u)).map fun quote =>
      ⟨quote, (List.replicate 3 u).isPrefixOf (u :: rest)⟩

inductive Context
  | code
  | string (delimiter : Delimiter)
  | comment
  deriving DecidableEq, Repr

structure LexState where
  context : Context
  depth : Nat
  continued : Bool
  deriving DecidableEq, Repr

namespace LexState

def initial : LexState := ⟨.code, 0, false⟩

def startsStatement (s : LexState) : Bool := s.context = .code && s.depth = 0 && !s.continued

def isOpen (s : LexState) : Bool := s.context != .code || 0 < s.depth || s.continued

def inString (s : LexState) : Bool :=
  match s.context with
  | .string _ => true
  | _ => false

theorem isOpen_eq_not_startsStatement (s : LexState) : s.isOpen = !s.startsStatement := by
  simp only [isOpen, startsStatement]
  by_cases hc : s.context = .code <;> by_cases hd : s.depth = 0 <;> cases s.continued <;>
    simp_all [Nat.pos_iff_ne_zero]

end LexState

inductive TokenKind
  | word
  | number
  | string
  | punct
  | comment
  deriving DecidableEq, Repr

structure Token where
  kind : TokenKind
  text : Text
  column : Nat
  deriving DecidableEq, Repr

namespace Token

def isWord (token : Token) (word : Text) : Bool := token.kind = .word && token.text = word

def isPunct (token : Token) (u : CodeUnit) : Bool := token.kind = .punct && token.text = [u]

end Token

namespace Lexeme

def isWordStart (u : CodeUnit) : Bool := u.isUpper || u.isLower || u = ofChar '_'

def isWordPart (u : CodeUnit) : Bool := isWordStart u || u.isDigit

/-- The number of open brackets behind a unit of code; a bracket too many closes nothing. -/
def bracketDepth (depth : Nat) (u : CodeUnit) : Nat :=
  if [ofChar '(', ofChar '[', ofChar '\x7b'].contains u then depth + 1
  else if [ofChar ')', ofChar ']', ofChar '\x7d'].contains u then depth - 1
  else depth

structure Reached where
  tokens : List Token
  context : Context
  depth : Nat
  deriving DecidableEq, Repr

def Reached.behind (token : Token) (r : Reached) : Reached := { r with tokens := token :: r.tokens }

def lexCode (dialect : Dialect) (column depth : Nat) : Text → Reached
  | [] => ⟨[], .code, depth⟩
  | u :: rest =>
    if u.isIndent then lexCode dialect (column + 1) depth rest
    else if u = ofChar '#' then ⟨[⟨.comment, u :: rest, column⟩], .comment, depth⟩
    else
      match dialect.opening? (u :: rest) with
      | some delimiter =>
        let opening := delimiter.text.length
        match delimiter.closing? ((u :: rest).drop opening) with
        | some closing =>
          let size := opening + closing
          (lexCode dialect (column + size) depth (rest.drop (size - 1))).behind
            ⟨.string, (u :: rest).take size, column⟩
        | none => ⟨[⟨.string, u :: rest, column⟩], .string delimiter, depth⟩
      | none =>
        if isWordStart u then
          let word := u :: rest.takeWhile isWordPart
          (lexCode dialect (column + word.length) depth (rest.dropWhile isWordPart)).behind
            ⟨.word, word, column⟩
        else if u.isDigit then
          let digits := u :: rest.takeWhile isDigit
          (lexCode dialect (column + digits.length) depth (rest.dropWhile isDigit)).behind
            ⟨.number, digits, column⟩
        else
          (lexCode dialect (column + 1) (bracketDepth depth u) rest).behind ⟨.punct, [u], column⟩
termination_by t => t.length
decreasing_by
  · simp
  · simp only [List.length_drop, List.length_cons]; omega
  · have := (List.dropWhile_sublist isWordPart (l := rest)).length_le
    simp only [List.length_cons]; omega
  · have := (List.dropWhile_sublist isDigit (l := rest)).length_le
    simp only [List.length_cons]; omega
  · simp

/-- Lexes a line that begins in a state. A string that was open there goes on at column 0. -/
def reach (dialect : Dialect) (start : LexState) (content : Text) : Reached :=
  match start.context with
  | .string delimiter =>
    match delimiter.closing? content with
    | some closing =>
      (lexCode dialect closing start.depth (content.drop closing)).behind
        ⟨.string, content.take closing, 0⟩
    | none => ⟨[⟨.string, content, 0⟩], .string delimiter, start.depth⟩
  | _ => lexCode dialect 0 start.depth content

/-- The state behind the end of a line. A comment ends there, and so does a string that may not
run on, unless its line ends in a backslash; code is continued by one. -/
def Reached.finish (dialect : Dialect) (content : Text) (r : Reached) : LexState :=
  let escaped := content.getLast? = some backslash
  match r.context with
  | .string delimiter =>
    if delimiter.triple || dialect.multiline || escaped then ⟨.string delimiter, r.depth, false⟩
    else ⟨.code, r.depth, false⟩
  | .code => ⟨.code, r.depth, escaped⟩
  | .comment => ⟨.code, r.depth, false⟩

end Lexeme

structure LexedLine where
  tokens : List Token
  finish : LexState
  deriving DecidableEq, Repr

def lexLine (dialect : Dialect) (start : LexState) (content : Text) : LexedLine :=
  let reached := Lexeme.reach dialect start content
  ⟨reached.tokens, reached.finish dialect content⟩

namespace LexState

def after (dialect : Dialect) (s : LexState) (content : Text) : LexState :=
  (lexLine dialect s content).finish

def afterAll (dialect : Dialect) (s : LexState) (contents : List Text) : LexState :=
  contents.foldl (after dialect) s

end LexState

end Inlay
