import Inlay.Files.Glob.Brackets
import Inlay.Text.Search

/-!
# Reading a glob

What a glob matches, as a pattern over the whole text of a path. `?` stands for a unit of a name
and `*` for any run of them; `**` as a whole name stands for any number of names. Braces and
parentheses group alternatives, and a sign before a parenthesis tells how often its group occurs.
What starts a name with a star or a question mark never starts it with a dot.

The glob is read from left to right into a stack of open groups. `Before` remembers as much of what
was read as the meaning of the next unit depends on.
-/

namespace Inlay.Glob

open CodeUnit

-- ---------------------------------------------------------------------------
-- Pieces of names
-- ---------------------------------------------------------------------------

def slash : Pattern := .literal (ofChar '/')

def dot : Pattern := .literal (ofChar '.')

def anyUnit : Pattern := .unit (UnitSet.except [lineFeed, carriageReturn, 0x2028, 0x2029])

def nameUnit : Pattern := .unit (UnitSet.except (text "/"))

def run : Pattern := .many nameUnit

def names : Pattern :=
  .many (.seq (.ahead false (.seq (.either .start slash) dot)) anyUnit)

def notDot : Pattern := .ahead false dot

def notDots : Pattern :=
  .ahead false (.seq (.optional dot) (.either slash .finish))

def atLeastOne : Pattern := .ahead true anyUnit

-- ---------------------------------------------------------------------------
-- Groups
-- ---------------------------------------------------------------------------

inductive Group
  | once
  | optional
  | many
  | repeated
  | unless
  | look (wanted : Bool)
  | brace
  deriving DecidableEq, Repr

def Group.isBrace (g : Group) : Bool := g = brace

structure Part where
  pattern : Pattern
  counted : Bool
  deriving DecidableEq, Repr

def Part.join (parts : List Part) : Pattern := .sequence (parts.map (·.pattern))

structure Frame where
  group : Group
  alternatives : List (List Part)
  parts : List Part
  /-- A comma divides it. -/
  divided : Bool
  /-- There is a slash in it. -/
  crosses : Bool
  deriving DecidableEq, Repr

namespace Frame

def opened (g : Group) : Frame := ⟨g, [], [], false, false⟩

def put (f : Frame) (p : Part) : Frame := { f with parts := p :: f.parts }

def divide (f : Frame) : Frame :=
  { f with alternatives := f.parts.reverse :: f.alternatives, parts := [] }

def body (f : Frame) : Pattern :=
  .choice ((f.parts.reverse :: f.alternatives).reverse.map Part.join)

/-- The part that a group makes. With `last` nothing but ends of groups follows it. -/
def part (f : Frame) (last : Bool) : Part :=
  match f.group with
  | .optional => ⟨.optional f.body, true⟩
  | .many => ⟨.many f.body, true⟩
  | .repeated => ⟨.repeated f.body, true⟩
  | .look wanted => ⟨.ahead wanted f.body, false⟩
  | .unless =>
    let tail := if f.crosses then names else run
    if f.crosses || last then ⟨.seq (.ahead false (.seq f.body .finish)) tail, false⟩
    else ⟨.seq (.ahead false f.body) tail, false⟩
  | _ => ⟨f.body, false⟩

/-- Puts the parts of a brace that no comma divides between literal braces. -/
def spread (f inner : Frame) : Frame :=
  let brace (c : Char) : Part := ⟨.literal (ofChar c), false⟩
  let closed := brace '\x7d' :: inner.parts
  let crosses := f.crosses || inner.crosses
  match inner.alternatives.reverse with
  | [] => { f with parts := closed ++ brace '\x7b' :: f.parts, crosses }
  | first :: others =>
    let opening := f.parts.reverse ++ brace '\x7b' :: first
    { f with alternatives := others.reverse ++ opening :: f.alternatives, parts := closed, crosses }

end Frame

-- ---------------------------------------------------------------------------
-- The state of reading
-- ---------------------------------------------------------------------------

inductive Before
  | start
  | slash
  | dot
  | star
  | opening
  | closing
  | bracket
  | brace
  | comma
  | other
  deriving DecidableEq, Repr

structure Reader where
  top : Frame
  outer : List Frame
  before : Before
  deriving DecidableEq, Repr

namespace Reader

def begin : Reader := ⟨.opened .once, [], .start⟩

def put (r : Reader) (p : Pattern) (before : Before) : Reader :=
  { r with top := r.top.put ⟨p, false⟩, before }

def putCounted (r : Reader) (p : Pattern) (before : Before) : Reader :=
  { r with top := r.top.put ⟨p, true⟩, before }

def cross (r : Reader) : Reader := { r with top := { r.top with crosses := true } }

def enter (r : Reader) (g : Group) : Reader :=
  { top := .opened g, outer := r.top :: r.outer
    before := if g.isBrace then .brace else .opening }

def groups (r : Reader) : List Group := (r.top :: r.outer).dropLast.map (·.group)

def inParentheses (r : Reader) : Bool := r.groups.any (!·.isBrace)

def inBraces (r : Reader) : Bool := r.groups.any (·.isBrace)

def divide (r : Reader) (before : Before) : Reader := { r with top := r.top.divide, before }

def close (r : Reader) (last : Bool) : Option Reader :=
  if !r.inParentheses then some (r.put (.literal (ofChar ')')) .closing)
  else
    match r.outer with
    | [] => none
    | f :: outer =>
      if r.top.group.isBrace then none
      else
        let plain := r.top.group = .once
        let f := { f with crosses := f.crosses || (plain && r.top.crosses) }
        some ⟨f.put (r.top.part last), outer, .closing⟩

def closeBrace (r : Reader) : Option Reader :=
  if !r.inBraces then some (r.put (.literal (ofChar '\x7d')) .other)
  else
    match r.outer with
    | [] => none
    | f :: outer =>
      if !r.top.group.isBrace then none
      else if r.top.divided then
        let f := { f with crosses := f.crosses || r.top.crosses }
        some ⟨f.put (r.top.part false), outer, .brace⟩
      else some ⟨f.spread r.top, outer, .brace⟩

/-- Lets the last part occur once or more, or at most once. A part that is counted already cannot
be repeated, and is left as it is when it may be missing. -/
def count (r : Reader) (again : Bool) : Option Reader :=
  match r.top.parts with
  | [] => none
  | p :: parts =>
    if p.counted then if again then none else some { r with before := .other }
    else
      let pattern := if again then Pattern.repeated p.pattern else .optional p.pattern
      some { r with top := { r.top with parts := ⟨pattern, true⟩ :: parts }, before := .other }

def orBelow : Pattern := .either (.seq slash (.seq notDot names)) .finish

/-- The pattern that was read. A parenthesis that is never closed reaches to the end of the glob,
where it spoils the last of its alternatives: the path may end in front of it instead. Any other
group that is never closed leaves no pattern. -/
def finish? (r : Reader) : Option Pattern :=
  match r.outer with
  | [] => some r.top.body
  | [f] =>
    let spoiled := r.top.parts.head?.any (·.pattern = orBelow)
    if spoiled && [Group.once, .optional, .many, .repeated].contains r.top.group then
      let ends := { r.top with parts := [⟨.finish, false⟩] }
      some (f.put ⟨ends.body, false⟩).body
    else none
  | _ => none

-- ---------------------------------------------------------------------------
-- Stars and slashes
-- ---------------------------------------------------------------------------

def guardName (r : Reader) (single : Bool) : Reader :=
  let need (r : Reader) : Reader := if single then r.put atLeastOne .other else r
  match r.before with
  | .start => need (r.put notDot .other)
  | .slash => need (r.put notDot .other)
  | .dot => need (r.put notDots .other)
  | _ => r

def opensGroup : Text → Bool
  | paren :: next :: _ => paren = ofChar '(' && next ≠ ofChar '?'
  | _ => false

def behindStars (t : Text) : Text :=
  if (text "/**").isPrefixOf t && (t.length = 3 || t[3]? = some (ofChar '/')) then
    behindStars (t.drop 3)
  else t
termination_by t.length
decreasing_by
  next h =>
    have : 3 ≤ t.length := by
      have := (List.isPrefixOf_iff_prefix.1 (Bool.and_eq_true_iff.1 h).1).length_le
      exact this
    simp only [List.length_drop]
    omega

def takesNames (r : Reader) : Bool :=
  match r.before with
  | .start => true
  | .slash => true
  | .opening => true
  | .closing => true
  | .comma => r.inBraces
  | .brace => r.inBraces
  | _ => false

def endsNames (r : Reader) : Text → Bool
  | [] => true
  | u :: rest =>
    (text "/()\x7b").contains u ||
      (r.inBraces && (u = ofChar ',' || u = ofChar '\x7d')) ||
      (u = ofChar '@' && opensGroup rest) ||
      (u = backslash && rest.head? = some (ofChar '/'))

def readStars (r : Reader) (rest : Text) : Reader × Nat :=
  let more := (rest.takeWhile (· = ofChar '*')).length
  let behind := rest.drop more
  if opensGroup behind && !(2 ≤ more && r.takesNames) then
    if more = 0 then (r.enter .many, 1)
    else ((r.guardName false).putCounted run .star, more - 1)
  else if more = 0 then ((r.guardName true).putCounted run .star, 0)
  else if more = 1 && r.takesNames then
    let behind := behindStars behind
    let used := rest.length - behind.length
    if r.before = .start && behind.head? = some (ofChar '/') then
      (r.cross.put (.choice [.start, slash, .seq names slash]) .slash, used + 1)
    else
      let kind := if r.endsNames behind then names else run
      ((r.guardName false).putCounted kind .star, used)
  else ((r.guardName false).putCounted run .star, more)

/-- Reads a slash with the two stars that may follow it: then the slash may be missing too. -/
def readSlash (r : Reader) (rest : Text) : Reader × Nat :=
  let plain := r.cross.put slash .slash
  let inner := rest.drop 2
  if !(text "**").isPrefixOf rest || inner.head? = some (ofChar '*') || opensGroup inner ||
      r.before = .start then (plain, 0)
  else
    match behindStars inner with
    | [] =>
      if r.before = .star then (plain, 0)
      else (r.cross.put orBelow .star, rest.length)
    | u :: behind =>
      if u ≠ ofChar '/' then (plain, 0)
      else
        let between := Pattern.seq slash (.seq notDot (.seq names slash))
        let missing := if behind.isEmpty then [] else [Pattern.finish]
        (r.cross.put (.choice ([between, slash] ++ missing)) .slash, rest.length - behind.length)

-- ---------------------------------------------------------------------------
-- Reading
-- ---------------------------------------------------------------------------

def isPlain (u : CodeUnit) : Bool := !(text "@![].,$*+?^\x7b\x7d()|\\/").contains u

/-- A range between braces, such as `1..3`: the units between the first and the last. Ends that make
no range stand for themselves, with any two units between them. -/
def range? (content : Text) : Option Pattern :=
  let plain := content.all fun u => isPlain u || u = ofChar '.'
  if plain && Text.containsText content (text "..") then
    let ends := ((Text.splitOn (ofChar '.') content).filter (!·.isEmpty)).mergeSort Text.le
    (Brackets.items? true (Text.joinWith (text "-") ends ++ text "]")).map fun (items, _) =>
      match Brackets.ranges? items with
      | some ranges => .unit ⟨ranges, false⟩
      | none => .sequence ((ends.map Pattern.ofText).intersperse (.seq anyUnit anyUnit))
  else none

def signedGroup? (u : CodeUnit) : Option Group :=
  [('?', Group.optional), ('+', .repeated), ('!', .unless), ('@', .once)].findSome?
    fun (sign, group) => if u = ofChar sign then some group else none

def readBrace (r : Reader) (rest : Text) : Reader × Nat :=
  let content := rest.takeWhile (· ≠ ofChar '\x7d')
  match range? content with
  | some p => if content.length < rest.length then (r.put p .brace, content.length + 1)
    else (r.enter .brace, 0)
  | none => (r.enter .brace, 0)

/-- Reads a parenthesis, with what tells that it only looks ahead. One that is never closed means
itself if only units, stars and question marks follow it. -/
def readParenthesis (r : Reader) (rest : Text) : Option (Reader × Nat) :=
  if rest.all fun u => isPlain u || (text "*?.").contains u then
    some (r.put (.literal (ofChar '(')) .other, 0)
  else match rest with
  | u :: v :: _ =>
    if u ≠ ofChar '?' then some (r.enter .once, 0)
    else if v = ofChar ':' then some (r.enter .once, 2)
    else if v = ofChar '=' then some (r.enter (.look true), 2)
    else if v = ofChar '!' then some (r.enter (.look false), 2)
    else if v = ofChar '<' then none
    else some ((r.enter .once).put (.literal u) .other, 1)
  | _ => some (r.enter .once, 0)

def readAny (r : Reader) : Option (Reader × Nat) :=
  match r.before with
  | .closing => (r.count false).map (·, 0)
  | .start => some (r.put (.unit (UnitSet.except (text "./"))) .other, 0)
  | .slash => some (r.put (.unit (UnitSet.except (text "./"))) .other, 0)
  | _ => some (r.put nameUnit .other, 0)

def readPlus (r : Reader) : Option (Reader × Nat) :=
  let behindGroup := [Before.bracket, .closing, .brace].contains r.before
  if r.before ≠ .opening && (behindGroup || r.inParentheses) then (r.count true).map (·, 0)
  else some (r.put (.literal (ofChar '+')) .other, 0)

def readPlain (r : Reader) (u : CodeUnit) (rest : Text) : Reader × Nat :=
  let more := rest.takeWhile isPlain
  ((u :: more).foldl (fun r u => r.put (.literal u) .other) r, more.length)

def read (r : Reader) (u : CodeUnit) (rest : Text) : Option (Reader × Nat) :=
  if opensGroup rest && (signedGroup? u).isSome then
    (signedGroup? u).map fun group => (r.enter group, 1)
  else if u = 0 then some (r, 0)
  else if u = backslash then
    match rest with
    | [] => some (r.put (.literal u) .other, 0)
    | v :: _ =>
      if (text "/.;").contains v then some (r, 0)
      else some (r.put (.unit ⟨escapedSpans v, false⟩) .other, 1)
  else if u = ofChar '"' then
    let quoted := rest.takeWhile (· ≠ u)
    some (quoted.foldl (fun r u => r.put (.literal u) r.before) r, quoted.length + 1)
  else if u = ofChar '(' then r.readParenthesis rest
  else if u = ofChar ')' then (r.close (rest.all (· = u))).map (·, 0)
  else if u = ofChar '[' then
    if rest.contains (ofChar ']') then
      (Brackets.read? rest).map fun (p, behind) => (r.put p .bracket, rest.length - behind.length)
    else some (r.put (.literal u) .bracket, 0)
  else if u = ofChar ']' then some (r.put (.literal u) .other, 0)
  else if u = ofChar '\x7b' then some (r.readBrace rest)
  else if u = ofChar '\x7d' then r.closeBrace.map (·, 0)
  else if u = ofChar '|' then some (r.divide .other, 0)
  else if u = ofChar ',' then
    if r.top.group.isBrace then
      some ({ r with top := { r.top with divided := true } }.divide .comma, 0)
    else some (r.put (.literal u) .comma, 0)
  else if u = ofChar '/' then some (r.readSlash rest)
  else if u = ofChar '.' then
    let inside := r.inBraces || r.inParentheses
    let first := match r.before with | .start => true | .slash => true | _ => false
    some (r.put dot (if inside || first then .dot else .other), 0)
  else if u = ofChar '?' then r.readAny
  else if u = ofChar '+' then r.readPlus
  else if u = ofChar '*' then some (r.readStars rest)
  else if u = ofChar '@' then some (r.put (.literal u) .other, 0)
  else some (r.readPlain u rest)

def readAll (r : Reader) (t : Text) : Option Pattern :=
  match t with
  | [] => r.finish?
  | u :: rest =>
    match r.read u rest with
    | none => none
    | some (r, used) => readAll r (rest.drop used)
termination_by t.length

end Reader

-- ---------------------------------------------------------------------------
-- Whole globs
-- ---------------------------------------------------------------------------

/-- The pattern of a glob of one name without groups: only stars, question marks and backslashes
mean more than themselves. -/
def readName (first : Bool) : Text → List Pattern
  | [] => []
  | u :: rest =>
    if u = ofChar '*' then run :: readName false rest
    else if u = ofChar '?' then
      (if first then .unit (UnitSet.except (text "./")) else nameUnit) :: readName false rest
    else if u = backslash then
      match rest with
      | [] => [.literal u]
      | v :: behind => .unit ⟨escapedSpans v, false⟩ :: readName false behind
    else .literal u :: readName false rest

def synonyms : List (Text × Text) :=
  [(text "***", text "*"), (text "**/**", text "**"), (text "**/**/**", text "**"),
    (text "*.*", text "*.?*"), (text ".*", text ".?*"), (text "**/*.*", text "**/*.?*"),
    (text "**/.*", text "**/.?*")]

/-- The pattern of a glob, which one or an odd number of exclamation marks in front negates. A glob
that cannot be read matches nothing. -/
def compile (glob : Text) : Pattern :=
  let glob := (synonyms.lookup glob).getD glob
  let special (u : CodeUnit) : Bool := (text "/()[]\x7b\x7d\"").contains u
  if !glob.any special && !(glob.head?.any (text "*!").contains) then
    .sequence (readName true glob)
  else
    let marks := (glob.takeWhile (· = ofChar '!')).length
    let marks := if Reader.opensGroup (glob.drop marks) then marks - 1 else marks
    let read := (Reader.begin.readAll (glob.drop marks)).getD .never
    if marks % 2 = 0 then read
    else .seq (.ahead false (.seq read .finish)) (.many anyUnit)

end Inlay.Glob
