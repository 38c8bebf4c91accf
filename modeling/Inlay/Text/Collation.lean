import Inlay.Number.Numeral
import Inlay.Text.Collation.Bases
import Inlay.Text.Collation.Forms
import Inlay.Text.Collation.Letters
import Inlay.Text.Collation.Marks
import Inlay.Text.Search
import Std.Data.HashMap

/-!
# Collation

The order in which names are listed for a reader, by the default collation of Unicode with white
space, punctuation and symbols in front of digits and letters. A text is a list of elements, each
with a base, a mark and a form. Texts are compared by their bases; where these agree, by their
marks; and where these agree too by their forms, of which that of a small letter is first.
-/

namespace Inlay.Collation

open CodeUnit

/-- What a character adds to the order of a text. Zero adds nothing. -/
structure Element where
  base : Nat
  mark : Nat
  form : Nat
  deriving DecidableEq, Repr

abbrev Table := Std.HashMap Nat (List Element)

-- ---------------------------------------------------------------------------
-- Characters without an entry
-- ---------------------------------------------------------------------------

def noMark : Nat := 0x20

def plainForm : Nat := 2

def Element.ofBase (base : Nat) : Element := ⟨base, noMark, plainForm⟩

def isCoreIdeograph (c : Nat) : Bool :=
  (0x4E00 ≤ c && c ≤ 0x9FFF) ||
    [0xFA0E, 0xFA0F, 0xFA11, 0xFA13, 0xFA14, 0xFA1F, 0xFA21, 0xFA23, 0xFA24, 0xFA27, 0xFA28,
      0xFA29].contains c

def isFurtherIdeograph (c : Nat) : Bool :=
  (0x3400 ≤ c && c ≤ 0x4DBF) || (0x20000 ≤ c && c ≤ 0x323AF)

/-- The base of a character that the tables do not have. These come behind all that they have:
ideographs, all others in the order of their code points, and last the replacement character. The
two noncharacters at the end of the basic plane are the first and the last of all. -/
def impliedBase (c : Nat) : Nat :=
  let group (n : Nat) : Nat := 0x200000 * (n + 1)
  if c = 0xFFFE then 1
  else if c = 0xFFFD then group 3
  else if c = 0xFFFF then group 3 + 1
  else if isCoreIdeograph c then group 0 + c
  else if isFurtherIdeograph c then group 1 + c
  else group 2 + c

def syllableLetters (c : Nat) : List Nat :=
  let index := c - 0xAC00
  let last := index % 28
  [0x1100 + index / 588, 0x1161 + index % 588 / 28] ++ if last = 0 then [] else [0x11A7 + last]

def Table.elements (t : Table) (c : Nat) : List Element :=
  let entry (c : Nat) : List Element := (t.get? c).getD [.ofBase (impliedBase c)]
  if 0xAC00 ≤ c && c ≤ 0xD7A3 then (syllableLetters c).flatMap entry else entry c

-- ---------------------------------------------------------------------------
-- Reading the tables
-- ---------------------------------------------------------------------------

def hex (t : Text) : Nat := (Text.inBase? 16 t).getD 0

def sides (separator : Char) (t : Text) : Text × Text :=
  (Text.cutAt? (ofChar separator) t).getD (t, [])

def words (rows : List String) : List Text :=
  rows.flatMap fun row => Text.splitOn space (text row)

def readRun (t : Text) : List Nat :=
  let (first, last) := sides '-' t
  let first := hex first
  if last.isEmpty then [first] else (List.range (hex last + 1 - first)).map (first + ·)

/-- A base or mark with its form, plain if none is written. -/
def readForm (t : Text) : Text × Nat :=
  let (t, form) := sides '/' t
  (t, if form.isEmpty then plainForm else hex form)

def addBases (t : Table) : Table :=
  ((words bases).flatMap readRun).zipIdx.foldl
    (fun t (c, index) => t.insert c [.ofBase (index + 2)]) t

def addIgnored (t : Table) : Table :=
  ((words ignored).flatMap readRun).foldl (fun t c => t.insert c []) t

def addMarks (t : Table) : Table :=
  (words marks).foldl (fun t word =>
    let (weight, members) := sides '=' word
    (Text.splitOn (ofChar ',') members).foldl (fun t member =>
      let (run, form) := readForm member
      (readRun run).foldl (fun t c => t.insert c [⟨0, hex weight, form⟩]) t) t) t

/-- The element of a part of an entry, as much further than it is written. -/
def readPart (t : Table) (further : Nat) (part : Text) : List Element :=
  let (name, form) := readForm part
  match name with
  | u :: weight =>
    if u = ofChar '@' then [⟨0, hex weight, form⟩]
    else (t.elements (hex name + further)).map ({ · with form })
  | [] => []

def addVariant (t : Table) (word : Text) : Table :=
  let climbs := word.contains (ofChar '=')
  let (run, parts) := sides (if climbs then '=' else ':') word
  let parts := Text.splitOn (ofChar '+') parts
  (readRun run).zipIdx.foldl (fun t (c, index) =>
    t.insert c (parts.flatMap (readPart t (if climbs then index else 0)))) t

def table : Table :=
  (words (letters ++ forms)).foldl addVariant (addMarks (addIgnored (addBases ∅)))

def spellings : List (List Nat × Nat) :=
  (words compositions).map fun word =>
    let (parts, whole) := sides '=' word
    ((Text.splitOn (ofChar '+') parts).map hex, hex whole)

-- ---------------------------------------------------------------------------
-- The elements of a text
-- ---------------------------------------------------------------------------

/-- The vowels that are written in front of the consonant they follow, and the consonants of their
script. -/
def leadingVowels : List (List Nat × Nat × Nat) :=
  [([0xE40, 0xE41, 0xE42, 0xE43, 0xE44], 0xE01, 0xE2E),
    ([0xEC0, 0xEC1, 0xEC2, 0xEC3, 0xEC4], 0xE81, 0xEAE),
    ([0xEC0, 0xEC1, 0xEC2, 0xEC3, 0xEC4], 0xEDC, 0xEDF),
    ([0x19B5, 0x19B6, 0x19B7, 0x19BA], 0x1980, 0x19AB),
    ([0xAAB5, 0xAAB6, 0xAAB9, 0xAABB, 0xAABC], 0xAA80, 0xAAAF)]

def leads (vowel consonant : Nat) : Bool :=
  leadingVowels.any fun (vowels, first, last) =>
    vowels.contains vowel && first ≤ consonant && consonant ≤ last

def spoken : List Nat → List Nat
  | [] => []
  | [c] => [c]
  | c :: d :: rest =>
    if leads c d then d :: c :: spoken rest else c :: spoken (d :: rest)

def spelling? (cs : List Nat) : Option (List Nat × Nat) :=
  (spellings.reverse.filter fun s => s.1.isPrefixOf cs).foldl
    (fun best s => if best.any (s.1.length ≤ ·.1.length) then best else some s) none

/-- The code points with a composed character in place of each of its spellings. The first ones may
belong to a spelling that came before. -/
def composed (spelled : Nat) : List Nat → List Nat
  | [] => []
  | c :: rest =>
    match spelled with
    | before + 1 => composed before rest
    | 0 =>
      match spelling? (c :: rest) with
      | some (parts, whole) => whole :: composed (parts.length - 1) rest
      | none => c :: composed 0 rest

def elements (t : Text) : List Element :=
  (composed 0 (spoken (t.toChars.map Char.toNat))).flatMap table.elements

-- ---------------------------------------------------------------------------
-- Comparison
-- ---------------------------------------------------------------------------

def compareBy (part : Element → Nat) : List Element → List Element → Ordering :=
  compareOn fun es => (es.map part).filter (· ≠ 0)

def compareElements : List Element → List Element → Ordering :=
  compareLex (compareLex (compareBy (·.base)) (compareBy (·.mark))) (compareBy (·.form))

protected def compare (a b : Text) : Ordering := compareElements (elements a) (elements b)

end Inlay.Collation
