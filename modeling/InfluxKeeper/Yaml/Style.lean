import InfluxKeeper.Number.Shortest
import InfluxKeeper.Value.Text
import InfluxKeeper.Yaml.Scalar

/-!
# How a scalar is written

A text is written plain if it reads back as a text that way, else between single quotes if all its
characters allow it, else between double quotes with escapes. Only printing ASCII is written as it is.
A line that has passed the last column ends at the next place where the style lets it: at a single space,
and between double quotes also before or after an escape.
-/

namespace InfluxKeeper.Yaml

open Text

/-- The last column that a line should fill. -/
def lastColumn : Nat := 80

/-- A number of spaces. -/
def spaces (n : Nat) : List Char := List.replicate n ' '

/-- Whether a character is a printing one of ASCII. -/
def isSimple (c : Char) : Bool := ' ' ≤ c && c ≤ '~'

/-! ## Which style -/

/-- The marks that no plain text starts with. -/
def leadingMarks : List Char :=
  ['#', ',', '[', ']', '\x7b', '\x7d', '&', '*', '!', '|', '>', '\'', '"', '%', '@', '\x60']

/-- Whether a text starts with a mark of the structure. -/
def startsWithMark (s : List Char) : Bool :=
  match s with
  | [] => false
  | c :: rest =>
    leadingMarks.contains c || ((c == '?' || c == '-') && (rest.isEmpty || rest.head? == some ' ')) ||
      s.take 3 == ['-', '-', '-'] || s.take 3 == ['.', '.', '.']

/-- Whether a text holds a colon before a space or the end, or a number sign after a space. -/
def holdsMark : List Char → Bool
  | [] => false
  | [c] => c == ':'
  | c :: d :: rest => (c == ':' && d == ' ') || (c == ' ' && d == '#') || holdsMark (d :: rest)

/-- Whether the characters of a text allow it to stand plain in a block. -/
def allowsPlain (s : List Char) : Bool :=
  s.all isSimple && s.head? != some ' ' && s.getLast? != some ' ' && !startsWithMark s && !holdsMark s

/-- Whether a space stands beside a line end. -/
def hasSpaceAtLineEnd : List Char → Bool
  | c :: d :: rest =>
    (c == ' ' && d == '\n') || (c == '\n' && d == ' ') || hasSpaceAtLineEnd (d :: rest)
  | _ => false

/-- Whether the characters of a text allow it to stand between single quotes. -/
def allowsSingle (s : List Char) : Bool :=
  (s.all fun c => c == '\n' || isSimple c) && !hasSpaceAtLineEnd s

/-- How a scalar is written. -/
inductive Style
  | plain
  | single
  | double
  deriving DecidableEq, Repr

/-- The style of a text. -/
def Style.ofText (s : String) : Style :=
  if Tag.ofText s = Tag.text ∧ allowsPlain s.toList then plain
  else if allowsSingle s.toList then single
  else double

/-! ## Writing in a style -/

/-- The rest of a text as it stands plain or between single quotes, from a column on, with the character
before it. A line end is written as an empty line more, and the text goes on at the indentation. A text
that must not be split has its lines left as long as they are. -/
def folded (indent : Nat) (quotes split : Bool) (column : Nat) (before : Option Char) :
    List Char → List Char
  | [] => []
  | c :: rest =>
    if c = '\n' then
      let lines := if before = some '\n' then ['\n'] else ['\n', '\n']
      if rest.head? = some '\n' then lines ++ folded indent quotes split 0 (some c) rest
      else lines ++ spaces indent ++ folded indent quotes split indent (some c) rest
    else if c = ' ' ∧ split ∧ lastColumn < column ∧ before.any (· != ' ') ∧
        rest.head?.any (· != ' ') then
      '\n' :: spaces indent ++ folded indent quotes split indent (some c) rest
    else if c = '\'' ∧ quotes then
      '\'' :: '\'' :: folded indent quotes split (column + 2) (some c) rest
    else c :: folded indent quotes split (column + 1) (some c) rest

/-- The letters of the escapes that have one. -/
def escapeLetters : List (Char × Char) := [
  ('\x00', '0'), ('\x07', 'a'), ('\x08', 'b'), ('\t', 't'), ('\n', 'n'), ('\x0b', 'v'), ('\x0c', 'f'),
  ('\r', 'r'), ('\x1b', 'e'), ('"', '"'), ('\\', '\\'), ('\x85', 'N'), ('\xa0', '_'), ('\u2028', 'L'),
  ('\u2029', 'P')]

/-- The escape of a character, if it needs one between double quotes. -/
def escape? (c : Char) : Option (List Char) :=
  if isSimple c && c != '"' && c != '\\' then none
  else
    match escapeLetters.lookup c with
    | some letter => some ['\\', letter]
    | none =>
      let n := c.toNat
      let (letter, width) := if n < 0x100 then ('x', 2) else if n < 0x10000 then ('u', 4) else ('U', 8)
      some ('\\' :: letter :: (hexDigits width n).map Char.toUpper)

/-- The break of a line between double quotes, and whether the space after it is marked as one that
counts. -/
def brokenLine (indent : Nat) (marked : Bool) : List Char :=
  '\\' :: '\n' :: spaces indent ++ if marked then ['\\'] else []

/-- The rest of a text as it stands between double quotes, from a column on. A line is broken only after
the first character and before the last, and only at a space, after an escape, or at the character after
an escape. -/
def doubled (indent : Nat) (split : Bool) (column : Nat) (first afterEscape : Bool) :
    List Char → List Char
  | [] => []
  | c :: rest =>
    let inside := split && !first && !rest.isEmpty
    match escape? c with
    | some e =>
      let column := column + e.length
      if inside ∧ lastColumn + 1 < column then
        let marked := rest.head? == some ' '
        e ++ brokenLine indent marked ++
          doubled indent split (indent + marked.toNat) false true rest
      else e ++ doubled indent split column false true rest
    | none =>
      if inside ∧ (c = ' ' ∨ afterEscape) ∧ lastColumn < column then
        let marked := c == ' '
        brokenLine indent marked ++
          c :: doubled indent split (indent + marked.toNat + 1) false false rest
      else c :: doubled indent split (column + 1) false false rest

/-- A text as it is written from a column on. -/
def writtenText (indent column : Nat) (split : Bool) (s : String) : List Char :=
  match Style.ofText s with
  | .plain => folded indent false split column none s.toList
  | .single => '\'' :: folded indent true split (column + 1) none s.toList ++ ['\'']
  | .double => '"' :: doubled indent split (column + 1) true true s.toList ++ ['"']

/-- The text of a number with a point. -/
def writtenFloat : Binary64 → List Char
  | .nan => ".nan".toList
  | .infinite negative => if negative then "-.inf".toList else ".inf".toList
  | x =>
    let s := x.shortest.toList
    if '.' ∈ s then s else s.takeWhile (· != 'e') ++ ".0".toList ++ s.dropWhile (· != 'e')

/-- A scalar as it is written from a column on. Octets and points in time are written as texts. -/
def writtenScalar (indent column : Nat) (split : Bool) : Scalar → List Char
  | .null => "null".toList
  | .bool b => if b then "true".toList else "false".toList
  | .int n => (toString n).toList
  | .float x => writtenFloat x
  | .text s => writtenText indent column split s
  | s => writtenText indent column split s.shown

end InfluxKeeper.Yaml
