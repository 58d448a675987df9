import InfluxKeeper.Number.Integer
import InfluxKeeper.Text.Utf8
import InfluxKeeper.Value.Basic

/-!
# Tokens of a manifest in YAML

A YAML text is a sequence of tokens: marks of its structure, among them the starts and ends of blocks
that follow from indentation, and the scalars between them. A text can be malformed; and it can spell a
scalar that no value has, which is a fault of its own.
-/

namespace InfluxKeeper.Yaml

/-- A token. -/
inductive Token
  | version (major : Nat)
  | tagHandle (handle tagPrefix : String)
  | otherDirective
  | documentStart
  | documentEnd
  | streamEnd
  | blockSequenceStart
  | blockMappingStart
  | blockEnd
  | flowSequenceStart
  | flowSequenceEnd
  | flowMappingStart
  | flowMappingEnd
  | flowEntry
  | blockEntry
  | key
  | value
  | alias (name : String)
  | anchor (name : String)
  | tag (handle : Option String) (suffix : String)
  | scalar (text : String) (plain : Bool)
  deriving DecidableEq, Repr

/-- A scalar that no value has. -/
inductive ScalarFault
  /-- Digits that are no number to a base. -/
  | badInteger (base : Nat) (text : String)
  /-- A whole number with too many digits. -/
  | longInteger (digits : Nat)
  /-- A text that is no number with a point. -/
  | badFloat (text : String)
  /-- A number without any character. -/
  | emptyNumber
  /-- A word that is no truth value. -/
  | badBoolean (word : String)
  /-- A number of so many parts to base 60 that their weights are beyond all doubles. -/
  | hugeWeight
  /-- A text that has no form of a point in time. -/
  | badTime
  /-- A point in time that is given as a mapping. -/
  | timeMapping
  /-- A part of a point in time that is out of its range. -/
  | timeRange (what : String)
  /-- A distance from universal time of a day or more, in minutes. -/
  | offsetRange (minutes : Int)
  /-- A code beyond the last character. -/
  | badCode
  /-- A code beyond all numbers of 31 bits. -/
  | hugeCode
  deriving DecidableEq, Repr

/-- The distance of a number of minutes in days and seconds, the seconds never negative; a part that is
zero is left out. -/
def distanceText (minutes : Int) : String :=
  let days := minutes / 1440
  let seconds := minutes % 1440 * 60
  let parts := (if days = 0 then [] else ["days=" ++ toString days]) ++
    (if seconds = 0 then [] else ["seconds=" ++ toString seconds])
  ", ".intercalate parts

/-- The wording of a fault. -/
def ScalarFault.message : ScalarFault → String
  | badInteger base text =>
    "invalid literal for int() with base " ++ toString base ++ ": " ++
      String.ofList ((Text.quoted text).toList.take 200)
  | longInteger digits => tooManyDigits digits
  | badFloat text => "could not convert string to float: " ++ Text.quoted text
  | emptyNumber => "string index out of range"
  | badBoolean word => Text.quoted word
  | hugeWeight => "int too large to convert to float"
  | badTime => "'NoneType' object has no attribute 'groupdict'"
  | timeMapping => "expected string or bytes-like object, got 'list'"
  | timeRange what => what
  | offsetRange minutes =>
    "offset must be a timedelta strictly between -timedelta(hours=24) and timedelta(hours=24), " ++
      "not datetime.timedelta(" ++ distanceText minutes ++ ")."
  | badCode => "chr() arg not in range(0x110000)"
  | hugeCode => "Python int too large to convert to C int"

/-- Why a text is not read. -/
inductive Fault
  | malformed
  /-- The text ends where it has to go on. -/
  | ended
  /-- The octets of the text are none. -/
  | notText (error : Text.Utf8.Error)
  | scalar (fault : ScalarFault)
  deriving DecidableEq, Repr

/-! ## Places in a text -/

/-- A place in a text: what is unread, how far it is from the start of the text and of its line, and the
number of the line. -/
structure Cursor where
  rest : List Char
  index : Nat
  line : Nat
  column : Nat

/-- Whether a character ends a line. -/
def isBreak (c : Char) : Bool :=
  c == '\n' || c == '\r' || c == '\x85' || c == '\u2028' || c == '\u2029'

/-- Whether a character ends a line or the text; the end shows as the character zero. -/
def isBreakOrEnd (c : Char) : Bool := c == '\x00' || isBreak c

/-- Whether a character is a space, a tab, or ends a line or the text. -/
def isGap (c : Char) : Bool := c == ' ' || c == '\t' || isBreakOrEnd c

namespace Cursor

/-- The start of a text. -/
def start (s : List Char) : Cursor := ⟨s, 0, 0, 0⟩

/-- The character some places ahead, the character zero beyond the end. -/
def ahead (c : Cursor) (n : Nat) : Char := c.rest.getD n '\x00'

/-- The next character. -/
def peek (c : Cursor) : Char := c.ahead 0

/-- The place after the next character. A line ends after its last line break character. -/
def next (c : Cursor) : Cursor :=
  match c.rest with
  | [] => c
  | x :: rest =>
    if isBreak x && !(x == '\r' && rest.head? == some '\n') then ⟨rest, c.index + 1, c.line + 1, 0⟩
    else ⟨rest, c.index + 1, c.line, if x = '\uFEFF' then c.column else c.column + 1⟩

/-- The place some characters on. -/
def skip (c : Cursor) : Nat → Cursor
  | 0 => c
  | n + 1 => c.next.skip n

/-- The number of next characters of a class. -/
def count (c : Cursor) (p : Char → Bool) : Nat := (c.rest.takeWhile p).length

/-- The place after the next characters of a class. -/
def skipWhile (c : Cursor) (p : Char → Bool) : Cursor := c.skip (c.count p)

/-- The fault that the character at a place is: of the text, or of its end. -/
def fail {α : Type} (c : Cursor) : Except Fault α :=
  .error (if c.rest.isEmpty then .ended else .malformed)

/-- The next characters of a class, and the place after them. -/
def take (c : Cursor) (p : Char → Bool) : List Char × Cursor :=
  (c.rest.takeWhile p, c.skipWhile p)

/-- A line break, read as a line feed unless it separates lines or paragraphs; nothing if there is none. -/
def takeBreak (c : Cursor) : List Char × Cursor :=
  match c.rest with
  | '\r' :: '\n' :: _ => (['\n'], c.skip 2)
  | x :: _ =>
    if x = '\u2028' ∨ x = '\u2029' then ([x], c.next)
    else if isBreak x then (['\n'], c.next)
    else ([], c)
  | [] => ([], c)

/-- Whether a line starts here that separates documents: three marks and a gap. -/
def atSeparator (c : Cursor) : Bool :=
  (c.rest.take 3 == ['-', '-', '-'] || c.rest.take 3 == ['.', '.', '.']) && isGap (c.ahead 3)

end Cursor

end InfluxKeeper.Yaml
