import InfluxKeeper.Number.Shortest
import InfluxKeeper.Text.Quoted
import InfluxKeeper.Value.Text

/-!
# Writing JSON

A value is written as JSON on one line, in ASCII: a comma and a space between items, a colon and a space
after a key, and an escape for every other character. Keys that are no texts are written as texts.
-/

namespace InfluxKeeper.Json

open Text

/-- A code escape. -/
def codeEscape (n : Nat) : List Char := '\\' :: 'u' :: hexDigits 4 n

/-- A character as it stands in a JSON text; one beyond the first 2^16 is written as a surrogate pair. -/
def writeChar (c : Char) : List Char :=
  if c = '"' then ['\\', '"']
  else if c = '\\' then ['\\', '\\']
  else if c = '\n' then ['\\', 'n']
  else if c = '\r' then ['\\', 'r']
  else if c = '\t' then ['\\', 't']
  else if c = '\x08' then ['\\', 'b']
  else if c = '\x0c' then ['\\', 'f']
  else
    let n := c.toNat
    if 0x20 ≤ n ∧ n < 0x7F then [c]
    else if n < 0x10000 then codeEscape n
    else
      let m := n - 0x10000
      codeEscape (0xD800 + m / 0x400) ++ codeEscape (0xDC00 + m % 0x400)

/-- A text in JSON. -/
def writeText (s : String) : String :=
  String.ofList ('"' :: s.toList.flatMap writeChar ++ ['"'])

/-- A scalar in JSON. -/
def writeScalar : Scalar → String
  | .null => "null"
  | .bool b => if b then "true" else "false"
  | .int n => toString n
  | .float .nan => "NaN"
  | .float (.infinite negative) => if negative then "-Infinity" else "Infinity"
  | .float x => x.shortest
  | .text s => writeText s
  | s => writeText s.shown

/-- A key in JSON. -/
def writeKey : Scalar → String
  | .text s => writeText s
  | s => writeText (writeScalar s)

mutual

/-- A value in JSON. -/
def write : Value → String
  | .scalar s => writeScalar s
  | .list items => "[" ++ ", ".intercalate (writeItems items) ++ "]"
  | .map entries => "\x7b" ++ ", ".intercalate (writeMembers entries) ++ "\x7d"
  | .tuple items => "[" ++ ", ".intercalate (writeItems items) ++ "]"
  | .set items => "[" ++ ", ".intercalate (items.map writeScalar) ++ "]"

/-- The items of a list in JSON. -/
def writeItems : List Value → List String
  | [] => []
  | item :: rest => write item :: writeItems rest

/-- The members of an object in JSON. -/
def writeMembers : List (Scalar × Value) → List String
  | [] => []
  | (key, item) :: rest => (writeKey key ++ ": " ++ write item) :: writeMembers rest

end

end InfluxKeeper.Json
