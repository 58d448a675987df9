import InfluxKeeper.Yaml.Style

/-!
# Writing YAML

Documents are written in block style, two columns deeper for every level. A list under a key is not
indented, a list or map inside a list starts on the line of its mark, and what is empty is written in
brackets. A set is an indented list. A key that is empty, long or has several lines is written after a
mark of its own; a carriage return is escaped and makes no line.
-/

namespace InfluxKeeper.Yaml

/-- The length from which on a key has a mark of its own. -/
def longKey : Nat := 128

/-- The length of the tag that counts as a part of a key. -/
def tagLength : Scalar → Nat
  | .bool _ => 6
  | .null => 6
  | .float _ => 7
  | _ => 5

/-- Whether a key can stand in front of its colon. -/
def isSimpleKey (key : Scalar) : Bool :=
  let s := match key with
    | .text s => s.toList
    | key => writtenScalar 0 0 false key
  !s.isEmpty && !(s.any fun c => isBreak c && c != '\r') && tagLength key + s.length < longKey

/-- What stands between a mark and a block: the block starts a line of its own under a key. -/
def opening (underKey : Bool) : List Char := if underKey then ['\n'] else [' ']

mutual

/-- What stands after a mark, from a column on, in a block with an indentation: the rest of the line, and
the lines that belong to it. -/
def afterMark (indent column : Nat) (underKey : Bool) : Value → List Char
  | .scalar s => ' ' :: writtenScalar (indent + 2) (column + 1) true s ++ ['\n']
  | .list items =>
    if items.isEmpty then " []\n".toList
    else opening underKey ++ writtenItems (if underKey then indent else indent + 2) underKey items
  | .tuple items =>
    if items.isEmpty then " []\n".toList
    else opening underKey ++ writtenItems (if underKey then indent else indent + 2) underKey items
  | .set items => '\n' :: items.flatMap fun s =>
      spaces (indent + 2) ++ '-' :: ' ' :: writtenScalar (indent + 4) (indent + 4) true s ++ ['\n']
  | .map entries =>
    if entries.isEmpty then " \x7b\x7d\n".toList
    else opening underKey ++ writtenEntries (indent + 2) underKey entries

/-- The items of a list, the first at the start of a line or where its indentation is already there. -/
def writtenItems (indent : Nat) (lineStart : Bool) : List Value → List Char
  | [] => []
  | item :: rest =>
    (if lineStart then spaces indent else []) ++ '-' :: afterMark indent (indent + 1) false item ++
      writtenItems indent true rest

/-- The entries of a map, the first at the start of a line or where its indentation is already there. -/
def writtenEntries (indent : Nat) (lineStart : Bool) : List (Scalar × Value) → List Char
  | [] => []
  | (key, item) :: rest =>
    let start := if lineStart then spaces indent else []
    let entry :=
      if isSimpleKey key then
        let text := writtenScalar (indent + 2) indent false key
        text ++ ':' :: afterMark indent (indent + text.length + 1) true item
      else
        '?' :: ' ' :: writtenScalar (indent + 2) (indent + 2) true key ++ '\n' :: spaces indent ++
          ':' :: afterMark indent (indent + 1) false item
    start ++ entry ++ writtenEntries indent true rest

end

/-- A document. -/
def writtenDocument (entries : Entries) : List Char :=
  if entries.isEmpty then "\x7b\x7d\n".toList else writtenEntries 0 true entries

/-- Documents, with a line between two of them. -/
def write (documents : List Entries) : String :=
  String.ofList ("---\n".toList.intercalate (documents.map writtenDocument))

end InfluxKeeper.Yaml
