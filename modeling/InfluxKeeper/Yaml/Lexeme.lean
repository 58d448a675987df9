import InfluxKeeper.Json.Reader
import InfluxKeeper.Text.Utf8
import InfluxKeeper.Yaml.Token

/-!
# Lexemes of YAML

Readers of single lexemes: names and tags, and scalars in their five styles. A reader takes the place
where the lexeme starts and returns what it reads with the place after it. Lines of a scalar are folded: a
single line break between lines becomes a space, and of several the first is dropped.
-/

namespace InfluxKeeper.Yaml

open Json (hexDigit? hexValue?)

/-- A text that is malformed at a place. -/
def malformed {α : Type} : Except Fault α := .error .malformed

/-- Whether a character may stand in a name. -/
def isNameChar (c : Char) : Bool :=
  ('0' ≤ c && c ≤ '9') || ('A' ≤ c && c ≤ 'Z') || ('a' ≤ c && c ≤ 'z') || c == '-' || c == '_'

/-! ## Names and tags -/

/-- Reads the name after the mark of an anchor or alias. -/
def readName (c : Cursor) : Except Fault (String × Cursor) :=
  let (name, c) := c.next.take isNameChar
  if name.isEmpty then c.fail
  else if isGap c.peek || "?:,]\x7d%@\x60".toList.contains c.peek then .ok (String.ofList name, c)
  else malformed

/-- Whether a character may stand in a tag as it is. -/
def isTagChar (c : Char) : Bool := isNameChar c || ";/?:@&=+$,.!~*'()[]".toList.contains c

/-- Reads octets that are written as hexadecimal digits after percent signs. -/
def readOctets (fuel : Nat) (octets : List UInt8) (c : Cursor) : Except Fault (List UInt8 × Cursor) :=
  match fuel with
  | 0 => malformed
  | fuel + 1 =>
    if c.peek = '%' then
      match hexDigit? (c.ahead 1), hexDigit? (c.ahead 2) with
      | some high, some low => readOctets fuel (octets ++ [UInt8.ofNat (16 * high + low)]) (c.skip 3)
      | _, _ => (c.next.skipWhile fun x => (hexDigit? x).isSome).fail
    else .ok (octets, c)

/-- Reads the text of a tag. -/
def readTagText (fuel : Nat) (text : List Char) (c : Cursor) : Except Fault (List Char × Cursor) :=
  match fuel with
  | 0 => malformed
  | fuel + 1 =>
    if c.peek = '%' then
      match readOctets (c.rest.length + 1) [] c with
      | .error fault => .error fault
      | .ok (octets, c) =>
        match Text.Utf8.decode octets with
        | .ok letters => readTagText fuel (text ++ letters) c
        | .error _ => c.fail
    else if isTagChar c.peek then
      let (letters, c) := c.take isTagChar
      readTagText fuel (text ++ letters) c
    else if text.isEmpty then c.fail
    else .ok (text, c)

/-- Reads the text of a tag, at least one character. -/
def readTagUri (c : Cursor) : Except Fault (String × Cursor) :=
  (readTagText (c.rest.length + 1) [] c).map fun (text, c) => (String.ofList text, c)

/-- Reads the handle of a tag: an exclamation mark, or two with a name between them. -/
def readTagHandle (c : Cursor) : Except Fault (String × Cursor) :=
  if c.peek ≠ '!' then c.fail
  else
    let (name, d) := c.next.take isNameChar
    if d.peek = '!' then .ok (String.ofList ('!' :: name ++ ['!']), d.next)
    else if name.isEmpty && d.peek == ' ' then .ok ("!", d)
    else d.fail

/-- Whether a tag that starts here has a handle with a second exclamation mark. -/
def hasNamedHandle (c : Cursor) : Bool :=
  ((c.rest.drop 1).takeWhile fun x => x != ' ' && !isBreakOrEnd x).contains '!'

/-- Reads a tag. -/
def readTag (c : Cursor) : Except Fault (Token × Cursor) := do
  let (tag, c) ←
    if c.ahead 1 = '<' then
      let (suffix, c) ← readTagUri (c.skip 2)
      if c.peek = '>' then pure (Token.tag none suffix, c.next) else c.fail
    else if isGap (c.ahead 1) then pure (Token.tag none "!", c.next)
    else
      let (handle, c) ← if hasNamedHandle c then readTagHandle c else pure ("!", c.next)
      let (suffix, c) ← readTagUri c
      pure (Token.tag (some handle) suffix, c)
  if c.peek = ' ' ∨ isBreakOrEnd c.peek then return (tag, c) else malformed

/-! ## Directives -/

/-- Reads a number of a directive. Its end is found before it is read, so a text that ends with too many digits is at
fault for its flaw, if it has one. -/
def readDirectiveNumber (flaw : Option Fault) (c : Cursor) : Except Fault (Nat × Cursor) :=
  let (digits, c) := c.take Text.isAsciiDigit
  if digits.isEmpty then c.fail
  else if maxDigits < digits.length then
    let tooLong := Fault.scalar (.longInteger digits.length)
    .error (if c.rest.isEmpty then flaw.getD tooLong else tooLong)
  else .ok (Text.digitsValue digits, c)

/-- Reads the rest of a line that may hold a comment only. -/
def readLineRest (c : Cursor) : Except Fault Cursor :=
  let c := c.skipWhile (· == ' ')
  let c := if c.peek = '#' then c.skipWhile fun x => !isBreakOrEnd x else c
  if isBreakOrEnd c.peek then .ok c.takeBreak.2 else malformed

/-- Reads a directive of a text with a flaw or without one. -/
def readDirective (flaw : Option Fault) (c : Cursor) : Except Fault (Token × Cursor) := do
  let (name, c) := c.next.take isNameChar
  if name.isEmpty || !(c.peek == ' ' || isBreakOrEnd c.peek) then c.fail
  let (token, c) ←
    if name = "YAML".toList then
      let (major, c) ← readDirectiveNumber flaw (c.skipWhile (· == ' '))
      if c.peek ≠ '.' then c.fail
      let (_, c) ← readDirectiveNumber flaw c.next
      if c.peek = ' ' ∨ isBreakOrEnd c.peek then pure (Token.version major, c) else malformed
    else if name = "TAG".toList then
      let (handle, c) ← readTagHandle (c.skipWhile (· == ' '))
      if c.peek ≠ ' ' then c.fail
      let (uri, c) ← readTagUri (c.skipWhile (· == ' '))
      if c.peek = ' ' ∨ isBreakOrEnd c.peek then pure (Token.tagHandle handle uri, c) else malformed
    else pure (Token.otherDirective, c.skipWhile fun x => !isBreakOrEnd x)
  let c ← readLineRest c
  return (token, c)

/-! ## Block scalars -/

/-- What is done with the line breaks at the end of a block scalar. -/
inductive Chomping
  | strip
  | clip
  | keep
  deriving DecidableEq, Repr

/-- The chomping that a mark asks for. -/
def chomping? (c : Char) : Option Chomping :=
  if c = '+' then some .keep else if c = '-' then some .strip else none

/-- The marks after the start of a block scalar: chomping and indentation in either order. -/
def readBlockMarks (c : Cursor) : Except Fault ((Chomping × Option Nat) × Cursor) :=
  let indentation (c : Cursor) : Except Fault (Option Nat × Cursor) :=
    match Text.asciiDigit? c.peek with
    | some 0 => malformed
    | some n => .ok (some n, c.next)
    | none => .ok (none, c)
  let finish (chomping : Chomping) (n : Option Nat) (c : Cursor) :
      Except Fault ((Chomping × Option Nat) × Cursor) :=
    if c.peek = ' ' ∨ isBreakOrEnd c.peek then .ok ((chomping, n), c) else malformed
  match chomping? c.peek with
  | some chomping => do
    let (n, c) ← indentation c.next
    finish chomping n c
  | none => do
    let (n, c) ← indentation c
    match n, chomping? c.peek with
    | some _, some chomping => finish chomping n c.next
    | _, _ => finish .clip n c

/-- Reads empty lines, and spaces up to a column. -/
def readBreaks (fuel column : Nat) (breaks : List Char) (c : Cursor) : List Char × Cursor :=
  let c := c.skip (min (c.count (· == ' ')) (column - c.column))
  match fuel with
  | 0 => (breaks, c)
  | fuel + 1 =>
    if isBreak c.peek then
      let (b, c) := c.takeBreak
      readBreaks fuel column (breaks ++ b) c
    else (breaks, c)

/-- Reads empty lines and all spaces, and finds the greatest column of them. -/
def readIndentation (fuel greatest : Nat) (breaks : List Char) (c : Cursor) :
    (List Char × Nat) × Cursor :=
  match fuel with
  | 0 => ((breaks, greatest), c)
  | fuel + 1 =>
    if c.peek = ' ' then
      let c := c.next
      readIndentation fuel (max greatest c.column) breaks c
    else if isBreak c.peek then
      let (b, c) := c.takeBreak
      readIndentation fuel greatest (breaks ++ b) c
    else ((breaks, greatest), c)

/-- Whether a character is a space or a tab. -/
def isSpaceOrTab (c : Char) : Bool := c == ' ' || c == '\t'

/-- Reads the lines of a block scalar at a column, after line breaks that are not yet part of it. Returns
the text, the last line break, and the breaks after it. -/
def readBlockLines (fuel : Nat) (folded : Bool) (column : Nat) (text breaks : List Char) (c : Cursor) :
    (List Char × List Char × List Char) × Cursor :=
  match fuel with
  | 0 => ((text, [], breaks), c)
  | fuel + 1 =>
    let solid := !isSpaceOrTab c.peek
    let (line, c) := c.take fun x => !isBreakOrEnd x
    let text := text ++ breaks ++ line
    let (last, c) := c.takeBreak
    let (breaks, c) := readBreaks c.rest.length column [] c
    if c.column = column ∧ c.peek ≠ '\x00' then
      -- a line break is folded only between two lines that start with neither space nor tab
      let between :=
        if folded && last == ['\n'] && solid && !isSpaceOrTab c.peek then
          if breaks.isEmpty then [' '] else []
        else last
      readBlockLines fuel folded column (text ++ between) breaks c
    else ((text, last, breaks), c)

/-- Reads a block scalar whose parent is indented to a column. -/
def readBlockScalar (parent : Int) (folded : Bool) (c : Cursor) : Except Fault (String × Cursor) := do
  let ((chomping, increment), c) ← readBlockMarks c.next
  let c ← readLineRest c
  let least := (max (parent + 1) 1).toNat
  let (column, breaks, c) := match increment with
    | some n =>
      let column := least + n - 1
      let (breaks, c) := readBreaks c.rest.length column [] c
      (column, breaks, c)
    | none =>
      let ((breaks, greatest), c) := readIndentation (c.rest.length + 1) 0 [] c
      (max least greatest, breaks, c)
  let ((text, last, breaks), c) :=
    if c.column = column ∧ c.peek ≠ '\x00' then
      readBlockLines (c.rest.length + 1) folded column [] breaks c
    else (([], [], breaks), c)
  let text := match chomping with
    | .strip => text
    | .clip => text ++ last
    | .keep => text ++ last ++ breaks
  return (String.ofList text, c)

/-! ## Quoted scalars -/

/-- The character of an escape that is a backslash and one letter. -/
def escaped? (c : Char) : Option Char :=
  match c with
  | '0' => some '\x00'
  | 'a' => some '\x07'
  | 'b' => some '\x08'
  | 't' => some '\t'
  | '\t' => some '\t'
  | 'n' => some '\n'
  | 'v' => some '\x0b'
  | 'f' => some '\x0c'
  | 'r' => some '\r'
  | 'e' => some '\x1b'
  | ' ' => some ' '
  | '"' => some '"'
  | '\\' => some '\\'
  | '/' => some '/'
  | 'N' => some '\x85'
  | '_' => some '\xa0'
  | 'L' => some '\u2028'
  | 'P' => some '\u2029'
  | _ => none

/-- The number of digits of an escape that gives a code. -/
def codeLength? (c : Char) : Option Nat :=
  if c = 'x' then some 2 else if c = 'u' then some 4 else if c = 'U' then some 8 else none

/-- The character of a code. Half of a surrogate pair is no character and is read as the replacement
character. -/
def charOfCode (n : Nat) : Except Fault Char :=
  if 0x80000000 ≤ n then .error (.scalar .hugeCode)
  else if 0x110000 ≤ n then .error (.scalar .badCode)
  else if 0xD800 ≤ n ∧ n ≤ 0xDFFF then .ok '\uFFFD'
  else .ok (Char.ofNat n)

/-- Reads the empty lines within a quoted scalar. -/
def readQuotedBreaks (fuel : Nat) (breaks : List Char) (c : Cursor) :
    Except Fault (List Char × Cursor) :=
  match fuel with
  | 0 => malformed
  | fuel + 1 =>
    -- a quoted text may not go on beyond its document
    if c.atSeparator then (c.skip 3).fail
    else
      let c := c.skipWhile isSpaceOrTab
      if isBreak c.peek then
        let (b, c) := c.takeBreak
        readQuotedBreaks fuel (breaks ++ b) c
      else .ok (breaks, c)

/-- Reads an escape after its backslash. -/
def readEscape (c : Cursor) : Except Fault (List Char × Cursor) :=
  match escaped? c.peek, codeLength? c.peek with
  | some x, _ => .ok ([x], c.next)
  | none, some n =>
    let digits := c.next.rest.take n
    match hexValue? digits with
    | some code =>
      if digits.length = n then do
        let x ← charOfCode code
        return ([x], c.skip (n + 1))
      else (c.skip (n + 1)).fail
    | none => (c.next.skipWhile fun x => (hexDigit? x).isSome).fail
  | none, none =>
    if isBreak c.peek then readQuotedBreaks (c.rest.length + 1) [] c.takeBreak.2 else c.fail

/-- Reads the spaces within a quoted scalar, with the lines folded if they end a line. -/
def readQuotedSpaces (c : Cursor) : Except Fault (List Char × Cursor) :=
  let (spaces, c) := c.take isSpaceOrTab
  if c.peek = '\x00' then c.fail
  else if isBreak c.peek then do
    let (first, c) := c.takeBreak
    let (breaks, c) ← readQuotedBreaks (c.rest.length + 1) [] c
    let start := if first ≠ ['\n'] then first else if breaks.isEmpty then [' '] else []
    return (start ++ breaks, c)
  else .ok (spaces, c)

/-- Whether a character of a quoted scalar stands for itself in any quotes. -/
def isOrdinary (c : Char) : Bool := !(isGap c || c == '\'' || c == '"' || c == '\\')

/-- Reads a quoted scalar after its opening quote. -/
def readQuoted (fuel : Nat) (double : Bool) (text : List Char) (c : Cursor) :
    Except Fault (List Char × Cursor) :=
  match fuel with
  | 0 => malformed
  | fuel + 1 =>
    let (run, c) := c.take isOrdinary
    let text := text ++ run
    let x := c.peek
    if isGap x then
      match readQuotedSpaces c with
      | .ok (spaces, c) => readQuoted fuel double (text ++ spaces) c
      | .error fault => .error fault
    else if !double && x == '\'' && c.ahead 1 == '\'' then
      readQuoted fuel double (text ++ ['\'']) (c.skip 2)
    else if x = (if double then '"' else '\'') then .ok (text, c.next)
    else if double && x == '\\' then
      match readEscape c.next with
      | .ok (letters, c) => readQuoted fuel double (text ++ letters) c
      | .error fault => .error fault
    else readQuoted fuel double (text ++ [x]) c.next

/-- Reads a quoted scalar. -/
def readQuotedScalar (double : Bool) (c : Cursor) : Except Fault (String × Cursor) :=
  (readQuoted (c.rest.length + 1) double [] c.next).map fun (text, c) => (String.ofList text, c)

/-! ## Plain scalars -/

/-- The letters of a plain scalar up to a gap or a mark of structure. -/
def plainRun (inFlow : Bool) : List Char → List Char
  | [] => []
  | x :: rest =>
    let after := rest.headD '\x00'
    if isGap x || (x == ':' && (isGap after || (inFlow && ",[]\x7b\x7d".toList.contains after))) ||
        (inFlow && ",?[]\x7b\x7d".toList.contains x) then []
    else x :: plainRun inFlow rest

/-- Reads the empty lines within a plain scalar; none if documents are separated here. -/
def readPlainBreaks (fuel : Nat) (breaks : List Char) (c : Cursor) : Option (List Char) × Cursor :=
  match fuel with
  | 0 => (none, c)
  | fuel + 1 =>
    let c := c.skipWhile (· == ' ')
    if isBreak c.peek then
      let (b, c) := c.takeBreak
      if c.atSeparator then (none, c) else readPlainBreaks fuel (breaks ++ b) c
    else (some breaks, c)

/-- Reads the spaces after a run of a plain scalar, with the lines folded if they end a line. Also tells
whether they do. -/
def readPlainSpaces (c : Cursor) : (List Char × Bool) × Cursor :=
  let (spaces, c) := c.take (· == ' ')
  if isBreak c.peek then
    let (first, c) := c.takeBreak
    if c.atSeparator then (([], true), c)
    else
      match readPlainBreaks (c.rest.length + 1) [] c with
      | (none, c) => (([], true), c)
      | (some breaks, c) =>
        let start := if first ≠ ['\n'] then first else if breaks.isEmpty then [' '] else []
        ((start ++ breaks, true), c)
  else ((spaces, false), c)

/-- Reads a plain scalar after the spaces before its next run. Also tells whether its last run was
followed by a line break. -/
def readPlain (fuel : Nat) (parent : Int) (inFlow : Bool) (text spaces : List Char) (broken : Bool)
    (c : Cursor) : (List Char × Bool) × Cursor :=
  match fuel with
  | 0 => ((text, broken), c)
  | fuel + 1 =>
    let run := if c.peek = '#' then [] else plainRun inFlow c.rest
    if run.isEmpty then ((text, broken), c)
    else
      let text := text ++ spaces ++ run
      let ((spaces, broken), c) := readPlainSpaces (c.skip run.length)
      if spaces.isEmpty || c.peek == '#' || (!inFlow && decide ((c.column : Int) < parent + 1)) then
        ((text, broken), c)
      else readPlain fuel parent inFlow text spaces broken c

/-- Reads a plain scalar. -/
def readPlainScalar (parent : Int) (inFlow : Bool) (c : Cursor) : (String × Bool) × Cursor :=
  let ((text, broken), c) := readPlain (c.rest.length + 1) parent inFlow [] [] false c
  ((String.ofList text, broken), c)

end InfluxKeeper.Yaml
