import InfluxKeeper.Yaml.Lexeme
import InfluxKeeper.Yaml.Source

/-!
# From text to tokens

Tokens are found from left to right. Outside of brackets the structure follows from indentation: a mark
further to the right than the block around it opens a block, and what stands further to the left closes
it. Whether a scalar is a key shows only at the colon after it; then the token for the key is put in front
of the scalar. A key has to end on its line and within 1024 characters.

A text that is malformed has the tokens before its fault all the same. Documents before the fault are read
from them, so a later fault does not hide an earlier one.
-/

namespace InfluxKeeper.Yaml

/-- A place where a key may have started: the number of its first token, whether the text is malformed
if it is no key, and where it stands. -/
structure PossibleKey where
  token : Nat
  required : Bool
  index : Nat
  line : Nat
  column : Nat

/-- The state of finding tokens. The brackets and the block around the next token are given from the
inside out; every bracket, and the outermost level, may have one possible key. -/
structure Lexer where
  cursor : Cursor
  tokens : Array Token
  flowLevel : Nat
  indent : Int
  outerIndents : List Int
  keyAllowed : Bool
  possible : List (Nat × PossibleKey)
  done : Bool
  flaw : Option Fault

namespace Lexer

/-- The start of a text. A byte order mark in front of it is skipped. -/
def start (s : Source) : Lexer :=
  let c := Cursor.start s.text
  let c := if c.peek = '\uFEFF' then c.next else c
  ⟨c, #[], 0, -1, [], true, [], false, s.flaw⟩

/-- Adds a token. -/
def push (l : Lexer) (t : Token) : Lexer := { l with tokens := l.tokens.push t }

/-- Goes on to a place. -/
def goTo (l : Lexer) (c : Cursor) : Lexer := { l with cursor := c }

/-- Adds a token that takes some characters. -/
def mark (l : Lexer) (t : Token) (length : Nat) : Lexer := (l.push t).goTo (l.cursor.skip length)

/-! ## Possible keys -/

/-- Whether a possible key can be one no more: its line or the 1024 characters are over. -/
def isStale (l : Lexer) (k : PossibleKey) : Bool :=
  k.line != l.cursor.line || 1024 < l.cursor.index - k.index

/-- Drops the possible keys that can be none any more. -/
def dropStale (l : Lexer) : Except Fault Lexer :=
  if l.possible.any fun k => l.isStale k.2 && k.2.required then malformed
  else .ok { l with possible := l.possible.filter fun k => !l.isStale k.2 }

/-- Drops the possible key of this level. -/
def dropKey (l : Lexer) : Except Fault Lexer :=
  match l.possible.lookup l.flowLevel with
  | some k =>
    if k.required then malformed
    else .ok { l with possible := l.possible.filter (·.1 != l.flowLevel) }
  | none => .ok l

/-- Notes that a key may start here. -/
def noteKey (l : Lexer) : Except Fault Lexer :=
  if l.keyAllowed then do
    -- at the indentation of a block nothing but a key can stand
    let required := l.flowLevel == 0 && l.indent == (l.cursor.column : Int)
    let l ← l.dropKey
    let k : PossibleKey :=
      ⟨l.tokens.size, required, l.cursor.index, l.cursor.line, l.cursor.column⟩
    return { l with possible := (l.flowLevel, k) :: l.possible }
  else .ok l

/-- Says whether a key may come next. -/
def allowKey (l : Lexer) (allowed : Bool) : Lexer := { l with keyAllowed := allowed }

/-! ## Blocks -/

/-- Closes the blocks that are indented further than a column. -/
def closeBlocks (l : Lexer) (column : Int) : List Int → Lexer
  | [] => l
  | outer :: rest =>
    if column < l.indent then
      closeBlocks { l.push .blockEnd with indent := outer, outerIndents := rest } column rest
    else l

/-- Closes the blocks that are indented further than a column, unless brackets are open. -/
def unwind (l : Lexer) (column : Int) : Lexer :=
  if l.flowLevel = 0 then l.closeBlocks column l.outerIndents else l

/-- Opens a block at a column if it is indented further than the one around it. -/
def openBlock (l : Lexer) (column : Nat) : Bool × Lexer :=
  if l.indent < column then
    (true, { l with indent := column, outerIndents := l.indent :: l.outerIndents })
  else (false, l)

/-! ## Marks -/

/-- Ends the text. -/
def finish (l : Lexer) : Except Fault Lexer := do
  let l ← (l.unwind (-1)).dropKey
  return { l.push .streamEnd with keyAllowed := false, possible := [], done := true }

/-- A directive. -/
def directive (l : Lexer) : Except Fault Lexer := do
  let l ← (l.unwind (-1)).dropKey
  let (t, c) ← readDirective l.flaw l.cursor
  return ((l.allowKey false).push t).goTo c

/-- A line that separates documents. -/
def separator (l : Lexer) (t : Token) : Except Fault Lexer := do
  let l ← (l.unwind (-1)).dropKey
  return (l.allowKey false).mark t 3

/-- An opening bracket. -/
def openBracket (l : Lexer) (t : Token) : Except Fault Lexer := do
  let l ← l.noteKey
  return { (l.allowKey true).mark t 1 with flowLevel := l.flowLevel + 1 }

/-- A closing bracket. One that closes nothing is a token as well, which has no place in any node. -/
def closeBracket (l : Lexer) (t : Token) : Except Fault Lexer := do
  let l ← l.dropKey
  return { (l.allowKey false).mark t 1 with flowLevel := l.flowLevel - 1 }

/-- A comma between brackets. -/
def comma (l : Lexer) : Except Fault Lexer := do
  let l ← (l.allowKey true).dropKey
  return l.mark .flowEntry 1

/-- Opens a block for a mark outside of brackets, where a key has to be allowed. -/
def openFor (l : Lexer) (t : Token) : Except Fault Lexer :=
  if l.flowLevel = 0 then
    if l.keyAllowed then
      let (opened, l) := l.openBlock l.cursor.column
      .ok (if opened then l.push t else l)
    else malformed
  else .ok l

/-- The dash of an item. -/
def dash (l : Lexer) : Except Fault Lexer := do
  let l ← ((← l.openFor .blockSequenceStart).allowKey true).dropKey
  return l.mark .blockEntry 1

/-- The question mark of a key. -/
def question (l : Lexer) : Except Fault Lexer := do
  let l ← ((← l.openFor .blockMappingStart).allowKey (l.flowLevel == 0)).dropKey
  return l.mark .key 1

/-- Puts a token in front of the token of a number. -/
def insertAt (l : Lexer) (number : Nat) (t : Token) : Lexer :=
  { l with tokens := l.tokens.insertIdxIfInBounds number t }

/-- The colon of a value. If a key may have started at this level, it did. -/
def colon (l : Lexer) : Except Fault Lexer :=
  match l.possible.lookup l.flowLevel with
  | some k =>
    let l := { l with possible := l.possible.filter (·.1 != l.flowLevel) }.insertAt k.token .key
    let l :=
      if l.flowLevel = 0 then
        let (opened, l) := l.openBlock k.column
        if opened then l.insertAt k.token .blockMappingStart else l
      else l
    .ok ((l.allowKey false).mark .value 1)
  | none => do
    let l ← ((← l.openFor .blockMappingStart).allowKey (l.flowLevel == 0)).dropKey
    return l.mark .value 1

/-- A token that may start a key, after which no key may come. -/
def nodePart (l : Lexer) (read : Cursor → Except Fault (Token × Cursor)) : Except Fault Lexer := do
  let l ← l.noteKey
  let (t, c) ← read l.cursor
  return ((l.allowKey false).push t).goTo c

/-- A block scalar. -/
def blockScalar (l : Lexer) (folded : Bool) : Except Fault Lexer := do
  let l ← (l.allowKey true).dropKey
  let (text, c) ← readBlockScalar l.indent folded l.cursor
  return (l.push (.scalar text false)).goTo c

/-- A plain scalar. A key may come after it if it ends with its line. -/
def plainScalar (l : Lexer) : Except Fault Lexer := do
  let l ← l.noteKey
  let ((text, broken), c) := readPlainScalar l.indent (l.flowLevel != 0) l.cursor
  return ((l.allowKey broken).push (.scalar text true)).goTo c

/-! ## The next token -/

/-- Goes on to the next token, over spaces, comments and line breaks. A key may come first in a line. -/
def skipToToken (l : Lexer) : Nat → Lexer
  | 0 => l
  | fuel + 1 =>
    let c := l.cursor.skipWhile (· == ' ')
    let c := if c.peek = '#' then c.skipWhile fun x => !isBreakOrEnd x else c
    if isBreak c.peek then
      { l with cursor := c.takeBreak.2, keyAllowed := l.keyAllowed || l.flowLevel == 0 }.skipToToken fuel
    else l.goTo c

/-- Whether a plain scalar may start here. -/
def startsPlain (l : Lexer) : Bool :=
  let x := l.cursor.peek
  !(isGap x || "-?:,[]\x7b\x7d#&*!|>'\"%@\x60".toList.contains x) ||
    (!isGap (l.cursor.ahead 1) && (x == '-' || (l.flowLevel == 0 && (x == '?' || x == ':'))))

/-- Finds the token that starts at the cursor. -/
def token (l : Lexer) : Except Fault Lexer :=
  let c := l.cursor
  let x := c.peek
  let gapAfter := isGap (c.ahead 1)
  let inFlow := l.flowLevel != 0
  if x = '\x00' then l.finish
  else if x = '%' ∧ c.column = 0 then l.directive
  else if x = '-' ∧ c.column = 0 ∧ c.atSeparator then l.separator .documentStart
  else if x = '.' ∧ c.column = 0 ∧ c.atSeparator then l.separator .documentEnd
  else if x = '[' then l.openBracket .flowSequenceStart
  else if x = '\x7b' then l.openBracket .flowMappingStart
  else if x = ']' then l.closeBracket .flowSequenceEnd
  else if x = '\x7d' then l.closeBracket .flowMappingEnd
  else if x = ',' then l.comma
  else if x = '-' ∧ gapAfter then l.dash
  else if x = '?' ∧ (inFlow || gapAfter) then l.question
  else if x = ':' ∧ (inFlow || gapAfter) then l.colon
  else if x = '*' then l.nodePart fun c => (readName c).map fun r => (.alias r.1, r.2)
  else if x = '&' then l.nodePart fun c => (readName c).map fun r => (.anchor r.1, r.2)
  else if x = '!' then l.nodePart readTag
  else if x = '|' ∧ !inFlow then l.blockScalar false
  else if x = '>' ∧ !inFlow then l.blockScalar true
  else if x = '\'' then l.nodePart fun c => (readQuotedScalar false c).map fun r =>
    (.scalar r.1 false, r.2)
  else if x = '"' then l.nodePart fun c => (readQuotedScalar true c).map fun r =>
    (.scalar r.1 false, r.2)
  else if l.startsPlain then l.plainScalar
  else malformed

/-- The tokens that stand fast: those before any that may still become a key. -/
def settled (l : Lexer) : List Token :=
  l.tokens.toList.take (l.possible.foldl (fun n k => min n k.2.token) l.tokens.size)

/-- A step on the way to the next token, which goes wrong if it leads to the end of a text with a flaw. -/
def withinText (l : Lexer) : Except Fault Lexer :=
  match l.flaw with
  | some flaw => if l.cursor.rest.isEmpty then .error flaw else .ok l
  | none => .ok l

/-- Finds the next token. -/
def advance (l : Lexer) : Except Fault Lexer := do
  let l ← (l.skipToToken (l.cursor.rest.length + 1)).withinText
  let l ← l.dropStale
  (← (l.unwind l.cursor.column).token).withinText

/-- The fault of the text that a fault is: where the text ends too early, it is its flaw if it has one. -/
def blame (l : Lexer) : Fault → Fault
  | .ended => l.flaw.getD .malformed
  | fault => fault

/-- Finds tokens until the end or a fault. Each takes at least a character, so one step for every character
and one for the end suffice. What stands fast does so before the next token is looked for; a fault on the
way to it does not free a token that was waiting for its colon. -/
def run (l : Lexer) : Nat → List Token × Option Fault
  | 0 => (l.settled, some .malformed)
  | fuel + 1 =>
    match l.dropStale with
    | .error fault => (l.settled, some fault)
    | .ok l =>
      match l.advance with
      | .error fault => (l.settled, some (l.blame fault))
      | .ok next => if next.done then (next.tokens.toList, none) else next.run fuel

end Lexer

/-- The tokens of a text, up to a fault if there is one. -/
def tokens (s : Source) : List Token × Option Fault := (Lexer.start s).run (s.text.length + 2)

end InfluxKeeper.Yaml
