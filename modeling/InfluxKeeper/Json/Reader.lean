import InfluxKeeper.Value.Basic

/-!
# Reading JSON

A JSON text is read as a value. Readers take the unread rest of the text and return a value with the rest
after it; a flaw carries the rest at the place it is found, so that its position is the length of what was
read before. NaN and the infinities are read as numbers, and a key given twice keeps its last value.

Values are read at any depth of nesting. An interpreter that recurses into them gives up at some depth; this
recursion limit depends on the interpreter and its stack, and is outside the model.
-/

namespace InfluxKeeper.Json

open Text

/-- What is wrong with a JSON text. -/
inductive Flaw
  | byteOrderMark
  | value
  | propertyName
  | colon
  | comma
  | unterminatedText
  | controlCharacter
  | badEscape
  | badCodeEscape
  | extra
  deriving DecidableEq, Repr

/-- The wording of a flaw. -/
def Flaw.message : Flaw → String
  | .byteOrderMark => "Unexpected UTF-8 BOM (decode using utf-8-sig)"
  | .value => "Expecting value"
  | .propertyName => "Expecting property name enclosed in double quotes"
  | .colon => "Expecting ':' delimiter"
  | .comma => "Expecting ',' delimiter"
  | .unterminatedText => "Unterminated string starting at"
  | .controlCharacter => "Invalid control character at"
  | .badEscape => "Invalid \\escape"
  | .badCodeEscape => "Invalid \\uXXXX escape"
  | .extra => "Extra data"

/-- Why reading stops: a flaw with the unread rest at its place, or a whole number with too many
digits. -/
inductive Stop
  | flaw (f : Flaw) (rest : List Char)
  | tooLong (digits : Nat)

/-- The text after blanks. -/
def skipBlanks (s : List Char) : List Char :=
  s.dropWhile fun c => c == ' ' || c == '\t' || c == '\n' || c == '\r'

/-- The value of a hexadecimal digit. -/
def hexDigit? (c : Char) : Option Nat :=
  if '0' ≤ c ∧ c ≤ '9' then some (c.toNat - 48)
  else if 'a' ≤ c ∧ c ≤ 'f' then some (c.toNat - 87)
  else if 'A' ≤ c ∧ c ≤ 'F' then some (c.toNat - 55)
  else none

/-- The number that hexadecimal digits read as. -/
def hexValue? (digits : List Char) : Option Nat :=
  digits.foldl (fun n c => do return 16 * (← n) + (← hexDigit? c)) (some 0)

/-- The character of an escape that is a backslash and one letter. -/
def simpleEscape? : Char → Option Char
  | '"' => some '"'
  | '\\' => some '\\'
  | '/' => some '/'
  | 'b' => some '\x08'
  | 'f' => some '\x0c'
  | 'n' => some '\n'
  | 'r' => some '\r'
  | 't' => some '\t'
  | _ => none

/-- The four digits of a code escape, after which at least one character has to follow. -/
def takeCode (s : List Char) : Except Stop (Nat × List Char) :=
  match hexValue? (s.take 4) with
  | some n => if s.length ≤ 4 then .error (.flaw .badCodeEscape ('u' :: s)) else .ok (n, s.drop 4)
  | none => .error (.flaw .badCodeEscape ('u' :: s))

/-- The character of a code escape, after its letter. Two halves of a surrogate pair make one character;
a half alone stands for no character and is read as the replacement character. -/
def takeCodeEscape (s : List Char) : Except Stop (Char × List Char) := do
  let (high, rest) ← takeCode s
  if 0xD800 ≤ high ∧ high ≤ 0xDBFF then
    match rest with
    | '\\' :: 'u' :: more =>
      -- a second code that is cut short is left for the letters after the first
      if more.length ≤ 4 then return ('\uFFFD', rest)
      let (low, more) ← takeCode more
      if 0xDC00 ≤ low ∧ low ≤ 0xDFFF then
        return (Char.ofNat (0x10000 + (high - 0xD800) * 0x400 + (low - 0xDC00)), more)
      else return ('\uFFFD', rest)
    | _ => return ('\uFFFD', rest)
  else if 0xDC00 ≤ high ∧ high ≤ 0xDFFF then return ('\uFFFD', rest)
  else return (Char.ofNat high, rest)

/-- Reads a text after its opening quote, given the letters so far in reverse and the rest of the text at
that quote. The fuel bounds the number of letters. -/
def readText (fuel : Nat) (opening letters : List Char) (s : List Char) : Except Stop (String × List Char) :=
  match fuel, s with
  | 0, _ => .error (.flaw .unterminatedText opening)
  | _ + 1, [] => .error (.flaw .unterminatedText opening)
  | fuel + 1, c :: rest =>
    if c = '"' then .ok (String.ofList letters.reverse, rest)
    else if c = '\\' then
      match rest with
      | [] => .error (.flaw .unterminatedText opening)
      | 'u' :: code => do
        let (letter, rest) ← takeCodeEscape code
        readText fuel opening (letter :: letters) rest
      | e :: rest =>
        match simpleEscape? e with
        | some letter => readText fuel opening (letter :: letters) rest
        | none => .error (.flaw .badEscape s)
    else if c.toNat < 0x20 then .error (.flaw .controlCharacter s)
    else readText fuel opening (c :: letters) rest

/-- The digits of a number's whole part: a zero, or digits that do not start with one. -/
def wholePart (s : List Char) : List Char :=
  match s with
  | '0' :: _ => ['0']
  | _ => s.takeWhile isAsciiDigit

/-- The point and digits after a number's whole part, if there are any. -/
def fractionPart : List Char → List Char
  | '.' :: rest =>
    let digits := rest.takeWhile isAsciiDigit
    if digits.isEmpty then [] else '.' :: digits
  | _ => []

/-- The exponent of a number, if there is one. -/
def exponentPart : List Char → List Char
  | e :: rest =>
    if e = 'e' ∨ e = 'E' then
      let sign := rest.take 1 |>.filter fun c => c == '+' || c == '-'
      let digits := (rest.drop sign.length).takeWhile isAsciiDigit
      if digits.isEmpty then [] else e :: sign ++ digits
    else []
  | [] => []

/-- Reads a number after its sign. -/
def readNumber (start : List Char) (negative : Bool) (s : List Char) : Except Stop (Value × List Char) :=
  let whole := wholePart s
  let rest := s.drop whole.length
  let fraction := fractionPart rest
  let rest := rest.drop fraction.length
  let power := exponentPart rest
  let rest := rest.drop power.length
  if whole.isEmpty then .error (.flaw .value start)
  else if fraction.isEmpty && power.isEmpty then
    if maxDigits < whole.length then .error (.tooLong whole.length)
    else .ok (.int (withSign negative (digitsValue whole)), rest)
  else
    match Binary64.ofText? ((if negative then ['-'] else []) ++ whole ++ fraction ++ power) with
    | some x => .ok (.float x, rest)
    | none => .error (.flaw .value start)

/-- The words that stand for values. -/
def words : List (String × Value) := [
  ("null", .null), ("true", .bool true), ("false", .bool false), ("NaN", .float .nan),
  ("Infinity", .float (.infinite false)), ("-Infinity", .float (.infinite true))]

/-- Reads a word or a number. -/
def readPlain (s : List Char) : Except Stop (Value × List Char) :=
  match words.find? fun w => w.1.toList.isPrefixOf s with
  | some (word, value) => .ok (value, s.drop word.length)
  | none =>
    match s with
    | '-' :: rest => readNumber s true rest
    | _ => readNumber s false s

mutual

/-- Reads a value. Two steps of fuel for every character suffice, as every second step takes one. -/
def readValue (fuel : Nat) (s : List Char) : Except Stop (Value × List Char) :=
  match fuel with
  | 0 => .error (.flaw .value s)
  | fuel + 1 =>
    match s with
    | '"' :: rest => do
      let (t, rest) ← readText (rest.length + 1) s [] rest
      return (.text t, rest)
    | '\x7b' :: rest =>
      match skipBlanks rest with
      | '\x7d' :: rest => .ok (.map [], rest)
      | rest => do
        let (entries, rest) ← readMembers fuel [] rest
        return (.map entries, rest)
    | '[' :: rest =>
      match skipBlanks rest with
      | ']' :: rest => .ok (.list [], rest)
      | rest => do
        let (items, rest) ← readItems fuel rest
        return (.list items, rest)
    | _ => readPlain s

/-- Reads the items of a list up to its end. -/
def readItems (fuel : Nat) (s : List Char) : Except Stop (List Value × List Char) :=
  match fuel with
  | 0 => .error (.flaw .value s)
  | fuel + 1 => do
    let (item, rest) ← readValue fuel s
    match skipBlanks rest with
    | ']' :: rest => return ([item], rest)
    | ',' :: rest =>
      let (items, rest) ← readItems fuel (skipBlanks rest)
      return (item :: items, rest)
    | rest => throw (.flaw .comma rest)

/-- Reads the members of an object up to its end and enters them after those read before. -/
def readMembers (fuel : Nat) (entries : Entries) (s : List Char) : Except Stop (Entries × List Char) :=
  match fuel with
  | 0 => .error (.flaw .value s)
  | fuel + 1 =>
    match s with
    | '"' :: rest => do
      let (key, rest) ← readText (rest.length + 1) s [] rest
      match skipBlanks rest with
      | ':' :: rest =>
        let (value, rest) ← readValue fuel (skipBlanks rest)
        let entries := entries.insert (.text key) value
        match skipBlanks rest with
        | '\x7d' :: rest => return (entries, rest)
        | ',' :: rest => readMembers fuel entries (skipBlanks rest)
        | rest => throw (.flaw .comma rest)
      | rest => throw (.flaw .colon rest)
    | _ => .error (.flaw .propertyName s)

end

/-- Why a text is no JSON: a flaw and its position, or a whole number with too many digits. -/
inductive Error
  | malformed (flaw : Flaw) (line column position : Nat)
  | tooLong (digits : Nat)
  deriving DecidableEq, Repr

/-- The wording of an error. -/
def Error.message : Error → String
  | .malformed flaw line column position =>
    flaw.message ++ ": line " ++ toString line ++ " column " ++ toString column ++ " (char " ++
      toString position ++ ")"
  | .tooLong digits => tooManyDigits digits

/-- A flaw at a rest of a text, with its position: lines and columns are counted from one. -/
def flawAt (s : List Char) (flaw : Flaw) (rest : List Char) : Error :=
  let position := s.length - rest.length
  let before := s.take position
  let line := before.count '\n' + 1
  let column := (before.reverse.takeWhile (· != '\n')).length + 1
  .malformed flaw line column position

/-- Reads a text as one value with blanks around it. -/
def readAll (s : List Char) : Except Stop Value :=
  match s with
  | '\uFEFF' :: _ => .error (.flaw .byteOrderMark s)
  | _ => do
    let (value, rest) ← readValue (2 * s.length + 2) (skipBlanks s)
    match skipBlanks rest with
    | [] => return value
    | rest => throw (.flaw .extra rest)

/-- The value of a JSON text. -/
def read (s : String) : Except Error Value :=
  match readAll s.toList with
  | .ok value => .ok value
  | .error (.flaw flaw rest) => .error (flawAt s.toList flaw rest)
  | .error (.tooLong digits) => .error (.tooLong digits)

end InfluxKeeper.Json
