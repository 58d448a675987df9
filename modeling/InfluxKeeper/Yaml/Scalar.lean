import InfluxKeeper.Json.Reader
import InfluxKeeper.Number.Decimal
import InfluxKeeper.Text.Lower
import InfluxKeeper.Yaml.Token

/-!
# Which scalar a text is

A plain text is a truth value, a number, a point in time or null if it has the form of one, and a text
otherwise. The tag of a scalar decides how its text is read. Digits may be separated by underscores, and
numbers written to base 2, 8, 16 or, with colons, 60.
-/

namespace InfluxKeeper.Yaml

open Text

namespace Tag

/-- What the standard tags start with. -/
def standard : String := "tag:yaml.org,2002:"

def null : String := standard ++ "null"
def boolean : String := standard ++ "bool"
def integer : String := standard ++ "int"
def float : String := standard ++ "float"
def binary : String := standard ++ "binary"
def time : String := standard ++ "timestamp"
def omap : String := standard ++ "omap"
def pairs : String := standard ++ "pairs"
def set : String := standard ++ "set"
def text : String := standard ++ "str"
def sequence : String := standard ++ "seq"
def mapping : String := standard ++ "map"
def merge : String := standard ++ "merge"
def value : String := standard ++ "value"
def indicator : String := standard ++ "yaml"

end Tag

/-! ## Forms -/

/-- A text without a line feed at its end, which makes no difference to its form. -/
def dropLineFeed (s : List Char) : List Char := if s.getLast? = some '\n' then s.dropLast else s

/-- The words for true and false. -/
def booleans : List (String × Bool) := [
  ("yes", true), ("no", false), ("true", true), ("false", false), ("on", true), ("off", false)]

/-- Whether a text is a word in small letters, in capitals, or with a capital first. -/
def spells (word : String) (s : List Char) : Bool :=
  let w := word.toList
  s == w || s == w.map Char.toUpper || s == (w.head?.map Char.toUpper).toList ++ w.drop 1

/-- Whether a text has the form of a truth value. -/
def isBoolean (s : List Char) : Bool := booleans.any fun b => spells b.1 s

/-- Whether a text has the form of null. -/
def isNull (s : List Char) : Bool := s.isEmpty || s == ['~'] || spells "null" s

/-- A text without a sign in front. -/
def unsigned : List Char → List Char
  | '+' :: rest => rest
  | '-' :: rest => rest
  | s => s

/-- Whether all characters of a text are digits of a class or underscores. -/
def digitsOr (digit : Char → Bool) (s : List Char) : Bool := s.all fun c => c == '_' || digit c

/-- Whether a text is a digit followed by digits and underscores. -/
def startsWithDigit (s : List Char) : Bool :=
  match s with
  | c :: rest => isAsciiDigit c && digitsOr isAsciiDigit rest
  | [] => false

/-- The parts of a text between separators. -/
def splitOn (separator : Char) (s : List Char) : List (List Char) :=
  match s with
  | [] => [[]]
  | c :: rest =>
    if c = separator then [] :: splitOn separator rest
    else
      match splitOn separator rest with
      | part :: parts => (c :: part) :: parts
      | [] => [[c]]

/-- Whether a text is a part of a number to base 60: one digit, or two of which the first is below 6. -/
def isSixtieth (s : List Char) : Bool :=
  match s with
  | [a] => isAsciiDigit a
  | [a, b] => ('0' ≤ a && a ≤ '5') && isAsciiDigit b
  | _ => false

/-- Whether a text is a whole number to base 60: a first part and at least one more. -/
def isSexagesimal (first : List Char → Bool) (s : List Char) : Bool :=
  match splitOn ':' s with
  | a :: b :: rest => first a && (b :: rest).all isSixtieth
  | _ => false

/-- Whether a text starts with a digit that is not zero and has digits and underscores after it. -/
def startsNonzero (s : List Char) : Bool := startsWithDigit s && s.head? != some '0'

/-- Whether a text has the form of a whole number. -/
def isInteger (s : List Char) : Bool :=
  match unsigned s with
  | ['0'] => true
  | '0' :: 'b' :: rest => !rest.isEmpty && digitsOr (fun c => c == '0' || c == '1') rest
  | '0' :: 'x' :: rest => !rest.isEmpty && digitsOr (fun c => (Json.hexDigit? c).isSome) rest
  | '0' :: rest => !rest.isEmpty && digitsOr (fun c => '0' ≤ c && c ≤ '7') rest
  | rest => startsNonzero rest || isSexagesimal startsNonzero rest

/-- Whether a text is nothing or an exponent: a letter, a sign and digits. -/
def isExponent (s : List Char) : Bool :=
  match s with
  | [] => true
  | e :: sign :: digits =>
    (e == 'e' || e == 'E') && (sign == '+' || sign == '-') && !digits.isEmpty &&
      digits.all isAsciiDigit
  | _ => false

/-- Whether a text is digits and underscores with an exponent after them. -/
def isFraction (s : List Char) : Bool :=
  isExponent (s.dropWhile fun c => c == '_' || isAsciiDigit c)

/-- Whether a text has the form of a number with a point. -/
def isFloat (s : List Char) : Bool :=
  let body := unsigned s
  let whole := body.takeWhile (· != '.')
  match body.dropWhile (· != '.') with
  | '.' :: rest =>
    (startsWithDigit whole && isFraction rest) ||
      (s.head? == some '.' && startsWithDigit (rest.take 1) && isFraction rest) ||
      (isSexagesimal startsWithDigit whole && digitsOr isAsciiDigit rest) ||
      (whole.isEmpty && (rest == "inf".toList || rest == "Inf".toList || rest == "INF".toList)) ||
      (s.head? == some '.' && (rest == "nan".toList || rest == "NaN".toList || rest == "NAN".toList))
  | _ => false

/-! ## Points in time -/

/-- The parts of a point in time: a date, and perhaps a time of day with a fraction and a distance from
universal time in minutes. -/
structure TimeParts where
  year : Nat
  month : Nat
  day : Nat
  clock : Option (Nat × Nat × Nat)
  fraction : List Char
  offset : Option Int

/-- Takes from `least` to `most` digits. -/
def takeDigits? (least most : Nat) (s : List Char) : Option (Nat × List Char) :=
  let digits := (s.take most).takeWhile isAsciiDigit
  if digits.length < least then none else some (digitsValue digits, s.drop digits.length)

/-- Takes a given character. -/
def takeChar? (c : Char) : List Char → Option (List Char)
  | x :: rest => if x = c then some rest else none
  | [] => none

/-- Takes the spaces and tabs in front. -/
def skipSpaces (s : List Char) : List Char := s.dropWhile fun c => c == ' ' || c == '\t'

/-- Reads what a point in time ends with: nothing, or a distance from universal time. -/
def offsetParts? (s : List Char) : Option (Option Int) :=
  if s.isEmpty then some none
  else
    match skipSpaces s with
    | ['Z'] => some (some 0)
    | sign :: rest =>
      if sign = '+' ∨ sign = '-' then do
        let (hours, rest) ← takeDigits? 1 2 rest
        let (minutes, rest) ←
          if rest.isEmpty then some (0, rest) else takeDigits? 2 2 (← takeChar? ':' rest)
        if rest.isEmpty then
          let distance : Int := hours * 60 + minutes
          some (some (if sign = '-' then -distance else distance))
        else none
      else none
    | [] => none

/-- The parts of a text that has the form of a point in time. -/
def timeParts? (s : List Char) : Option TimeParts := do
  let (year, rest) ← takeDigits? 4 4 s
  let (month, rest) ← takeDigits? 1 2 (← takeChar? '-' rest)
  let (day, rest) ← takeDigits? 1 2 (← takeChar? '-' rest)
  match rest with
  | [] => some ⟨year, month, day, none, [], none⟩
  | c :: afterC =>
    let rest ←
      if c = 'T' ∨ c = 't' then some afterC
      else if c = ' ' ∨ c = '\t' then some (skipSpaces rest)
      else none
    let (hour, rest) ← takeDigits? 1 2 rest
    let (minute, rest) ← takeDigits? 2 2 (← takeChar? ':' rest)
    let (second, rest) ← takeDigits? 2 2 (← takeChar? ':' rest)
    let fraction := match rest with
      | '.' :: digits => digits.takeWhile isAsciiDigit
      | _ => []
    let rest := match rest with
      | '.' :: digits => digits.dropWhile isAsciiDigit
      | _ => rest
    let offset ← offsetParts? rest
    some ⟨year, month, day, some (hour, minute, second), fraction, offset⟩

/-- Whether a text has the form of a point in time. A date alone has all its digits. -/
def isTime (s : List Char) : Bool :=
  match timeParts? s with
  | some parts => parts.clock.isSome || s.length == 10
  | none => false

/-- The tag of a plain text by its form. A line feed alone has none. -/
def Tag.ofText (text : String) : String :=
  let s := text.toList
  let s := if s = ['\n'] then s else dropLineFeed s
  if isBoolean s then boolean
  else if isFloat s then float
  else if isInteger s then integer
  else if s = ['<', '<'] then merge
  else if isNull s then null
  else if isTime s then time
  else if s = ['='] then value
  else if s = ['!'] ∨ s = ['&'] ∨ s = ['*'] then indicator
  else Tag.text

/-! ## Values -/

/-- The truth value of a word in any case. -/
def readBoolean (s : String) : Except ScalarFault Bool :=
  let word := toLower s
  match booleans.lookup word with
  | some b => .ok b
  | none => .error (.badBoolean word)

/-- A number without underscores, and whether it is negative. -/
def signedDigits (s : String) : Except ScalarFault (Bool × List Char) :=
  match s.toList.filter (· != '_') with
  | [] => .error .emptyNumber
  | '-' :: rest => .ok (true, rest)
  | '+' :: rest => .ok (false, rest)
  | digits => .ok (false, digits)

/-- The number that digits read as to a base, between blanks and after a sign. The base may be marked once
more in front of the digits, by a zero and a letter. -/
def digitsToBase (base : Nat) (letter : Char) (text : List Char) : Except ScalarFault Int :=
  let (negative, body) := splitSign ((strip isWhiteSpace text).map asciiDigitOf)
  let digits := match body with
    | '0' :: c :: rest => if c.toLower = letter then rest else body
    | _ => body
  let values := digits.map Json.hexDigit?
  -- what is no digit at all counts as one too great
  if digits.isEmpty || values.any fun v => base ≤ v.getD base then
    .error (.badInteger base (String.ofList text))
  else .ok (withSign negative (values.foldl (fun n v => base * n + v.getD 0) 0))

/-- The number that decimal digits read as. -/
def decimalDigits (digits : List Char) : Except ScalarFault Int :=
  (readSettingInteger (String.ofList digits)).mapError fun
    | .malformed => .badInteger 10 (String.ofList digits)
    | .tooLong n => .longInteger n

/-- The number whose parts to base 60 are given, the greatest first. -/
def sexagesimal (parts : List Int) : Int := parts.foldl (fun n part => 60 * n + part) 0

/-- A whole number. -/
def readInteger (s : String) : Except ScalarFault Int := do
  let (negative, digits) ← signedDigits s
  let magnitude ← match digits with
    | [] => .error .emptyNumber
    | ['0'] => pure 0
    | '0' :: 'b' :: rest => digitsToBase 2 'b' rest
    | '0' :: 'x' :: rest => digitsToBase 16 'x' rest
    | '0' :: _ => digitsToBase 8 'o' digits
    | _ =>
      if digits.contains ':' then sexagesimal <$> (splitOn ':' digits).mapM decimalDigits
      else decimalDigits digits
  return if negative then -magnitude else magnitude

/-- The number that a text with a point reads as. -/
def pointNumber (s : List Char) : Except ScalarFault Binary64 :=
  match readDecimal? s with
  | some x => .ok x
  | none => .error (.badFloat (String.ofList s))

/-- The number whose parts to base 60 are given, the least first, added up from the least. A power of 60
beyond all doubles is a fault. -/
def sexagesimalSum (sum : Binary64) (base : Nat) : List Binary64 → Except ScalarFault Binary64
  | [] => .ok sum
  | part :: rest =>
    let weight := Binary64.ofInt base
    if weight.ratio?.isNone then .error .hugeWeight
    else sexagesimalSum (sum.add (part.mul weight)) (60 * base) rest

/-- The sign and the characters of a number with a point. -/
def signedPoint (s : String) : Except ScalarFault (Bool × List Char) :=
  signedDigits (toLower (String.ofList (s.toList.filter (· != '_'))))

/-- Whether a text is the word for NaN. -/
def isNaNWord (s : String) : Bool :=
  match signedPoint s with
  | .ok (_, digits) => digits == ".nan".toList
  | .error _ => false

/-- A number with a point. -/
def readFloat (s : String) : Except ScalarFault Binary64 := do
  let (negative, digits) ← signedPoint s
  let magnitude ←
    if digits = ".inf".toList then pure (Binary64.infinite false)
    else if digits = ".nan".toList then pure Binary64.nan
    else if digits.contains ':' then do
      let parts ← (splitOn ':' digits).mapM pointNumber
      sexagesimalSum (.zero false) 1 parts.reverse
    else pointNumber digits
  return if negative then magnitude.neg else magnitude

/-- A date that is in the calendar. -/
def checkDate (year month day : Nat) : Except ScalarFault Date :=
  if year = 0 then .error (.timeRange "year 0 is out of range")
  else
    match daysInMonth? year month with
    | none => .error (.timeRange "month must be in 1..12")
    | some days =>
      if day = 0 ∨ days < day then .error (.timeRange "day is out of range for month")
      else .ok ⟨year, month, day⟩

/-- A point in time, or a date. -/
def readTime (s : String) : Except ScalarFault Scalar :=
  match timeParts? (dropLineFeed s.toList) with
  | none => .error .badTime
  | some parts =>
    match parts.clock with
    | none => (checkDate parts.year parts.month parts.day).map .date
    | some (hour, minute, second) => do
      match parts.offset with
      | some minutes => if 1440 ≤ minutes.natAbs then throw (.offsetRange minutes)
      | none => pure ()
      let date ← checkDate parts.year parts.month parts.day
      if 24 ≤ hour then throw (.timeRange "hour must be in 0..23")
      if 60 ≤ minute then throw (.timeRange "minute must be in 0..59")
      if 60 ≤ second then throw (.timeRange "second must be in 0..59")
      let six := parts.fraction.take 6
      let micro := digitsValue six * Nat.pow 10 (6 - six.length)
      return .time ⟨date, hour, minute, second, micro, parts.offset⟩

/-- The value of a character of the 64 that octets are written with. -/
def sixBits? (c : Char) : Option Nat :=
  if 'A' ≤ c ∧ c ≤ 'Z' then some (c.toNat - 65)
  else if 'a' ≤ c ∧ c ≤ 'z' then some (c.toNat - 71)
  else if '0' ≤ c ∧ c ≤ '9' then some (c.toNat + 4)
  else if c = '+' then some 62
  else if c = '/' then some 63
  else none

/-- Reads octets written in four characters for every three, with the number of characters of the group
under way, the bits left over, and the number of padding characters after it. Other characters are
skipped, and so is all after the padding. -/
def readGroups (characters bits padding : Nat) (octets : List UInt8) : List Char → Option (List UInt8)
  | [] => if characters = 0 then some octets.reverse else none
  | c :: rest =>
    if c = '=' then
      if 2 ≤ characters ∧ 4 ≤ characters + padding + 1 then some octets.reverse
      else readGroups characters bits (if 2 ≤ characters then padding + 1 else padding) octets rest
    else
      match sixBits? c with
      | none => readGroups characters bits padding octets rest
      | some v =>
        match characters with
        | 0 => readGroups 1 v 0 octets rest
        | 1 => readGroups 2 (v % 16) 0 (UInt8.ofNat (bits * 4 + v / 16) :: octets) rest
        | 2 => readGroups 3 (v % 4) 0 (UInt8.ofNat (bits * 16 + v / 4) :: octets) rest
        | _ => readGroups 0 0 0 (UInt8.ofNat (bits * 64 + v) :: octets) rest

/-- The octets that a text in ASCII gives, three for every four characters. -/
def readBinary? (s : String) : Option (List UInt8) :=
  if s.toList.all fun c => c.toNat < 0x80 then readGroups 0 0 0 [] s.toList else none

end InfluxKeeper.Yaml
