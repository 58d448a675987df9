import InfluxKeeper.Number.Binary64
import InfluxKeeper.Time.Timestamp

/-!
# Reading points in time

A point in time is given as text (a date, a separator, a time of day, perhaps a distance from universal
time), as text of a date alone, or as a number of seconds from the start of 1970. Numbers beyond 2·10^10
count milliseconds. The checks of a date run from left to right, and the first that fails is reported.
-/

namespace InfluxKeeper.Time

open Text

/-- What is wrong with a text or number that gives no point in time. -/
inductive Flaw
  | tooShort
  | yearCharacter
  | monthCharacter
  | dayCharacter
  | separator
  | monthRange
  | dayRange
  | extra
  | yearZero
  | tooLate
  | tooEarly
  | notANumber
  deriving DecidableEq, Repr

/-- The wording of a flaw. -/
def Flaw.message : Flaw → String
  | .tooShort => "input is too short"
  | .yearCharacter => "invalid character in year"
  | .monthCharacter => "invalid character in month"
  | .dayCharacter => "invalid character in day"
  | .separator => "invalid date separator, expected `-`"
  | .monthRange => "month value is outside expected range of 1-12"
  | .dayRange => "day value is outside expected range"
  | .extra => "unexpected extra characters at the end of the input"
  | .yearZero => "year 0 is out of range"
  | .tooLate => "dates after 9999 are not supported as unix timestamps"
  | .tooEarly => "dates before 0000 are not supported as unix timestamps"
  | .notANumber => "NaN values not permitted"

/-- Reads the given number of digits, or fails with the given flaw. -/
def takeDigits (count : Nat) (flaw : Flaw) (s : List Char) : Except Flaw (Nat × List Char) :=
  let digits := s.take count
  if digits.length = count ∧ digits.all isAsciiDigit then .ok (digitsValue digits, s.drop count)
  else .error flaw

/-- Reads one given character. -/
def takeChar (c : Char) (flaw : Flaw) : List Char → Except Flaw (List Char)
  | d :: rest => if d = c then .ok rest else .error flaw
  | [] => .error flaw

/-- Reads a date at the start of a text. Ten octets are the least that a date has. -/
def readDatePart (s : List Char) : Except Flaw (Date × List Char) := do
  if (String.ofList s).utf8ByteSize < 10 then throw .tooShort
  let (year, s) ← takeDigits 4 .yearCharacter s
  let s ← takeChar '-' .separator s
  let (month, s) ← takeDigits 2 .monthCharacter s
  let s ← takeChar '-' .separator s
  let (day, s) ← takeDigits 2 .dayCharacter s
  match daysInMonth? year month with
  | none => throw .monthRange
  | some days => if day < 1 ∨ days < day then throw .dayRange else return (⟨year, month, day⟩, s)

/-- Reads two digits below a bound. -/
def takeTwo? (bound : Nat) (s : List Char) : Option (Nat × List Char) :=
  match takeDigits 2 .extra s with
  | .ok (n, rest) => if n < bound then some (n, rest) else none
  | .error _ => none

/-- Reads a colon. -/
def takeColon? : List Char → Option (List Char)
  | ':' :: rest => some rest
  | _ => none

/-- The millionths that the digits of a fraction stand for; further digits are dropped. -/
def microOf (digits : List Char) : Nat :=
  let six := digits.take 6
  digitsValue six * Nat.pow 10 (6 - six.length)

/-- Reads the seconds of a time of day with their fraction; both may be missing. -/
def takeSeconds? (s : List Char) : Option ((Nat × Nat) × List Char) :=
  match takeColon? s with
  | none => some ((0, 0), s)
  | some rest => do
    let (second, rest) ← takeTwo? 60 rest
    match rest with
    | c :: fraction =>
      if c = '.' ∨ c = ',' then
        let digits := fraction.takeWhile isAsciiDigit
        if digits.isEmpty then none
        else some ((second, microOf digits), fraction.dropWhile isAsciiDigit)
      else some ((second, 0), rest)
    | [] => some ((second, 0), rest)

/-- Reads the distance from universal time at the end of a text; none if the text is used up. -/
def readOffset? (s : List Char) : Option (Option Int) :=
  match s with
  | [] => some none
  | ['Z'] => some (some 0)
  | ['z'] => some (some 0)
  | sign :: rest =>
    if sign = '+' ∨ sign = '-' ∨ sign = '\u2212' then do
      let (hours, rest) ← takeTwo? 24 rest
      let (minutes, rest) ← takeTwo? 60 ((takeColon? rest).getD rest)
      if rest.isEmpty then
        let distance : Int := hours * 60 + minutes
        some (some (if sign = '+' then distance else -distance))
      else none
    else none

/-- Reads the time of day after a date. -/
def readClock? (date : Date) (s : List Char) : Option Timestamp :=
  match s with
  | c :: rest =>
    if c = 'T' ∨ c = 't' ∨ c = ' ' ∨ c = '_' then do
      let (hour, rest) ← takeTwo? 24 rest
      let rest ← takeColon? rest
      let (minute, rest) ← takeTwo? 60 rest
      let ((second, micro), rest) ← takeSeconds? rest
      let offset ← readOffset? rest
      some ⟨date, hour, minute, second, micro, offset⟩
    else none
  | [] => none

/-- The number of seconds beyond which a number counts milliseconds. -/
def millisecondsAbove : Nat := 20000000000

/-- The point in time of seconds and microseconds, within the years 0 to 9999. -/
def ofSeconds (seconds : Int) (micro : Nat) : Except Flaw Timestamp :=
  if seconds < -62167219200 then .error .tooEarly
  else if 253402300799 < seconds then .error .tooLate
  else .ok (Timestamp.ofSeconds seconds micro)

/-- The point in time of a whole number. -/
def ofInt (n : Int) : Except Flaw Timestamp :=
  if n.natAbs ≤ millisecondsAbove then ofSeconds n 0
  else
    let seconds := Int.fdiv n 1000
    ofSeconds seconds ((n - seconds * 1000) * 1000).toNat

/-- Whether a double counts milliseconds. -/
def countsMilliseconds (x : Binary64) : Bool :=
  match x.ratio? with
  | some (num, den) => millisecondsAbove * den < num
  | none => false

/-- The point in time of a double. What it has beyond a whole number of seconds or milliseconds is
rounded to the nearest microsecond. -/
def ofBinary64 (x : Binary64) : Except Flaw Timestamp :=
  match x.floor? with
  | none => .error (if x = .nan then .notANumber else if x.negative then .tooEarly else .tooLate)
  | some whole =>
    let inMilliseconds := countsMilliseconds x
    let seconds := if inMilliseconds then Int.fdiv whole 1000 else whole
    let milliseconds := if inMilliseconds then (whole - seconds * 1000).toNat else 0
    let more := (x.fraction.mul (.ofInt (if inMilliseconds then 1000 else 1000000))).nearest
    let micro := milliseconds * 1000 + more
    ofSeconds (seconds + (micro / 1000000 : Nat)) (micro % 1000000)

/-- The greatest 64-bit number. -/
def maxInt64 : Int := 9223372036854775807

/-- Whether a whole number has 64 bits. -/
def isInt64 (n : Int) : Bool := -maxInt64 - 1 ≤ n && n ≤ maxInt64

/-- The whole number that a text of sign and digits is; its digits have to be a 64-bit number. -/
def wholeText? (s : List Char) : Option Int :=
  let (negative, digits) := splitSign s
  let n := digitsValue digits
  if digits.isEmpty || !digits.all isAsciiDigit || !isInt64 n then none else some (withSign negative n)

/-- The decimal number that a text with a point is. The point may follow the sign, and an exponent may
follow the point. -/
def pointText? (s : List Char) : Option Binary64 :=
  if ((splitSign s).2.dropWhile isAsciiDigit).head? = some '.' then Binary64.ofText? s else none

/-- Why a value is no point in time: read as a point in time, or read as a date alone. -/
inductive Fault
  | asTime (flaw : Flaw)
  | asDate (flaw : Flaw)
  deriving DecidableEq, Repr

/-- A date alone, if the text is one; what is wrong with it otherwise. -/
def readDate (s : List Char) : Except Flaw Date :=
  match readDatePart s with
  | .ok (date, []) => .ok date
  | other =>
    -- a number stands for the date of the point in time that it is
    match wholeText? s with
    | some n => (ofInt n).map (·.date)
    | none =>
      match other with
      | .ok _ => .error .extra
      | .error flaw => .error flaw

/-- No point in time lies in year 0. -/
def rejectYearZero (t : Timestamp) : Except Fault Timestamp :=
  if t.date.year = 0 then .error (.asTime .yearZero) else .ok t

/-- The point in time that a text gives: date and time, or a number, or a date alone. -/
def ofText (s : List Char) : Except Fault Timestamp :=
  let dateAndTime : Option Timestamp :=
    match readDatePart s with
    | .ok (date, rest) => readClock? date rest
    | .error _ => none
  let number : Option Timestamp :=
    match wholeText? s, pointText? s with
    | some n, _ => (ofInt n).toOption
    | none, some x => (ofBinary64 x).toOption
    | none, none => none
  match dateAndTime <|> number with
  | some t => rejectYearZero t
  | none =>
    match readDate s with
    | .ok date => rejectYearZero (.midnight date)
    | .error flaw => .error (.asDate flaw)

end InfluxKeeper.Time
