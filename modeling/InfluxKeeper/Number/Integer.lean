import InfluxKeeper.Text.Blank
import InfluxKeeper.Text.Digit
import InfluxKeeper.Text.Quoted

/-!
# Whole numbers in text

Two spellings of whole numbers are read. A setting may use the decimal digits of any script; a record
field has ASCII digits and may carry a fraction of zeros. Both allow white space around the number, a
sign, and single underscores between digits, and both stop at the same number of digits.

A field is read in two steps: a text that is no plain number is read again without what a plain number
does not have. `readPlainInteger_of_digits` says which number a plain one is.
-/

namespace InfluxKeeper

open Text

/-- The most digits that a number in a text may have. -/
def maxDigits : Nat := 4300

/-- The wording for a number with too many digits. -/
def tooManyDigits (count : Nat) : String :=
  "Exceeds the limit (" ++ toString maxDigits ++
    " digits) for integer string conversion: value has " ++ toString count ++
    " digits; use sys.set_int_max_str_digits() to increase the limit"

/-- The sign in front of a text, and what follows it. -/
def splitSign : List Char → Bool × List Char
  | '-' :: rest => (true, rest)
  | '+' :: rest => (false, rest)
  | rest => (false, rest)

/-- A magnitude with its sign. -/
def withSign (negative : Bool) (n : Nat) : Int := if negative then -(n : Int) else n

/-- Whether underscores stand between digits only: none at an end, and no two side by side. -/
def underscoresBetween : List Char → Bool
  | [] => true
  | '_' :: _ => false
  | [_] => true
  | _ :: '_' :: rest => !rest.isEmpty && underscoresBetween rest
  | _ :: c :: rest => underscoresBetween (c :: rest)

/-- Why a text is not a whole number. -/
inductive IntegerFault
  | malformed
  | tooLong (digits : Nat)
  deriving DecidableEq, Repr

/-- The number that decimal digits of any script read as. -/
def digitsOfAnyScript (digits : List Char) : Nat :=
  digits.foldl (fun n c => 10 * n + (digitValue? c).getD 0) 0

/-- A whole number in the spelling of settings. -/
def readSettingInteger (s : String) : Except IntegerFault Int :=
  let (negative, body) := splitSign (s.toList.dropWhile isWhiteSpace)
  let inNumber (c : Char) : Bool := c == '_' || (digitValue? c).isSome
  let number := body.takeWhile inNumber
  let digits := number.filter (· != '_')
  if digits.isEmpty || !underscoresBetween number then .error .malformed
  else if maxDigits < digits.length then .error (.tooLong digits.length)
  else if (body.dropWhile inNumber).all isWhiteSpace then
    .ok (withSign negative (digitsOfAnyScript digits))
  else .error .malformed

/-- The wording for a setting that is not a whole number. -/
def settingIntegerMessage (s : String) : IntegerFault → String
  | .malformed => "invalid literal for int() with base 10: " ++
      String.ofList ((quoted s).toList.take 200)
  | .tooLong digits => tooManyDigits digits

/-- A plain whole number: a minus perhaps, and then either the digit zero alone or digits the first of
which is another. It is too long by its characters, whatever comes after its digits. -/
def readPlainInteger (s : List Char) : Except IntegerFault Int :=
  let negative := s.head? == some '-'
  let body := if negative then s.drop 1 else s
  let digits := body.takeWhile isAsciiDigit
  let count := s.length - body.length + digits.length
  if body = ['0'] then .ok 0
  else if digits.isEmpty || digits.head? == some '0' then .error .malformed
  else if maxDigits < count then .error (.tooLong count)
  else if digits.length = body.length then .ok (withSign negative (digitsValue digits))
  else .error .malformed

/-- Digits without a zero in front are a plain number, unless there are too many of them. -/
theorem readPlainInteger_of_digits {digits : List Char} (some' : digits ≠ [])
    (all : ∀ c ∈ digits, isAsciiDigit c = true) (first : digits.head? ≠ some '0')
    (short : digits.length ≤ maxDigits) : readPlainInteger digits = .ok (digitsValue digits) := by
  have minus : digits.head? ≠ some '-' := by
    intro h
    have := all '-' (List.mem_of_mem_head? h)
    revert this
    decide
  have whole : digits.takeWhile isAsciiDigit = digits := by
    clear some' first short minus
    induction digits with
    | nil => rfl
    | cons c rest ih => simp_all
  have zero : digits ≠ ['0'] := fun h => first (by simp [h])
  simp [readPlainInteger, minus, whole, zero, some', first, withSign, Nat.not_lt.2 short]

/-- What follows zeros and underscores, given the last of them: it starts with another digit, with a
minus, or with that last character and a point. None if it starts otherwise; the last character alone if
nothing follows. -/
def afterZeros (last : Char) : List Char → Option (List Char)
  | [] => some [last]
  | c :: rest =>
    if c = '0' ∨ c = '_' then afterZeros c rest
    else if isAsciiDigit c ∨ c = '-' then some (c :: rest)
    else if c = '.' then some (last :: c :: rest)
    else none

/-- A number without the zeros in front of it and the underscores among them, behind its minus if it has
one; none if it starts with something else. -/
def dropLeadingZeros : List Char → Option (List Char)
  | [] => none
  | c :: rest =>
    if c = '-' then (dropLeadingZeros rest).map (c :: ·)
    else if c = '0' then afterZeros c rest
    else if isAsciiDigit c then some (c :: rest)
    else none

/-- A text without a final point and zeros, if it has both. -/
def dropZeroFraction (s : List Char) : List Char :=
  let fraction := (s.dropWhile (· != '.')).drop 1
  if !fraction.isEmpty && fraction.all (· == '0') then s.takeWhile (· != '.') else s

/-- A text without underscores, if they stand between other characters only. -/
def dropUnderscores (s : List Char) : List Char :=
  if underscoresBetween s then s.filter (· != '_') else s

/-- A text without what a plain number does not have: white space around it, a plus, zeros in front, a
fraction of zeros, and underscores. None if no number starts there. -/
def plainSpelling? (s : List Char) : Option (List Char) :=
  let unsigned? := match strip isWhiteSpace s with
    | '+' :: rest => if rest.head? == some '-' then none else some rest
    | trimmed => some trimmed
  (unsigned?.bind dropLeadingZeros).map fun s => dropUnderscores (dropZeroFraction s)

/-- A whole number in the spelling of record fields. -/
def readFieldInteger (s : String) : Except IntegerFault Int :=
  match readPlainInteger s.toList with
  | .error .malformed =>
    match plainSpelling? s.toList with
    | some plain => readPlainInteger plain
    | none => .error .malformed
  | other => other

end InfluxKeeper
