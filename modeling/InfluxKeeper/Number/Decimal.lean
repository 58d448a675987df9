import InfluxKeeper.Number.Binary64

/-!
# Decimal numbers in text

A decimal number may be written in the digits of any script, with white space around it and single
underscores between digits; the infinities and NaN have names in letters of either case.
-/

namespace InfluxKeeper

open Text

/-- A character with the digits of any script as ASCII digits. -/
def asciiDigitOf (c : Char) : Char :=
  match digitValue? c with
  | some n => Char.ofNat ('0'.toNat + n)
  | none => c

/-- Whether every underscore of a text stands between two ASCII digits, given the character before. -/
def underscoresInDigits (before : Char) : List Char → Bool
  | [] => before != '_'
  | c :: rest =>
    (if c = '_' then isAsciiDigit before else before != '_' || isAsciiDigit c) &&
      underscoresInDigits c rest

/-- The names of the infinities and NaN, without a sign. -/
def namedNumber? (negative : Bool) (word : List Char) : Option Binary64 :=
  let word := word.map Char.toLower
  if word = "inf".toList ∨ word = "infinity".toList then some (.infinite negative)
  else if word = "nan".toList then some .nan
  else none

/-- The decimal number that a text reads as. -/
def readDecimal? (s : List Char) : Option Binary64 :=
  let trimmed := (strip isWhiteSpace s).map asciiDigitOf
  let (negative, word) := splitSign trimmed
  match namedNumber? negative word with
  | some x => some x
  | none =>
    if underscoresInDigits ' ' trimmed then Binary64.ofText? (trimmed.filter (· != '_')) else none

end InfluxKeeper
