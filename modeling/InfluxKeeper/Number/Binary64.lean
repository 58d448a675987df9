import InfluxKeeper.Text.Digit
import InfluxKeeper.Number.Integer

/-!
# Double-precision numbers

A finite number is a sign, a mantissa below 2^53 and a power of two, in the one form where the mantissa
is as large as its range and the least exponent allow; so equal numbers of one sign are equal values.
`ofRatio` rounds a quotient to the nearest number, a tie to the even mantissa. All arithmetic is exact.
-/

namespace InfluxKeeper

/-- A double-precision number. -/
inductive Binary64
  | nan
  | infinite (negative : Bool)
  | finite (negative : Bool) (mantissa : Nat) (exponent : Int)
  deriving DecidableEq, Repr

namespace Binary64

/-- The least exponent of a mantissa. -/
def minExponent : Int := -1074

/-- The greatest exponent of a mantissa. -/
def maxExponent : Int := 971

/-- Zero with a sign. -/
def zero (negative : Bool) : Binary64 := .finite negative 0 minExponent

/-- The quotient of two whole numbers, rounded to nearest, a tie to the even neighbour. -/
def roundDiv (num den : Nat) : Nat :=
  let q := num / den
  let twice := 2 * (num % den)
  if twice < den then q else if den < twice then q + 1 else q + q % 2

/-- A quotient times a power of two, again as a quotient. -/
def scaleTwo (num den : Nat) (power : Int) : Nat × Nat :=
  if power < 0 then (num, den * Nat.pow 2 power.natAbs) else (num * Nat.pow 2 power.natAbs, den)

/-- The number nearest to a quotient with a positive denominator. -/
def ofRatio (negative : Bool) (num den : Nat) : Binary64 :=
  if num = 0 then zero negative
  else
    -- the power of two of the leading bit, at most one too great
    let guess : Int := (num.log2 : Int) - den.log2
    let (n, d) := scaleTwo num den (-guess)
    let top := if d ≤ n then guess else guess - 1
    -- below the full mantissas the least exponent stays, and bits are lost to rounding
    let exponent := max (top - 52) minExponent
    let (n, d) := scaleTwo num den (-exponent)
    let mantissa := roundDiv n d
    -- rounding up may carry into one more bit
    let (mantissa, exponent) :=
      if mantissa = Nat.pow 2 53 then (Nat.pow 2 52, exponent + 1) else (mantissa, exponent)
    if mantissa = 0 then zero negative
    else if maxExponent < exponent then .infinite negative
    else .finite negative mantissa exponent

/-- The number nearest to a whole number. -/
def ofInt (n : Int) : Binary64 := ofRatio (n < 0) n.natAbs 1

/-- The number nearest to decimal digits times a power of ten. The zeros in front do not count, and
numbers beyond the range of all doubles are not worked out. -/
def ofDecimal (negative : Bool) (digits : List Char) (power : Int) : Binary64 :=
  let digits := digits.dropWhile (· == '0')
  let value := Text.digitsValue digits
  let places : Int := digits.length + power
  if digits.isEmpty then zero negative
  else if 400 < places then .infinite negative
  else if places < -400 then zero negative
  else if power < 0 then ofRatio negative value (Nat.pow 10 power.natAbs)
  else ofRatio negative (value * Nat.pow 10 power.natAbs) 1

/-- The sign of a number. -/
def negative : Binary64 → Bool
  | .nan => false
  | .infinite negative => negative
  | .finite negative _ _ => negative

/-- The magnitude of a finite number as a quotient. -/
def ratio? : Binary64 → Option (Nat × Nat)
  | .finite _ mantissa exponent => some (scaleTwo mantissa 1 exponent)
  | _ => none

/-- A number with its sign turned. -/
def neg : Binary64 → Binary64
  | .nan => .nan
  | .infinite negative => .infinite (!negative)
  | .finite negative mantissa exponent => .finite (!negative) mantissa exponent

/-- Turning the sign twice changes nothing. -/
@[simp] theorem neg_neg (x : Binary64) : x.neg.neg = x := by cases x <;> simp [neg]

/-- The sum of two numbers, rounded. A sum of zero is negative only if both numbers are. -/
def add (x y : Binary64) : Binary64 :=
  match x.ratio?, y.ratio? with
  | some (a, b), some (c, d) =>
    let num := withSign x.negative a * d + withSign y.negative c * b
    ofRatio (if num = 0 then x.negative && y.negative else num < 0) num.natAbs (b * d)
  | some _, none => y
  | none, some _ => x
  | none, none => if x = y then x else .nan

/-- The greatest whole number that is not above a finite number. -/
def floor? (x : Binary64) : Option Int :=
  match x.ratio? with
  | some (num, den) => some (Int.fdiv (withSign x.negative num) den)
  | none => none

/-- How far a number is above the whole number below it, rounded; zero for an infinity or NaN. -/
def fraction (x : Binary64) : Binary64 :=
  match x.floor? with
  | some whole => x.add (ofInt (-whole))
  | none => zero false

/-- The whole number nearest to the magnitude of a number; of two, the greater. -/
def nearest (x : Binary64) : Nat :=
  match x.ratio? with
  | some (num, den) => (2 * num + den) / (2 * den)
  | none => 0

/-- Whether a number is zero. -/
def isZero : Binary64 → Bool
  | .finite _ mantissa _ => mantissa == 0
  | _ => false

/-- The product of two numbers, rounded. Zero times an infinity is NaN. -/
def mul (x y : Binary64) : Binary64 :=
  let negative := x.negative != y.negative
  match x.ratio?, y.ratio? with
  | some (a, b), some (c, d) => ofRatio negative (a * c) (b * d)
  | _, _ => if x = .nan ∨ y = .nan ∨ x.isZero ∨ y.isZero then .nan else .infinite negative

/-- The whole number that a number is, if it is one. -/
def toInt? (x : Binary64) : Option Int :=
  match x.ratio? with
  | some (num, den) => if num % den = 0 then some (withSign x.negative (num / den)) else none
  | none => none

/-- Equality as numbers: the two zeros are equal, and a NaN equals nothing. -/
def sameNumber (x y : Binary64) : Bool :=
  match x, y with
  | .nan, _ => false
  | _, .nan => false
  | _, _ => (x.isZero && y.isZero) || x == y

/-- A number equal to itself is no NaN. -/
theorem sameNumber_self_iff (x : Binary64) : x.sameNumber x = true ↔ x ≠ .nan := by
  cases x <;> simp [sameNumber]

/-- The exponent part of a decimal number: a letter, a sign and digits. -/
def readExponent : List Char → Option Int
  | [] => some 0
  | e :: rest =>
    if e = 'e' ∨ e = 'E' then
      let (negative, digits) := splitSign rest
      if digits.isEmpty || !digits.all Text.isAsciiDigit then none
      else some (withSign negative (Text.digitsValue digits))
    else none

/-- A decimal number: a sign, digits, a fraction and an exponent, of which the fraction and the exponent
may be missing. One of the two runs of digits may be empty. -/
def ofText? (s : List Char) : Option Binary64 :=
  let (negative, body) := splitSign s
  let whole := body.takeWhile Text.isAsciiDigit
  let afterWhole := body.dropWhile Text.isAsciiDigit
  let (fraction, rest) := match afterWhole with
    | '.' :: more => (more.takeWhile Text.isAsciiDigit, more.dropWhile Text.isAsciiDigit)
    | more => ([], more)
  let digits := whole ++ fraction
  if digits.isEmpty then none
  else
    match readExponent rest with
    | none => none
    | some power =>
      some (ofDecimal negative digits (power - fraction.length))

end Binary64

end InfluxKeeper
