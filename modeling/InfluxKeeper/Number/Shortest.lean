import InfluxKeeper.Number.Binary64

/-!
# Decimal text of doubles

The shortest text of a double has the fewest digits that read back as it, and of those the digits
nearest to it. It is written with a point from 10^-4 up to 10^16, and with an exponent outside. The
rounded text has at most six digits and drops trailing zeros; it uses an exponent from 10^6 on.
-/

namespace InfluxKeeper.Binary64

/-- Decimal digits: `digits * 10 ^ power`. -/
structure Decimal where
  digits : Nat
  power : Int

/-- A quotient times a power of ten, again as a quotient. -/
def scaleTen (num den : Nat) (power : Int) : Nat × Nat :=
  if power < 0 then (num, den * Nat.pow 10 power.natAbs) else (num * Nat.pow 10 power.natAbs, den)

/-- The power of ten of the leading digit of a positive quotient. -/
def leadingPower (num den : Nat) : Int :=
  -- the numbers of digits tell it, at most one too great
  let guess : Int := (Nat.toDigits 10 num).length - (Nat.toDigits 10 den).length
  let (n, d) := scaleTen num den (-guess)
  if d ≤ n then guess else guess - 1

/-- Whether a quotient lies among the numbers that round to `mantissa * 2 ^ exponent`: within half the
distance to each neighbour, the ends included if the mantissa is even. The neighbour below the least
mantissa of a range is twice as near. -/
def roundsTo (mantissa : Nat) (exponent : Int) (num den : Nat) : Bool :=
  let (n, d) := scaleTwo num den (-exponent)
  -- four times the quotient, in units of the exponent, against the two ends
  let value := 4 * n
  let low :=
    if mantissa = Nat.pow 2 52 ∧ minExponent < exponent then 4 * mantissa - 1 else 4 * mantissa - 2
  let high := 4 * mantissa + 2
  if mantissa % 2 = 0 then low * d ≤ value && value ≤ high * d
  else low * d < value && value < high * d

/-- Digits as a quotient. -/
def Decimal.ratio (x : Decimal) : Nat × Nat := scaleTen x.digits 1 x.power

/-- The digits, `count` of them, next to a quotient that round to a given number; of two the nearer. -/
def neighbour? (mantissa : Nat) (exponent : Int) (num den : Nat) (count : Nat) : Option Decimal :=
  let power := leadingPower num den - count + 1
  let (n, d) := scaleTen num den (-power)
  let below : Decimal := ⟨n / d, power⟩
  let above : Decimal := ⟨n / d + 1, power⟩
  let fits (x : Decimal) : Bool := let (a, b) := x.ratio; roundsTo mantissa exponent a b
  match fits below, fits above with
  | true, true =>
    let twice := 2 * (n % d)
    some (if twice < d ∨ (twice = d ∧ below.digits % 2 = 0) then below else above)
  | true, false => some below
  | false, true => some above
  | false, false => none

/-- The fewest digits that read back as a positive number. Seventeen digits always do. -/
def shortestDigits (mantissa : Nat) (exponent : Int) : Decimal :=
  let (num, den) := scaleTwo mantissa 1 exponent
  ((List.range 17).findSome? fun i => neighbour? mantissa exponent num den (i + 1)).getD ⟨0, 0⟩

/-- Digits without the zeros at their end. -/
def trimZeros (digits : List Char) : List Char :=
  (digits.reverse.dropWhile (· == '0')).reverse

/-- An exponent: a sign and at least two digits. -/
def exponentText (power : Int) : List Char :=
  let digits := Nat.toDigits 10 power.natAbs
  'e' :: (if power < 0 then '-' else '+') :: (List.replicate (2 - digits.length) '0' ++ digits)

/-- Digits with an exponent, the point after the first digit. -/
def scientific (digits : List Char) (lead : Int) : List Char :=
  digits.take 1 ++ (if digits.length ≤ 1 then [] else '.' :: digits.drop 1) ++ exponentText lead

/-- Digits with the point where the leading digit's power puts it. A whole number is padded with zeros
and has no point. -/
def positional (digits : List Char) (lead : Int) : List Char :=
  if lead < 0 then '0' :: '.' :: (List.replicate (lead.natAbs - 1) '0' ++ digits)
  else
    let whole := lead.toNat + 1
    if digits.length ≤ whole then digits ++ List.replicate (whole - digits.length) '0'
    else digits.take whole ++ '.' :: digits.drop whole

/-- The shortest text of a number. -/
def shortest : Binary64 → String
  | .nan => "nan"
  | .infinite negative => if negative then "-inf" else "inf"
  | .finite negative mantissa exponent =>
    let sign := if negative then ['-'] else []
    if mantissa = 0 then String.ofList (sign ++ ['0', '.', '0'])
    else
      let decimal := shortestDigits mantissa exponent
      let all := Nat.toDigits 10 decimal.digits
      let lead := decimal.power + all.length - 1
      let digits := trimZeros all
      let text :=
        if lead < -4 ∨ 16 ≤ lead then scientific digits lead
        else
          let text := positional digits lead
          if '.' ∈ text then text else text ++ ['.', '0']
      String.ofList (sign ++ text)

/-- The text of a number rounded to six digits. -/
def rounded : Binary64 → String
  | .nan => "nan"
  | .infinite negative => if negative then "-inf" else "inf"
  | .finite negative mantissa exponent =>
    let sign := if negative then ['-'] else []
    if mantissa = 0 then String.ofList (sign ++ ['0'])
    else
      let (num, den) := scaleTwo mantissa 1 exponent
      let lead := leadingPower num den
      let (n, d) := scaleTen num den (5 - lead)
      let six := roundDiv n d
      -- rounding up may carry into a seventh digit
      let (six, lead) := if six = Nat.pow 10 6 then (Nat.pow 10 5, lead + 1) else (six, lead)
      let digits := trimZeros (Nat.toDigits 10 six)
      String.ofList (sign ++
        if lead < -4 ∨ 6 ≤ lead then scientific digits lead else positional digits lead)

end InfluxKeeper.Binary64
