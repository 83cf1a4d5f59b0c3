/-!
Numbers with a fraction.  A decimal number is rounded to the nearest number with 53 binary digits,
an exact tie to the even one.
-/

namespace DocPager.Toml

/-- The number `mantissa * 2 ^ exponent`, or its negative. -/
structure Binary where
  negative : Bool
  mantissa : Nat
  exponent : Int
  deriving DecidableEq, Repr

namespace Binary

/-- The quotient rounded to the nearest number, a tie to the even one. -/
def roundDiv (num den : Nat) : Nat :=
  let q := num / den
  let twice := 2 * (num % den)
  if twice < den then q else if den < twice then q + 1 else q + q % 2

/-- The fraction `num / den` times `2 ^ shift`, as a fraction. -/
def scale (num den : Nat) (shift : Int) : Nat × Nat :=
  if 0 ≤ shift then (num <<< shift.toNat, den) else (num, den <<< (-shift).toNat)

/-- The exponent of two at which a positive fraction has 53 binary digits before the point.  The
smallest numbers have fewer digits. -/
def unitOf (num den : Nat) : Int :=
  let guess := (num.log2 : Int) - den.log2
  let (n, d) := scale num den (-guess)
  max ((if n < d then guess - 1 else guess) - 52) (-1074)

/-- The number nearest to `num / den`, `none` if that is out of range. -/
def ofFraction? (negative : Bool) (num den : Nat) : Option Binary :=
  if num = 0 then some { negative, mantissa := 0, exponent := 0 }
  else
    let exponent := unitOf num den
    let (n, d) := scale num den (-exponent)
    let mantissa := roundDiv n d
    if 0 ≤ exponent && 1 <<< 1024 ≤ mantissa <<< exponent.toNat then none
    else some { negative, mantissa, exponent }

def ofDigits (digits : List Char) : Nat :=
  digits.foldl (fun n c => 10 * n + (c.toNat - '0'.toNat)) 0

/-- The number nearest to the one that `digits` stand for, times `10 ^ exponent`.  Numbers far out
of range, or far too small, are not worked out. -/
def ofDecimal? (negative : Bool) (digits : List Char) (exponent : Int) : Option Binary :=
  let digits := digits.dropWhile (· == '0')
  let magnitude := digits.length + exponent
  if digits.isEmpty || magnitude < -330 then some { negative, mantissa := 0, exponent := 0 }
  else if 310 < magnitude then none
  else if 0 ≤ exponent then ofFraction? negative (ofDigits digits * Nat.pow 10 exponent.toNat) 1
  else ofFraction? negative (ofDigits digits) (Nat.pow 10 (-exponent).toNat)

def truncate (b : Binary) : Int :=
  let n := if 0 ≤ b.exponent then b.mantissa <<< b.exponent.toNat
    else b.mantissa >>> (-b.exponent).toNat
  if b.negative then -(n : Int) else n

end Binary
end DocPager.Toml
