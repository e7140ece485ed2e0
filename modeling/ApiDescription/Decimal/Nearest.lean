namespace ApiDescription

-- A number written in base ten, `digits * 10 ^ exponent`. The sign stands apart, because zero has
-- one too.
structure Decimal where
  negative : Bool
  digits : Nat
  exponent : Int
deriving DecidableEq, Repr

namespace Decimal

-- The quotient rounded to the nearest integer; of two that are equally near, the even one.
def roundHalfEven (num den : Nat) : Nat :=
  let quotient := num / den
  let twice := 2 * (num % den)
  if twice < den then quotient
  else if den < twice then quotient + 1
  else if quotient % 2 = 0 then quotient else quotient + 1

-- The greatest `k` with `2 ^ k ≤ num / den`, for positive `num` and `den`.
def floorLog2 (num den : Nat) : Int :=
  let k : Int := (Nat.log2 num : Int) - (Nat.log2 den : Int)
  let reached := if 0 ≤ k then den * Nat.pow 2 k.toNat ≤ num
    else den ≤ num * Nat.pow 2 (-k).toNat
  if reached then k else k - 1

-- `num / den` in units of `2 ^ scale`, again as a fraction.
def inUnits (num den : Nat) (scale : Int) : Nat × Nat :=
  if 0 ≤ scale then (num, den * Nat.pow 2 scale.toNat)
  else (num * Nat.pow 2 (-scale).toNat, den)

-- How many values the fraction field of a double has, which is 52 bits wide.
abbrev fractionSize : Nat := 4503599627370496

-- The double nearest to a positive fraction, as the exponent field followed by 52 bits of fraction.
-- A significand that rounds up to a power of two carries into the exponent field by itself.
def nearestCode (num den : Nat) : Nat :=
  let scale := max (floorLog2 num den - 52) (-1074)
  let (n, d) := inUnits num den scale
  roundHalfEven n d + (scale + 1074).toNat * fractionSize

def digitCount (n : Nat) : Nat := (Nat.toDigits 10 n).length

-- The same for a decimal. Sizes far outside of the range need no arithmetic.
def code (d : Decimal) : Nat :=
  let size := d.exponent + (digitCount d.digits : Int)
  if d.digits = 0 ∨ size < -400 then 0
  else if 400 < size then 2047 * fractionSize
  else if 0 ≤ d.exponent then nearestCode (d.digits * Nat.pow 10 d.exponent.toNat) 1
  else nearestCode d.digits (Nat.pow 10 (-d.exponent).toNat)

end Decimal

end ApiDescription
