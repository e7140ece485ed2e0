import ApiDescription.Decimal.Nearest

namespace ApiDescription.Decimal

-- The real numbers between `low / den` and `high / den` that round to a value `mid / den`; the two
-- ends belong to it if `closed`.
structure Interval where
  low : Nat
  mid : Nat
  high : Nat
  den : Nat
  closed : Bool

-- Whether `n / d` lies in the interval.
def Interval.holds (i : Interval) (n d : Nat) : Bool :=
  if i.closed then i.low * d ≤ n * i.den && n * i.den ≤ i.high * d
  else i.low * d < n * i.den && n * i.den < i.high * d

-- The reals that round to the double `m * 2 ^ q`. Below a power of two the next double is only
-- half as far away; `narrow` says so.
def Interval.ofDouble (m : Nat) (q : Int) (narrow : Bool) : Interval :=
  let below := if narrow then 4 * m - 1 else 4 * m - 2
  let closed := m % 2 = 0
  if 0 ≤ q then
    let s := Nat.pow 2 q.toNat
    ⟨below * s, 4 * m * s, (4 * m + 2) * s, 4, closed⟩
  else ⟨below, 4 * m, 4 * m + 2, 4 * Nat.pow 2 (-q).toNat, closed⟩

-- The least `k` up to `fuel` with `den ≤ num * 10 ^ k`.
def leadingZeros (den : Nat) : Nat → Nat → Nat
  | 0, _ => 0
  | fuel + 1, num => if den ≤ num then 0 else leadingZeros den fuel (num * 10) + 1

-- The greatest `k` with `10 ^ k ≤ num / den`.
def floorLog10 (num den : Nat) : Int :=
  if den ≤ num then (digitCount (num / den) : Int) - 1
  else -(leadingZeros den 400 num : Int)

-- `digits * 10 ^ exponent`, with `exponent` the place of the last digit, as a fraction.
def asFraction (digits : Nat) (exponent : Int) : Nat × Nat :=
  if 0 ≤ exponent then (digits * Nat.pow 10 exponent.toNat, 1)
  else (digits, Nat.pow 10 (-exponent).toNat)

-- The point of the decimal grid `10 ^ place` in the interval that is nearest to its middle. Only
-- the two neighbours of the middle can be that; of two equally near the even one is taken.
def onGrid (i : Interval) (place : Int) : Option Nat :=
  let (num, den) :=
    if 0 ≤ place then (i.mid, i.den * Nat.pow 10 place.toNat)
    else (i.mid * Nat.pow 10 (-place).toNat, i.den)
  let below := num / den
  let nearest := roundHalfEven num den
  let other := if nearest = below then below + 1 else below
  let inside (n : Nat) : Bool := let (a, b) := asFraction n place; i.holds a b
  if inside nearest then some nearest else if inside other then some other else none

-- Tries one digit more each time, from the grid with `count` digits on.
def search (i : Interval) (top : Int) : Nat → Nat → Nat × Int
  | 0, count => (i.mid / i.den, top - count)
  | fuel + 1, count =>
    let place := top - count + 1
    match onGrid i place with
    | some n => (n, place)
    | none => search i top fuel (count + 1)

-- The fewest digits that read back as the double `m * 2 ^ q`, and the place of the last of them.
-- A single digit can round up to ten; longer ones cannot end in a zero, or one less would do.
def shortest (m : Nat) (q : Int) (narrow : Bool) : Nat × Int :=
  let i := Interval.ofDouble m q narrow
  let (n, place) := search i (floorLog10 i.mid i.den) 20 1
  if n % 10 = 0 then (n / 10, place + 1) else (n, place)

end ApiDescription.Decimal
