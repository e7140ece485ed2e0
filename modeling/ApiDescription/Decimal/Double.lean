import ApiDescription.Decimal.Shortest

namespace ApiDescription

-- A finite double-precision number: sign, exponent field of 11 bits and fraction field of 52 bits.
structure Double where
  negative : Bool
  exponent : Fin 2047
  fraction : Fin Decimal.fractionSize
deriving DecidableEq, Repr

namespace Double

-- The value is `significand * 2 ^ scale`, up to the sign.
def significand (d : Double) : Nat :=
  if d.exponent.val = 0 then d.fraction.val else Decimal.fractionSize + d.fraction.val

def scale (d : Double) : Int :=
  if d.exponent.val = 0 then -1074 else (d.exponent.val : Int) - 1075

-- The nearest double; none if that is beyond the largest one.
def ofDecimal? (d : Decimal) : Option Double :=
  let code := d.code
  if h : code / Decimal.fractionSize < 2047 then
    some ⟨d.negative, ⟨code / Decimal.fractionSize, h⟩,
      ⟨code % Decimal.fractionSize, Nat.mod_lt _ (by decide)⟩⟩
  else none

-- The fewest digits that read back as the number, and the power of ten of the first of them.
def digits (d : Double) : List Char × Int :=
  if d.significand = 0 then (['0'], 0)
  else
    let narrow := d.fraction.val = 0 ∧ 1 < d.exponent.val
    let (n, place) := Decimal.shortest d.significand d.scale narrow
    let ds := Nat.toDigits 10 n
    (ds, place + (ds.length - 1 : Nat))

-- Positional digits from 0.00001 up to 16 digits before the point, and always a digit after it.
def positional (ds : List Char) (top : Int) : List Char :=
  if top < 0 then ['0', '.'] ++ List.replicate (-top - 1).toNat '0' ++ ds
  else
    let whole := top.toNat + 1
    let rest := if ds.drop whole = [] then ['0'] else ds.drop whole
    ds.take whole ++ List.replicate (whole - ds.length) '0' ++ '.' :: rest

-- One digit before the point, and an exponent; `plus` is what a positive exponent begins with.
def scientific (plus : List Char) (ds : List Char) (top : Int) : List Char :=
  let mark := if top < 0 then ['-'] else plus
  let tail := if ds.drop 1 = [] then [] else '.' :: ds.drop 1
  ds.take 1 ++ tail ++ 'e' :: mark ++ Nat.toDigits 10 top.natAbs

def text (plus : List Char) (d : Double) : String :=
  let (ds, top) := d.digits
  let body := if -5 ≤ top ∧ top ≤ 15 then positional ds top else scientific plus ds top
  String.ofList (if d.negative then '-' :: body else body)

end Double

end ApiDescription
