import ApiDescription.Decimal.Nearest

namespace ApiDescription

def isDigit (c : Char) : Bool := '0' ≤ c && c ≤ '9'

-- The number that a text of digits stands for, in a base up to 36.
def digitsValue (base : Nat) (ds : List Char) : Nat :=
  ds.foldl (fun acc c => acc * base + digit c) 0
where
  digit (c : Char) : Nat :=
    if isDigit c then c.toNat - '0'.toNat else c.toLower.toNat - 'a'.toNat + 10

namespace Decimal

-- The number with these digits before and after the point, times a power of ten.
def ofDigits (negative : Bool) (whole fraction : List Char) (exponent : Int) : Decimal where
  negative := negative
  digits := digitsValue 10 (whole ++ fraction)
  exponent := exponent - fraction.length

-- The sign and digits of an exponent after its mark.
def readExponent : List Char → Option (Int × List Char)
  | '+' :: rest => signed 1 rest
  | '-' :: rest => signed (-1) rest
  | rest => signed 1 rest
where
  signed (sign : Int) (cs : List Char) : Option (Int × List Char) :=
    let ds := cs.takeWhile isDigit
    if ds = [] then none else some (sign * digitsValue 10 ds, cs.dropWhile isDigit)

-- A text with digits before or after a point, and perhaps an exponent.
def unsigned? (negative : Bool) (text : List Char) : Option Decimal :=
  let whole := text.takeWhile isDigit
  let (fraction, rest) := match text.dropWhile isDigit with
    | '.' :: rest => (rest.takeWhile isDigit, rest.dropWhile isDigit)
    | rest => ([], rest)
  if whole = [] ∧ fraction = [] then none
  else match rest with
    | [] => some (.ofDigits negative whole fraction 0)
    | 'e' :: rest | 'E' :: rest =>
      match readExponent rest with
      | some (exponent, []) => some (.ofDigits negative whole fraction exponent)
      | _ => none
    | _ => none

def ofText? : List Char → Option Decimal
  | '-' :: rest => unsigned? true rest
  | '+' :: rest => unsigned? false rest
  | rest => unsigned? false rest

end Decimal

end ApiDescription
