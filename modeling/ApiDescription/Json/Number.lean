import ApiDescription.Decimal.Double

namespace ApiDescription

-- A number of a document: an integer of at most 64 bits, with or without a sign, or a double.
inductive Number where
  | integer (value : Int)
      (inRange : -9223372036854775808 ≤ value ∧ value < 18446744073709551616 := by decide)
  | double (value : Double)
deriving DecidableEq, Repr

namespace Number

def ofInt? (value : Int) : Option Number :=
  if h : -9223372036854775808 ≤ value ∧ value < 18446744073709551616 then some (integer value h)
  else none

def ofUInt64 (value : UInt64) : Number :=
  integer value.toNat (by have := value.toNat_lt; omega)

def ofUInt16 (value : UInt16) : Number :=
  integer value.toNat (by have := value.toNat_lt; omega)

-- Equality that does not tell the two zeros of the doubles apart.
def same : Number → Number → Bool
  | integer a _, integer b _ => a = b
  | double a, double b => a = b || a.significand = 0 && b.significand = 0
  | _, _ => false

def zero : Number := integer 0

-- Integers in full, doubles with the fewest digits; `plus` goes before a positive exponent.
def textWith (plus : List Char) : Number → String
  | integer value _ => toString value
  | double value => value.text plus

def text (n : Number) : String := n.textWith ['+']

end Number

end ApiDescription
