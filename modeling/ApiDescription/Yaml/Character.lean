namespace ApiDescription.Yaml

def isBreak (c : Char) : Bool :=
  c = '\n' || c = '\r' || c = '\u0085' || c = '\u2028' || c = '\u2029'

def isBlank (c : Char) : Bool := c = ' ' || c = '\t'

-- Whether a text is at its end, or goes on with white space.
def startsBlank : List Char → Bool
  | [] => true
  | c :: _ => isBlank c || isBreak c

-- The characters that can be written without an escape.
def isPrintable (c : Char) : Bool :=
  let n := c.toNat
  n = 0xA || (0x20 ≤ n && n ≤ 0x7E) || (0xA0 ≤ n && n ≤ 0xFFFD && n ≠ 0xFEFF) || 0x10000 ≤ n

-- The characters that a text may contain at all.
def isAllowed (c : Char) : Bool :=
  let n := c.toNat
  isPrintable c || n = 0x9 || n = 0xD || n = 0x85 || n = 0xFEFF

end ApiDescription.Yaml
