/-! # Hexadecimal digits -/

namespace JsonSchema.Text

def hexValue? (c : Char) : Option Nat :=
  if '0' ≤ c ∧ c ≤ '9' then some (c.toNat - 48)
  else if 'A' ≤ c ∧ c ≤ 'F' then some (c.toNat - 55)
  else if 'a' ≤ c ∧ c ≤ 'f' then some (c.toNat - 87)
  else none

def isHexDigit (c : Char) : Bool := (hexValue? c).isSome

/-- Characters that are no hexadecimal digits are passed over. -/
def hexNat (cs : List Char) : Nat :=
  cs.foldl (fun n c => ((hexValue? c).map (n * 16 + ·)).getD n) 0

end JsonSchema.Text
