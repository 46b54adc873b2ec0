import JsonSchema.Decimal.Shortest

/-! # Reading numerals -/

namespace JsonSchema.Decimal

def isDigit (c : Char) : Bool := '0' ≤ c && c ≤ '9'

def digitsValue (cs : List Char) : Nat := cs.foldl (fun n c => 10 * n + (c.toNat - 48)) 0

/-- The digits of a natural number without sign or blanks; at least one. -/
def readNat? (cs : List Char) : Option Nat :=
  if cs.isEmpty || !cs.all isDigit then none else some (digitsValue cs)

/-- The double nearest to `± digits * 10 ^ exponent`; out of range it is infinite or zero. -/
def toDouble (negative : Bool) (d : Digits) : Float :=
  let leading := d.exponent + digitCount d.digits
  let magnitude :=
    if d.digits = 0 ∨ leading < -400 then 0.0
    else if 400 < leading then 1.0 / 0.0
    else Float.ofScientific d.digits (d.exponent < 0) d.exponent.natAbs
  if negative then -magnitude else magnitude

/-- A sign and the rest. -/
def readSign : List Char → Bool × List Char
  | '-' :: cs => (true, cs)
  | '+' :: cs => (false, cs)
  | cs => (false, cs)

/-- An exponent after its letter: an optional sign and at least one digit, up to the end. -/
def readExponent? (cs : List Char) : Option Int :=
  let (negative, digits) := readSign cs
  (readNat? digits).map fun n => if negative then -(n : Int) else n

/-- The part of an unsigned numeral before the exponent: digits with at most one point, and at
least one digit on either side of it. -/
def readMantissa? (cs : List Char) : Option Digits :=
  let before := cs.takeWhile (· ≠ '.')
  let after := (cs.dropWhile (· ≠ '.')).drop 1
  (readNat? (before ++ after)).map (⟨·, -(after.length : Int)⟩)

/-- An unsigned numeral such as `12`, `.5`, `5.` or `1.5E-7`. -/
def readUnsigned? (cs : List Char) : Option Digits :=
  let isMark c := c == 'e' || c == 'E'
  match readMantissa? (cs.takeWhile (!isMark ·)), cs.dropWhile (!isMark ·) with
  | some m, [] => some m
  | some m, _ :: rest => (readExponent? rest).map fun e => ⟨m.digits, m.exponent + e⟩
  | none, _ => none

def lowerAscii (cs : List Char) : String := String.ofList (cs.map Char.toLower)

/-- A double: a numeral with an optional sign, or the name of an infinity or of no number in any
case. -/
def readDouble? (cs : List Char) : Option Float :=
  let (negative, rest) := readSign cs
  match lowerAscii rest with
  | "inf" | "infinity" => some (if negative then -(1.0 / 0.0) else 1.0 / 0.0)
  | "nan" => some (0.0 / 0.0)
  | _ => (readUnsigned? rest).map (toDouble negative)

end JsonSchema.Decimal
