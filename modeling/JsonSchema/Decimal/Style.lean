import JsonSchema.Decimal.Shortest

/-! # How a decimal is laid out -/

namespace JsonSchema.Decimal

/-- The decisions of one way to write doubles. -/
structure Style where
  /-- The exponents of the leading digit that are written without an exponent: from the first to
  below the second, or all of them. -/
  plain : Option (Int × Int)
  /-- Integral values in plain notation end in `.0`. -/
  pointZero : Bool
  /-- Positive exponents carry a sign. -/
  plusExponent : Bool
  signedZero : Bool
  tie : Tie

def zeros (n : Nat) : String := String.ofList (List.replicate n '0')

namespace Style

def isPlain (s : Style) (leading : Int) : Bool :=
  match s.plain with
  | none => true
  | some (from_, below) => from_ ≤ leading && leading < below

/-- The digits with the point set in place. -/
def positional (s : Style) (digits : String) (exponent : Int) : String :=
  let count := digits.length
  if 0 ≤ exponent then digits ++ zeros exponent.toNat ++ if s.pointZero then ".0" else ""
  else if -exponent < count then
    let split := count - (-exponent).toNat
    String.ofList (digits.toList.take split) ++ "." ++ String.ofList (digits.toList.drop split)
  else "0." ++ zeros ((-exponent).toNat - count) ++ digits

/-- One digit before the point, and the exponent after the digits. -/
def scientific (s : Style) (digits : String) (leading : Int) : String :=
  let rest := digits.toList.drop 1
  String.ofList (digits.toList.take 1) ++ (if rest.isEmpty then "" else "." ++ String.ofList rest)
    ++ "e" ++ (if leading < 0 then "-" else if s.plusExponent then "+" else "")
    ++ toString leading.natAbs

def layout (s : Style) (d : Digits) : String :=
  let digits := toString d.digits
  let leading := d.exponent + digits.length - 1
  if s.isPlain leading then s.positional digits d.exponent else s.scientific digits leading

/-- The text of a finite double. -/
def render (s : Style) (f : Float) : String :=
  let b := binary f
  if b.mantissa = 0 then
    (if b.negative && s.signedZero then "-" else "") ++ s.layout ⟨0, 0⟩
  else (if b.negative then "-" else "") ++ s.layout (b.shortest s.tie)

end Style

/-! ## The styles in use -/

/-- Values in JSON text. -/
def jsonStyle : Style where
  plain := some (-5, 16)
  pointZero := true
  plusExponent := true
  signedZero := true
  tie := .toEven

/-- Values in canonical text. -/
def canonicalStyle : Style where
  plain := some (-6, 21)
  pointZero := false
  plusExponent := true
  signedZero := false
  tie := .toEven

/-- Numbers inside messages. -/
def messageStyle : Style where
  plain := none
  pointZero := false
  plusExponent := false
  signedZero := true
  tie := .away

/-- Numbers that serve as keys. -/
def keyStyle : Style where
  plain := some (-5, 16)
  pointZero := true
  plusExponent := false
  signedZero := true
  tie := .toEven

/-! ## Numbers in messages -/

/-- Every digit, and no exponent. -/
def plainText (f : Float) : String :=
  if f.isNaN then "NaN"
  else if f.isFinite then messageStyle.render f
  else if f < 0 then "-inf" else "inf"

/-- Integral values below `10 ^ 15` appear as integers, so that zero has no sign. -/
def displayText (f : Float) : String :=
  if isIntegral f && f.abs < 1e15 then toString (truncate f) else plainText f

end JsonSchema.Decimal
