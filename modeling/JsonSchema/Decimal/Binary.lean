/-! # The exact value of a double -/

namespace JsonSchema.Decimal

/-- The number `± mantissa * 2 ^ exponent`. -/
structure Binary where
  negative : Bool
  mantissa : Nat
  exponent : Int
  /-- The gap to the double below is half the gap to the one above. -/
  narrowBelow : Bool
deriving DecidableEq, Repr

namespace Binary

/-- NaN and the infinities have no value of this form: test for them first. -/
def ofBits (bits : UInt64) : Binary :=
  let negative := bits >>> 63 == 1
  let scale := ((bits >>> 52) &&& 0x7FF).toNat
  let fraction := (bits &&& 0xFFFFFFFFFFFFF).toNat
  if scale = 0 then ⟨negative, fraction, -1074, false⟩
  else ⟨negative, Nat.pow 2 52 + fraction, (scale : Int) - 1075, fraction == 0 && 1 < scale⟩

def signed (b : Binary) (n : Nat) : Int := if b.negative then -n else n

def isIntegral (b : Binary) : Bool :=
  0 ≤ b.exponent || b.mantissa % Nat.pow 2 (-b.exponent).toNat == 0

/-- The magnitude without its fraction. -/
def whole (b : Binary) : Nat :=
  b.mantissa * Nat.pow 2 b.exponent.toNat / Nat.pow 2 (-b.exponent).toNat

/-- The integer part, toward zero. -/
def truncate (b : Binary) : Int := b.signed b.whole

/-- The nearest integer; a half goes away from zero. -/
def nearest (b : Binary) : Int :=
  b.signed
    ((2 * b.mantissa * Nat.pow 2 b.exponent.toNat / Nat.pow 2 (-b.exponent).toNat + 1) / 2)

end Binary

/-! ## Doubles -/

def binary (f : Float) : Binary := Binary.ofBits f.toBits

/-- A finite double without a fraction. -/
def isIntegral (f : Float) : Bool := f.isFinite && (binary f).isIntegral

def truncate (f : Float) : Int := (binary f).truncate

/-- The nearest integer as a double; a half goes away from zero. -/
def nearest (f : Float) : Float :=
  if f.isFinite && !(binary f).isIntegral then Float.ofInt (binary f).nearest else f

end JsonSchema.Decimal
