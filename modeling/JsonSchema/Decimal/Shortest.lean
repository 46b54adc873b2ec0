import JsonSchema.Decimal.Binary

/-! # The fewest decimal digits that read back -/

namespace JsonSchema.Decimal

/-- The number `digits * 10 ^ exponent`. -/
structure Digits where
  digits : Nat
  exponent : Int
deriving DecidableEq, Repr

/-- Where a value goes that lies halfway between two candidates. -/
inductive Tie where
  | toEven
  | away
deriving DecidableEq, Repr

/-! ## Exact comparison -/

/-- Compares `a * 10 ^ i` with `n * 2 ^ j`. -/
def compareScaled (a : Nat) (i : Int) (n : Nat) (j : Int) : Ordering :=
  compare (a * Nat.pow 10 i.toNat * Nat.pow 2 (-j).toNat)
    (n * Nat.pow 2 j.toNat * Nat.pow 10 (-i).toNat)

/-- The decimal lies among the reals that round to the magnitude of `b`. -/
def Binary.readsBack (b : Binary) (d : Digits) : Bool :=
  let closed := b.mantissa % 2 == 0
  let low := compareScaled d.digits d.exponent
    (4 * b.mantissa - if b.narrowBelow then 1 else 2) (b.exponent - 2)
  let high := compareScaled d.digits d.exponent (4 * b.mantissa + 2) (b.exponent - 2)
  (low == .gt || (closed && low == .eq)) && (high == .lt || (closed && high == .eq))

/-! ## Search -/

def digitCount (n : Nat) : Nat := (Nat.toDigits 10 n).length

/-- The magnitude of `b` in units of `10 ^ unit`, rounded down. -/
def Binary.inUnits (b : Binary) (unit : Int) : Nat :=
  b.mantissa * Nat.pow 2 b.exponent.toNat * Nat.pow 10 (-unit).toNat
    / (Nat.pow 2 (-b.exponent).toNat * Nat.pow 10 unit.toNat)

/-- The least `k` such that the magnitude lies below `10 ^ k`; every double is a whole number of
units of `10 ^ -1074`. -/
def Binary.scale (b : Binary) : Int := (digitCount (b.inUnits (-1074)) : Int) - 1074

/-- The neighbour of the magnitude on the grid of `10 ^ unit` that reads back, the closer of two. -/
def Binary.onGrid? (b : Binary) (tie : Tie) (unit : Int) : Option Digits :=
  let below := b.inUnits unit
  match b.readsBack ⟨below, unit⟩, b.readsBack ⟨below + 1, unit⟩ with
  | false, false => none
  | true, false => some ⟨below, unit⟩
  | false, true => some ⟨below + 1, unit⟩
  | true, true =>
    match compareScaled (2 * below + 1) unit (2 * b.mantissa) b.exponent with
    | .gt => some ⟨below, unit⟩
    | .lt => some ⟨below + 1, unit⟩
    | .eq =>
      match tie with
      | .toEven => some ⟨below + below % 2, unit⟩
      | .away => some ⟨below + 1, unit⟩

/-- Moves zeros at the end of the digits into the exponent. -/
def Digits.strip (d : Digits) : Digits :=
  if _h : 0 < d.digits ∧ d.digits % 10 = 0 then strip ⟨d.digits / 10, d.exponent + 1⟩ else d
termination_by d.digits
decreasing_by omega

/-- The exact value, in as many digits as it needs. -/
def Binary.exact (b : Binary) : Digits :=
  ⟨b.mantissa * Nat.pow 2 b.exponent.toNat * Nat.pow 5 (-b.exponent).toNat, min b.exponent 0⟩

/-- The closest decimal among those with the fewest digits that read back. -/
def Binary.shortest (b : Binary) (tie : Tie) : Digits :=
  ((((List.range 17).findSome? fun n : Nat => b.onGrid? tie (b.scale - (n + 1))).getD b.exact).strip)

end JsonSchema.Decimal
