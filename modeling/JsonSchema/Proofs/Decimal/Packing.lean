import JsonSchema.Decimal.Binary
import Mathlib

/-!
# Doubles and their bits

How the arithmetic of doubles rounds, and how what it gives is packed into bits and taken out of them again.
-/

namespace JsonSchema.Double

open Float.Model Float.Model.UnpackedFloat

/-! ## Shifts -/

theorem shiftRight_mantissa (em : ExtendedMantissa) (k : Nat) :
    (em >>> k).mantissa = em.mantissa / 2 ^ k := by
  induction k with
  | zero => simp [HShiftRight.hShiftRight, Nat.repeat]
  | succ k ih =>
    show (em >>> k).mantissa / 2 = _
    rw [ih, Nat.div_div_eq_div_mul, Nat.pow_succ]

theorem shiftRight_of_multiple (m k : Nat) :
    ExtendedMantissa.mk (m * 2 ^ k) false false >>> k = ⟨m, false, false⟩ := by
  induction k generalizing m with
  | zero => simp [HShiftRight.hShiftRight, Nat.repeat]
  | succ k ih =>
    show ExtendedMantissa.shiftRightOne (ExtendedMantissa.mk (m * 2 ^ (k + 1)) false false >>> k) = _
    rw [show m * 2 ^ (k + 1) = (m * 2) * 2 ^ k by rw [Nat.pow_succ]; ac_rfl, ih]
    simp [ExtendedMantissa.shiftRightOne]

/-! ## The form that doubles give a value -/

theorem targetExponent_eq (t : Int) : Format.binary64.targetExponent t = max (t - 53) (-1074) := rfl

/-- The exponent is the one at which 53 bits hold the mantissa, and it fits. -/
structure Canonical (m : Nat) (e : Int) : Prop where
  target : Format.binary64.targetExponent (totalExponent m e) = e
  fits : e ≤ 971

theorem canonical_iff (m : Nat) (e : Int) (hm : 0 < m) :
    Canonical m e ↔
      m < 9007199254740992 ∧ (4503599627370496 ≤ m ∨ e = -1074) ∧ -1074 ≤ e ∧ e ≤ 971 := by
  have hlow : 52 ≤ m.log2 ↔ 4503599627370496 ≤ m := Nat.le_log2 (by omega)
  have hhigh : m.log2 < 53 ↔ m < 9007199254740992 := Nat.log2_lt (by omega)
  rw [← hlow, ← hhigh]
  constructor
  · rintro ⟨htarget, hfits⟩
    rw [targetExponent_eq, totalExponent] at htarget
    omega
  · intro h
    refine ⟨?_, by omega⟩
    rw [targetExponent_eq, totalExponent]
    omega

theorem log2_shift (m k : Nat) (hm : 0 < m) : (m * 2 ^ k).log2 = m.log2 + k := by
  induction k with
  | zero => simp
  | succ k ih =>
    rw [Nat.pow_succ, ← Nat.mul_assoc, Nat.mul_comm _ 2, Nat.log2_two_mul, ih, Nat.add_assoc]
    exact Nat.pos_iff_ne_zero.1 (Nat.mul_pos hm (Nat.two_pow_pos k))

/-! ## Rounding -/

theorem roundWithAccuracy_of_multiple (s : Sign) (m k : Nat) (e : Int) (hm : 0 < m)
    (htarget : Format.binary64.targetExponent (totalExponent m (e + k)) = e + k) :
    roundWithAccuracy .binary64 s (m * 2 ^ k) e .exact = .finite s m (e + k) hm := by
  have htotal : totalExponent (m * 2 ^ k) e = totalExponent m (e + k) := by
    rw [totalExponent, totalExponent, log2_shift m k hm]
    omega
  have hshift : shiftToTargetExponent .binary64 (m * 2 ^ k) e .exact = (⟨m, false, false⟩, e + k) := by
    rw [shiftToTargetExponent, htotal, htarget, shiftToExponent]
    simp only [show (e + (k : Int) - e).toNat = k by omega, ExtendedMantissa.ofMantissaAndAccuracy,
      shiftRight_of_multiple]
  have hstay : shiftToTargetExponent .binary64 m (e + k) .exact = (⟨m, false, false⟩, e + k) := by
    rw [shiftToTargetExponent, htarget, shiftToExponent]
    simp [ExtendedMantissa.ofMantissaAndAccuracy, HShiftRight.hShiftRight, Nat.repeat]
  have hround : ExtendedMantissa.roundedMantissa ⟨m, false, false⟩ = m := rfl
  unfold roundWithAccuracy
  simp only [hshift, hround, hstay, dif_neg (show ¬m = 0 by omega)]

theorem roundedMantissa_le (em : ExtendedMantissa) : em.roundedMantissa ≤ em.mantissa + 1 := by
  unfold ExtendedMantissa.roundedMantissa
  cases em.accuracy with
  | exact => exact Nat.le_succ _
  | inexact o =>
    cases o with
    | lt => exact Nat.le_succ _
    | eq => simp only [Accuracy.roundToNearestEven]; omega
    | gt => exact Nat.le_refl _

theorem ofMantissaAndAccuracy_mantissa (m : Nat) (a : Accuracy) :
    (ExtendedMantissa.ofMantissaAndAccuracy m a).mantissa = m := by
  rcases a with _ | o
  · rfl
  · cases o <;> rfl

/-- Zero, or of an exponent up to the given one. -/
inductive Upto (limit : Int) : UnpackedFloat → Prop where
  | zero (s : Sign) : Upto limit (.zero s)
  | finite (s : Sign) (m : Nat) (e : Int) (hm : 0 < m) (h : e ≤ limit) : Upto limit (.finite s m e hm)

theorem shift_exponent (m : Nat) (e : Int) (a : Accuracy) :
    (shiftToTargetExponent .binary64 m e a).2
      = max e (Format.binary64.targetExponent (totalExponent m e)) := by
  simp only [shiftToTargetExponent, shiftToExponent]
  omega

theorem shift_mantissa_lt (m : Nat) (e : Int) (a : Accuracy) :
    (shiftToTargetExponent .binary64 m e a).1.mantissa < 9007199254740992 := by
  simp only [shiftToTargetExponent, shiftToExponent, shiftRight_mantissa,
    ofMantissaAndAccuracy_mantissa, targetExponent_eq, totalExponent]
  generalize hk : (max ((m.log2 : Int) + 1 + e - 53) (-1074) - e).toNat = k
  rw [Nat.div_lt_iff_lt_mul (Nat.two_pow_pos k)]
  have hlog : m < 2 ^ (m.log2 + 1) := Nat.lt_log2_self
  have hpow : 2 ^ (m.log2 + 1) ≤ 2 ^ (53 + k) := Nat.pow_le_pow_right (by omega) (by omega)
  rw [Nat.pow_add 2 53 k] at hpow
  exact Nat.lt_of_lt_of_le hlog hpow

theorem upto_roundWithAccuracy (s : Sign) (m : Nat) (e limit : Int) (he : e ≤ limit)
    (htarget : Format.binary64.targetExponent (totalExponent m e) ≤ limit) :
    Upto (limit + 1) (roundWithAccuracy .binary64 s m e .exact) := by
  have hexp := shift_exponent m e .exact
  have hlt := shift_mantissa_lt m e .exact
  rcases hfirst : shiftToTargetExponent .binary64 m e .exact with ⟨em, e₁⟩
  simp only [hfirst] at hexp hlt
  have hexp₂ := shift_exponent em.roundedMantissa e₁ .exact
  rcases hsecond : shiftToTargetExponent .binary64 em.roundedMantissa e₁ .exact with ⟨em₂, e₂⟩
  simp only [hsecond] at hexp₂
  -- Rounding up reaches at most 2 ^ 53, one bit more than the shift left.
  have hlog : em.roundedMantissa.log2 ≤ 53 := by
    have hround := roundedMantissa_le em
    by_cases hzero : em.roundedMantissa = 0
    · rw [hzero]
      decide
    · exact Nat.lt_succ_iff.1 ((Nat.log2_lt hzero).2 (by omega))
  rw [targetExponent_eq] at *
  unfold roundWithAccuracy
  simp only [hfirst, hsecond]
  split
  · exact .zero s
  · refine .finite _ _ _ _ ?_
    simp only [totalExponent] at *
    omega

/-! ## Packing -/

theorem toNat_implicit (m : BitVec 52) : (1#1 ++ m).toNat = 4503599627370496 + m.toNat := by
  rw [BitVec.toNat_append, ← Nat.shiftLeft_add_eq_or_of_lt m.isLt]
  simp [Nat.shiftLeft_eq]

theorem unpack_normal (s : Sign) (x : BitVec 11) (m : BitVec 52) (hzero : x ≠ 0#11)
    (hones : x ≠ -1#11) :
    UnpackedFloat.unpack .binary64 (packComponents .binary64 s x m)
      = .finite s (4503599627370496 + m.toNat) (x.toNat - 1075) (by omega) := by
  unfold UnpackedFloat.unpack
  simp only [unpackMantissa_packComponents, unpackExponent_packComponents,
    unpackSign_packComponents, Sign.ofBitVec_toBitVec, toNat_implicit]
  rw [if_neg hones, if_neg hzero]
  rfl

theorem unpack_subnormal (s : Sign) (m : BitVec 52) (hm : 0 < m.toNat) :
    UnpackedFloat.unpack .binary64 (packComponents .binary64 s 0 m) = .finite s m.toNat (-1074) hm := by
  have hzero : m ≠ 0#52 := by
    rintro rfl
    simp at hm
  unfold UnpackedFloat.unpack
  simp only [unpackMantissa_packComponents, unpackExponent_packComponents,
    unpackSign_packComponents, Sign.ofBitVec_toBitVec]
  rw [if_neg (by decide), if_pos (by rfl), dif_neg hzero]
  rfl

theorem pack_normal (s : Sign) (m : Nat) (e : Int) (hm : 0 < m) (hlow : 4503599627370496 ≤ m)
    (hhigh : m < 9007199254740992) (hfits : e ≤ 971) :
    UnpackedFloat.pack .binary64 (.finite s m e hm)
      = packComponents .binary64 s (BitVec.ofNat 11 (e + 1075).toNat) (BitVec.ofNat 52 m) := by
  have hlog : m.log2 = 52 := (Nat.log2_eq_iff (by omega)).2 ⟨hlow, hhigh⟩
  have hbias : (e + Format.binary64.exponentBias + Format.binary64.mantissaBitsWithoutImplicit)
      = e + 1075 := by
    show e + ((1023 : Nat) : Int) + ((52 : Nat) : Int) = _
    omega
  unfold UnpackedFloat.pack
  simp only [hbias, hlog]
  rw [if_neg (by simp; omega), if_pos (by rfl)]

theorem pack_subnormal (s : Sign) (m : Nat) (hm : 0 < m) (hhigh : m < 4503599627370496) :
    UnpackedFloat.pack .binary64 (.finite s m (-1074) hm)
      = packComponents .binary64 s 0 (BitVec.ofNat 52 m) := by
  have hlog : m.log2 < 52 := (Nat.log2_lt (by omega)).2 hhigh
  unfold UnpackedFloat.pack
  have hbits : Format.binary64.mantissaBits = 53 := rfl
  rw [if_neg (by decide), if_neg (by omega)]
  rfl

/-- What is written is read back. -/
theorem unpack_pack (s : Sign) (m : Nat) (e : Int) (hm : 0 < m) (h : Canonical m e) :
    UnpackedFloat.unpack .binary64 (UnpackedFloat.pack .binary64 (.finite s m e hm)) = .finite s m e hm := by
  rw [canonical_iff m e hm] at h
  obtain ⟨hhigh, hnormal, hlow, hfits⟩ := h
  by_cases hle : 4503599627370496 ≤ m
  · rw [pack_normal s m e hm hle hhigh hfits, unpack_normal]
    · have hm' : 4503599627370496 + (BitVec.ofNat 52 m).toNat = m := by
        simp only [BitVec.toNat_ofNat]
        omega
      have he : (((BitVec.ofNat 11 (e + 1075).toNat).toNat : Nat) : Int) - 1075 = e := by
        simp only [BitVec.toNat_ofNat]
        omega
      simp only [hm', he]
    · intro h
      have := congrArg BitVec.toNat h
      simp at this
      omega
    · intro h
      have := congrArg BitVec.toNat h
      simp at this
      omega
  · obtain rfl : e = -1074 := hnormal.resolve_left hle
    have hm' : (BitVec.ofNat 52 m).toNat = m := by
      simp only [BitVec.toNat_ofNat]
      omega
    rw [pack_subnormal s m hm (by omega), unpack_subnormal s _ (by omega)]
    simp only [hm']

/-! ## Unpacking -/

/-- A finite value in the one form that doubles give it. -/
inductive Held : UnpackedFloat → Prop where
  | zero (s : Sign) : Held (.zero s)
  | finite (s : Sign) (m : Nat) (e : Int) (hm : 0 < m) (h : Canonical m e) :
      Held (.finite s m e hm)

theorem Held.unpack_pack {u : UnpackedFloat} (h : Held u) :
    (Float.Model.pack u).unpack = u := by
  cases h with
  | zero s => cases s <;> rfl
  | finite s m e hm h => exact Double.unpack_pack s m e hm h

theorem Held.neg {u : UnpackedFloat} (h : Held u) : Held u.neg := by
  cases h with
  | zero s => exact .zero _
  | finite s m e hm h => exact .finite _ m e hm h

theorem Held.abs {u : UnpackedFloat} (h : Held u) : Held u.abs := by
  cases h with
  | zero s => exact .zero _
  | finite s m e hm h => exact .finite _ m e hm h

theorem Held.isFinite {u : UnpackedFloat} (h : Held u) : u.isFinite = true := by
  cases h <;> rfl

/-- The finite value of a sign, a biased exponent and a fraction. -/
inductive Fields (s : Sign) (x m : Nat) : UnpackedFloat → Prop where
  | zero (hx : x = 0) (hm : m = 0) : Fields s x m (.zero s)
  | subnormal (hx : x = 0) (hm : 0 < m) : Fields s x m (.finite s m (-1074) hm)
  | normal (hx : 0 < x) (h : x < 2047) :
      Fields s x m (.finite s (4503599627370496 + m) (x - 1075) (by omega))

theorem fields_unpack (b : BitVec 64) (h : (UnpackedFloat.unpack .binary64 b).isFinite = true) :
    Fields (Sign.ofBitVec (@unpackSign .binary64 b)) (@unpackExponent .binary64 b).toNat
      (@unpackMantissa .binary64 b).toNat (UnpackedFloat.unpack .binary64 b) := by
  generalize hx : @unpackExponent .binary64 b = x
  generalize hm : @unpackMantissa .binary64 b = m
  generalize hs : Sign.ofBitVec (@unpackSign .binary64 b) = s
  unfold UnpackedFloat.unpack at h ⊢
  simp only [hx, hm, hs, toNat_implicit] at h ⊢
  have hx_lt : x.toNat < 2048 := x.isLt
  split_ifs at h ⊢ with hones hinf hzero hnone
  · cases h
  · cases h
  · exact .zero (by rw [hzero]; rfl) (by rw [hnone]; rfl)
  · have hpos : 0 < m.toNat := by
      rw [Nat.pos_iff_ne_zero]
      intro hz
      exact hnone (BitVec.eq_of_toNat_eq hz)
    obtain rfl : x = 0#11 := hzero
    exact .subnormal rfl hpos
  · have hlow : x.toNat ≠ 0 := fun hz => hzero (BitVec.eq_of_toNat_eq hz)
    have hhigh : x.toNat ≠ 2047 := fun hz => hones (BitVec.eq_of_toNat_eq hz)
    exact .normal (by omega) (by omega)

theorem held_unpack (b : BitVec 64) (h : (UnpackedFloat.unpack .binary64 b).isFinite = true) :
    Held (UnpackedFloat.unpack .binary64 b) := by
  have hm : (@unpackMantissa .binary64 b).toNat < 4503599627370496 :=
    (@unpackMantissa .binary64 b).isLt
  have hfields := fields_unpack b h
  generalize UnpackedFloat.unpack .binary64 b = u at hfields
  cases hfields with
  | zero => exact .zero _
  | subnormal _ hpos => exact .finite _ _ _ hpos ((canonical_iff _ _ hpos).2 (by omega))
  | normal hlow hhigh =>
    exact .finite _ _ _ (by omega) ((canonical_iff _ _ (by omega)).2 (by omega))

/-! ## The bits -/

theorem toNat_unpackExponent (bits : UInt64) :
    (@unpackExponent .binary64 bits.toBitVec).toNat = ((bits >>> 52) &&& 0x7FF).toNat := by
  have hmask := Nat.and_two_pow_sub_one_eq_mod (bits.toNat >>> 52) 11
  simp only [UInt64.toNat_and, UInt64.toNat_shiftRight]
  exact hmask.symm

theorem toNat_unpackMantissa (bits : UInt64) :
    (@unpackMantissa .binary64 bits.toBitVec).toNat = (bits &&& 0xFFFFFFFFFFFFF).toNat := by
  have hmask := Nat.and_two_pow_sub_one_eq_mod bits.toNat 52
  rw [UInt64.toNat_and]
  exact hmask.symm

theorem ofBitVec_unpackSign (bits : UInt64) :
    Sign.ofBitVec (@unpackSign .binary64 bits.toBitVec)
      = if bits >>> 63 == 1 then .negative else .positive := by
  have hlt := bits.toNat_lt
  have hleft : (@unpackSign .binary64 bits.toBitVec).toNat = bits.toNat / 9223372036854775808 := by
    have hmod : (@unpackSign .binary64 bits.toBitVec).toNat = (bits.toNat >>> 63) % 2 := rfl
    rw [hmod, Nat.shiftRight_eq_div_pow]
    omega
  have hright : (bits >>> 63).toNat = bits.toNat / 9223372036854775808 := by
    rw [UInt64.toNat_shiftRight]
    exact Nat.shiftRight_eq_div_pow bits.toNat 63
  unfold Sign.ofBitVec
  split_ifs with hpositive hone hone
  · rw [hpositive] at hleft
    rw [beq_iff_eq.1 hone, ← hleft] at hright
    cases hright
  · rfl
  · rfl
  · exfalso
    rw [beq_iff_eq, ← UInt64.toNat_inj, hright] at hone
    apply hpositive
    apply BitVec.eq_of_toNat_eq
    rw [hleft]
    simp at hone ⊢
    omega

/-- The value in the terms of sign, mantissa and exponent. -/
inductive Describes (b : Decimal.Binary) : UnpackedFloat → Prop where
  | zero (s : Sign) (hm : b.mantissa = 0) : Describes b (.zero s)
  | finite (s : Sign) (m : Nat) (e : Int) (hm : 0 < m) (hsign : b.negative = (s == .negative))
      (hmantissa : b.mantissa = m) (hexponent : b.exponent = e) :
      Describes b (.finite s m e hm)

theorem describes_ofBits (bits : UInt64)
    (h : (UnpackedFloat.unpack .binary64 bits.toBitVec).isFinite = true) :
    Describes (Decimal.Binary.ofBits bits)
      (UnpackedFloat.unpack .binary64 bits.toBitVec) := by
  have hfields := fields_unpack _ h
  have hnegative : (bits >>> 63 == 1)
      = (Sign.ofBitVec (@unpackSign .binary64 bits.toBitVec) == .negative) := by
    rw [ofBitVec_unpackSign]
    cases bits >>> 63 == 1 <;> rfl
  generalize UnpackedFloat.unpack .binary64 bits.toBitVec = u at hfields
  unfold Decimal.Binary.ofBits
  simp only [← toNat_unpackExponent, ← toNat_unpackMantissa, hnegative]
  cases hfields with
  | zero hx hm =>
    rw [if_pos hx]
    exact .zero _ hm
  | subnormal hx hm =>
    rw [if_pos hx]
    exact .finite _ _ _ hm rfl rfl rfl
  | normal hx _ =>
    rw [if_neg (by omega)]
    exact .finite _ _ _ (by omega) rfl rfl rfl

end JsonSchema.Double
