import JsonSchema.Proofs.Decimal.Multiples

/-!
# Numbers in units

Every number is a whole multiple of the least positive double. So numbers are compared as integers are, and those
without a fraction are multiples of one.
-/

namespace JsonSchema

namespace Decimal.Binary

theorem le_exponent_ofBits (bits : UInt64) : -1074 ≤ (ofBits bits).exponent := by
  unfold ofBits
  dsimp only
  split
  · exact Int.le_refl _
  · next h =>
    dsimp only
    omega

/-- Named, so that no power of it is computed. -/
theorem exists_least_exponent (f : Float) :
    ∃ k : Nat, 1074 = k ∧ (1074 : Int) = k ∧ -(k : Int) ≤ (binary f).exponent :=
  ⟨1074, rfl, rfl, le_exponent_ofBits f.toBits⟩

theorem mantissa_mul_of_isIntegral {b : Binary} (h : b.isIntegral = true) {k : Nat}
    (hk : -(k : Int) ≤ b.exponent) :
    b.mantissa * Nat.pow 2 (b.exponent + k).toNat = b.whole * Nat.pow 2 k := by
  unfold isIntegral at h
  unfold whole
  generalize hm : b.mantissa = m at h ⊢
  generalize he : b.exponent = e at h hk ⊢
  rw [Bool.or_eq_true, decide_eq_true_eq, beq_iff_eq] at h
  by_cases hpos : 0 ≤ e
  · obtain ⟨j, rfl⟩ := Int.eq_ofNat_of_zero_le hpos
    have hsum : ((j : Int) + k).toNat = j + k := by omega
    have hnone : (-(j : Int)).toNat = 0 := by omega
    rw [hsum, hnone, Int.toNat_natCast]
    show m * 2 ^ (j + k) = m * 2 ^ j / 1 * 2 ^ k
    rw [Nat.div_one, Nat.pow_add, Nat.mul_assoc]
  · obtain ⟨j, rfl⟩ : ∃ j : Nat, e = -(j : Int) := ⟨(-e).toNat, by omega⟩
    have hdiff : (-(j : Int) + k).toNat = k - j := by omega
    have hnone : (-(j : Int)).toNat = 0 := by omega
    have hpow : 2 ^ j * 2 ^ (k - j) = 2 ^ k := by rw [← Nat.pow_add, Nat.add_sub_cancel' (by omega)]
    rw [hdiff, hnone, Int.neg_neg, Int.toNat_natCast] at *
    obtain ⟨w, rfl⟩ : 2 ^ j ∣ m := Nat.dvd_of_mod_eq_zero (h.resolve_left hpos)
    show 2 ^ j * w * 2 ^ (k - j) = 2 ^ j * w * 1 / 2 ^ j * 2 ^ k
    rw [Nat.mul_one, Nat.mul_div_cancel_left w (Nat.two_pow_pos j), ← hpow]
    ring

theorem signed_of_isIntegral {b : Binary} (h : b.isIntegral = true) {k : Nat}
    (hk : -(k : Int) ≤ b.exponent) :
    b.signed (b.mantissa * Nat.pow 2 (b.exponent + k).toNat) = b.truncate * Nat.pow 2 k := by
  rw [mantissa_mul_of_isIntegral h hk, truncate, signed, signed]
  split <;> push_cast <;> ring

theorem isIntegral_iff_dvd {b : Binary} {k : Nat} (hk : -(k : Int) ≤ b.exponent) :
    b.isIntegral = true ↔ Nat.pow 2 k ∣ b.mantissa * Nat.pow 2 (b.exponent + k).toNat := by
  constructor
  · intro h
    rw [mantissa_mul_of_isIntegral h hk]
    exact Nat.dvd_mul_left _ _
  · rintro ⟨w, hw⟩
    unfold isIntegral
    rw [Bool.or_eq_true, decide_eq_true_eq, beq_iff_eq]
    by_cases hpos : 0 ≤ b.exponent
    · exact .inl hpos
    · obtain ⟨j, hj⟩ : ∃ j : Nat, b.exponent = -(j : Int) := ⟨(-b.exponent).toNat, by omega⟩
      have hdiff : (b.exponent + k).toNat = k - j := by omega
      have hnone : (-b.exponent).toNat = j := by omega
      have hscale : 2 ^ k = 2 ^ j * 2 ^ (k - j) := by rw [← Nat.pow_add, Nat.add_sub_cancel' (by omega)]
      rw [hdiff] at hw
      change b.mantissa * 2 ^ (k - j) = 2 ^ k * w at hw
      rw [hscale, Nat.mul_right_comm] at hw
      rw [hnone, Nat.eq_of_mul_eq_mul_right (Nat.two_pow_pos _) hw]
      exact .inr (Nat.mul_mod_right _ _)

theorem signed_dvd_iff (b : Binary) (n unit : Nat) : (∃ k : Int, b.signed n = k * unit) ↔ unit ∣ n := by
  have hdvd : (∃ k : Int, b.signed n = k * unit) ↔ (unit : Int) ∣ b.signed n :=
    exists_congr fun k => by rw [mul_comm]
  rw [hdvd, signed]
  split
  · rw [Int.dvd_neg, Int.natCast_dvd_natCast]
  · exact Int.natCast_dvd_natCast

theorem cast_signed (b : Binary) {k : Nat} (hk : -(k : Int) ≤ b.exponent) :
    (b.signed (b.mantissa * Nat.pow 2 (b.exponent + k).toNat) : ℚ) = b.value * 2 ^ k := by
  obtain ⟨j, hj⟩ : ∃ j : Nat, b.exponent + k = j := Int.eq_ofNat_of_zero_le (by omega)
  have hscale : (2 : ℚ) ^ b.exponent * 2 ^ k = 2 ^ j := by
    rw [← zpow_natCast, ← zpow_natCast, ← zpow_add₀ two_ne_zero, hj]
  have hmagnitude : b.magnitude * 2 ^ k = (b.mantissa * Nat.pow 2 j : Nat) := by
    rw [magnitude, mul_assoc, hscale, Nat.cast_mul]
    exact congrArg _ (Nat.cast_pow 2 j).symm
  rw [hj, Int.toNat_natCast, signed, value]
  split
  · rw [Int.cast_neg, Int.cast_natCast, neg_mul, hmagnitude]
  · rw [Int.cast_natCast, hmagnitude]

end Decimal.Binary

namespace Number

/-- The exact value, as a multiple of the least positive double. -/
def units : Number → Int
  | .int n _ => n * Nat.pow 2 1074
  | .double f _ =>
    let b := Decimal.binary f
    b.signed (b.mantissa * Nat.pow 2 (b.exponent + 1074).toNat)

theorem units_int_injective {k l : Int} {hk : FitsWord k} {hl : FitsWord l}
    (h : (int k hk).units = (int l hl).units) : k = l := by
  have hpos : ∀ e, 0 < Nat.pow 2 e := Nat.two_pow_pos
  have hpos := hpos 1074
  simp only [units] at h
  generalize Nat.pow 2 1074 = unit at h hpos
  exact Int.eq_of_mul_eq_mul_right (by omega) h

theorem units_double_of_isIntegral {f : Float} {finite : f.isFinite = true}
    (h : (Decimal.binary f).isIntegral = true) (fits : FitsWord (Decimal.truncate f)) :
    (int (Decimal.truncate f) fits).units = (double f finite).units := by
  obtain ⟨k, hk, hscale, hexponent⟩ := Decimal.Binary.exists_least_exponent f
  simp only [units, hk, hscale]
  exact (Decimal.Binary.signed_of_isIntegral h hexponent).symm

theorem exists_scale : ∃ scale : ℚ, 0 < scale ∧
    ∀ f finite, ((double f finite).units : ℚ) = Double.value f * scale := by
  refine ⟨2 ^ 1074, pow_pos two_pos 1074, fun f finite => ?_⟩
  obtain ⟨k, hk, hscale, hexponent⟩ := Decimal.Binary.exists_least_exponent f
  rw [hk, units, hscale, Double.value_eq_binary finite]
  exact Decimal.Binary.cast_signed _ hexponent

section Order

variable {f g : Float} (hf : f.isFinite = true) (hg : g.isFinite = true)

theorem units_le_iff : (double f hf).units ≤ (double g hg).units ↔ f ≤ g := by
  obtain ⟨scale, hpos, hscale⟩ := exists_scale
  rw [Double.le_iff_value hf hg, ← mul_le_mul_iff_left₀ hpos, ← hscale f hf, ← hscale g hg, Int.cast_le]

theorem units_lt_iff : (double f hf).units < (double g hg).units ↔ f < g := by
  obtain ⟨scale, hpos, hscale⟩ := exists_scale
  rw [Double.lt_iff_value hf hg, ← mul_lt_mul_iff_left₀ hpos, ← hscale f hf, ← hscale g hg, Int.cast_lt]

end Order

/-- The value is an integer. -/
def IsIntegral (x : Number) : Prop := ∃ k : Int, x.units = k * Nat.pow 2 1074

theorem isInteger_iff (x : Number) : x.isInteger = true ↔ x.IsIntegral := by
  cases x with
  | int n fits => exact iff_of_true rfl ⟨n, rfl⟩
  | double f finite =>
    obtain ⟨k, hk, hscale, hexponent⟩ := Decimal.Binary.exists_least_exponent f
    rw [isInteger, Decimal.isIntegral, finite, Bool.true_and, IsIntegral, units, hk, hscale,
      Decimal.Binary.isIntegral_iff_dvd hexponent]
    exact (Decimal.Binary.signed_dvd_iff _ _ _).symm

end Number

end JsonSchema
