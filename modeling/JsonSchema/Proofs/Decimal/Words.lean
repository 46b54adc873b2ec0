import JsonSchema.Proofs.Decimal.Multiples

/-!
# The doubles of words

The double of an integer of a word is the one nearest to it. Below 2 ^ 53 it stands for the integer itself, and
from there on it is at least 2 ^ 53 too, so that its size tells which of both it is.
-/

namespace JsonSchema

namespace Double

open Float.Model Float.Model.UnpackedFloat

/-! ## Integers that are rounded -/

theorem rounded_ofNat {n : Nat} (hlow : 9007199254740992 ≤ n) (hhigh : n < 18446744073709551616) :
    ∃ t j, 1 ≤ t ∧ Rounded .positive n t j (Float.ofNat n).toModel.unpack := by
  have hpos : 0 < n <<< 53 * 10 ^ 0 := by
    rw [Nat.pow_zero, Nat.mul_one, Nat.shiftLeft_eq]
    omega
  have hlog : n.log2 < 64 := (Nat.log2_lt (by omega)).2 hhigh
  have hlog' : 53 ≤ n.log2 := (Nat.le_log2 (by omega)).2 hlow
  have hexponent : roundingExponent (n <<< 53 * 10 ^ 0) (-53 + 0) = (n.log2 : Int) - 52 := by
    rw [roundingExponent_eq, log2_shifted (by omega)]
    omega
  obtain ⟨j, hj⟩ := rounded_roundWithAccuracy .positive hpos (located_exact _) (e := -53 + 0)
    (by rw [hexponent]; omega)
  have hvalue : ((n <<< 53 * 10 ^ 0 : Nat) : ℚ) * 2 ^ (-53 + 0 : Int) = n := by
    rw [Nat.pow_zero, Nat.mul_one, Nat.shiftLeft_eq, Nat.cast_mul, mul_assoc]
    norm_num
  rw [hvalue, hexponent] at hj
  refine ⟨(n.log2 : Int) - 52, j, by omega, ?_⟩
  rw [toModel_ofNat hlow hhigh, (hj.held (by omega)).unpack_pack]
  exact hj

theorem le_value_ofNat {n : Nat} (hlow : 9007199254740992 ≤ n) (hhigh : n < 18446744073709551616) :
    9007199254740992 ≤ value (Float.ofNat n) := by
  obtain ⟨t, j, ht, h⟩ := rounded_ofNat hlow hhigh
  have hfull := h.full.resolve_right (by omega)
  have hmantissa : (4503599627370496 : ℚ) ≤ j := by
    have hle := h.nearest.le_of_le (n := 4503599627370496) (by exact_mod_cast hfull)
    exact_mod_cast hle
  have hstep : (2 : ℚ) ^ (1 : Int) ≤ 2 ^ t := zpow_le_zpow_right₀ one_le_two ht
  rw [zpow_one] at hstep
  rw [value, h.value]
  calc (9007199254740992 : ℚ) = 4503599627370496 * 2 := by norm_num
    _ ≤ j * 2 ^ t := mul_le_mul hmantissa hstep (by norm_num) (by positivity)

/-! ## No double is nearer -/

/-- On the grid of the exponent an integer stands between the number and any other double. -/
theorem Held.exists_int_between {v : UnpackedFloat} (hv : Held v) {x : ℚ} {t : Int}
    (hfull : 4503599627370496 ≤ x / 2 ^ t) : ∃ k : Int, |x / 2 ^ t - k| ≤ |x / 2 ^ t - valueOf v / 2 ^ t| := by
  have hpos : (0 : ℚ) < 2 ^ t := zpow_pos two_pos t
  cases hv with
  | zero s =>
    have hzero : valueOf (.zero s) = 0 := rfl
    exact ⟨0, by rw [hzero, Int.cast_zero, zero_div]⟩
  | finite s m e hm hcanonical =>
    by_cases hle : t ≤ e
    · obtain ⟨k, rfl⟩ : ∃ k : Nat, e = t + k := ⟨(e - t).toNat, by omega⟩
      refine ⟨s.apply (m * 2 ^ k : Nat), le_of_eq ?_⟩
      have hgrid : valueOf (.finite s m (t + k) hm) / 2 ^ t = (s.apply (m * 2 ^ k : Nat) : Int) := by
        rw [cast_apply, valueOf, div_eq_iff hpos.ne', signed_mul, zpow_add₀ two_ne_zero, zpow_natCast]
        congr 1
        push_cast
        ring
      rw [hgrid]
    · obtain ⟨hsmall, _⟩ := (canonical_iff m e hm).1 hcanonical
      refine ⟨4503599627370496, ?_⟩
      have hstep := two_mul_zpow_le (not_le.1 hle)
      have hsmall : (m : ℚ) < 9007199254740992 := by exact_mod_cast hsmall
      have hvalue : valueOf (.finite s m e hm) ≤ m * 2 ^ e := by
        have hnonneg := (magnitude_pos hm e).le
        cases s with
        | negative => exact (neg_nonpos.2 hnonneg).trans hnonneg
        | positive => exact le_rfl
      have hbelow : valueOf (.finite s m e hm) / 2 ^ t ≤ 4503599627370496 := by
        rw [div_le_iff₀ hpos]
        have hpos : (0 : ℚ) < 2 ^ e := zpow_pos two_pos e
        nlinarith
      push_cast
      rw [abs_of_nonneg (by linarith), abs_of_nonneg (by linarith)]
      linarith

theorem nearest_ofNat {n : Nat} (h : n < 18446744073709551616) {g : Float} (hg : g.isFinite = true) :
    |value (Float.ofNat n) - n| ≤ |value g - n| := by
  by_cases hexact : n < 9007199254740992
  · have hvalue : value (Float.ofNat n) = n := value_ofInt (n := n) hexact
    rw [hvalue, sub_self, abs_zero]
    exact abs_nonneg _
  · obtain ⟨t, j, ht, hrounded⟩ := rounded_ofNat (by omega) h
    have hpos : (0 : ℚ) < 2 ^ t := zpow_pos two_pos t
    have hvalue : value (Float.ofNat n) = j * 2 ^ t := hrounded.value
    obtain ⟨k, hk⟩ := (held_of_isFinite hg).exists_int_between (hrounded.full.resolve_right (by omega))
    have hnear := (abs_sub_le_of_near hrounded.nearest.near k).trans hk
    have hscale : ∀ y : ℚ, |n / 2 ^ t - y / 2 ^ t| = |y - n| / 2 ^ t := by
      intro y
      rw [← sub_div, abs_div, abs_of_pos hpos, abs_sub_comm]
    have hgrid : (((j : Nat) : Int) : ℚ) = value (Float.ofNat n) / 2 ^ t := by
      rw [hvalue, mul_div_cancel_right₀ _ hpos.ne', Int.cast_natCast]
    rw [hgrid, hscale, hscale, div_le_div_iff_of_pos_right hpos] at hnear
    exact hnear

theorem value_neg {f : Float} (h : f.isFinite = true) : value f.neg = -value f := by
  rw [value, unpack_neg h, value]
  cases f.toModel.unpack with
  | finite s m e hm => exact signed_neg s _
  | _ => exact neg_zero.symm

theorem nearest_ofInt {n : Int} (fits : FitsWord n) {g : Float} (hg : g.isFinite = true) :
    |value (Float.ofInt n) - n| ≤ |value g - n| := by
  obtain ⟨hlow, hhigh⟩ := fits
  cases n with
  | ofNat n => exact nearest_ofNat (Int.ofNat_lt.1 hhigh) hg
  | negSucc n =>
    -- The negative integers mirror the positive ones.
    have hflip : ∀ x : ℚ, |-x - (Int.negSucc n : Int)| = |x - (n + 1 : Nat)| := by
      intro x
      rw [Int.cast_negSucc, neg_sub_neg, abs_sub_comm]
    have hvalue : value (Float.ofInt (.negSucc n)) = -value (Float.ofNat (n + 1)) :=
      value_neg (isFinite_ofNat (n + 1) (by omega))
    have hself : value g = -value g.neg := by rw [value_neg hg, neg_neg]
    rw [hvalue, hself, hflip, hflip]
    exact nearest_ofNat (by omega) (isFinite_neg hg)

theorem le_abs_value_ofInt {n : Int} (fits : FitsWord n) (h : 9007199254740992 ≤ n.natAbs) :
    9007199254740992 ≤ |value (Float.ofInt n)| := by
  obtain ⟨hlow, hhigh⟩ := fits
  cases n with
  | ofNat n => exact (le_value_ofNat h (Int.ofNat_lt.1 hhigh)).trans (le_abs_self _)
  | negSucc n =>
    have hvalue : value (Float.ofInt (.negSucc n)) = -value (Float.ofNat (n + 1)) :=
      value_neg (isFinite_ofNat (n + 1) (by omega))
    rw [hvalue, abs_neg]
    exact (le_value_ofNat h (by omega)).trans (le_abs_self _)

end Double

/-! ## Reading back -/

theorem Decimal.Binary.whole_of_magnitude {b : Binary} {n : Nat} (h : b.magnitude = n) :
    b.isIntegral = true ∧ b.whole = n := by
  unfold isIntegral whole
  unfold magnitude at h
  by_cases hnonneg : 0 ≤ b.exponent
  · obtain ⟨k, hk⟩ := Int.eq_ofNat_of_zero_le hnonneg
    have hnone : (-b.exponent).toNat = 0 := by omega
    have hshift : b.exponent.toNat = k := by omega
    rw [hk, zpow_natCast] at h
    have h : b.mantissa * 2 ^ k = n := by exact_mod_cast h
    rw [hnone, hshift, decide_eq_true hnonneg, Bool.true_or]
    exact ⟨rfl, (Nat.div_one _).trans h⟩
  · obtain ⟨k, hk⟩ : ∃ k : Nat, b.exponent = -(k : Int) := ⟨(-b.exponent).toNat, by omega⟩
    have hnone : b.exponent.toNat = 0 := by omega
    have hshift : (-b.exponent).toNat = k := by omega
    rw [hk, zpow_neg, zpow_natCast, ← div_eq_mul_inv, div_eq_iff (pow_ne_zero k two_ne_zero)] at h
    have h : b.mantissa = n * 2 ^ k := by exact_mod_cast h
    rw [hnone, hshift, h]
    refine ⟨?_, ?_⟩
    · rw [Bool.or_eq_true, beq_iff_eq]
      exact .inr (Nat.mul_mod_left n (2 ^ k))
    · exact (congrArg (· / 2 ^ k) (Nat.mul_one _)).trans (Nat.mul_div_left n (Nat.two_pow_pos k))

theorem Double.truncate_of_value {f : Float} (h : f.isFinite = true) {n : Int} (hvalue : value f = n) :
    Decimal.isIntegral f = true ∧ Decimal.truncate f = n := by
  rw [value_eq_binary h] at hvalue
  have hmagnitude : (Decimal.binary f).magnitude = n.natAbs := by
    have hnonneg : 0 ≤ (Decimal.binary f).magnitude := by
      unfold Decimal.Binary.magnitude
      positivity
    rw [Nat.cast_natAbs, Int.cast_abs, ← hvalue, Decimal.Binary.value]
    split
    · rw [abs_neg, abs_of_nonneg hnonneg]
    · rw [abs_of_nonneg hnonneg]
  obtain ⟨hintegral, hwhole⟩ := Decimal.Binary.whole_of_magnitude hmagnitude
  have hsigned := (Decimal.Binary.value_signed _ hmagnitude).symm.trans hvalue
  unfold Decimal.isIntegral Decimal.truncate Decimal.Binary.truncate
  rw [h, hintegral, hwhole]
  exact ⟨rfl, by exact_mod_cast hsigned⟩

namespace Number

open Double

theorem abs_lt_limit_iff {f : Float} (h : f.isFinite = true) :
    f.abs < 9007199254740992.0 ↔ |value f| < 9007199254740992 := by
  have hfinite : (9007199254740992.0 : Float).isFinite = true := rfl
  rw [lt_iff_value (isFinite_abs h) hfinite, value_abs h, value_limit]

theorem ofDouble?_ofInt {n : Int} (fits : FitsWord n) (h : n.natAbs < 9007199254740992) :
    ofDouble? (Float.ofInt n) = some (.int n fits) := by
  have hfinite := isFinite_ofInt h
  obtain ⟨hintegral, htruncate⟩ := truncate_of_value hfinite (value_ofInt h)
  have hsmall : (Float.ofInt n).abs < 9007199254740992.0 := by
    rw [abs_lt_limit_iff hfinite, value_ofInt h]
    have hlt : |n| < 9007199254740992 := by
      rw [Int.abs_eq_natAbs]
      omega
    exact_mod_cast hlt
  unfold ofDouble?
  rw [hintegral, decide_eq_true hsmall, Bool.and_self, if_pos rfl, htruncate]
  exact dif_pos fits

theorem ofDouble?_ofInt_large {n : Int} (fits : FitsWord n) (h : 9007199254740992 ≤ n.natAbs) :
    ofDouble? (Float.ofInt n) = some (.double (Float.ofInt n) (isFinite_toFloat (.int n fits))) := by
  have hfinite : (Float.ofInt n).isFinite = true := isFinite_toFloat (.int n fits)
  have hlarge : ¬(Float.ofInt n).abs < 9007199254740992.0 := by
    rw [abs_lt_limit_iff hfinite, not_lt]
    exact le_abs_value_ofInt fits h
  unfold ofDouble?
  rw [decide_eq_false hlarge, Bool.and_false, if_neg Bool.false_ne_true]
  exact dif_pos hfinite

end Number

end JsonSchema
