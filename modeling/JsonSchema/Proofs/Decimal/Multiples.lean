import JsonSchema.Proofs.Decimal.Nearest
import JsonSchema.Schema.Evaluation

/-!
# Multiples up to rounding

The test for multiples divides, takes the nearest integer and compares the difference with a bound that grows with
the quotient. Only the division rounds: the rest is exact.
-/

namespace JsonSchema

/-! ## Values by their bits -/

namespace Decimal.Binary

def magnitude (b : Binary) : ℚ := b.mantissa * 2 ^ b.exponent

def value (b : Binary) : ℚ := if b.negative then -b.magnitude else b.magnitude

theorem value_signed (b : Binary) {n : Nat} (h : b.magnitude = n) : b.value = (b.signed n : Int) := by
  unfold value signed
  split
  · rw [h, Int.cast_neg, Int.cast_natCast]
  · rw [h, Int.cast_natCast]

theorem exists_magnitude {b : Binary} (h : b.isIntegral = true) : ∃ n : Nat, b.magnitude = n := by
  unfold isIntegral at h
  unfold magnitude
  rw [Bool.or_eq_true, decide_eq_true_iff, beq_iff_eq] at h
  by_cases hnonneg : 0 ≤ b.exponent
  · obtain ⟨k, hk⟩ := Int.eq_ofNat_of_zero_le hnonneg
    exact ⟨b.mantissa * 2 ^ k, by rw [hk]; push_cast; rfl⟩
  · obtain ⟨k, hk⟩ : ∃ k : Nat, b.exponent = -(k : Int) := ⟨(-b.exponent).toNat, by omega⟩
    have hdvd := Nat.dvd_of_mod_eq_zero (h.resolve_left hnonneg)
    rw [hk, Int.neg_neg, Int.toNat_natCast] at hdvd
    obtain ⟨n, hn⟩ := hdvd
    have hn : b.mantissa = 2 ^ k * n := hn
    refine ⟨n, ?_⟩
    rw [hn, hk, zpow_neg, zpow_natCast]
    push_cast
    field_simp

/-- With a fraction the nearest integer is not above the mantissa. -/
theorem exists_nearest {b : Binary} (h : b.isIntegral = false) :
    ∃ k : Nat, b.nearest = b.signed k ∧ k ≤ b.mantissa ∧ |b.magnitude - k| ≤ 1 / 2 := by
  unfold isIntegral at h
  rw [Bool.or_eq_false_iff, decide_eq_false_iff_not] at h
  obtain ⟨w, hw⟩ : ∃ w : Nat, b.exponent = -((w + 1 : Nat) : Int) := ⟨(-b.exponent).toNat - 1, by omega⟩
  have hnone : b.exponent.toNat = 0 := by omega
  have hshift : (-b.exponent).toNat = w + 1 := by omega
  have hnearest : b.nearest = b.signed ((2 * b.mantissa / 2 ^ (w + 1) + 1) / 2 : Nat) := by
    unfold nearest
    rw [hnone, hshift]
    simp
  have hpos : 0 < 2 ^ (w + 1) := Nat.two_pow_pos _
  have hlow := Nat.div_mul_le_self (2 * b.mantissa) (2 ^ (w + 1))
  have hhigh := Nat.lt_mul_div_succ (2 * b.mantissa) hpos
  have hle : 2 * b.mantissa / 2 ^ (w + 1) ≤ b.mantissa := by
    rw [Nat.pow_succ, Nat.mul_comm 2, Nat.mul_div_mul_right _ _ two_pos]
    exact Nat.div_le_self _ _
  generalize 2 * b.mantissa / 2 ^ (w + 1) = q at hnearest hlow hhigh hle
  refine ⟨(q + 1) / 2, hnearest, by omega, ?_⟩
  generalize hk : (q + 1) / 2 = k
  have hbelow : 2 * k * 2 ^ (w + 1) ≤ 2 * b.mantissa + 2 ^ (w + 1) := by
    have hle := Nat.mul_le_mul_right (2 ^ (w + 1)) (by omega : 2 * k ≤ q + 1)
    rw [Nat.add_mul, Nat.one_mul] at hle
    omega
  have habove : 2 * b.mantissa ≤ 2 * k * 2 ^ (w + 1) + 2 ^ (w + 1) := by
    have hle := Nat.mul_le_mul_left (2 ^ (w + 1)) (by omega : q + 1 ≤ 2 * k + 1)
    have hcomm : 2 ^ (w + 1) * (2 * k + 1) = 2 * k * 2 ^ (w + 1) + 2 ^ (w + 1) := by ring
    omega
  have hbelow : (2 * k * 2 ^ (w + 1) : ℚ) ≤ 2 * b.mantissa + 2 ^ (w + 1) := by exact_mod_cast hbelow
  have habove : (2 * b.mantissa : ℚ) ≤ 2 * k * 2 ^ (w + 1) + 2 ^ (w + 1) := by exact_mod_cast habove
  have hpos : (0 : ℚ) < 2 ^ (w + 1) := pow_pos two_pos _
  have hmagnitude : b.magnitude * 2 ^ (w + 1) = b.mantissa := by
    rw [magnitude, hw, zpow_neg, zpow_natCast, inv_mul_cancel_right₀ hpos.ne']
  rw [abs_le]
  constructor <;> nlinarith

end Decimal.Binary

namespace Double

open Float.Model Float.Model.UnpackedFloat

theorem value_eq_binary {f : Float} (h : f.isFinite = true) : value f = (Decimal.binary f).value := by
  have hdescribes := describes_binary h
  unfold value Decimal.Binary.value Decimal.Binary.magnitude
  generalize f.toModel.unpack = u at hdescribes ⊢
  cases hdescribes with
  | zero s hmantissa => rw [hmantissa]; simp [valueOf]
  | finite s m e hm hsign hmantissa hexponent =>
    rw [hsign, hmantissa, hexponent]
    cases s <;> rfl

theorem mantissa_binary_lt {f : Float} (h : f.isFinite = true) :
    (Decimal.binary f).mantissa < 9007199254740992 := by
  have hdescribes := describes_binary h
  have hheld := held_of_isFinite h
  generalize f.toModel.unpack = u at hdescribes hheld
  cases hdescribes with
  | zero s hmantissa =>
    rw [hmantissa]
    decide
  | finite s m e hm hsign hmantissa hexponent =>
    cases hheld with
    | finite _ _ _ _ hcanonical =>
      rw [hmantissa]
      exact ((canonical_iff m e hm).1 hcanonical).1

/-! ## The nearest integer -/

theorem value_nearest {f : Float} (h : f.isFinite = true) : (Decimal.nearest f).isFinite = true ∧
    ∃ k : Int, value (Decimal.nearest f) = k ∧ |value f - k| ≤ 1 / 2 := by
  unfold Decimal.nearest
  rw [h, Bool.true_and]
  cases hintegral : (Decimal.binary f).isIntegral with
  | true =>
    obtain ⟨n, hn⟩ := Decimal.Binary.exists_magnitude hintegral
    have hvalue := (value_eq_binary h).trans (Decimal.Binary.value_signed _ hn)
    refine ⟨h, _, hvalue, ?_⟩
    rw [hvalue, sub_self, abs_zero]
    exact (half_pos one_pos).le
  | false =>
    obtain ⟨k, hk, hle, hnear⟩ := Decimal.Binary.exists_nearest hintegral
    -- Halves occur below 2 ^ 53 only, where integers are exact.
    have hsmall : ((Decimal.binary f).signed k).natAbs < 9007199254740992 := by
      have hlt := mantissa_binary_lt h
      unfold Decimal.Binary.signed
      split <;> omega
    rw [Bool.not_false, if_pos rfl, hk]
    refine ⟨isFinite_ofInt hsmall, _, value_ofInt hsmall, ?_⟩
    rw [value_eq_binary h, Decimal.Binary.value]
    unfold Decimal.Binary.signed
    split
    · rw [Int.cast_neg, Int.cast_natCast, neg_sub_neg, abs_sub_comm]
      exact hnear
    · exact hnear

theorem abs_sub_le_of_near {x : ℚ} {k : Int} (h : |x - k| ≤ 1 / 2) (k' : Int) : |x - k| ≤ |x - k'| := by
  by_cases heq : k = k'
  · rw [heq]
  · have hapart : (1 : ℚ) ≤ |(k : ℚ) - k'| := by exact_mod_cast Int.one_le_abs (sub_ne_zero.2 heq)
    have htriangle := abs_sub_le (k : ℚ) x k'
    rw [abs_sub_comm (k : ℚ) x] at htriangle
    linarith

theorem exists_near_iff_nearest {x : ℚ} {k : Int} (h : |x - k| ≤ 1 / 2) (b : ℚ) :
    (∃ k' : Int, |x - k'| ≤ b) ↔ |x - k| ≤ b :=
  ⟨fun ⟨k', hk'⟩ => (abs_sub_le_of_near h k').trans hk', fun hle => ⟨k, hle⟩⟩

/-! ## The difference and the bound -/

/-- What is left beside the nearest integer has no more bits than the double. -/
theorem representable_sub_int {f : Float} (h : f.isFinite = true) {k : Int} (hnear : |value f - k| ≤ 1 / 2) :
    Representable (value f - k) := by
  have hnone : ∀ x : ℚ, x = 0 → Representable x := by
    rintro x rfl
    exact ⟨0, 0, by simp, by decide, by decide, by decide⟩
  have hle := abs_sub_le_of_near hnear 0
  have hheld := held_of_isFinite h
  unfold value at hnear hle ⊢
  generalize f.toModel.unpack = u at hheld hnear hle ⊢
  cases hheld with
  | zero s =>
    have hzero : valueOf (.zero s) - (0 : Int) = 0 := by simp [valueOf]
    rw [hzero, abs_zero] at hle
    exact hnone _ (abs_nonpos_iff.1 hle)
  | finite s m e hm hcanonical =>
    obtain ⟨hsmall, _, hlow, _⟩ := (canonical_iff m e hm).1 hcanonical
    by_cases hnonneg : 0 ≤ e
    · obtain ⟨w, rfl⟩ := Int.eq_ofNat_of_zero_le hnonneg
      have hinteger : valueOf (.finite s m w hm) = (s.apply (m * 2 ^ w : Nat) : Int) := by
        rw [valueOf, cast_apply]
        push_cast
        rfl
      have hself := abs_sub_le_of_near hnear (s.apply (m * 2 ^ w : Nat))
      rw [hinteger, sub_self, abs_zero] at hself
      exact hnone _ (hinteger ▸ abs_nonpos_iff.1 hself)
    -- The difference is a multiple of the last place, and no greater than the double itself.
    · obtain ⟨w, rfl⟩ : ∃ w : Nat, e = -(w : Int) := ⟨(-e).toNat, by omega⟩
      have hpos : (0 : ℚ) < 2 ^ (-(w : Int)) := zpow_pos two_pos _
      have hscaled : valueOf (.finite s m (-(w : Int)) hm) - k =
          ((s.apply m - k * 2 ^ w : Int) : ℚ) * 2 ^ (-(w : Int)) := by
        rw [valueOf, Int.cast_sub, cast_apply, sub_mul, signed_mul, zpow_neg, zpow_natCast]
        push_cast
        field_simp
      refine ⟨(s.apply m - k * 2 ^ w).natAbs, -(w : Int), ?_, ?_, hlow, by omega⟩
      · rw [hscaled, abs_mul, abs_of_pos hpos, Nat.cast_natAbs, Int.cast_abs]
      · rw [hscaled, abs_mul, abs_of_pos hpos, Int.cast_zero, sub_zero, valueOf, abs_signed,
          abs_of_pos (magnitude_pos hm _)] at hle
        have hle := le_of_mul_le_mul_right hle hpos
        have hle : |s.apply m - k * 2 ^ w| ≤ (m : Int) := by exact_mod_cast hle
        rw [Int.abs_eq_natAbs] at hle
        omega

theorem value_sub_nearest {f : Float} (h : f.isFinite = true) : (f - Decimal.nearest f).isFinite = true ∧
    ∃ k : Int, value (f - Decimal.nearest f) = value f - k ∧ |value f - k| ≤ 1 / 2 := by
  obtain ⟨hfinite, k, hk, hnear⟩ := value_nearest h
  have hrepresentable := representable_sub_int h hnear
  rw [← hk] at hrepresentable
  obtain ⟨hheld, hvalue⟩ := sub_exact (held_of_isFinite h) (held_of_isFinite hfinite) hrepresentable
  have hunpack : (f - Decimal.nearest f).toModel.unpack =
      UnpackedFloat.sub .binary64 f.toModel.unpack (Decimal.nearest f).toModel.unpack := hheld.unpack_pack
  refine ⟨isFinite_of_unpack hunpack hheld, k, ?_, hnear⟩
  rw [← hk, value_of_unpack hunpack, hvalue]
  rfl

theorem unpack_epsilon : (2.220446049250313e-16 : Float).toModel.unpack =
    .finite .positive 4503599627370496 (-104) (by decide) := by
  rfl

theorem unpack_literal_one :
    (1.0 : Float).toModel.unpack = .finite .positive 4503599627370496 (-52) (by decide) := by
  rfl

theorem value_one : value 1.0 = 1 := by
  rw [value_of_unpack unpack_literal_one, valueOf, signed]
  norm_num

theorem mul_epsilon {m : Nat} {e : Int} (hm : 0 < m) (hcanonical : Canonical m (e - 52)) :
    UnpackedFloat.mul .binary64 (.finite .positive 4503599627370496 (-104) (by decide))
      (.finite .positive m e hm) = .finite .positive m (e - 52) hm := by
  have hround := roundWithAccuracy_of_multiple .positive m 52 (-104 + e) hm
  have hexponent : -104 + e + ((52 : Nat) : Int) = e - 52 := by omega
  rw [hexponent] at hround
  show roundWithAccuracy .binary64 .positive (4503599627370496 * m) (-104 + e) .exact = _
  rw [Nat.mul_comm]
  exact hround hcanonical.target

theorem exponent_of_one_le {m : Nat} {e : Int} (hsmall : m < 9007199254740992) (hone : (1 : ℚ) ≤ m * 2 ^ e) :
    -52 ≤ e := by
  by_contra hless
  have hstep : (2 : ℚ) ^ e ≤ 2 ^ (-53 : Int) := zpow_le_zpow_right₀ one_le_two (by omega)
  have hsmall : (m : ℚ) < 9007199254740992 := by exact_mod_cast hsmall
  have hless : (m * 2 ^ e : ℚ) < 9007199254740992 * 2 ^ (-53 : Int) :=
    (mul_lt_mul_of_pos_right hsmall (zpow_pos two_pos e)).trans_le (mul_le_mul_of_nonneg_left hstep (by norm_num))
  norm_num at hless
  linarith

/-- From one on the bound is exact. -/
theorem value_epsilon_mul {f : Float} (h : f.isFinite = true) (hone : 1 ≤ value f) :
    (2.220446049250313e-16 * f).isFinite = true ∧
      value (2.220446049250313e-16 * f) = value f / 4503599627370496 := by
  have hmul : (2.220446049250313e-16 * f).toModel =
      Float.Model.pack (UnpackedFloat.mul .binary64 (2.220446049250313e-16 : Float).toModel.unpack
        f.toModel.unpack) := rfl
  have hheld := held_of_isFinite h
  generalize hf : f.toModel.unpack = u at hheld hmul
  rw [value_of_unpack hf] at hone ⊢
  cases hheld with
  | zero s => exact absurd hone (not_le.2 one_pos)
  | finite s m e hm hcanonical =>
    have hpos := magnitude_pos hm e
    cases s with
    | negative => exact absurd hone (not_le.2 ((neg_lt_zero.2 hpos).trans one_pos))
    | positive =>
      obtain ⟨hsmall, hfull, _, hhigh⟩ := (canonical_iff m e hm).1 hcanonical
      have hlow := exponent_of_one_le hsmall hone
      have hcanonical' : Canonical m (e - 52) := (canonical_iff m (e - 52) hm).2 (by omega)
      have hheld : Held (.finite .positive m (e - 52) hm) := .finite _ _ _ _ hcanonical'
      have hunpack : (2.220446049250313e-16 * f).toModel.unpack = .finite .positive m (e - 52) hm := by
        rw [hmul, unpack_epsilon, mul_epsilon hm hcanonical', hheld.unpack_pack]
      refine ⟨isFinite_of_unpack hunpack hheld, ?_⟩
      rw [value_of_unpack hunpack]
      show (m * 2 ^ (e - 52) : ℚ) = m * 2 ^ e / 4503599627370496
      rw [zpow_sub₀ two_ne_zero, ← mul_div_assoc]
      norm_num

theorem value_max {f g : Float} (hf : f.isFinite = true) (hg : g.isFinite = true) :
    (max f g).isFinite = true ∧ value (max f g) = max (value f) (value g) := by
  have hmax : max f g = if f ≤ g then g else f := rfl
  rw [hmax]
  by_cases hle : f ≤ g
  · rw [if_pos hle, max_eq_right ((le_iff_value hf hg).1 hle)]
    exact ⟨hg, rfl⟩
  · rw [if_neg hle, max_eq_left (le_of_not_ge (mt (le_iff_value hf hg).2 hle))]
    exact ⟨hf, rfl⟩

theorem isFinite_abs {f : Float} (h : f.isFinite = true) : f.abs.isFinite = true :=
  isFinite_of_unpack (unpack_abs h) (held_of_isFinite h).abs

/-- The test asks for an integer within the bound of the quotient, rounded as it is. -/
theorem isMultiple_iff {divisor x : Float} (h : (x / divisor).isFinite = true) :
    Leaf.isMultiple divisor x = true ↔
      ∃ k : Int, |value (x / divisor) - k| ≤ max |value (x / divisor)| 1 / 4503599627370496 := by
  unfold Leaf.isMultiple
  generalize x / divisor = q at h ⊢
  obtain ⟨hdifference, k, hk, hnear⟩ := value_sub_nearest h
  have habs := isFinite_abs h
  have hliteral : (1.0 : Float).isFinite = true := rfl
  obtain ⟨hmax, hvalue⟩ := value_max habs hliteral
  rw [value_abs h, value_one] at hvalue
  obtain ⟨hbound, hepsilon⟩ := value_epsilon_mul hmax (hvalue ▸ le_max_right _ _)
  rw [decide_eq_true_iff, le_iff_value (isFinite_abs hdifference) hbound, value_abs hdifference, hk, hepsilon,
    hvalue, exists_near_iff_nearest hnear]

/-- Without a finite quotient there is no difference to compare. -/
theorem not_isMultiple {divisor x : Float} (h : (x / divisor).isFinite = false) :
    ¬Leaf.isMultiple divisor x = true := by
  unfold Leaf.isMultiple
  generalize x / divisor = q at h ⊢
  have hnearest : Decimal.nearest q = q := by
    unfold Decimal.nearest
    rw [h, Bool.false_and]
    rfl
  have hdifference : (q - q).toModel.unpack = .notANumber := by
    have hinfinite : q.toModel.unpack.isFinite = false := h
    change (Float.Model.pack (UnpackedFloat.sub .binary64 q.toModel.unpack q.toModel.unpack)).unpack = _
    generalize q.toModel.unpack = u at hinfinite ⊢
    cases u with
    | infinity s => cases s <;> rfl
    | notANumber => rfl
    | zero | finite => cases hinfinite
  have habs : (q - q).abs.toModel.unpack = .notANumber := by
    change (Float.Model.pack (q - q).toModel.unpack.abs).unpack = _
    rw [hdifference]
    rfl
  dsimp only
  rw [hnearest, decide_eq_true_iff]
  intro hle
  have hle : UnpackedFloat.le (q - q).abs.toModel.unpack _ = true := decide_eq_true_iff.1 hle
  rw [habs] at hle
  cases hle

end Double

end JsonSchema
