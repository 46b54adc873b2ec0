import JsonSchema.Proofs.Decimal.Words

/-!
# The doubles beside a double

A double has a nearest one below and, up to the greatest, one above it. The middles between them bound the numbers
that round to the double.
-/

namespace JsonSchema

namespace Decimal.Binary

/-- The number of the double below. -/
def below (b : Binary) : ℚ := b.magnitude - if b.narrowBelow then 2 ^ (b.exponent - 1) else 2 ^ b.exponent

/-- The number of the double above. -/
def above (b : Binary) : ℚ := b.magnitude + 2 ^ b.exponent

end Decimal.Binary

namespace Double

open Float.Model Float.Model.UnpackedFloat Decimal

/-! ## The form of a double -/

theorem exists_float {u : UnpackedFloat} (hu : Held u) :
    ∃ g : Float, g.isFinite = true ∧ g.toModel.unpack = u := by
  have hunpack : (Float.ofModel (.pack u)).toModel.unpack = u := hu.unpack_pack
  exact ⟨_, isFinite_of_unpack hunpack hu, hunpack⟩

theorem narrowBelow_iff (bits : UInt64) :
    (Binary.ofBits bits).narrowBelow = true ↔
      (Binary.ofBits bits).mantissa = 4503599627370496 ∧ -1074 < (Binary.ofBits bits).exponent := by
  have hfraction : (bits &&& 0xFFFFFFFFFFFFF).toNat < 4503599627370496 := by
    rw [← toNat_unpackMantissa]
    exact (@unpackMantissa .binary64 bits.toBitVec).isLt
  unfold Binary.ofBits
  dsimp only
  split
  · dsimp only
    refine iff_of_false Bool.false_ne_true ?_
    omega
  · show (_ == 0 && decide _) = true ↔ 4503599627370496 + _ = 4503599627370496 ∧ -1074 < (_ : Int) - 1075
    rw [Bool.and_eq_true, beq_iff_eq, decide_eq_true_iff]
    omega

section Form

variable {f : Float} (h : f.isFinite = true) (hpos : 0 < (binary f).mantissa)
include h hpos

theorem exists_unpack : ∃ s, f.toModel.unpack = .finite s (binary f).mantissa (binary f).exponent hpos ∧
    Canonical (binary f).mantissa (binary f).exponent := by
  have hdescribes := describes_binary h
  have hheld := held_of_isFinite h
  generalize f.toModel.unpack = u at hdescribes hheld
  cases hdescribes with
  | zero s hmantissa => omega
  | finite s m e hm hsign hmantissa hexponent =>
    subst hmantissa hexponent
    cases hheld with
    | finite _ _ _ _ hcanonical => exact ⟨s, rfl, hcanonical⟩

theorem canonical_binary : Canonical (binary f).mantissa (binary f).exponent := by
  obtain ⟨s, _, hcanonical⟩ := exists_unpack h hpos
  exact hcanonical

end Form

/-! ## No double stands between -/

theorem exists_multiple (m : Nat) {e e' : Int} (hle : e ≤ e') : ∃ n : Nat, (m * 2 ^ e' : ℚ) = n * 2 ^ e := by
  obtain ⟨k, rfl⟩ : ∃ k : Nat, e' = e + k := ⟨(e' - e).toNat, by omega⟩
  refine ⟨m * 2 ^ k, ?_⟩
  rw [zpow_add₀ two_ne_zero, zpow_natCast]
  push_cast
  ring

section Between

variable {m m' : Nat} {e e' : Int} (hm : 0 < m) (hm' : 0 < m') (h : Canonical m e) (h' : Canonical m' e')
include hm hm' h h'

theorem next_le (hlt : (m * 2 ^ e : ℚ) < m' * 2 ^ e') : (m * 2 ^ e + 2 ^ e : ℚ) ≤ m' * 2 ^ e' := by
  have hpos : (0 : ℚ) < 2 ^ e := zpow_pos two_pos e
  have hle : e ≤ e' := not_lt.1 fun hgt => hlt.not_gt (lt_of_exponent_lt hm' hm h' h hgt)
  obtain ⟨n, hn⟩ := exists_multiple m' hle
  rw [hn] at hlt ⊢
  have hmn : m < n := by exact_mod_cast (mul_lt_mul_iff_left₀ hpos).1 hlt
  have hmn : (m : ℚ) + 1 ≤ n := by exact_mod_cast hmn
  calc (m * 2 ^ e + 2 ^ e : ℚ) = (m + 1) * 2 ^ e := by ring
    _ ≤ n * 2 ^ e := mul_le_mul_of_nonneg_right hmn hpos.le

/-- Below the least mantissa of an exponent the doubles stand twice as close. -/
theorem le_previous (hlt : (m' * 2 ^ e' : ℚ) < m * 2 ^ e) :
    (m' * 2 ^ e' : ℚ) ≤ m * 2 ^ e - if m = 4503599627370496 ∧ -1074 < e then 2 ^ (e - 1) else 2 ^ e := by
  have hpos : (0 : ℚ) < 2 ^ e := zpow_pos two_pos e
  -- The other double is on the same grid or on a finer one.
  by_cases hle : e ≤ e'
  · obtain ⟨n, hn⟩ := exists_multiple m' hle
    rw [hn] at hlt ⊢
    have hmn : n < m := by exact_mod_cast (mul_lt_mul_iff_left₀ hpos).1 hlt
    have hmn : (n : ℚ) + 1 ≤ m := by exact_mod_cast hmn
    have hgap : (if m = 4503599627370496 ∧ -1074 < e then 2 ^ (e - 1) else 2 ^ e : ℚ) ≤ 2 ^ e := by
      split_ifs
      · exact zpow_le_zpow_right₀ one_le_two (by omega)
      · exact le_rfl
    have hproduct := mul_le_mul_of_nonneg_right hmn hpos.le
    linarith
  · obtain ⟨_, hfull, _, _⟩ := (canonical_iff m e hm).1 h
    obtain ⟨hsmall, _, hlow, _⟩ := (canonical_iff m' e' hm').1 h'
    have hstep : (2 : ℚ) ^ e = 2 * 2 ^ (e - 1) := by rw [← zpow_one_add₀ two_ne_zero]; congr 1; omega
    have hsmall : (m' : ℚ) + 1 ≤ 9007199254740992 := by exact_mod_cast hsmall
    have hexponent : (2 : ℚ) ^ e' ≤ 2 ^ (e - 1) := zpow_le_zpow_right₀ one_le_two (by omega)
    have hpos' : (0 : ℚ) < 2 ^ (e - 1) := zpow_pos two_pos _
    have hbound : (m' * 2 ^ e' : ℚ) ≤ 9007199254740991 * 2 ^ (e - 1) :=
      mul_le_mul (by linarith) hexponent (zpow_nonneg two_pos.le _) (by norm_num)
    split_ifs with hnarrow
    · rw [hnarrow.1, hstep]
      push_cast
      linarith
    · have hmore : 4503599627370496 + 1 ≤ m := by omega
      have hmore : (4503599627370496 : ℚ) + 1 ≤ m := by exact_mod_cast hmore
      rw [hstep]
      nlinarith

end Between

theorem exists_value {u : UnpackedFloat} (hu : Held u) : ∃ g : Float, g.isFinite = true ∧ value g = valueOf u := by
  obtain ⟨g, hg, hunpack⟩ := exists_float hu
  exact ⟨g, hg, value_of_unpack hunpack⟩

theorem below_eq (f : Float) : (binary f).below = (binary f).magnitude -
    if (binary f).mantissa = 4503599627370496 ∧ -1074 < (binary f).exponent then 2 ^ ((binary f).exponent - 1)
    else 2 ^ (binary f).exponent :=
  congrArg ((binary f).magnitude - ·) (if_congr (narrowBelow_iff f.toBits) rfl rfl)

theorem gapBelow_le (b : Binary) :
    (if b.narrowBelow then 2 ^ (b.exponent - 1) else 2 ^ b.exponent : ℚ) ≤ 2 ^ b.exponent := by
  split_ifs
  · exact zpow_le_zpow_right₀ one_le_two (by omega)
  · exact le_rfl

theorem below_nonneg {b : Binary} (hpos : 0 < b.mantissa) : 0 ≤ b.below := by
  have hpos' : (0 : ℚ) < 2 ^ b.exponent := zpow_pos two_pos _
  have hone : (1 : ℚ) ≤ b.mantissa := by exact_mod_cast hpos
  have hgap := gapBelow_le b
  unfold Binary.below Binary.magnitude
  nlinarith

theorem limit_eq : (2 : ℚ) ^ 1024 = 9007199254740992 * 2 ^ (971 : Int) := by
  have hsum : (2 : ℚ) ^ 1024 = 2 ^ 53 * 2 ^ 971 := by rw [← pow_add]
  rw [hsum, zpow_ofNat]
  norm_num

section Neighbours

variable {f : Float} (h : f.isFinite = true) (hpos : 0 < (binary f).mantissa)
include h hpos

theorem above_le_value {g : Float} (hg : g.isFinite = true) (hlt : (binary f).magnitude < value g) :
    (binary f).above ≤ value g := by
  have hheld := held_of_isFinite hg
  have hnonneg := (magnitude_pos hpos (binary f).exponent).le
  unfold value at hlt ⊢
  generalize g.toModel.unpack = u at hheld hlt ⊢
  cases hheld with
  | zero s => exact absurd hlt (not_lt.2 hnonneg)
  | finite s m e hm hcanonical =>
    cases s with
    | negative => exact absurd hlt (not_lt.2 ((neg_nonpos.2 (magnitude_pos hm e).le).trans hnonneg))
    | positive => exact next_le hpos hm (canonical_binary h hpos) hcanonical hlt

theorem value_le_below {g : Float} (hg : g.isFinite = true) (hlt : value g < (binary f).magnitude) :
    value g ≤ (binary f).below := by
  have hheld := held_of_isFinite hg
  have hnonneg := below_nonneg hpos
  unfold value at hlt ⊢
  generalize g.toModel.unpack = u at hheld hlt ⊢
  cases hheld with
  | zero s => exact hnonneg
  | finite s m e hm hcanonical =>
    cases s with
    | negative => exact (neg_nonpos.2 (magnitude_pos hm e).le).trans hnonneg
    | positive =>
      rw [below_eq]
      exact le_previous hpos hm (canonical_binary h hpos) hcanonical hlt

/-! ## The doubles next to it -/

theorem exists_above (hlt : (binary f).above < 2 ^ 1024) :
    ∃ g : Float, g.isFinite = true ∧ value g = (binary f).above := by
  have hcanonical := (canonical_iff _ _ hpos).1 (canonical_binary h hpos)
  unfold Binary.above Binary.magnitude at hlt ⊢
  generalize (binary f).mantissa = m at *
  generalize (binary f).exponent = e at *
  by_cases hcarry : m + 1 < 9007199254740992
  · obtain ⟨g, hg, hvalue⟩ := exists_value (.finite .positive (m + 1) e (by omega)
      ((canonical_iff _ _ (by omega)).2 (by omega)))
    refine ⟨g, hg, hvalue.trans ?_⟩
    rw [valueOf, signed]
    push_cast
    ring
  · obtain rfl : m = 9007199254740991 := by omega
    have hfits : e + 1 ≤ 971 := by
      by_contra hmore
      obtain rfl : e = 971 := by omega
      rw [limit_eq, ← add_one_mul, mul_lt_mul_iff_left₀ (zpow_pos two_pos _)] at hlt
      norm_num at hlt
    obtain ⟨g, hg, hvalue⟩ := exists_value (.finite .positive 4503599627370496 (e + 1) (by omega)
      ((canonical_iff _ _ (by omega)).2 (by omega)))
    refine ⟨g, hg, hvalue.trans ?_⟩
    rw [valueOf, signed, zpow_add_one₀ two_ne_zero]
    push_cast
    ring

theorem exists_below : ∃ g : Float, g.isFinite = true ∧ value g = (binary f).below := by
  have hcanonical := (canonical_iff _ _ hpos).1 (canonical_binary h hpos)
  rw [below_eq]
  unfold Binary.magnitude
  generalize (binary f).mantissa = m at *
  generalize (binary f).exponent = e at *
  split_ifs with hnarrow
  · obtain ⟨rfl, hexponent⟩ := hnarrow
    obtain ⟨g, hg, hvalue⟩ := exists_value (.finite .positive 9007199254740991 (e - 1) (by omega)
      ((canonical_iff _ _ (by omega)).2 (by omega)))
    refine ⟨g, hg, hvalue.trans ?_⟩
    have hstep : (2 : ℚ) ^ e = 2 * 2 ^ (e - 1) := by rw [← zpow_one_add₀ two_ne_zero]; congr 1; omega
    rw [valueOf, signed, hstep]
    push_cast
    ring
  · by_cases hone : m = 1
    · obtain ⟨g, hg, hvalue⟩ := exists_value (.zero .positive)
      refine ⟨g, hg, hvalue.trans ?_⟩
      rw [hone, Nat.cast_one, one_mul, sub_self]
      rfl
    · obtain ⟨g, hg, hvalue⟩ := exists_value (.finite .positive (m - 1) e (by omega)
        ((canonical_iff _ _ (by omega)).2 (by omega)))
      refine ⟨g, hg, hvalue.trans ?_⟩
      rw [valueOf, signed, Nat.cast_sub hpos]
      push_cast
      ring

end Neighbours

end Double

end JsonSchema
