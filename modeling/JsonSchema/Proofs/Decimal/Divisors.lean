import JsonSchema.Proofs.Decimal.Multiples

/-!
# Integers that pass as multiples

For integers that doubles hold exactly the test for multiples is a matter of integers: how far from the next
multiple a number may be follows from the number of bits of the quotient. Multiples pass, and so do some numbers
beside them once 53 bits no longer tell the quotients apart.
-/

namespace JsonSchema.Double

open Float.Model Float.Model.UnpackedFloat

/-! ## Quotients of integers -/

/-- What doubles hold of a quotient of integers: 53 bits. -/
structure Quotient (r p : ℚ) (t : Int) (j : Nat) : Prop where
  full : 4503599627370496 ≤ r / 2 ^ t
  small : r / 2 ^ t < 9007199254740992
  nearest : NearestEven (r / 2 ^ t) j
  value : p = j * 2 ^ t

theorem quotient_between {a m : Nat} (ha : 0 < a) (hsmall : a < 9007199254740992) (hm : 0 < m)
    (hm' : m < 9007199254740992) :
    (1 / 9007199254740992 : ℚ) ≤ a / m ∧ (a / m : ℚ) < 9007199254740992 := by
  have ha : (1 : ℚ) ≤ a := by exact_mod_cast ha
  have hsmall : (a : ℚ) < 9007199254740992 := by exact_mod_cast hsmall
  have hm : (1 : ℚ) ≤ m := by exact_mod_cast hm
  have hm' : (m : ℚ) < 9007199254740992 := by exact_mod_cast hm'
  constructor
  · rw [div_le_div_iff₀ (by norm_num) (by linarith)]
    nlinarith
  · rw [div_lt_iff₀ (by linarith)]
    nlinarith

theorem Rounded.exponent_between {s : Sign} {x : ℚ} {t : Int} {j : Nat} {u : UnpackedFloat}
    (h : Rounded s x t j u) (hlow : 1 / 9007199254740992 ≤ x) (hhigh : x < 9007199254740992) :
    -1074 < t ∧ t ≤ 970 := by
  have hpos : (0 : ℚ) < 2 ^ t := zpow_pos two_pos t
  have hmore : -1074 < t := by
    refine lt_of_le_of_ne h.low fun heq => ?_
    have hless := h.small
    rw [← heq, div_lt_iff₀ (zpow_pos two_pos _)] at hless
    have htiny : (2 : ℚ) ^ (-1074 : Int) ≤ 2 ^ (-106 : Int) := zpow_le_zpow_right₀ one_le_two (by decide)
    have hbound : (9007199254740992 : ℚ) * 2 ^ (-1074 : Int) ≤ 1 / 9007199254740992 :=
      (mul_le_mul_of_nonneg_left htiny (by norm_num)).trans_eq (by norm_num)
    exact absurd (hlow.trans_lt hless) (not_lt.2 hbound)
  refine ⟨hmore, ?_⟩
  by_contra hlarge
  have hfull := h.full.resolve_right (by omega)
  rw [le_div_iff₀ hpos] at hfull
  have hstep : (2 : ℚ) ^ (1 : Int) ≤ 2 ^ t := zpow_le_zpow_right₀ one_le_two (by omega)
  rw [zpow_one] at hstep
  linarith

theorem exists_quotient {x : Int} {m : Nat} (hx : x ≠ 0) (hsmall : x.natAbs < 9007199254740992) (hm : 0 < m)
    (hm' : m < 9007199254740992) : (Float.ofInt x / Float.ofInt m).isFinite = true ∧
      ∃ t j, Quotient (x.natAbs / m) |value (Float.ofInt x / Float.ofInt m)| t j := by
  obtain ⟨s, hs⟩ := exists_sign x
  have ha : 0 < x.natAbs := Int.natAbs_pos.2 hx
  have hdividend := unpack_ofInt s x.natAbs ha hsmall
  have hdivisor : (Float.ofInt m).toModel.unpack = .finite .positive (m * 2 ^ (52 - m.log2))
      ((m.log2 : Int) - 52) (Nat.mul_pos hm (Nat.two_pow_pos _)) := unpack_ofInt .positive m hm hm'
  rw [← hs] at hdividend
  generalize x.natAbs = a at hsmall ha hdividend ⊢
  have hlog : a.log2 < 53 := (Nat.log2_lt (by omega)).2 hsmall
  have hlog' : m.log2 < 53 := (Nat.log2_lt (by omega)).2 hm'
  obtain ⟨t, j, h⟩ := rounded_div s .positive (Nat.mul_pos ha (Nat.two_pow_pos (52 - a.log2)))
    (Nat.mul_pos hm (Nat.two_pow_pos (52 - m.log2))) ((a.log2 : Int) - 52) ((m.log2 : Int) - 52) (by
      rw [totalExponent, totalExponent, log2_shift _ _ ha, log2_shift _ _ hm]
      omega)
  rw [filled hlog, filled hlog', ← hdividend, ← hdivisor] at h
  obtain ⟨hlow, hhigh⟩ := quotient_between ha hsmall hm hm'
  obtain ⟨hmore, hfits⟩ := h.exponent_between hlow hhigh
  have hheld := h.held hfits
  have hunpack : (Float.ofInt x / Float.ofInt m).toModel.unpack =
      UnpackedFloat.div .binary64 (Float.ofInt x).toModel.unpack (Float.ofInt m).toModel.unpack :=
    hheld.unpack_pack
  refine ⟨isFinite_of_unpack hunpack hheld, t, j, h.full.resolve_right (by omega), h.small, h.nearest, ?_⟩
  rw [value_of_unpack hunpack, h.value, abs_signed, abs_of_nonneg (by positivity)]

theorem NearestEven.of_fraction {n d j : Nat} (hd : 0 < d) (h : NearestEven (n / d) j) :
    |2 * (n : Int) - 2 * j * d| ≤ d ∧ (|2 * (n : Int) - 2 * j * d| = d → Even j) := by
  have hpos : (0 : ℚ) < d := by exact_mod_cast hd
  -- Twice the distance, times the divisor, is an integer.
  have hscaled : ((|2 * (n : Int) - 2 * j * d| : Int) : ℚ) = d * (2 * |(n / d : ℚ) - j|) := by
    have hfactor : (2 * n - 2 * j * d : ℚ) = d * (2 * ((n / d : ℚ) - j)) := by field_simp
    push_cast
    rw [hfactor, abs_mul, abs_mul, abs_of_pos hpos, abs_of_pos (two_pos : (0 : ℚ) < 2)]
  have hnear : |(n / d : ℚ) - j| ≤ 1 / 2 := by exact_mod_cast h.near
  constructor
  · have hle : (d : ℚ) * (2 * |(n / d : ℚ) - j|) ≤ d * 1 := mul_le_mul_of_nonneg_left (by linarith) hpos.le
    rw [← hscaled, mul_one] at hle
    exact_mod_cast hle
  · intro heq
    rw [heq, Int.cast_natCast] at hscaled
    have hone : 2 * |(n / d : ℚ) - j| = 1 := mul_left_cancel₀ hpos.ne' (by rw [← hscaled, mul_one])
    have heven := h.even (by exact_mod_cast (by linarith : |(n / d : ℚ) - j| = 1 / 2))
    exact_mod_cast heven

/-! ## Distances to multiples -/

/-- How far the number is from the nearest multiple. -/
def gap (m a : Nat) : Nat := min (a % m) (m - a % m)

theorem two_mul_gap_le (m a : Nat) : 2 * gap m a ≤ m := by
  unfold gap
  omega

section Gap

variable {m : Nat} (hm : 0 < m) (a : Nat)
include hm

theorem exists_gap : ∃ c : Int, |(a : Int) - c * m| = gap m a := by
  have hlt := Nat.mod_lt a hm
  have hsum : (m : Int) * (a / m : Nat) + (a % m : Nat) = a := by exact_mod_cast Nat.div_add_mod a m
  unfold gap
  generalize a % m = r at *
  rcases Nat.le_total r (m - r) with hle | hle
  · refine ⟨(a / m : Nat), ?_⟩
    have hrest : (a : Int) - (a / m : Nat) * m = r := by linarith
    rw [Nat.min_eq_left hle, hrest, Nat.abs_cast]
  · refine ⟨(a / m : Nat) + 1, ?_⟩
    have hrest : (a : Int) - ((a / m : Nat) + 1) * m = -((m - r : Nat) : Int) := by
      rw [Nat.cast_sub hlt.le]
      linarith
    rw [Nat.min_eq_right hle, hrest, abs_neg, Nat.abs_cast]

theorem gap_le (c : Int) : (gap m a : Int) ≤ |(a : Int) - c * m| := by
  have hlt := Nat.mod_lt a hm
  have hsum : (m : Int) * (a / m : Nat) + (a % m : Nat) = a := by exact_mod_cast Nat.div_add_mod a m
  have hrest : (a : Int) - c * m = m * ((a / m : Nat) - c) + (a % m : Nat) := by rw [← hsum]; ring
  have hmin : (gap m a : Int) ≤ (a % m : Nat) ∧ (gap m a : Int) ≤ m - (a % m : Nat) := by
    unfold gap
    omega
  have hpos : (0 : Int) < m := by exact_mod_cast hm
  rw [hrest]
  generalize ((a / m : Nat) : Int) - c = δ
  rcases Int.lt_or_le δ 0 with hneg | hnonneg
  · have hle : (m : Int) * δ ≤ m * -1 := mul_le_mul_of_nonneg_left (by omega) hpos.le
    exact le_trans (by omega) (neg_le_abs _)
  · have hle : (0 : Int) ≤ m * δ := mul_nonneg hpos.le hnonneg
    exact le_trans (by omega) (le_abs_self _)

theorem gap_eq_zero_iff : gap m a = 0 ↔ m ∣ a := by
  have hlt := Nat.mod_lt a hm
  rw [Nat.dvd_iff_mod_eq_zero]
  unfold gap
  omega

end Gap

/-! ## Quotients near integers -/

section Near

variable {m a i j : Nat} (hm : 0 < m)

/-- The mantissa is nearly the quotient, so an integer near the one is a multiple near the other. -/
theorem mul_sub_eq (m a i j : Nat) (k : Int) :
    2 * ((j : Int) - k * 2 ^ i) * m =
      2 ^ (i + 1) * ((a : Int) - k * m) - (2 * ((a * 2 ^ i : Nat) : Int) - 2 * j * m) := by
  push_cast
  ring

theorem abs_sub_mul_le {c : Int} (hc : |(a : Int) - c * m| = gap m a) :
    2 * |(j : Int) - c * 2 ^ i| * m ≤ gap m a * 2 ^ (i + 1) + |2 * ((a * 2 ^ i : Nat) : Int) - 2 * j * m| := by
  have habs : 2 * |(j : Int) - c * 2 ^ i| * m = |2 * ((j : Int) - c * 2 ^ i) * m| := by
    rw [abs_mul, abs_mul, Nat.abs_cast, abs_two]
  have hgap : |(2 : Int) ^ (i + 1) * ((a : Int) - c * m)| = gap m a * 2 ^ (i + 1) := by
    rw [abs_mul, hc, abs_of_pos (pow_pos two_pos _), mul_comm]
  rw [habs, mul_sub_eq m a i j c, ← hgap]
  exact abs_sub _ _

include hm in
theorem gap_mul_le (k : Int) :
    gap m a * 2 ^ (i + 1) ≤ 2 * |(j : Int) - k * 2 ^ i| * m + |2 * ((a * 2 ^ i : Nat) : Int) - 2 * j * m| := by
  have habs : 2 * |(j : Int) - k * 2 ^ i| * m = |2 * ((j : Int) - k * 2 ^ i) * m| := by
    rw [abs_mul, abs_mul, Nat.abs_cast, abs_two]
  have hpos : (0 : Int) < 2 ^ (i + 1) := pow_pos two_pos _
  have hgap : gap m a * 2 ^ (i + 1) ≤ |(2 : Int) ^ (i + 1) * ((a : Int) - k * m)| := by
    rw [abs_mul, abs_of_pos hpos, mul_comm]
    exact mul_le_mul_of_nonneg_left (gap_le hm a k) hpos.le
  have hsum := mul_sub_eq m a i j k
  rw [habs]
  refine hgap.trans ?_
  rw [eq_sub_iff_add_eq] at hsum
  rw [← hsum]
  exact abs_add_le _ _

variable (hnear : |2 * ((a * 2 ^ i : Nat) : Int) - 2 * j * m| ≤ m)
include hm hnear

/-- Of the quotients that are at least one. -/
theorem exists_near_iff (heven : |2 * ((a * 2 ^ i : Nat) : Int) - 2 * j * m| = m → Even j) (hi : i ≤ 52)
    (hfull : 4503599627370496 ≤ j) (hsmall : j ≤ 9007199254740992) :
    (∃ k : Int, |(j : Int) - k * 2 ^ i| * 4503599627370496 ≤ j) ↔ gap m a * 2 ^ (i + 1) < 3 * m := by
  have hpos : (0 : Int) < m := by exact_mod_cast hm
  constructor
  · rintro ⟨k, hk⟩
    obtain ⟨k, hk⟩ : ∃ k : Int, |(j : Int) - k * 2 ^ i| ≤ 1 := by
      -- Only at 2 ^ 53 may the mantissa be off by two, and there it is a multiple itself.
      by_cases hone : |(j : Int) - k * 2 ^ i| ≤ 1
      · exact ⟨k, hone⟩
      · obtain rfl : j = 9007199254740992 := by omega
        refine ⟨2 ^ (53 - i), ?_⟩
        rw [← pow_add, Nat.sub_add_cancel (by omega)]
        norm_num
    have hgap := gap_mul_le (i := i) (j := j) hm (a := a) k
    have hlt : (gap m a * 2 ^ (i + 1) : Int) < 3 * m := by
      by_contra hmore
      -- Both the mantissa and the quotient are as far off as can be, which only an odd divisor allows.
      have hodd : |(j : Int) - k * 2 ^ i| = 1 := by nlinarith
      have htie : |2 * ((a * 2 ^ i : Nat) : Int) - 2 * j * m| = m := by nlinarith
      obtain ⟨h, hj⟩ := heven htie
      cases i with
      | zero =>
        have hle := two_mul_gap_le m a
        rw [zero_add, pow_one] at hmore
        omega
      | succ i =>
        rw [pow_succ, ← mul_assoc] at hodd
        generalize k * 2 ^ i = c at hodd
        rcases (abs_eq zero_le_one).1 hodd with hodd | hodd <;> omega
    exact_mod_cast hlt
  · intro hgap
    obtain ⟨c, hc⟩ := exists_gap hm a
    have hle := abs_sub_mul_le (i := i) (j := j) hc
    refine ⟨c, ?_⟩
    have hone : |(j : Int) - c * 2 ^ i| ≤ 1 := by
      by_contra hmore
      have hmore : 2 ≤ |(j : Int) - c * 2 ^ i| := by omega
      have hgap : (gap m a * 2 ^ (i + 1) : Int) < 3 * m := by exact_mod_cast hgap
      nlinarith
    omega

end Near

/-- Of the quotients between a half and one. -/
theorem near_one_iff {m a j : Nat} (hnear : |2 * ((a * 2 ^ 53 : Nat) : Int) - 2 * j * m| ≤ m) (hless : a < m)
    (hbound : m < 9007199254740992) :
    9007199254740992 ≤ j + 2 ↔ (m - a) * 2 ^ 54 < 5 * m := by
  obtain ⟨d, rfl⟩ : ∃ d, m = a + d := ⟨m - a, by omega⟩
  obtain ⟨e, he⟩ : ∃ e : Int, e = 9007199254740992 - j := ⟨_, rfl⟩
  have hsum : 2 * ((a * 2 ^ 53 : Nat) : Int) - 2 * j * ((a + d : Nat) : Int) =
      2 * (e * ((a + d : Nat) : Int)) - 18014398509481984 * d := by
    have hj : (j : Int) = 9007199254740992 - e := by omega
    rw [hj]
    push_cast
    ring
  rw [hsum] at hnear
  obtain ⟨hlow, hhigh⟩ := abs_le.1 hnear
  rw [Nat.add_sub_cancel_left]
  have hpos : (0 : Int) < ((a + d : Nat) : Int) := by exact_mod_cast Nat.zero_lt_of_lt hless
  constructor
  · intro hle
    have hle := mul_le_mul_of_nonneg_right (by omega : e ≤ 2) hpos.le
    generalize e * ((a + d : Nat) : Int) = f at hlow hle
    obtain rfl | rfl : d = 1 ∨ d = 2 := by omega
    · omega
    · omega
  · intro hgap
    by_contra hmore
    have hle := mul_le_mul_of_nonneg_right (by omega : 3 ≤ e) hpos.le
    generalize e * ((a + d : Nat) : Int) = f at hhigh hle
    omega

/-! ## Mantissas of quotients -/

namespace Quotient

variable {r p : ℚ} {t : Int} {j : Nat} (h : Quotient r p t j)
include h

theorem le_mantissa : 4503599627370496 ≤ j := by
  have hle := h.nearest.le_of_le (n := 4503599627370496) (by exact_mod_cast h.full)
  exact_mod_cast hle

theorem mantissa_le : j ≤ 9007199254740992 := by
  have hle := h.nearest.ge_of_ge (n := 9007199254740992) (by exact_mod_cast h.small.le)
  exact_mod_cast hle

theorem low_le : (2 : ℚ) ^ (52 + t) ≤ r := by
  have hfull := h.full
  rw [le_div_iff₀ (zpow_pos two_pos t)] at hfull
  refine (le_of_eq ?_).trans hfull
  rw [zpow_add₀ two_ne_zero]
  norm_num

theorem lt_high : r < (2 : ℚ) ^ (53 + t) := by
  have hsmall := h.small
  rw [div_lt_iff₀ (zpow_pos two_pos t)] at hsmall
  refine hsmall.trans_eq ?_
  rw [zpow_add₀ two_ne_zero]
  norm_num

theorem lt_of_low {e : Int} (hr : (2 : ℚ) ^ e ≤ r) : e < 53 + t :=
  (zpow_lt_zpow_iff_right₀ one_lt_two).1 (hr.trans_lt h.lt_high)

theorem le_of_high {e : Int} (hr : r ≤ (2 : ℚ) ^ e) : 52 + t ≤ e :=
  (zpow_le_zpow_iff_right₀ one_lt_two).1 (h.low_le.trans hr)

theorem exponent_eq {e : Int} (hlow : (2 : ℚ) ^ e ≤ r) (hhigh : r < (2 : ℚ) ^ (e + 1)) : t = e - 52 := by
  have hlt := h.lt_of_low hlow
  have hlt' := (zpow_lt_zpow_iff_right₀ one_lt_two).1 (h.low_le.trans_lt hhigh)
  omega

theorem value_le {e : Int} (hr : r ≤ (2 : ℚ) ^ e) : p ≤ (2 : ℚ) ^ e := by
  obtain ⟨k, rfl⟩ : ∃ k : Nat, e = k + t := ⟨(e - t).toNat, by have hle := h.le_of_high hr; omega⟩
  have hpos : (0 : ℚ) < 2 ^ t := zpow_pos two_pos t
  rw [zpow_add₀ two_ne_zero, zpow_natCast] at hr ⊢
  rw [← div_le_iff₀ hpos] at hr
  rw [h.value]
  have hle := h.nearest.ge_of_ge (n := 2 ^ k) (by exact_mod_cast hr)
  exact mul_le_mul_of_nonneg_right (by exact_mod_cast hle) hpos.le

end Quotient

/-! ## The test on integers -/

/-- When the number passes as a multiple of the divisor: its distance from one is small for the number of bits of
the quotient. -/
def NearMultiple (m a : Nat) : Prop :=
  if m ≤ a then gap m a * 2 ^ 53 < 3 * (m * 2 ^ (a / m).log2)
  else if m ≤ 2 * a then (m - a) * 2 ^ 54 < 5 * m
  else a * 2 ^ 52 ≤ m

instance (m a : Nat) : Decidable (NearMultiple m a) := by unfold NearMultiple; infer_instance

section Cases

variable {m a j : Nat} {p : ℚ} {t : Int} (h : Quotient (a / m) p t j)
include h

theorem Quotient.fraction {i : Nat} (ht : t = -(i : Int)) : NearestEven ((a * 2 ^ i : Nat) / m) j := by
  have hnearest := h.nearest
  rw [ht, zpow_neg, zpow_natCast, div_inv_eq_mul, div_mul_eq_mul_div] at hnearest
  push_cast
  exact hnearest

theorem near_of_large (hm : 0 < m) (hsmall : a < 9007199254740992) (hle : m ≤ a) :
    (∃ k : Int, |p - k| ≤ max p 1 / 4503599627370496) ↔ gap m a * 2 ^ 53 < 3 * (m * 2 ^ (a / m).log2) := by
  have hquotient : a / m ≠ 0 := Nat.ne_of_gt (Nat.div_pos hle hm)
  have hbits : (a / m).log2 < 53 :=
    (Nat.log2_lt hquotient).2 (Nat.lt_of_le_of_lt (Nat.div_le_self a m) (by omega))
  have hlow : 2 ^ (a / m).log2 * m ≤ a := (Nat.le_div_iff_mul_le hm).1 (Nat.log2_self_le hquotient)
  have hhigh : a < 2 ^ ((a / m).log2 + 1) * m := (Nat.div_lt_iff_lt_mul hm).1 Nat.lt_log2_self
  generalize (a / m).log2 = l at *
  have hpos : (0 : ℚ) < m := by exact_mod_cast hm
  have hlow : (2 : ℚ) ^ (l : Int) ≤ a / m := by
    rw [le_div_iff₀ hpos, zpow_natCast]
    exact_mod_cast hlow
  have hhigh : (a / m : ℚ) < 2 ^ ((l : Int) + 1) := by
    rw [div_lt_iff₀ hpos]
    exact_mod_cast hhigh
  obtain ⟨i, hi⟩ : ∃ i, 52 = i + l := ⟨52 - l, by omega⟩
  have ht : t = -(i : Int) := by
    have heq := h.exponent_eq hlow hhigh
    omega
  have hfraction := (h.fraction ht).of_fraction hm
  have hfull := h.le_mantissa
  have hscale : (0 : ℚ) < 2 ^ i := pow_pos two_pos i
  have hvalue : p * 2 ^ i = j := by
    rw [h.value, ht, zpow_neg, zpow_natCast, inv_mul_cancel_right₀ hscale.ne']
  have hone : 1 ≤ p := by
    have hle : 2 ^ i ≤ j := le_trans (Nat.pow_le_pow_right two_pos (by omega : i ≤ 52)) hfull
    have hle : (2 : ℚ) ^ i ≤ j := by exact_mod_cast hle
    rw [← hvalue] at hle
    exact (le_mul_iff_one_le_left hscale).1 hle
  have hnear : ∀ k : Int, |p - k| ≤ max p 1 / 4503599627370496 ↔
      |(j : Int) - k * 2 ^ i| * 4503599627370496 ≤ j := by
    intro k
    have hdifference : |p - k| * 2 ^ i = ((|(j : Int) - k * 2 ^ i| : Int) : ℚ) := by
      push_cast
      rw [← hvalue, ← sub_mul, abs_mul, abs_of_pos hscale]
    rw [max_eq_left hone, le_div_iff₀ (by norm_num), ← mul_le_mul_iff_left₀ hscale, hvalue, mul_right_comm,
      hdifference]
    exact_mod_cast Iff.rfl
  rw [exists_congr hnear, exists_near_iff hm hfraction.1 hfraction.2 (by omega) hfull h.mantissa_le,
    ← Nat.mul_lt_mul_right (Nat.two_pow_pos l), Nat.mul_assoc, Nat.mul_assoc, ← Nat.pow_add,
    (by omega : i + 1 + l = 53)]

theorem near_of_middle (hm : 0 < m) (hm' : m < 9007199254740992) (hless : a < m) (hle : m ≤ 2 * a) :
    (∃ k : Int, |p - k| ≤ max p 1 / 4503599627370496) ↔ (m - a) * 2 ^ 54 < 5 * m := by
  have hpos : (0 : ℚ) < m := by exact_mod_cast hm
  have hlow : (2 : ℚ) ^ (-1 : Int) ≤ a / m := by
    rw [le_div_iff₀ hpos, zpow_neg_one, inv_mul_le_iff₀ two_pos]
    exact_mod_cast hle
  have hhigh : (a / m : ℚ) < 2 ^ (-1 + 1 : Int) := by
    rw [neg_add_cancel, zpow_zero, div_lt_one hpos]
    exact_mod_cast hless
  have ht := h.exponent_eq hlow hhigh
  have hmost : p ≤ 1 := h.value_le hhigh.le
  have hfraction := (h.fraction (i := 53) (by omega)).of_fraction hm
  have hfull : (4503599627370496 : ℚ) ≤ j := by exact_mod_cast h.le_mantissa
  have hvalue : p * 9007199254740992 = j := by
    rw [h.value, ht, mul_assoc]
    norm_num
  have hone : |p - (1 : Int)| = 1 - p := by
    rw [Int.cast_one, abs_sub_comm, abs_of_nonneg (by linarith)]
  have hnear : 1 - p ≤ 1 / 4503599627370496 ↔ 9007199254740992 ≤ j + 2 := by
    have hcast : 9007199254740992 ≤ j + 2 ↔ (9007199254740992 : ℚ) ≤ j + 2 := by exact_mod_cast Iff.rfl
    rw [hcast]
    constructor <;> intro hle <;> linarith
  rw [exists_near_iff_nearest (k := 1) (by rw [hone]; linarith), hone, max_eq_right hmost, hnear]
  exact near_one_iff hfraction.1 hless hm'

/-- The quotient is not rounded down to the bound for numbers near one. -/
theorem value_le_epsilon_iff (hm : 0 < m) (hm' : m < 9007199254740992) :
    p ≤ 2 ^ (-52 : Int) ↔ a * 2 ^ 52 ≤ m := by
  have hpos : (0 : ℚ) < m := by exact_mod_cast hm
  have hfraction : (a / m : ℚ) ≤ 2 ^ (-52 : Int) ↔ a * 2 ^ 52 ≤ m := by
    rw [div_le_iff₀ hpos, zpow_neg, ← div_eq_inv_mul, le_div_iff₀ (by positivity)]
    exact_mod_cast Iff.rfl
  rw [← hfraction]
  refine ⟨fun hle => ?_, h.value_le⟩
  by_contra hmore
  have hlow := h.lt_of_low (not_le.1 hmore).le
  have hfull : (4503599627370496 : ℚ) ≤ j := by exact_mod_cast h.le_mantissa
  have hhigh : 52 + t ≤ -52 := by
    refine (zpow_le_zpow_iff_right₀ (one_lt_two : (1 : ℚ) < 2)).1 (le_trans ?_ hle)
    rw [h.value, zpow_add₀ two_ne_zero]
    exact mul_le_mul_of_nonneg_right (le_trans (by norm_num) hfull) (zpow_pos two_pos t).le
  obtain rfl : t = -104 := by omega
  have hj : j = 4503599627370496 := by
    rw [h.value, ← le_div_iff₀ (zpow_pos two_pos _)] at hle
    have hle : (j : ℚ) ≤ 4503599627370496 := hle.trans_eq (by norm_num)
    have hle : j ≤ 4503599627370496 := by exact_mod_cast hle
    exact Nat.le_antisymm hle h.le_mantissa
  -- A quotient above the bound is too far above it for a divisor of 53 bits.
  have hhigh := (abs_le.1 ((h.fraction (i := 104) rfl).of_fraction hm).1).2
  rw [hfraction] at hmore
  rw [hj] at hhigh
  omega

theorem near_of_small (hm : 0 < m) (hm' : m < 9007199254740992) (hless : 2 * a < m) :
    (∃ k : Int, |p - k| ≤ max p 1 / 4503599627370496) ↔ a * 2 ^ 52 ≤ m := by
  have hpos : (0 : ℚ) < m := by exact_mod_cast hm
  have hhalf : (a / m : ℚ) ≤ 2 ^ (-1 : Int) := by
    rw [div_le_iff₀ hpos, zpow_neg_one, ← div_eq_inv_mul, le_div_iff₀ two_pos]
    exact_mod_cast (by omega : a * 2 ≤ m)
  have hmost := h.value_le hhalf
  rw [zpow_neg_one] at hmost
  have hnonneg : 0 ≤ p := by
    rw [h.value]
    positivity
  have hzero : |p - (0 : Int)| = p := by
    rw [Int.cast_zero, sub_zero, abs_of_nonneg hnonneg]
  have hepsilon : (1 : ℚ) / 4503599627370496 = 2 ^ (-52 : Int) := by norm_num
  rw [exists_near_iff_nearest (k := 0) (by rw [hzero]; linarith), hzero,
    max_eq_right (hmost.trans (by norm_num)), hepsilon]
  exact value_le_epsilon_iff h hm hm'

end Cases

theorem exists_near_abs_iff (q b : ℚ) : (∃ k : Int, |q - k| ≤ b) ↔ ∃ k : Int, |(|q|) - k| ≤ b := by
  rcases abs_choice q with heq | heq
  · rw [heq]
  · rw [heq]
    constructor
    · rintro ⟨k, hk⟩
      refine ⟨-k, ?_⟩
      rwa [Int.cast_neg, neg_sub_neg, abs_sub_comm]
    · rintro ⟨k, hk⟩
      refine ⟨-k, ?_⟩
      rwa [Int.cast_neg, sub_neg_eq_add, ← abs_neg, neg_add']

namespace NearMultiple

variable {m a : Nat} (hm : 0 < m)
include hm

theorem of_dvd (h : m ∣ a) : NearMultiple m a := by
  unfold NearMultiple
  split_ifs with hle
  · rw [(gap_eq_zero_iff hm a).2 h, Nat.zero_mul]
    exact Nat.mul_pos (by decide) (Nat.mul_pos hm (Nat.two_pow_pos _))
  · obtain rfl := Nat.eq_zero_of_dvd_of_lt h (Nat.lt_of_not_le hle)
    omega
  · obtain rfl := Nat.eq_zero_of_dvd_of_lt h (Nat.lt_of_not_le ‹_›)
    omega

theorem iff_dvd (ha : 3 * a ≤ 2 ^ 53) (hm' : 5 * m ≤ 2 ^ 54) : NearMultiple m a ↔ m ∣ a := by
  refine ⟨fun h => ?_, of_dvd hm⟩
  unfold NearMultiple at h
  split_ifs at h with hle hhalf
  · have hlow : m * 2 ^ (a / m).log2 ≤ a :=
      (Nat.mul_le_mul_left m (Nat.log2_self_le (Nat.ne_of_gt (Nat.div_pos hle hm)))).trans (Nat.mul_div_le a m)
    rw [← gap_eq_zero_iff hm a]
    omega
  · omega
  · have hzero : a = 0 := by omega
    exact hzero ▸ Nat.dvd_zero m

end NearMultiple

theorem isMultiple_ofInt_iff {m : Nat} {x : Int} (hm : 0 < m) (hm' : m < 9007199254740992)
    (hx : x.natAbs < 9007199254740992) :
    Leaf.isMultiple (Float.ofInt m) (Float.ofInt x) = true ↔ NearMultiple m x.natAbs := by
  by_cases hzero : x = 0
  · subst hzero
    have hdivisor : (Float.ofInt m).toModel.unpack = .finite .positive (m * 2 ^ (52 - m.log2))
        ((m.log2 : Int) - 52) (Nat.mul_pos hm (Nat.two_pow_pos _)) := unpack_ofInt .positive m hm hm'
    have hdividend : (Float.ofInt 0).toModel.unpack = .zero .positive := rfl
    have hquotient : (Float.ofInt 0 / Float.ofInt m).toModel.unpack = .zero .positive := by
      show (Float.Model.pack (UnpackedFloat.div .binary64 (Float.ofInt 0).toModel.unpack
        (Float.ofInt m).toModel.unpack)).unpack = _
      rw [hdividend, hdivisor]
      exact (Held.zero .positive).unpack_pack
    have hvalue : value (Float.ofInt 0 / Float.ofInt m) = 0 := value_of_unpack hquotient
    rw [isMultiple_iff (isFinite_of_unpack hquotient (.zero .positive)), hvalue]
    refine iff_of_true ⟨0, by norm_num⟩ ?_
    exact NearMultiple.of_dvd hm (Nat.dvd_zero m)
  · obtain ⟨hfinite, t, j, h⟩ := exists_quotient hzero hx hm hm'
    rw [isMultiple_iff hfinite, exists_near_abs_iff]
    unfold NearMultiple
    split_ifs with hle hhalf
    · exact near_of_large h hm hx hle
    · exact near_of_middle h hm hm' (Nat.lt_of_not_le hle) hhalf
    · exact near_of_small h hm hm' (Nat.lt_of_not_le hhalf)

end JsonSchema.Double
