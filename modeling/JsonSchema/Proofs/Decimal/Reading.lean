import JsonSchema.Proofs.Decimal.Neighbours
import JsonSchema.Decimal.Shortest

/-!
# Decimals that are read as a double

A number is read as the double nearest to it, and where two are as near as the even one. So what is read as a double
lies between the middles to its neighbours, and this is what the test for decimals that read back asks.
-/

namespace JsonSchema

/-! ## Comparing decimals with doubles -/

theorem zpow_mul_pow_toNat {b : ℚ} (hb : b ≠ 0) (i : Int) : b ^ i * b ^ (-i).toNat = b ^ i.toNat := by
  rw [← zpow_natCast, ← zpow_natCast, ← zpow_add₀ hb]
  congr 1
  omega

theorem compare_natCast (a b : Nat) : compare a b = compare (a : ℚ) b := by
  rcases lt_trichotomy a b with hlt | rfl | hgt
  · rw [Nat.compare_eq_lt.2 hlt, compare_lt_iff_lt.2 (by exact_mod_cast hlt)]
  · rw [Nat.compare_eq_eq.2 rfl, compare_eq_iff_eq.2 rfl]
  · rw [Nat.compare_eq_gt.2 hgt, compare_gt_iff_gt.2 (by exact_mod_cast hgt)]

theorem compare_mul_right {c : ℚ} (hc : 0 < c) (x y : ℚ) : compare (x * c) (y * c) = compare x y := by
  rcases lt_trichotomy x y with hlt | rfl | hgt
  · rw [compare_lt_iff_lt.2 hlt, compare_lt_iff_lt.2 (mul_lt_mul_of_pos_right hlt hc)]
  · rw [compare_eq_iff_eq.2 rfl, compare_eq_iff_eq.2 rfl]
  · rw [compare_gt_iff_gt.2 hgt, compare_gt_iff_gt.2 (mul_lt_mul_of_pos_right hgt hc)]

namespace Decimal

/-- The comparison in whole numbers is the comparison of the numbers. -/
theorem compareScaled_eq (a : Nat) (i : Int) (n : Nat) (j : Int) :
    compareScaled a i n j = compare (a * 10 ^ i : ℚ) (n * 2 ^ j) := by
  have hscale : (0 : ℚ) < 10 ^ (-i).toNat * 2 ^ (-j).toNat := by positivity
  have hleft : (a * 10 ^ i : ℚ) * (10 ^ (-i).toNat * 2 ^ (-j).toNat) =
      (a * Nat.pow 10 i.toNat * Nat.pow 2 (-j).toNat : Nat) := by
    have hten := zpow_mul_pow_toNat (b := 10) (by norm_num) i
    calc (a * 10 ^ i : ℚ) * (10 ^ (-i).toNat * 2 ^ (-j).toNat)
        = a * (10 ^ i * 10 ^ (-i).toNat) * 2 ^ (-j).toNat := by ring
      _ = (a * 10 ^ i.toNat * 2 ^ (-j).toNat : Nat) := by rw [hten]; push_cast; rfl
  have hright : (n * 2 ^ j : ℚ) * (10 ^ (-i).toNat * 2 ^ (-j).toNat) =
      (n * Nat.pow 2 j.toNat * Nat.pow 10 (-i).toNat : Nat) := by
    have htwo := zpow_mul_pow_toNat (b := 2) (by norm_num) j
    calc (n * 2 ^ j : ℚ) * (10 ^ (-i).toNat * 2 ^ (-j).toNat)
        = n * (2 ^ j * 2 ^ (-j).toNat) * 10 ^ (-i).toNat := by ring
      _ = (n * 2 ^ j.toNat * 10 ^ (-i).toNat : Nat) := by rw [htwo]; push_cast; rfl
  unfold compareScaled
  rw [compare_natCast, ← hleft, ← hright, compare_mul_right hscale]

/-- The number of a decimal. -/
def Digits.value (d : Digits) : ℚ := d.digits * 10 ^ d.exponent

theorem Digits.value_nonneg (d : Digits) : 0 ≤ d.value := by
  unfold value
  positivity

namespace Binary

/-- The middle between the double and the one below. -/
def low (b : Binary) : ℚ := (b.magnitude + b.below) / 2

/-- The middle between the double and the one above. -/
def high (b : Binary) : ℚ := (b.magnitude + b.above) / 2

/-- The number lies between the middles, which belong to the double if its mantissa is even. -/
structure Holds (b : Binary) (x : ℚ) : Prop where
  low : b.low < x ∨ Even b.mantissa ∧ b.low = x
  high : x < b.high ∨ Even b.mantissa ∧ x = b.high

theorem low_eq (b : Binary) (hpos : 0 < b.mantissa) :
    b.low = (4 * b.mantissa - if b.narrowBelow then 1 else 2 : Nat) * 2 ^ (b.exponent - 2) := by
  have hquarter : (2 : ℚ) ^ b.exponent = 4 * 2 ^ (b.exponent - 2) := by
    rw [zpow_sub₀ two_ne_zero]
    norm_num
    ring
  have hhalf : (2 : ℚ) ^ (b.exponent - 1) = 2 * 2 ^ (b.exponent - 2) := by
    rw [← zpow_one_add₀ two_ne_zero]
    congr 1
    omega
  unfold low below magnitude
  rw [hhalf, hquarter]
  split_ifs
  · rw [Nat.cast_sub (by omega)]
    push_cast
    ring
  · rw [Nat.cast_sub (by omega)]
    push_cast
    ring

theorem high_eq (b : Binary) : b.high = (4 * b.mantissa + 2 : Nat) * 2 ^ (b.exponent - 2) := by
  have hquarter : (2 : ℚ) ^ b.exponent = 4 * 2 ^ (b.exponent - 2) := by
    rw [zpow_sub₀ two_ne_zero]
    norm_num
    ring
  unfold high above magnitude
  rw [hquarter]
  push_cast
  ring

/-- The test for decimals that read back asks whether they lie between the middles. -/
theorem readsBack_iff {b : Binary} (hpos : 0 < b.mantissa) (d : Digits) :
    b.readsBack d = true ↔ b.Holds d.value := by
  have heven : (b.mantissa % 2 == 0) = true ↔ Even b.mantissa := by rw [beq_iff_eq, Nat.even_iff]
  unfold readsBack
  simp only [compareScaled_eq, ← high_eq, ← low_eq b hpos, Bool.and_eq_true, Bool.or_eq_true, heven, beq_iff_eq,
    compare_gt_iff_gt, compare_lt_iff_lt, compare_eq_iff_eq]
  constructor
  · rintro ⟨hlow, hhigh⟩
    exact ⟨hlow.imp_right (And.imp_right Eq.symm), hhigh⟩
  · rintro ⟨hlow, hhigh⟩
    exact ⟨hlow.imp_right (And.imp_right Eq.symm), hhigh⟩

theorem magnitude_nonneg (b : Binary) : 0 ≤ b.magnitude := by
  unfold magnitude
  positivity

/-- The number of the sign of the double. -/
def withSign (b : Binary) (x : ℚ) : ℚ := if b.negative then -x else x

theorem abs_withSign (b : Binary) (x : ℚ) : |b.withSign x| = |x| := by
  unfold withSign
  split_ifs
  · exact abs_neg x
  · rfl

theorem withSign_magnitude (b : Binary) : b.withSign b.magnitude = b.value := rfl

theorem abs_sub_withSign (b : Binary) (x y : ℚ) : |b.withSign x - b.withSign y| = |x - y| := by
  unfold withSign
  split_ifs
  · rw [neg_sub_neg, abs_sub_comm]
  · rfl

/-! ## The interval -/

theorem below_lt {b : Binary} : b.below < b.magnitude := by
  unfold below
  split_ifs <;> exact sub_lt_self _ (zpow_pos two_pos _)

theorem lt_above {b : Binary} : b.magnitude < b.above := lt_add_of_pos_right _ (zpow_pos two_pos _)

theorem low_lt {b : Binary} : b.low < b.magnitude := by
  have hlt := b.below_lt
  unfold low
  linarith

theorem lt_high {b : Binary} : b.magnitude < b.high := by
  have hlt := b.lt_above
  unfold high
  linarith

namespace Holds

variable {b : Binary} {x y z : ℚ}

theorem low_le (h : b.Holds x) : b.low ≤ x := h.low.elim le_of_lt fun hlow => hlow.2.le

theorem le_high (h : b.Holds x) : x ≤ b.high := h.high.elim le_of_lt fun hhigh => hhigh.2.le

theorem magnitude : b.Holds b.magnitude := ⟨.inl b.low_lt, .inl b.lt_high⟩

theorem between (hx : b.Holds x) (hz : b.Holds z) (hxy : x ≤ y) (hyz : y ≤ z) : b.Holds y := by
  constructor
  · rcases hxy.lt_or_eq with hlt | rfl
    · exact .inl (hx.low_le.trans_lt hlt)
    · exact hx.low
  · rcases hyz.lt_or_eq with hlt | rfl
    · exact .inl (hlt.trans_le hz.le_high)
    · exact hz.high

end Holds

end Binary

end Decimal

/-! ## What is read as a double -/

namespace Double

open Decimal

/-- The number rounds to the double: no double is nearer, and of two that are as near it is the even one. From the
middle between the greatest double and 2 ^ 1024 on numbers are too large for doubles. -/
structure Reads (f : Float) (x : ℚ) : Prop where
  small : |x| < 2 ^ 1024 - 2 ^ 970
  nearest : ∀ g : Float, g.isFinite = true → |value f - x| ≤ |value g - x|
  even : ∀ g : Float, g.isFinite = true → |value f - x| = |value g - x| →
    value g = value f ∨ Even (binary f).mantissa

section Middles

variable {v w x : ℚ}

theorem sq_sub_sq_middle (v w x : ℚ) : (w - x) ^ 2 - (v - x) ^ 2 = 2 * (v - w) * (x - (v + w) / 2) := by ring

theorem nearer_iff_of_lt (hlt : w < v) : |v - x| ≤ |w - x| ↔ (v + w) / 2 ≤ x := by
  have hpos : 0 < 2 * (v - w) := by linarith
  rw [← sq_le_sq, ← sub_nonneg, sq_sub_sq_middle, mul_nonneg_iff_of_pos_left hpos, sub_nonneg]

theorem nearer_iff_of_gt (hgt : v < w) : |v - x| ≤ |w - x| ↔ x ≤ (v + w) / 2 := by
  have hneg : 2 * (v - w) < 0 := by linarith
  rw [← sq_le_sq, ← sub_nonneg, sq_sub_sq_middle, ← neg_mul_neg, mul_nonneg_iff_of_pos_left (neg_pos.2 hneg),
    neg_sub, sub_nonneg]

theorem as_near_iff (hne : w ≠ v) : |v - x| = |w - x| ↔ x = (v + w) / 2 := by
  have hgap : 2 * (v - w) ≠ 0 := mul_ne_zero two_ne_zero (sub_ne_zero.2 hne.symm)
  rw [← sq_eq_sq_iff_abs_eq_abs, eq_comm, ← sub_eq_zero, sq_sub_sq_middle, mul_eq_zero, or_iff_right hgap, sub_eq_zero]

end Middles

theorem limit_sub_eq : (2 : ℚ) ^ 1024 - 2 ^ 970 = 2 ^ 1024 - 2 ^ (971 : Int) / 2 := by
  have hhalf : (2 : ℚ) ^ (971 : Int) = 2 * 2 ^ 970 := by rw [zpow_ofNat, pow_succ']
  rw [hhalf, mul_div_cancel_left₀ _ two_ne_zero]

section Magnitude

variable {f : Float} (h : f.isFinite = true) (hpos : 0 < (binary f).mantissa) {x : ℚ}
include h hpos

theorem lt_limit_of_holds (hx : (binary f).Holds x) : x < 2 ^ 1024 - 2 ^ 970 := by
  obtain ⟨hsmall, _, _, hfits⟩ := (canonical_iff _ _ hpos).1 (canonical_binary h hpos)
  have hhigh : (binary f).high = ((binary f).mantissa + 1 / 2) * 2 ^ (binary f).exponent := by
    unfold Binary.high Binary.above Binary.magnitude
    ring
  have hscale : (2 : ℚ) ^ (binary f).exponent ≤ 2 ^ (971 : Int) := zpow_le_zpow_right₀ one_le_two hfits
  have hmantissa : ((binary f).mantissa : ℚ) + 1 ≤ 9007199254740992 := by exact_mod_cast hsmall
  rw [limit_sub_eq, limit_eq]
  have hlimit : (9007199254740992 * 2 ^ (971 : Int) - 2 ^ (971 : Int) / 2 : ℚ) =
      (9007199254740992 - 1 / 2) * 2 ^ (971 : Int) := by ring
  rw [hlimit]
  have hle : (binary f).high ≤ (9007199254740992 - 1 / 2) * 2 ^ (971 : Int) := by
    rw [hhigh]
    exact mul_le_mul (by linarith) hscale (zpow_nonneg two_pos.le _) (by norm_num)
  -- The middle itself belongs to even mantissas only, and the greatest mantissa is odd.
  rcases hx.high with hlt | ⟨⟨k, hk⟩, rfl⟩
  · exact hlt.trans_le hle
  · rw [hhigh]
    refine mul_lt_mul ?_ hscale (zpow_pos two_pos _) (by norm_num)
    have hmantissa : (binary f).mantissa + 2 ≤ 9007199254740992 := by omega
    have hmantissa : ((binary f).mantissa : ℚ) + 2 ≤ 9007199254740992 := by exact_mod_cast hmantissa
    linarith

theorem nearest_of_holds (hx : (binary f).Holds x) {g : Float} (hg : g.isFinite = true) :
    |(binary f).magnitude - x| ≤ |value g - x| ∧
      (|(binary f).magnitude - x| = |value g - x| → value g = (binary f).magnitude ∨ Even (binary f).mantissa) := by
  rcases lt_trichotomy (value g) (binary f).magnitude with hlt | heq | hgt
  · have hle := value_le_below h hpos hg hlt
    have hmiddle : ((binary f).magnitude + value g) / 2 ≤ (binary f).low := by
      unfold Binary.low
      linarith
    refine ⟨(nearer_iff_of_lt hlt).2 (hmiddle.trans hx.low_le), fun heq => .inr ?_⟩
    rw [as_near_iff hlt.ne] at heq
    rcases hx.low with hless | ⟨heven, _⟩
    · exact absurd (heq ▸ hmiddle) (not_le.2 hless)
    · exact heven
  · rw [heq]
    exact ⟨le_rfl, fun _ => .inl rfl⟩
  · have hle := above_le_value h hpos hg hgt
    have hmiddle : (binary f).high ≤ ((binary f).magnitude + value g) / 2 := by
      unfold Binary.high
      linarith
    refine ⟨(nearer_iff_of_gt hgt).2 (hx.le_high.trans hmiddle), fun heq => .inr ?_⟩
    rw [as_near_iff hgt.ne'] at heq
    rcases hx.high with hless | ⟨heven, _⟩
    · exact absurd (heq ▸ hmiddle) (not_le.2 hless)
    · exact heven

/-- Beyond the middles one of the two neighbours is nearer. -/
theorem holds_of_nearest (hsmall : x < 2 ^ 1024 - 2 ^ 970)
    (hnearest : ∀ g : Float, g.isFinite = true → |(binary f).magnitude - x| ≤ |value g - x| ∧
      (|(binary f).magnitude - x| = |value g - x| → value g = (binary f).magnitude ∨ Even (binary f).mantissa)) :
    (binary f).Holds x := by
  have hbelow := (binary f).below_lt
  have habove := (binary f).lt_above
  constructor
  · obtain ⟨g, hg, hvalue⟩ := exists_below h hpos
    obtain ⟨hnear, htie⟩ := hnearest g hg
    rw [hvalue] at hnear htie
    rcases ((nearer_iff_of_lt hbelow).1 hnear).lt_or_eq with hlt | heq
    · exact .inl hlt
    · exact .inr ⟨(htie ((as_near_iff hbelow.ne).2 heq.symm)).resolve_left hbelow.ne, heq⟩
  · by_cases hfits : (binary f).above < 2 ^ 1024
    · obtain ⟨g, hg, hvalue⟩ := exists_above h hpos hfits
      obtain ⟨hnear, htie⟩ := hnearest g hg
      rw [hvalue] at hnear htie
      rcases ((nearer_iff_of_gt habove).1 hnear).lt_or_eq with hlt | heq
      · exact .inl hlt
      · exact .inr ⟨(htie ((as_near_iff habove.ne').2 heq)).resolve_left habove.ne', heq⟩
    -- Above the greatest double there is none, but the limit is where the middle would be.
    · have hscale : (2 : ℚ) ^ (binary f).exponent ≤ 2 ^ (971 : Int) :=
        zpow_le_zpow_right₀ one_le_two ((canonical_iff _ _ hpos).1 (canonical_binary h hpos)).2.2.2
      have hhigh : (binary f).high = (binary f).above - 2 ^ (binary f).exponent / 2 := by
        unfold Binary.high Binary.above
        ring
      refine .inl (hsmall.trans_le ?_)
      rw [limit_sub_eq, hhigh]
      exact sub_le_sub (not_lt.1 hfits) (div_le_div_of_nonneg_right hscale two_pos.le)

end Magnitude

/-! ## Both signs -/

/-- What a magnitude has to be like to be read as the magnitude of the double. -/
def ReadsMagnitude (f : Float) (x : ℚ) : Prop :=
  ∀ g : Float, g.isFinite = true → |(binary f).magnitude - x| ≤ |value g - x| ∧
    (|(binary f).magnitude - x| = |value g - x| → value g = (binary f).magnitude ∨ Even (binary f).mantissa)

theorem reads_iff_of_pos {f : Float} (hvalue : value f = (binary f).magnitude) {x : ℚ} :
    Reads f x ↔ |x| < 2 ^ 1024 - 2 ^ 970 ∧ ReadsMagnitude f x := by
  constructor
  · rintro ⟨hsmall, hnearest, heven⟩
    rw [hvalue] at hnearest heven
    exact ⟨hsmall, fun g hg => ⟨hnearest g hg, heven g hg⟩⟩
  · rintro ⟨hsmall, hnearest⟩
    refine ⟨hsmall, fun g hg => ?_, fun g hg => ?_⟩ <;> rw [hvalue]
    · exact (hnearest g hg).1
    · exact (hnearest g hg).2

theorem reads_iff_of_neg {f : Float} (hvalue : value f = -(binary f).magnitude) {x : ℚ} :
    Reads f (-x) ↔ |x| < 2 ^ 1024 - 2 ^ 970 ∧ ReadsMagnitude f x := by
  have hflip : ∀ y : ℚ, |-y - -x| = |y - x| := fun y => by rw [neg_sub_neg, abs_sub_comm]
  constructor
  · rintro ⟨hsmall, hnearest, heven⟩
    rw [hvalue, hflip] at hnearest heven
    refine ⟨abs_neg x ▸ hsmall, fun g hg => ?_⟩
    have hnear := hnearest g.neg (isFinite_neg hg)
    have htie := heven g.neg (isFinite_neg hg)
    rw [value_neg hg, hflip] at hnear htie
    rw [neg_inj] at htie
    exact ⟨hnear, htie⟩
  · rintro ⟨hsmall, hnearest⟩
    -- Every double is the negation of another, so the order of distances is mirrored.
    have hback : ∀ g : Float, g.isFinite = true → value g = -value g.neg := fun g hg => by
      rw [value_neg hg, neg_neg]
    refine ⟨(abs_neg x).symm ▸ hsmall, fun g hg => ?_, fun g hg => ?_⟩ <;> rw [hvalue, hback g hg, hflip, hflip]
    · exact (hnearest g.neg (isFinite_neg hg)).1
    · rw [neg_inj]
      exact (hnearest g.neg (isFinite_neg hg)).2

section Signed

variable {f : Float} (h : f.isFinite = true) (hpos : 0 < (binary f).mantissa)
include h hpos

theorem holds_iff_reads {x : ℚ} (hx : 0 ≤ x) : (binary f).Holds x ↔ Reads f ((binary f).withSign x) := by
  have hvalue := value_eq_binary h
  have hmagnitude : (binary f).Holds x ↔ |x| < 2 ^ 1024 - 2 ^ 970 ∧ ReadsMagnitude f x := by
    rw [abs_of_nonneg hx]
    constructor
    · intro hholds
      exact ⟨lt_limit_of_holds h hpos hholds, fun g hg => nearest_of_holds h hpos hholds hg⟩
    · rintro ⟨hsmall, hnearest⟩
      exact holds_of_nearest h hpos hsmall hnearest
  rw [hmagnitude]
  unfold Binary.value at hvalue
  unfold Binary.withSign
  split_ifs at hvalue ⊢ with hnegative
  · exact (reads_iff_of_neg hvalue).symm
  · exact (reads_iff_of_pos hvalue).symm

theorem withSign_of_reads {x : ℚ} (hreads : Reads f x) : (binary f).withSign |x| = x := by
  have hvalue := value_eq_binary h
  have hmagnitude : 0 < (binary f).magnitude := magnitude_pos hpos _
  have hzero : value 0.0 = 0 := rfl
  have hnear := hreads.nearest 0.0 rfl
  rw [hzero] at hnear
  unfold Binary.value at hvalue
  unfold Binary.withSign
  split_ifs at hvalue ⊢ with hnegative
  · have hlt : value f < 0 := by linarith
    rw [nearer_iff_of_gt hlt] at hnear
    rw [abs_of_neg (by linarith), neg_neg]
  · have hlt : 0 < value f := by linarith
    rw [nearer_iff_of_lt hlt] at hnear
    exact abs_of_pos (by linarith)

theorem reads_iff_holds {x : ℚ} : Reads f x ↔ (binary f).withSign |x| = x ∧ (binary f).Holds |x| := by
  rw [holds_iff_reads h hpos (abs_nonneg x)]
  constructor
  · intro hreads
    have hsign := withSign_of_reads h hpos hreads
    exact ⟨hsign, hsign.symm ▸ hreads⟩
  · rintro ⟨hsign, hreads⟩
    exact hsign ▸ hreads

end Signed

/-! ## One number, one double -/

theorem abs_value {f : Float} (h : f.isFinite = true) : |value f| = (binary f).magnitude := by
  rw [value_eq_binary h, ← Binary.withSign_magnitude, Binary.abs_withSign, abs_of_nonneg (Binary.magnitude_nonneg _)]

section Neighbours

variable {f g : Float} (hf : f.isFinite = true) (hg : g.isFinite = true) (hfpos : 0 < (binary f).mantissa)
  (hgpos : 0 < (binary g).mantissa)
include hf hg hfpos hgpos

theorem not_even_of_above_eq (habove : (binary f).above = (binary g).magnitude) (heven : Even (binary f).mantissa) :
    ¬Even (binary g).mantissa := by
  intro heven'
  have hcanonical := canonical_binary hf hfpos
  have hcanonical' := canonical_binary hg hgpos
  have hlt := (binary f).lt_above
  rw [habove] at hlt
  unfold Binary.above Binary.magnitude at *
  generalize (binary f).mantissa = m at *
  generalize (binary f).exponent = e at *
  generalize (binary g).mantissa = m' at *
  generalize (binary g).exponent = e' at *
  have hle : e ≤ e' := by
    by_contra hgt
    exact hlt.not_gt (lt_of_exponent_lt hgpos hfpos hcanonical' hcanonical (not_le.1 hgt))
  obtain ⟨k, rfl⟩ : ∃ k : Nat, e' = e + k := ⟨(e' - e).toNat, by omega⟩
  have hpos : (2 : ℚ) ^ e ≠ 0 := zpow_ne_zero e two_ne_zero
  have hnext : m + 1 = m' * 2 ^ k := by
    rw [zpow_add₀ two_ne_zero, zpow_natCast, mul_left_comm, ← add_one_mul, mul_comm, mul_right_inj' hpos] at habove
    exact_mod_cast habove
  have hmultiple := heven'.mul_right (2 ^ k)
  rw [← hnext] at hmultiple
  exact Nat.not_even_iff_odd.2 heven.add_one hmultiple

theorem not_lt_of_holds {x : ℚ} (hx : (binary f).Holds x) (hx' : (binary g).Holds x) :
    ¬(binary f).magnitude < (binary g).magnitude := by
  intro hlt
  have hvalue := value_abs hf
  have hvalue' := value_abs hg
  rw [abs_value hf] at hvalue
  rw [abs_value hg] at hvalue'
  have habove := above_le_value hf hfpos (isFinite_abs hg) (hvalue' ▸ hlt)
  have hbelow := value_le_below hg hgpos (isFinite_abs hf) (hvalue ▸ hlt)
  rw [hvalue'] at habove
  rw [hvalue] at hbelow
  have hhigh := hx.high
  have hlow := hx'.low
  unfold Binary.high at hhigh
  unfold Binary.low at hlow
  rcases hhigh with hless | ⟨heven, hmiddle⟩
  · rcases hlow with hmore | ⟨_, hmiddle'⟩ <;> linarith
  · rcases hlow with hmore | ⟨heven', hmiddle'⟩
    · linarith
    · exact not_even_of_above_eq hf hg hfpos hgpos (by linarith) heven heven'

end Neighbours

theorem magnitude_eq_of_holds {f g : Float} (hf : f.isFinite = true) (hg : g.isFinite = true)
    (hfpos : 0 < (binary f).mantissa) (hgpos : 0 < (binary g).mantissa) {x : ℚ} (hx : (binary f).Holds x)
    (hx' : (binary g).Holds x) : (binary f).magnitude = (binary g).magnitude :=
  le_antisymm (not_lt.1 (not_lt_of_holds hg hf hgpos hfpos hx' hx))
    (not_lt.1 (not_lt_of_holds hf hg hfpos hgpos hx hx'))

end Double

end JsonSchema
