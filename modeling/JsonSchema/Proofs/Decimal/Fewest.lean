import JsonSchema.Proofs.Decimal.Digits

/-!
# The number that a double is written as

Among the numbers that are read as a double one with the fewest digits is written, and of several the closest. Large
doubles have no two that are as close.
-/

namespace JsonSchema

open Decimal

/-! ## Two decimals as close -/

namespace Decimal.Binary

variable {b : Binary} (h : b.OfDouble)

theorem le_low (b : Binary) : b.magnitude - 2 ^ b.exponent / 2 ≤ b.low := by
  have hgap := Double.gapBelow_le b
  unfold low below
  linarith

/-- An odd multiple of a power of ten is the double of a large one only for a power that is greater than the gap. -/
theorem lt_of_odd_multiple {e : Nat} (he : b.exponent = e) {n : Nat} (hodd : n % 2 = 1) {unit : Int}
    (hn : 2 * b.magnitude = n * 10 ^ unit) : 2 ^ b.exponent < (10 : ℚ) ^ unit := by
  have hmagnitude : 2 * b.magnitude = (b.mantissa * 2 ^ (e + 1) : Nat) := by
    rw [magnitude, he, zpow_natCast]
    push_cast
    ring
  rw [hmagnitude] at hn
  have hunit : (e : Int) + 1 ≤ unit := by
    by_contra hle
    -- Below that power either side of the equation has a factor two too few.
    rcases le_or_gt unit 0 with hneg | hpos
    · obtain ⟨j, rfl⟩ : ∃ j : Nat, unit = -(j : Int) := ⟨(-unit).toNat, by omega⟩
      rw [zpow_neg, zpow_natCast, ← div_eq_mul_inv, eq_div_iff (by positivity)] at hn
      have hn : b.mantissa * 2 ^ (e + 1) * 10 ^ j = n := by exact_mod_cast hn
      rw [← hn, pow_succ] at hodd
      have heven : b.mantissa * (2 ^ e * 2) * 10 ^ j = 2 * (b.mantissa * 2 ^ e * 10 ^ j) := by ring
      omega
    · obtain ⟨j, rfl⟩ : ∃ j : Nat, unit = j := ⟨unit.toNat, by omega⟩
      obtain ⟨i, rfl⟩ : ∃ i : Nat, e = j + i := ⟨e - j, by omega⟩
      rw [zpow_natCast] at hn
      have hn : b.mantissa * 2 ^ (j + i + 1) = n * 10 ^ j := by exact_mod_cast hn
      have hfactor : n * 5 ^ j = 2 * (b.mantissa * 2 ^ i) := by
        have hten : (10 : Nat) ^ j = 5 ^ j * 2 ^ j := by rw [← Nat.mul_pow]
        have htwo : b.mantissa * 2 ^ (j + i + 1) = 2 * (b.mantissa * 2 ^ i) * 2 ^ j := by ring
        rw [hten, ← Nat.mul_assoc, htwo] at hn
        exact (Nat.eq_of_mul_eq_mul_right (Nat.two_pow_pos j) hn).symm
      have hfive : (n * 5 ^ j) % 2 = 1 := by
        rw [Nat.mul_mod, Nat.pow_mod, hodd]
        norm_num
      omega
  rw [he, zpow_natCast]
  calc (2 : ℚ) ^ e ≤ 10 ^ e := pow_le_pow_left₀ (by norm_num) (by norm_num) e
    _ < 10 ^ (e + 1) := pow_lt_pow_right₀ (by norm_num) (Nat.lt_succ_self e)
    _ ≤ 10 ^ unit := by
      rw [← zpow_natCast]
      exact zpow_le_zpow_right₀ (by norm_num) hunit

theorem digitCount_le_of_magnitude {n k : Nat} (hk : 0 < k) (hn : b.magnitude = n * 10 ^ (b.scale - k)) :
    digitCount n ≤ k := by
  have hunit : (10 : ℚ) ^ (b.scale - k) ≠ 0 := zpow_ne_zero _ (by norm_num)
  have hfloor : b.inUnits (b.scale - k) = n := by
    rw [inUnits_eq_floor, hn, mul_div_cancel_right₀ _ hunit, Nat.floor_natCast]
  rw [digitCount_le_iff hk]
  exact hfloor ▸ b.inUnits_lt_pow k

include h in
theorem exists_multiple_of_closest {k : Nat} (hk : 0 < k) {d : Digits} (hd : b.Holds d.value)
    (hcount : digitCount d.digits ≤ k)
    (hclosest : ∀ c : Digits, b.Holds c.value → digitCount c.digits ≤ k →
      |b.magnitude - d.value| ≤ |b.magnitude - c.value|)
    (hless : d.value < b.magnitude) : ∃ n : Nat, d.value = n * 10 ^ (b.scale - k) := by
  refine (multiple_or_lt b hk hcount).resolve_right fun hsmall => ?_
  have hle := le_scale h
  have hpower : (Digits.mk 1 (b.scale - 1)).value = 10 ^ (b.scale - 1) := by
    rw [Digits.value, Nat.cast_one, one_mul]
  have hnear := hclosest ⟨1, b.scale - 1⟩ (hpower ▸ hd.between .magnitude hsmall.le hle)
    ((digitCount_le_iff hk).2 (Nat.one_lt_pow hk.ne' (by norm_num)))
  rw [hpower, abs_of_pos (by linarith), abs_of_nonneg (by linarith)] at hnear
  linarith

include h in
/-- Between two decimals of the same length around a large double there is a closer one of that length. -/
theorem not_as_close (hlarge : 0 ≤ b.exponent) {k : Nat} (hk : 0 < k) {d d' : Digits} (hd : b.Holds d.value)
    (hd' : b.Holds d'.value) (hcount : digitCount d.digits ≤ k) (hcount' : digitCount d'.digits ≤ k)
    (hclosest : ∀ c : Digits, b.Holds c.value → digitCount c.digits ≤ k →
      |b.magnitude - d.value| ≤ |b.magnitude - c.value|)
    (hlt : d.value < d'.value) : d.value + d'.value ≠ 2 * b.magnitude := by
  intro hmiddle
  have hle := le_scale h
  have hless : d.value < b.magnitude := by linarith
  have hunit : (0 : ℚ) < 10 ^ (b.scale - k) := zpow_pos (by norm_num) _
  obtain ⟨n, hn⟩ := exists_multiple_of_closest h hk hd hcount hclosest hless
  obtain ⟨n', hn'⟩ : ∃ n' : Nat, d'.value = n' * 10 ^ (b.scale - k) := by
    refine (multiple_or_lt b hk hcount').resolve_right fun hsmall => ?_
    linarith
  have hsum : 2 * b.magnitude = (n + n' : Nat) * 10 ^ (b.scale - k) := by
    rw [← hmiddle, hn, hn']
    push_cast
    ring
  rcases Nat.mod_two_eq_zero_or_one (n + n') with heven | hodd
  · obtain ⟨q, hq⟩ := Nat.dvd_of_mod_eq_zero heven
    have hmagnitude : b.magnitude = (Digits.mk q (b.scale - k)).value := by
      rw [hq, Nat.cast_mul, Nat.cast_ofNat] at hsum
      rw [Digits.value]
      linarith
    have hnear := hclosest ⟨q, b.scale - k⟩ (hmagnitude ▸ .magnitude) (digitCount_le_of_magnitude hk hmagnitude)
    rw [← hmagnitude, sub_self, abs_zero, abs_of_pos (by linarith)] at hnear
    linarith
  · obtain ⟨e, he⟩ := Int.eq_ofNat_of_zero_le hlarge
    have hgap := lt_of_odd_multiple he hodd hsum
    have hapart : (n : ℚ) + 1 ≤ n' := by
      rw [hn, hn'] at hlt
      exact_mod_cast lt_of_mul_lt_mul_right hlt hunit.le
    have hlow := (le_low b).trans hd.low_le
    have hhigh := hd'.le_high
    rw [hn] at hlow
    rw [hn', b.high_eq_add] at hhigh
    have hstep := mul_le_mul_of_nonneg_right hapart hunit.le
    linarith

end Decimal.Binary

/-! ## The number that is written -/

namespace Double

/-- The number is a decimal of so many digits. -/
def InDigits (k : Nat) (x : ℚ) : Prop := ∃ d : Digits, |x| = d.value ∧ digitCount d.digits ≤ k

/-- The number is read as the double, in the fewest digits, and none of as few is closer. -/
structure Shortest (f : Float) (x : ℚ) : Prop where
  reads : Reads f x
  fewest : ∀ y, Reads f y → ∀ k, InDigits k y → InDigits k x
  closest : ∀ y, Reads f y → (∀ k, InDigits k x → InDigits k y) → |value f - x| ≤ |value f - y|

theorem inDigits_withSign {f : Float} {d : Digits} (hd : (binary f).IsShortest d) {k : Nat} :
    InDigits k ((binary f).withSign d.value) ↔ digitCount d.digits ≤ k := by
  have habs : |(binary f).withSign d.value| = d.value := by
    rw [Binary.abs_withSign, abs_of_nonneg (Digits.value_nonneg d)]
  constructor
  · rintro ⟨d', hvalue, hcount⟩
    exact (digitCount_mono (Digits.digits_le hd.stripped (habs.symm.trans hvalue))).trans hcount
  · intro hcount
    exact ⟨d, habs, hcount⟩

section Written

variable {f : Float} (h : f.isFinite = true) (hpos : 0 < (binary f).mantissa)
include h hpos

theorem ofDouble_binary : (binary f).OfDouble := by
  obtain ⟨hsmall, _, hlow, _⟩ := (canonical_iff _ _ hpos).1 (canonical_binary h hpos)
  exact ⟨hpos, hsmall, hlow, fun hnarrow => ((narrowBelow_iff f.toBits).1 hnarrow).1⟩

theorem shortest_withSign {d : Digits} (hd : (binary f).IsShortest d) : Shortest f ((binary f).withSign d.value) where
  reads := (holds_iff_reads h hpos (Digits.value_nonneg d)).1 hd.holds
  fewest y hy k := by
    rintro ⟨d', hvalue, hcount⟩
    have hholds := ((reads_iff_holds h hpos).1 hy).2
    exact (inDigits_withSign hd).2 ((hd.fewest d' (hvalue ▸ hholds)).trans hcount)
  closest y hy hfew := by
    obtain ⟨d', hvalue, hcount⟩ := hfew _ ((inDigits_withSign hd).2 le_rfl)
    obtain ⟨hsign, hholds⟩ := (reads_iff_holds h hpos).1 hy
    rw [value_eq_binary h, ← Binary.withSign_magnitude, ← hsign, Binary.abs_sub_withSign, Binary.abs_sub_withSign,
      hvalue]
    exact hd.closest d' (hvalue ▸ hholds) hcount

/-- A large double has one shortest number. -/
theorem shortest_iff {d : Digits} (hd : (binary f).IsShortest d) (hlarge : 0 ≤ (binary f).exponent) {x : ℚ} :
    Shortest f x ↔ x = (binary f).withSign d.value := by
  refine ⟨fun hx => ?_, fun hx => hx ▸ shortest_withSign h hpos hd⟩
  have hwritten := shortest_withSign h hpos hd
  obtain ⟨hsign, hholds⟩ := (reads_iff_holds h hpos).1 hx.reads
  obtain ⟨c, hc, hcount⟩ := hx.fewest _ hwritten.reads _ ((inDigits_withSign hd).2 le_rfl)
  have hnear := hx.closest _ hwritten.reads fun k => hwritten.fewest x hx.reads k
  rw [value_eq_binary h, ← Binary.withSign_magnitude, ← hsign, Binary.abs_sub_withSign, Binary.abs_sub_withSign,
    hc] at hnear
  rw [hc] at hholds
  have hclosest : ∀ c' : Digits, (binary f).Holds c'.value → digitCount c'.digits ≤ digitCount d.digits →
      |(binary f).magnitude - c.value| ≤ |(binary f).magnitude - c'.value| :=
    fun c' hc' hcount' => hnear.trans (hd.closest c' hc' hcount')
  have hdouble := ofDouble_binary h hpos
  have hcpos := digitCount_pos d.digits
  rw [← hsign, hc]
  congr 1
  -- Neither is closer than the other, so they lie on the two sides of a large double, if anywhere.
  have hsame : |c.value - (binary f).magnitude| = |d.value - (binary f).magnitude| := by
    rw [abs_sub_comm, abs_sub_comm d.value]
    exact le_antisymm hnear (hd.closest c hholds hcount)
  by_contra hne
  have hmiddle := (as_near_iff (Ne.symm hne)).1 hsame
  rcases lt_or_gt_of_ne hne with hlt | hgt
  · exact Binary.not_as_close hdouble hlarge hcpos hholds hd.holds hcount le_rfl hclosest hlt (by linarith)
  · exact Binary.not_as_close hdouble hlarge hcpos hd.holds hholds le_rfl hcount hd.closest hgt (by linarith)

end Written

end Double

end JsonSchema
