import JsonSchema.Proofs.Decimal.Reading

/-!
# The fewest digits that read back

A double is written with the fewest digits of which it can be read back, and of the decimals with as many digits with
one that is closest to it. The search looks at the two multiples of a power of ten beside the double, from the greatest
power on; no decimal of so many digits is missed by that.
-/

namespace JsonSchema

namespace Decimal

/-! ## Counting digits -/

theorem digitCount_le_iff {n k : Nat} (hk : 0 < k) : digitCount n ≤ k ↔ n < 10 ^ k :=
  Nat.length_toDigits_le_iff (by decide) hk

theorem digitCount_pos (n : Nat) : 0 < digitCount n := Nat.length_toDigits_pos

theorem lt_pow_digitCount (n : Nat) : n < 10 ^ digitCount n := (digitCount_le_iff (digitCount_pos n)).1 le_rfl

theorem digitCount_mono {n m : Nat} (h : n ≤ m) : digitCount n ≤ digitCount m :=
  (digitCount_le_iff (digitCount_pos m)).2 (h.trans_lt (lt_pow_digitCount m))

theorem pow_le_of_pos {n : Nat} (hn : 0 < n) : 10 ^ (digitCount n - 1) ≤ n := by
  by_contra hlt
  have hpos := digitCount_pos n
  by_cases hone : digitCount n = 1
  · rw [hone] at hlt
    omega
  · have hle := (digitCount_le_iff (k := digitCount n - 1) (by omega)).2 (not_le.1 hlt)
    omega

/-! ## Zeros at the end -/

namespace Digits

theorem value_strip (d : Digits) : d.strip.value = d.value := by
  fun_induction strip d with
  | case1 d h ih =>
    obtain ⟨n, hn⟩ := Nat.dvd_of_mod_eq_zero h.2
    have hhead : d.digits / 10 = n := by omega
    rw [ih, value, value, hhead, hn, zpow_add_one₀ (by norm_num)]
    push_cast
    ring
  | case2 d h => rfl

theorem strip_mod {d : Digits} (hpos : 0 < d.digits) : d.strip.digits % 10 ≠ 0 := by
  fun_induction strip d with
  | case1 d h ih => exact ih (by dsimp only; omega)
  | case2 d h => omega

section Stripped

variable {d : Digits} (h : d.digits % 10 ≠ 0) {n : Nat} {e : Int} (heq : d.value = n * 10 ^ e)
include h heq

/-- Digits without a zero at the end count the greatest unit. -/
theorem le_exponent : e ≤ d.exponent := by
  by_contra hlt
  obtain ⟨k, hk⟩ : ∃ k : Nat, e = d.exponent + (k + 1) := ⟨(e - d.exponent - 1).toNat, by omega⟩
  have hpos : (10 : ℚ) ^ d.exponent ≠ 0 := zpow_ne_zero _ (by norm_num)
  have hsum : (10 : ℚ) ^ e = 10 ^ d.exponent * 10 ^ (k + 1) := by
    rw [hk, zpow_add₀ (by norm_num)]
    norm_cast
  rw [value, hsum, mul_left_comm, mul_comm (d.digits : ℚ), mul_right_inj' hpos] at heq
  have heq : d.digits = n * 10 ^ (k + 1) := by exact_mod_cast heq
  rw [heq, pow_succ, ← Nat.mul_assoc, Nat.mul_mod_left] at h
  exact h rfl

theorem mul_pow_eq : d.digits * 10 ^ (d.exponent - e).toNat = n := by
  have hle := le_exponent h heq
  obtain ⟨k, hk⟩ : ∃ k : Nat, d.exponent = e + k := ⟨(d.exponent - e).toNat, by omega⟩
  have hpos : (10 : ℚ) ^ e ≠ 0 := zpow_ne_zero e (by norm_num)
  have hscale : (d.exponent - e).toNat = k := by omega
  rw [value, hk, zpow_add₀ (by norm_num), zpow_natCast, mul_left_comm, mul_comm (n : ℚ), mul_right_inj' hpos] at heq
  rw [hscale]
  exact_mod_cast heq

theorem digits_le : d.digits ≤ n := mul_pow_eq h heq ▸ Nat.le_mul_of_pos_right _ (by positivity)

end Stripped

end Digits

namespace Binary

variable {b : Binary}

/-! ## The multiples beside a double -/

theorem high_eq_add (b : Binary) : b.high = b.magnitude + 2 ^ b.exponent / 2 := by
  unfold high above
  ring

theorem inUnits_eq_floor (b : Binary) (unit : Int) : b.inUnits unit = ⌊b.magnitude / 10 ^ unit⌋₊ := by
  have htwo := zpow_mul_pow_toNat (b := 2) (by norm_num) b.exponent
  have hten := zpow_mul_pow_toNat (b := 10) (by norm_num) unit
  have hquotient : b.magnitude / 10 ^ unit =
      (b.mantissa * Nat.pow 2 b.exponent.toNat * Nat.pow 10 (-unit).toNat : Nat) /
        (Nat.pow 2 (-b.exponent).toNat * Nat.pow 10 unit.toNat : Nat) := by
    have hdenominator : (2 : ℚ) ^ (-b.exponent).toNat * 10 ^ unit.toNat ≠ 0 := by positivity
    have hunit : (10 : ℚ) ^ unit ≠ 0 := zpow_ne_zero _ (by norm_num)
    have hcast : ∀ b k : Nat, ((Nat.pow b k : Nat) : ℚ) = (b : ℚ) ^ k := fun b k => Nat.cast_pow b k
    rw [Nat.cast_mul, Nat.cast_mul, Nat.cast_mul, hcast, hcast, hcast, hcast, Nat.cast_ofNat, Nat.cast_ofNat,
      div_eq_div_iff hunit hdenominator, magnitude, ← htwo, ← hten]
    ring
  rw [hquotient, Nat.floor_div_eq_div]
  rfl

theorem inUnits_le (b : Binary) (unit : Int) : b.inUnits unit * 10 ^ unit ≤ b.magnitude := by
  have hunit : (0 : ℚ) < 10 ^ unit := zpow_pos (by norm_num) unit
  rw [inUnits_eq_floor, ← le_div_iff₀ hunit]
  exact Nat.floor_le (div_nonneg b.magnitude_nonneg hunit.le)

theorem lt_inUnits (b : Binary) (unit : Int) : b.magnitude < (b.inUnits unit + 1) * 10 ^ unit := by
  have hunit : (0 : ℚ) < 10 ^ unit := zpow_pos (by norm_num) unit
  rw [inUnits_eq_floor, ← div_lt_iff₀ hunit]
  exact Nat.lt_floor_add_one _

theorem abs_sub_lower (b : Binary) (unit : Int) :
    |b.magnitude - b.inUnits unit * 10 ^ unit| = b.magnitude - b.inUnits unit * 10 ^ unit :=
  abs_of_nonneg (sub_nonneg.2 (b.inUnits_le unit))

theorem abs_sub_upper (b : Binary) (unit : Int) :
    |b.magnitude - (b.inUnits unit + 1) * 10 ^ unit| = (b.inUnits unit + 1) * 10 ^ unit - b.magnitude := by
  rw [abs_sub_comm]
  exact abs_of_pos (sub_pos.2 (b.lt_inUnits unit))

theorem multiple_le_or_le (b : Binary) (unit : Int) (n : Nat) :
    (n * 10 ^ unit : ℚ) ≤ b.inUnits unit * 10 ^ unit ∨ ((b.inUnits unit + 1) * 10 ^ unit : ℚ) ≤ n * 10 ^ unit := by
  have hunit : (0 : ℚ) < 10 ^ unit := zpow_pos (by norm_num) unit
  rcases Nat.lt_or_ge (b.inUnits unit) n with hlt | hle
  · exact .inr (mul_le_mul_of_nonneg_right (by exact_mod_cast hlt) hunit.le)
  · exact .inl (mul_le_mul_of_nonneg_right (by exact_mod_cast hle) hunit.le)

/-! ## The choice between the two -/

/-- A held multiple of the unit that is as near as any other. -/
structure ClosestMultiple (b : Binary) (unit : Int) (d : Digits) : Prop where
  exponent : d.exponent = unit
  small : d.digits ≤ b.inUnits unit + 1
  holds : b.Holds d.value
  closest : ∀ n : Nat, b.Holds (n * 10 ^ unit) → |b.magnitude - d.value| ≤ |b.magnitude - n * 10 ^ unit|

section Grid

variable (hpos : 0 < b.mantissa) {unit : Int}
include hpos

/-- Beyond a multiple that is held one of the two beside the double is held, and nearer. -/
theorem nearer_neighbour {n : Nat} (hn : b.Holds (n * 10 ^ unit)) :
    b.readsBack ⟨b.inUnits unit, unit⟩ = true ∧
        |b.magnitude - b.inUnits unit * 10 ^ unit| ≤ |b.magnitude - n * 10 ^ unit| ∨
      b.readsBack ⟨b.inUnits unit + 1, unit⟩ = true ∧
        |b.magnitude - (b.inUnits unit + 1) * 10 ^ unit| ≤ |b.magnitude - n * 10 ^ unit| := by
  have hbelow := b.inUnits_le unit
  have habove := b.lt_inUnits unit
  rw [readsBack_iff hpos, readsBack_iff hpos, Digits.value, Digits.value, Nat.cast_succ]
  rcases b.multiple_le_or_le unit n with hle | hle
  · refine .inl ⟨hn.between .magnitude hle hbelow, ?_⟩
    rw [abs_of_nonneg (by linarith), abs_of_nonneg (by linarith)]
    linarith
  · refine .inr ⟨Holds.magnitude.between hn habove.le hle, ?_⟩
    rw [abs_of_nonpos (by linarith), abs_of_nonpos (by linarith)]
    linarith

theorem closestMultiple_of_neighbours {n : Nat} (hsmall : n ≤ b.inUnits unit + 1)
    (hreads : b.readsBack ⟨n, unit⟩ = true)
    (hbelow : b.readsBack ⟨b.inUnits unit, unit⟩ = true →
      |b.magnitude - n * 10 ^ unit| ≤ |b.magnitude - b.inUnits unit * 10 ^ unit|)
    (habove : b.readsBack ⟨b.inUnits unit + 1, unit⟩ = true →
      |b.magnitude - n * 10 ^ unit| ≤ |b.magnitude - (b.inUnits unit + 1) * 10 ^ unit|) :
    b.ClosestMultiple unit ⟨n, unit⟩ where
  exponent := rfl
  small := hsmall
  holds := (readsBack_iff hpos _).1 hreads
  closest m hm := by
    rcases nearer_neighbour hpos hm with ⟨hread, hnear⟩ | ⟨hread, hnear⟩
    · exact (hbelow hread).trans hnear
    · exact (habove hread).trans hnear

theorem onGrid?_eq_none {tie : Tie} (h : b.onGrid? tie unit = none) (n : Nat) : ¬b.Holds (n * 10 ^ unit) := by
  intro hn
  have hneighbour := nearer_neighbour hpos hn
  unfold onGrid? at h
  -- The search fails only where neither of the two neighbours is held.
  cases hlower : b.readsBack ⟨b.inUnits unit, unit⟩ <;> cases hupper : b.readsBack ⟨b.inUnits unit + 1, unit⟩ <;>
    simp only [hlower, hupper] at h hneighbour
  · simp at hneighbour
  · cases h
  · cases h
  · split at h
    · cases h
    · cases h
    · cases tie <;> cases h

theorem closestMultiple_lower (hread : b.readsBack ⟨b.inUnits unit, unit⟩ = true)
    (hle : b.readsBack ⟨b.inUnits unit + 1, unit⟩ = true →
      (2 * b.magnitude : ℚ) ≤ b.inUnits unit * 10 ^ unit + (b.inUnits unit + 1) * 10 ^ unit) :
    b.ClosestMultiple unit ⟨b.inUnits unit, unit⟩ := by
  refine closestMultiple_of_neighbours hpos (Nat.le_succ _) hread (fun _ => le_rfl) fun hread' => ?_
  have hle := hle hread'
  rw [abs_sub_lower, abs_sub_upper]
  linarith

theorem closestMultiple_upper (hread : b.readsBack ⟨b.inUnits unit + 1, unit⟩ = true)
    (hle : b.readsBack ⟨b.inUnits unit, unit⟩ = true →
      (b.inUnits unit * 10 ^ unit + (b.inUnits unit + 1) * 10 ^ unit : ℚ) ≤ 2 * b.magnitude) :
    b.ClosestMultiple unit ⟨b.inUnits unit + 1, unit⟩ := by
  refine closestMultiple_of_neighbours hpos le_rfl hread (fun hread' => ?_) fun _ => by rw [Nat.cast_succ]
  have hle := hle hread'
  rw [Nat.cast_succ, abs_sub_lower, abs_sub_upper]
  linarith

theorem closestMultiple_of_onGrid? {tie : Tie} {d : Digits} (h : b.onGrid? tie unit = some d) :
    b.ClosestMultiple unit d := by
  have hcompare : compareScaled (2 * b.inUnits unit + 1) unit (2 * b.mantissa) b.exponent =
      compare (b.inUnits unit * 10 ^ unit + (b.inUnits unit + 1) * 10 ^ unit : ℚ) (2 * b.magnitude) := by
    rw [compareScaled_eq, magnitude]
    congr 1 <;> push_cast <;> ring
  unfold onGrid? at h
  cases hreads : b.readsBack ⟨b.inUnits unit, unit⟩ <;>
    cases hreads' : b.readsBack ⟨b.inUnits unit + 1, unit⟩ <;> simp only [hreads, hreads', hcompare] at h
  · cases h
  · cases h
    exact closestMultiple_upper hpos hreads' fun hread => absurd (hreads.symm.trans hread) Bool.false_ne_true
  · cases h
    exact closestMultiple_lower hpos hreads fun hread => absurd (hreads'.symm.trans hread) Bool.false_ne_true
  · split at h
    · next hgt =>
      cases h
      exact closestMultiple_lower hpos hreads fun _ => (compare_gt_iff_gt.1 hgt).le
    · next hlt =>
      cases h
      exact closestMultiple_upper hpos hreads' fun _ => (compare_lt_iff_lt.1 hlt).le
    · next heq =>
      have heq := compare_eq_iff_eq.1 heq
      cases tie with
      | toEven =>
        cases h
        rcases Nat.mod_two_eq_zero_or_one (b.inUnits unit) with heven | hodd
        · rw [heven]
          exact closestMultiple_lower hpos hreads fun _ => heq.ge
        · rw [hodd]
          exact closestMultiple_upper hpos hreads' fun _ => heq.le
      | away =>
        cases h
        exact closestMultiple_upper hpos hreads' fun _ => heq.le

end Grid

/-! ## As many digits as are needed -/

/-- What the values of doubles are like. -/
structure OfDouble (b : Binary) : Prop where
  pos : 0 < b.mantissa
  small : b.mantissa < 9007199254740992
  low : -1074 ≤ b.exponent
  narrow : b.narrowBelow = true → b.mantissa = 4503599627370496

theorem lt_scale (b : Binary) : b.magnitude < 10 ^ b.scale := by
  have hlt := b.lt_inUnits (-1074)
  have hcount : b.inUnits (-1074) + 1 ≤ 10 ^ digitCount (b.inUnits (-1074)) := lt_pow_digitCount _
  have hcount : (b.inUnits (-1074) + 1 : ℚ) ≤ 10 ^ digitCount (b.inUnits (-1074)) := by exact_mod_cast hcount
  have hscale : (10 : ℚ) ^ b.scale = 10 ^ digitCount (b.inUnits (-1074)) * 10 ^ (-1074 : Int) := by
    rw [scale, sub_eq_add_neg, zpow_add₀ (by norm_num), zpow_natCast]
  rw [hscale]
  exact hlt.trans_le (mul_le_mul_of_nonneg_right hcount (zpow_nonneg (by norm_num) _))

theorem inUnits_lt_pow (b : Binary) (k : Nat) : b.inUnits (b.scale - k) < 10 ^ k := by
  have hunit : (0 : ℚ) < 10 ^ (b.scale - k) := zpow_pos (by norm_num) _
  have hscale : (10 : ℚ) ^ b.scale = 10 ^ k * 10 ^ (b.scale - k) := by
    rw [← zpow_natCast, ← zpow_add₀ (by norm_num)]
    congr 1
    omega
  have hlt := (b.inUnits_le (b.scale - k)).trans_lt b.lt_scale
  rw [hscale] at hlt
  exact_mod_cast lt_of_mul_lt_mul_right hlt hunit.le

/-- A decimal of so many digits stands on their grid, or is so small that the grid is not needed. -/
theorem multiple_or_lt (b : Binary) {d : Digits} {k : Nat} (hk : 0 < k) (hcount : digitCount d.digits ≤ k) :
    (∃ n : Nat, d.value = n * 10 ^ (b.scale - k)) ∨ d.value < 10 ^ (b.scale - 1) := by
  rcases le_or_gt (b.scale - k) d.exponent with hle | hlt
  -- A coarser unit is a multiple of the finer one.
  · obtain ⟨j, hj⟩ : ∃ j : Nat, d.exponent = b.scale - k + j := ⟨(d.exponent - (b.scale - k)).toNat, by omega⟩
    refine .inl ⟨d.digits * 10 ^ j, ?_⟩
    rw [Digits.value, hj, zpow_add₀ (by norm_num), zpow_natCast]
    push_cast
    ring
  · have hdigits : (d.digits : ℚ) < 10 ^ k := by exact_mod_cast (digitCount_le_iff hk).1 hcount
    right
    calc d.value < 10 ^ k * 10 ^ d.exponent := mul_lt_mul_of_pos_right hdigits (zpow_pos (by norm_num) _)
      _ = 10 ^ (k + d.exponent) := by rw [zpow_add₀ (by norm_num), zpow_natCast]
      _ ≤ 10 ^ (b.scale - 1) := zpow_le_zpow_right₀ (by norm_num) (by omega)

section Search

variable (h : b.OfDouble)
include h

theorem le_scale : (10 : ℚ) ^ (b.scale - 1) ≤ b.magnitude := by
  have hone : 1 ≤ b.inUnits (-1074) := by
    have hmantissa : (1 : ℚ) ≤ b.mantissa := by exact_mod_cast h.pos
    have hleast : (10 : ℚ) ^ (-1074 : Int) ≤ 2 ^ (-1074 : Int) := by
      rw [zpow_neg, zpow_neg]
      refine inv_anti₀ (zpow_pos two_pos _) ?_
      exact zpow_le_zpow_left₀ (by norm_num) two_pos.le (by norm_num)
    have hexponent : (2 : ℚ) ^ (-1074 : Int) ≤ 2 ^ b.exponent := zpow_le_zpow_right₀ one_le_two h.low
    rw [inUnits_eq_floor, Nat.one_le_floor_iff, one_le_div (zpow_pos (by norm_num) _)]
    calc (10 : ℚ) ^ (-1074 : Int) ≤ 2 ^ b.exponent := hleast.trans hexponent
      _ ≤ b.magnitude := le_mul_of_one_le_left (zpow_nonneg two_pos.le _) hmantissa
  have hcount : ((10 ^ (digitCount (b.inUnits (-1074)) - 1) : Nat) : ℚ) ≤ b.inUnits (-1074) :=
    Nat.cast_le.2 (pow_le_of_pos hone)
  have hscale : (10 : ℚ) ^ (b.scale - 1) =
      (10 ^ (digitCount (b.inUnits (-1074)) - 1) : Nat) * 10 ^ (-1074 : Int) := by
    have hpos := digitCount_pos (b.inUnits (-1074))
    have hsum : b.scale - 1 = (digitCount (b.inUnits (-1074)) - 1 : Nat) + (-1074 : Int) := by
      rw [scale]
      omega
    rw [hsum, zpow_add₀ (by norm_num), zpow_natCast, Nat.cast_pow, Nat.cast_ofNat]
  rw [hscale]
  exact (mul_le_mul_of_nonneg_right hcount (zpow_nonneg (by norm_num) _)).trans (b.inUnits_le (-1074))

theorem exists_multiple_of_holds {d : Digits} {k : Nat} (hk : 0 < k) (hd : b.Holds d.value)
    (hcount : digitCount d.digits ≤ k) : ∃ n : Nat, b.Holds (n * 10 ^ (b.scale - k)) ∧
      |b.magnitude - n * 10 ^ (b.scale - k)| ≤ |b.magnitude - d.value| := by
  rcases multiple_or_lt b hk hcount with ⟨n, hn⟩ | hsmall
  · exact ⟨n, hn ▸ hd, hn ▸ le_rfl⟩
  · have hpower : ((10 ^ (k - 1) : Nat) : ℚ) * 10 ^ (b.scale - k) = 10 ^ (b.scale - 1) := by
      have hsum : b.scale - 1 = (k - 1 : Nat) + (b.scale - k) := by omega
      rw [hsum, zpow_add₀ (by norm_num), zpow_natCast, Nat.cast_pow, Nat.cast_ofNat]
    have hle := le_scale h
    refine ⟨10 ^ (k - 1), ?_, ?_⟩ <;> rw [hpower]
    · exact hd.between .magnitude hsmall.le hle
    · rw [abs_of_nonneg (by linarith), abs_of_nonneg (by linarith)]
      linarith

/-- Seventeen digits are enough. -/
theorem exists_multiple_of_scale : ∃ n : Nat, b.Holds (n * 10 ^ (b.scale - 17)) := by
  have hbelow := b.inUnits_le (b.scale - 17)
  have habove := b.lt_inUnits (b.scale - 17)
  have hunit : (10 : ℚ) ^ (b.scale - 17) * 10 ^ 16 ≤ b.magnitude := by
    have hsum : (10 : ℚ) ^ (b.scale - 17) * 10 ^ 16 = 10 ^ (b.scale - 1) := by
      rw [← zpow_natCast, ← zpow_add₀ (by norm_num)]
      congr 1
      omega
    exact hsum ▸ le_scale h
  have hpos : (0 : ℚ) < 2 ^ b.exponent := zpow_pos two_pos _
  have hhigh := b.high_eq_add
  have hupper : ∀ {x : ℚ}, b.magnitude ≤ x → x < b.high → b.Holds x := fun hle hlt =>
    ⟨.inl (b.low_lt.trans_le hle), .inl hlt⟩
  have hsmall : (b.mantissa : ℚ) < 9007199254740992 := by exact_mod_cast h.small
  have hnext : ((b.inUnits (b.scale - 17) + 1 : Nat) : ℚ) = b.inUnits (b.scale - 17) + 1 := Nat.cast_succ _
  by_cases hnarrow : b.narrowBelow = true
  -- For the least mantissa the unit is less than half the distance of doubles, so the multiple
  -- above is held.
  · refine ⟨b.inUnits (b.scale - 17) + 1, ?_⟩
    rw [hnext]
    refine hupper habove.le ?_
    have hmantissa : b.magnitude = 4503599627370496 * 2 ^ b.exponent := by
      rw [magnitude, h.narrow hnarrow]
      norm_num
    rw [hhigh]
    linarith
  · have hlow : b.low = b.magnitude - 2 ^ b.exponent / 2 := by
      unfold low below
      rw [if_neg hnarrow]
      ring
    by_cases hnear : b.magnitude - b.inUnits (b.scale - 17) * 10 ^ (b.scale - 17) < 2 ^ b.exponent / 2
    · refine ⟨b.inUnits (b.scale - 17), .inl ?_, .inl (hbelow.trans_lt b.lt_high)⟩
      rw [hlow]
      linarith
    · refine ⟨b.inUnits (b.scale - 17) + 1, ?_⟩
      rw [hnext]
      refine hupper habove.le ?_
      have hmantissa : b.magnitude ≤ 9007199254740992 * 2 ^ b.exponent := mul_le_mul_of_nonneg_right hsmall.le hpos.le
      rw [hhigh]
      linarith

end Search

/-! ## The search -/

theorem first_of_findSome?_range {α : Type} {f : Nat → Option α} {n : Nat} {a : α}
    (h : (List.range n).findSome? f = some a) : ∃ i, f i = some a ∧ ∀ j < i, f j = none := by
  induction n with
  | zero => cases h
  | succ n ih =>
    rw [List.range_succ, List.findSome?_append] at h
    cases hbefore : (List.range n).findSome? f with
    | some a' =>
      rw [hbefore, Option.some_or] at h
      exact ih (hbefore.trans h)
    | none =>
      rw [hbefore, Option.none_or, List.findSome?_singleton] at h
      rw [List.findSome?_eq_none_iff] at hbefore
      exact ⟨n, h, fun j hj => hbefore j (List.mem_range.2 hj)⟩

/-- Of the held decimals it has the fewest digits, and of those with as few none is closer. -/
structure IsShortest (b : Binary) (d : Digits) : Prop where
  holds : b.Holds d.value
  stripped : d.digits % 10 ≠ 0
  fewest : ∀ d' : Digits, b.Holds d'.value → digitCount d.digits ≤ digitCount d'.digits
  closest : ∀ d' : Digits, b.Holds d'.value → digitCount d'.digits ≤ digitCount d.digits →
    |b.magnitude - d.value| ≤ |b.magnitude - d'.value|

section Shortest

variable (h : b.OfDouble)
include h

/-- What is found stands on the first grid that has a held multiple. -/
theorem exists_grid (tie : Tie) : ∃ (k : Nat) (d : Digits), 0 < k ∧ b.shortest tie = d.strip ∧
    b.ClosestMultiple (b.scale - k) d ∧ ∀ j, 0 < j → j < k → ∀ n : Nat, ¬b.Holds (n * 10 ^ (b.scale - j)) := by
  obtain ⟨n, hn⟩ := exists_multiple_of_scale h
  have hsome : ((List.range 17).findSome? fun n : Nat => b.onGrid? tie (b.scale - (n + 1))).isSome = true := by
    refine List.findSome?_isSome_iff.2 ⟨16, List.mem_range.2 (by decide), ?_⟩
    rw [Option.isSome_iff_ne_none]
    exact fun hnone => onGrid?_eq_none h.pos hnone n hn
  obtain ⟨d, hd⟩ := Option.isSome_iff_exists.1 hsome
  obtain ⟨i, hi, hbefore⟩ := first_of_findSome?_range hd
  refine ⟨i + 1, d, Nat.succ_pos i, ?_, ?_, fun j hj hlt n => ?_⟩
  · rw [shortest, hd, Option.getD_some]
  · exact closestMultiple_of_onGrid? h.pos hi
  · have hnone := hbefore (j - 1) (by omega)
    have hunit : b.scale - ((j - 1 : Nat) + 1) = b.scale - j := by omega
    exact onGrid?_eq_none h.pos (hunit ▸ hnone) n

theorem low_pos : 0 < b.low := by
  have hmantissa : (0 : ℚ) < b.mantissa := by exact_mod_cast h.pos
  have hmagnitude : 0 < b.magnitude := mul_pos hmantissa (zpow_pos two_pos _)
  have hbelow := Double.below_nonneg h.pos
  unfold low
  linarith

theorem isShortest_shortest (tie : Tie) : b.IsShortest (b.shortest tie) := by
  obtain ⟨k, d, hk, hshortest, hclosest, hfirst⟩ := exists_grid h tie
  have hholds : b.Holds d.strip.value := by
    rw [Digits.value_strip]
    exact hclosest.holds
  have hdigits : 0 < d.digits := by
    have hpos := (low_pos h).trans_le hclosest.holds.low_le
    unfold Digits.value at hpos
    by_contra hzero
    rw [Nat.eq_zero_of_not_pos hzero, Nat.cast_zero, zero_mul] at hpos
    exact hpos.false
  have hstripped := Digits.strip_mod hdigits
  -- A carry to one digit more leaves a power of ten, whose zeros are stripped.
  have hcount : digitCount d.strip.digits ≤ k := by
    rw [digitCount_le_iff hk]
    have hle : d.strip.digits ≤ d.digits := Digits.digits_le hstripped d.value_strip
    have hfull : d.digits ≤ 10 ^ k := hclosest.small.trans (inUnits_lt_pow b k)
    refine lt_of_le_of_ne (hle.trans hfull) fun heq => hstripped ?_
    rw [heq, ← Nat.sub_one_add_one hk.ne', pow_succ, Nat.mul_mod_left]
  rw [hshortest]
  refine ⟨hholds, hstripped, fun d' hd' => ?_, fun d' hd' hfew => ?_⟩
  · refine hcount.trans ?_
    by_contra hlt
    obtain ⟨n, hn, _⟩ := exists_multiple_of_holds h (digitCount_pos d'.digits) hd' le_rfl
    exact hfirst _ (digitCount_pos _) (not_le.1 hlt) n hn
  · obtain ⟨n, hn, hnear⟩ := exists_multiple_of_holds h hk hd' (hfew.trans hcount)
    rw [Digits.value_strip]
    exact (hclosest.closest n hn).trans hnear

end Shortest

end Binary

end Decimal

end JsonSchema
