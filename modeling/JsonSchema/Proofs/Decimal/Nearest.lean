import JsonSchema.Proofs.Decimal.Value

/-!
# Doubles nearest to a number

What an operation gives is the exact result, rounded once: to the nearest multiple of the power of two at which
53 bits hold it, and of two nearest ones to the even one.
-/

namespace JsonSchema.Double

open Float.Model Float.Model.UnpackedFloat

/-! ## The nearest integer -/

/-- The integer is nearest to the number, and even if it is one of two. -/
structure NearestEven (x : ℚ) (j : Int) : Prop where
  near : |x - j| ≤ 1 / 2
  even : |x - j| = 1 / 2 → Even j

namespace NearestEven

variable {x : ℚ} {j n : Int}

theorem of_lt (h : |x - j| < 1 / 2) : NearestEven x j := ⟨h.le, fun htie => absurd htie h.ne⟩

theorem le_of_le (h : NearestEven x j) (hx : n ≤ x) : n ≤ j := by
  have hnear := (abs_le.1 h.near).2
  by_contra hlt
  have hlt : (j : ℚ) + 1 ≤ n := by exact_mod_cast Int.add_one_le_of_lt (not_le.1 hlt)
  linarith

theorem ge_of_ge (h : NearestEven x j) (hx : x ≤ n) : j ≤ n := by
  have hnear := (abs_le.1 h.near).1
  by_contra hlt
  have hlt : (n : ℚ) + 1 ≤ j := by exact_mod_cast Int.add_one_le_of_lt (not_le.1 hlt)
  linarith

theorem eq_of_int (h : NearestEven (n : ℚ) j) : j = n := le_antisymm (h.ge_of_ge le_rfl) (h.le_of_le le_rfl)

end NearestEven

/-! ## Mantissas with what was cut off -/

/-- The residual bits say how the number compares to the mantissa and to the middle above it. -/
structure Represents (em : ExtendedMantissa) (x : ℚ) : Prop where
  le : em.mantissa ≤ x
  lt : x < em.mantissa + 1
  roundBit : em.roundBit = true ↔ em.mantissa + 1 / 2 ≤ x
  stickyBit : em.stickyBit = true ↔ x ≠ em.mantissa ∧ x ≠ em.mantissa + 1 / 2

namespace Represents

variable {em : ExtendedMantissa} {x : ℚ}

theorem residual (h : Represents em x) : (em.roundBit || em.stickyBit) = true ↔ x ≠ em.mantissa := by
  rw [Bool.or_eq_true, h.roundBit, h.stickyBit]
  constructor
  · rintro (hround | hsticky) heq
    · linarith
    · exact hsticky.1 heq
  · intro hne
    by_cases hround : (em.mantissa : ℚ) + 1 / 2 ≤ x
    · exact .inl hround
    · exact .inr ⟨hne, fun heq => hround heq.ge⟩

theorem shiftRightOne (h : Represents em x) : Represents em.shiftRightOne (x / 2) := by
  have hle := h.le
  have hlt := h.lt
  have hresidual := h.residual
  -- The bit that is lost becomes the round bit, and the two residual bits become the sticky bit.
  obtain ⟨q, heven | hodd⟩ := Nat.even_or_odd' em.mantissa
  · have hhalf : em.mantissa / 2 = q := by omega
    have hbit : em.mantissa % 2 = 0 := by omega
    rw [heven, Nat.cast_mul, Nat.cast_ofNat] at hle hlt hresidual
    unfold ExtendedMantissa.shiftRightOne
    rw [hhalf, hbit]
    refine ⟨?_, ?_, ?_, ?_⟩ <;> dsimp only
    · linarith
    · linarith
    · refine iff_of_false Bool.false_ne_true ?_
      linarith
    · rw [hresidual]
      constructor
      · intro hne
        exact ⟨fun heq => hne (by linarith), fun heq => by linarith⟩
      · rintro ⟨hne, _⟩ heq
        exact hne (by linarith)
  · have hhalf : em.mantissa / 2 = q := by omega
    have hbit : em.mantissa % 2 = 1 := by omega
    rw [hodd, Nat.cast_add, Nat.cast_mul, Nat.cast_ofNat, Nat.cast_one] at hle hlt hresidual
    unfold ExtendedMantissa.shiftRightOne
    rw [hhalf, hbit]
    refine ⟨?_, ?_, ?_, ?_⟩ <;> dsimp only
    · linarith
    · linarith
    · refine iff_of_true rfl ?_
      linarith
    · rw [hresidual]
      constructor
      · intro hne
        exact ⟨fun heq => by linarith, fun heq => hne (by linarith)⟩
      · rintro ⟨_, hne⟩ heq
        exact hne (by linarith)

theorem shiftRight (h : Represents em x) (k : Nat) : Represents (em >>> k) (x / 2 ^ k) := by
  induction k with
  | zero => simpa [HShiftRight.hShiftRight, Nat.repeat] using h
  | succ k ih =>
    rw [pow_succ, ← div_div]
    exact ih.shiftRightOne

theorem nearestEven (h : Represents em x) : NearestEven x em.roundedMantissa := by
  obtain ⟨m, roundBit, stickyBit⟩ := em
  obtain ⟨hle, hlt, hround, hsticky⟩ := h
  dsimp only at hle hlt hround hsticky
  cases roundBit with
  | false =>
    have hbelow : x < m + 1 / 2 := not_le.1 fun hmore => Bool.false_ne_true (hround.2 hmore)
    have hmantissa : (ExtendedMantissa.mk m false stickyBit).roundedMantissa = m := by cases stickyBit <;> rfl
    rw [hmantissa]
    apply NearestEven.of_lt
    push_cast
    exact abs_lt.2 ⟨by linarith, by linarith⟩
  | true =>
    have habove := hround.1 rfl
    cases stickyBit with
    | false =>
      have hmiddle : x = m + 1 / 2 := by
        by_contra hne
        exact Bool.false_ne_true (hsticky.2 ⟨by linarith, hne⟩)
      have hmantissa : (ExtendedMantissa.mk m true false).roundedMantissa = m + m % 2 := rfl
      rw [hmantissa]
      have heven : Even (m + m % 2) := by
        rw [Nat.even_iff]
        omega
      refine ⟨le_of_eq ?_, fun _ => by exact_mod_cast heven⟩
      rw [hmiddle]
      rcases Nat.mod_two_eq_zero_or_one m with hbit | hbit
      · rw [hbit]
        push_cast
        norm_num
      · rw [hbit]
        push_cast
        norm_num
    | true =>
      obtain ⟨_, hne⟩ := hsticky.1 rfl
      have hmore : (m : ℚ) + 1 / 2 < x := lt_of_le_of_ne habove (Ne.symm hne)
      have hmantissa : (ExtendedMantissa.mk m true true).roundedMantissa = m + 1 := rfl
      rw [hmantissa]
      apply NearestEven.of_lt
      push_cast
      exact abs_lt.2 ⟨by linarith, by linarith⟩

end Represents

/-- How the accuracy places the number between the mantissa and the next one. -/
def Located (m : Nat) (a : Accuracy) (x : ℚ) : Prop := Represents (.ofMantissaAndAccuracy m a) x

theorem Located.le {m : Nat} {a : Accuracy} {x : ℚ} (h : Located m a x) : m ≤ x := by
  have hle := Represents.le h
  rwa [ofMantissaAndAccuracy_mantissa] at hle

theorem Located.lt {m : Nat} {a : Accuracy} {x : ℚ} (h : Located m a x) : x < m + 1 := by
  have hlt := Represents.lt h
  rwa [ofMantissaAndAccuracy_mantissa] at hlt

theorem located_exact (m : Nat) : Located m .exact m where
  le := le_rfl
  lt := lt_add_one _
  roundBit := by
    refine iff_of_false Bool.false_ne_true ?_
    show ¬(m : ℚ) + 1 / 2 ≤ m
    linarith
  stickyBit := iff_of_false Bool.false_ne_true fun h => h.1 rfl

/-! ## Rounding -/

/-- The double is the number of this sign, rounded to so many times a power of two. -/
structure Rounded (s : Sign) (x : ℚ) (t : Int) (j : Nat) (u : UnpackedFloat) : Prop where
  low : -1074 ≤ t
  full : 4503599627370496 ≤ x / 2 ^ t ∨ t = -1074
  small : x / 2 ^ t < 9007199254740992
  nearest : NearestEven (x / 2 ^ t) j
  value : valueOf u = signed s (j * 2 ^ t)
  held : t ≤ 970 → Held u

/-- The exponent at which a result is rounded. -/
def roundingExponent (m : Nat) (e : Int) : Int := Format.binary64.targetExponent (totalExponent m e)

theorem roundingExponent_eq (m : Nat) (e : Int) :
    roundingExponent m e = max (m.log2 + 1 + e - 53) (-1074) := rfl

section Rounding

variable {s : Sign} {m : Nat} {e : Int} {a : Accuracy} {x : ℚ}

/-- The second shift makes room for a mantissa that was rounded up to a power of two. -/
theorem roundWithAccuracy_eq {t : Int} {j : Nat}
    (hfirst : (shiftToTargetExponent .binary64 m e a).1.roundedMantissa = j)
    (hexponent : (shiftToTargetExponent .binary64 m e a).2 = t) (hlow : -1074 ≤ t)
    (hj : j ≤ 9007199254740992) :
    roundWithAccuracy .binary64 s m e a =
      if h : j = 0 then .zero s
      else if j = 9007199254740992 then .finite s 4503599627370496 (t + 1) (by decide)
      else .finite s j t (Nat.pos_of_ne_zero h) := by
  have hstay : j < 9007199254740992 → shiftToTargetExponent .binary64 j t .exact = (⟨j, false, false⟩, t) := by
    intro hlt
    have hlog : j.log2 ≤ 52 := by
      by_cases hzero : j = 0
      · rw [hzero]
        decide
      · exact Nat.lt_succ_iff.1 ((Nat.log2_lt hzero).2 hlt)
    have hnone : (Format.binary64.targetExponent (totalExponent j t) - t).toNat = 0 := by
      rw [targetExponent_eq, totalExponent]
      omega
    rw [shiftToTargetExponent, shiftToExponent]
    simp only [hnone]
    simp [ExtendedMantissa.ofMantissaAndAccuracy, HShiftRight.hShiftRight, Nat.repeat]
  have hcarry : shiftToTargetExponent .binary64 9007199254740992 t .exact =
      (⟨4503599627370496, false, false⟩, t + 1) := by
    have hlog : Nat.log2 9007199254740992 = 53 := by decide +kernel
    have hone : (Format.binary64.targetExponent (totalExponent 9007199254740992 t) - t).toNat = 1 := by
      rw [targetExponent_eq, totalExponent, hlog]
      omega
    rw [shiftToTargetExponent, shiftToExponent]
    simp only [hone]
    exact Prod.ext (shiftRight_of_multiple 4503599627370496 1) rfl
  unfold roundWithAccuracy
  simp only [hfirst, hexponent]
  by_cases hzero : j = 0
  · have hshift := hstay (by omega)
    simp only [hshift]
    rw [dif_pos hzero, dif_pos hzero]
  · by_cases hfull : j = 9007199254740992
    · subst hfull
      simp only [hcarry]
      rfl
    · have hshift := hstay (by omega)
      simp only [hshift, dif_neg hzero, if_neg hfull]

theorem scaled_lt {k : Nat} (hk : roundingExponent m e = e + k) (hx : Located m a x) :
    x / 2 ^ k < 9007199254740992 := by
  rw [roundingExponent_eq] at hk
  have hlog : m + 1 ≤ 2 ^ (53 + k) := Nat.le_trans Nat.lt_log2_self (Nat.pow_le_pow_right two_pos (by omega))
  have hlog : (m : ℚ) + 1 ≤ 2 ^ (53 + k) := by exact_mod_cast hlog
  rw [div_lt_iff₀ (pow_pos two_pos k)]
  calc x < m + 1 := hx.lt
    _ ≤ 2 ^ (53 + k) := hlog
    _ = 9007199254740992 * 2 ^ k := by rw [pow_add]; norm_num

/-- At the exponent 52 bits are not, unless it is the least one. -/
theorem le_scaled {k : Nat} (hk : roundingExponent m e = e + k) (hm : 0 < m) (hx : Located m a x) :
    4503599627370496 ≤ x / 2 ^ k ∨ roundingExponent m e = -1074 := by
  by_cases hmin : roundingExponent m e = -1074
  · exact .inr hmin
  · rw [roundingExponent_eq] at hk hmin
    have hlog : 2 ^ (52 + k) ≤ m := by
      have hlog : m.log2 = 52 + k := by omega
      exact hlog ▸ Nat.log2_self_le (Nat.ne_of_gt hm)
    have hlog : (2 : ℚ) ^ (52 + k) ≤ m := by exact_mod_cast hlog
    left
    rw [le_div_iff₀ (pow_pos two_pos k)]
    calc (4503599627370496 * 2 ^ k : ℚ) = 2 ^ (52 + k) := by rw [pow_add]; norm_num
      _ ≤ m := hlog
      _ ≤ x := hx.le

theorem rounded_roundWithAccuracy (s : Sign) (hm : 0 < m) (hx : Located m a x) (he : e ≤ roundingExponent m e) :
    ∃ j, Rounded s (x * 2 ^ e) (roundingExponent m e) j (roundWithAccuracy .binary64 s m e a) := by
  have hlow : -1074 ≤ roundingExponent m e := Int.le_max_right _ _
  have hexponent : (shiftToTargetExponent .binary64 m e a).2 = roundingExponent m e := by
    show e + ((roundingExponent m e - e).toNat : Int) = _
    omega
  obtain ⟨k, hk⟩ : ∃ k : Nat, roundingExponent m e = e + k := ⟨(roundingExponent m e - e).toNat, by omega⟩
  have hshift : (roundingExponent m e - e).toNat = k := by omega
  have hsmall := scaled_lt hk hx
  have hfull := le_scaled hk hm hx
  have hnearest := (hx.shiftRight (roundingExponent m e - e).toNat).nearestEven
  change NearestEven _ (shiftToTargetExponent .binary64 m e a).1.roundedMantissa at hnearest
  generalize hj : (shiftToTargetExponent .binary64 m e a).1.roundedMantissa = j at hnearest
  generalize roundingExponent m e = t at *
  have hscale : x * 2 ^ e / 2 ^ t = x / 2 ^ k := by
    rw [hk, zpow_add₀ two_ne_zero, zpow_natCast, mul_comm x, mul_div_mul_left x _ (zpow_ne_zero e two_ne_zero)]
  rw [hshift] at hnearest
  -- Both bounds are integers, and rounding passes no integer.
  have hle : j ≤ 9007199254740992 := by
    have hle := hnearest.ge_of_ge (n := 9007199254740992) (by exact_mod_cast hsmall.le)
    exact_mod_cast hle
  have hmantissa : 4503599627370496 ≤ j ∨ t = -1074 := by
    refine hfull.imp_left fun hfull => ?_
    have hle := hnearest.le_of_le (n := 4503599627370496) (by exact_mod_cast hfull)
    exact_mod_cast hle
  have hresult := roundWithAccuracy_eq (s := s) hj hexponent hlow hle
  refine ⟨j, hlow, hscale ▸ hfull, hscale ▸ hsmall, hscale ▸ hnearest, ?_, ?_⟩
  · rw [hresult]
    split_ifs with hzero hcarry
    · rw [hzero, Nat.cast_zero, zero_mul]
      cases s <;> simp [valueOf, signed]
    · rw [hcarry, valueOf, zpow_add_one₀ two_ne_zero]
      congr 1
      push_cast
      ring
    · rfl
  · intro hfits
    rw [hresult]
    split_ifs with hzero hcarry
    · exact .zero s
    · exact .finite _ _ _ _ ((canonical_iff _ _ (by decide)).2 (by omega))
    · exact .finite _ _ _ _ ((canonical_iff _ _ (by omega)).2 (by omega))

theorem rounded_round (s : Sign) (hm : 0 < m) (e : Int) :
    ∃ j, Rounded s (m * 2 ^ e) (roundingExponent m e) j (UnpackedFloat.round .binary64 s m e) := by
  obtain ⟨k, hk⟩ : ∃ k : Nat, k = (e - roundingExponent m e).toNat := ⟨_, rfl⟩
  have hround : UnpackedFloat.round .binary64 s m e =
      roundWithAccuracy .binary64 s (m * 2 ^ k) (e - k) .exact := by
    rw [← Nat.shiftLeft_eq, hk]
    rfl
  have hexponent : roundingExponent (m * 2 ^ k) (e - k) = roundingExponent m e := by
    rw [roundingExponent_eq, roundingExponent_eq, log2_shift m k hm]
    omega
  have hvalue : (((m * 2 ^ k : Nat) : ℚ)) * 2 ^ (e - k) = m * 2 ^ e := by
    rw [zpow_sub₀ two_ne_zero, zpow_natCast]
    push_cast
    field_simp
  obtain ⟨j, hj⟩ := rounded_roundWithAccuracy s (Nat.mul_pos hm (Nat.two_pow_pos k))
    (located_exact (m * 2 ^ k)) (e := e - k) (by omega)
  rw [hexponent, hvalue] at hj
  exact ⟨j, hround ▸ hj⟩

end Rounding

/-! ## Results that need no rounding -/

namespace Rounded

variable {s : Sign} {x : ℚ} {t : Int} {j : Nat} {u : UnpackedFloat} (h : Rounded s x t j u)
include h

/-- The number is held by 53 bits. -/
theorem exact {n : Nat} {e : Int} (hx : x = n * 2 ^ e) (hn : n < 9007199254740992) (hlow : -1074 ≤ e)
    (hhigh : e ≤ 970) : Held u ∧ valueOf u = signed s x := by
  -- A full mantissa at a higher exponent would be more than the number has.
  have hle : t ≤ e := by
    by_contra hlt
    have hpos : (0 : ℚ) < 2 ^ t := zpow_pos two_pos t
    have hfull := h.full.resolve_right (by omega)
    rw [le_div_iff₀ hpos, hx] at hfull
    have hstep := two_mul_zpow_le (not_le.1 hlt)
    have hn : (n : ℚ) < 9007199254740992 := by exact_mod_cast hn
    have hpos : (0 : ℚ) < 2 ^ e := zpow_pos two_pos e
    nlinarith
  obtain ⟨k, rfl⟩ : ∃ k : Nat, e = t + k := ⟨(e - t).toNat, by omega⟩
  have hscaled : x / 2 ^ t = ((n * 2 ^ k : Nat) : Int) := by
    rw [hx, zpow_add₀ two_ne_zero, zpow_natCast]
    push_cast
    field_simp
  have hj := (hscaled ▸ h.nearest).eq_of_int
  refine ⟨h.held (by omega), ?_⟩
  rw [h.value, hx, zpow_add₀ two_ne_zero, zpow_natCast]
  congr 1
  have hj : j = n * 2 ^ k := by exact_mod_cast hj
  rw [hj]
  push_cast
  ring

end Rounded

/-- The number is held by 53 bits and an exponent of doubles. -/
def Representable (x : ℚ) : Prop :=
  ∃ (n : Nat) (e : Int), |x| = n * 2 ^ e ∧ n < 9007199254740992 ∧ -1074 ≤ e ∧ e ≤ 970

theorem normalize_exact {m e : Int} (h : Representable (m * 2 ^ e)) :
    Held (UnpackedFloat.normalize .binary64 m e .positive) ∧
      valueOf (UnpackedFloat.normalize .binary64 m e .positive) = m * 2 ^ e := by
  obtain ⟨n, e', hx, hn, hlow, hhigh⟩ := h
  have hpos : (0 : ℚ) < 2 ^ e := zpow_pos two_pos e
  unfold UnpackedFloat.normalize
  -- Rounding sees the absolute value, so each sign has a case of its own.
  rcases lt_trichotomy m 0 with hlt | rfl | hgt
  · rw [Int.compare_eq_lt.2 hlt]
    dsimp only
    have hcast : (((-m).toNat : Nat) : ℚ) = -m := by
      have hcast : (((-m).toNat : Nat) : Int) = -m := by omega
      exact_mod_cast hcast
    obtain ⟨j, hj⟩ := rounded_round .negative (m := (-m).toNat) (by omega) e
    have hm : (m : ℚ) < 0 := by exact_mod_cast hlt
    rw [abs_of_neg (mul_neg_of_neg_of_pos hm hpos)] at hx
    obtain ⟨hheld, hvalue⟩ := hj.exact (hcast ▸ (neg_mul (m : ℚ) _).trans hx) hn hlow hhigh
    refine ⟨hheld, hvalue.trans ?_⟩
    rw [hcast, neg_mul]
    exact neg_neg _
  · rw [Int.compare_eq_eq.2 rfl]
    exact ⟨.zero _, by simp [valueOf]⟩
  · rw [Int.compare_eq_gt.2 hgt]
    dsimp only
    have hcast : ((m.toNat : Nat) : ℚ) = m := by
      have hcast : ((m.toNat : Nat) : Int) = m := by omega
      exact_mod_cast hcast
    obtain ⟨j, hj⟩ := rounded_round .positive (m := m.toNat) (by omega) e
    have hm : (0 : ℚ) < m := by exact_mod_cast hgt
    rw [abs_of_pos (mul_pos hm hpos)] at hx
    obtain ⟨hheld, hvalue⟩ := hj.exact (hcast ▸ hx) hn hlow hhigh
    exact ⟨hheld, hvalue.trans (by rw [hcast]; rfl)⟩

theorem cast_apply (s : Sign) (n : Int) : ((s.apply n : Int) : ℚ) = signed s n := by
  cases s
  · exact Int.cast_neg n
  · rfl

theorem signed_mul (s : Sign) (x y : ℚ) : signed s x * y = signed s (x * y) := by
  cases s
  · exact neg_mul x y
  · rfl

/-- A difference that is itself a double. -/
theorem sub_exact {u v : UnpackedFloat} (hu : Held u) (hv : Held v) (h : Representable (valueOf u - valueOf v)) :
    Held (UnpackedFloat.sub .binary64 u v) ∧
      valueOf (UnpackedFloat.sub .binary64 u v) = valueOf u - valueOf v := by
  cases hu with
  | zero s =>
    cases hv with
    | zero s' =>
      have hzero : ∃ s'', UnpackedFloat.sub .binary64 (.zero s) (.zero s') = .zero s'' := by
        cases s <;> cases s' <;> exact ⟨_, rfl⟩
      obtain ⟨s'', hzero⟩ := hzero
      rw [hzero]
      exact ⟨.zero s'', (sub_zero (0 : ℚ)).symm⟩
    | finite s' m' e' hm' h' =>
      exact ⟨.finite (-s') m' e' hm' h', (signed_neg s' _).trans (zero_sub _).symm⟩
  | finite s m e hm hcanonical =>
    cases hv with
    | zero s' => exact ⟨.finite s m e hm hcanonical, (sub_zero _).symm⟩
    | finite s' m' e' hm' h' =>
      -- Both numbers are brought to the lower of their exponents, where they are integers.
      have hscale : ∀ (s : Sign) (m : Nat) (e low : Int), low ≤ e →
          ((s.apply (m <<< (e - low).toNat : Nat) : Int) : ℚ) * 2 ^ low = signed s (m * 2 ^ e) := by
        intro s m e low hle
        obtain ⟨k, rfl⟩ : ∃ k : Nat, e = low + k := ⟨(e - low).toNat, by omega⟩
        have hk : (low + (k : Int) - low).toNat = k := by omega
        rw [cast_apply, signed_mul, hk, Nat.shiftLeft_eq, zpow_add₀ two_ne_zero, zpow_natCast]
        congr 1
        push_cast
        ring
      have hfirst := hscale s m e (min e e') (Int.min_le_left _ _)
      have hsecond := hscale s' m' e' (min e e') (Int.min_le_right _ _)
      have hdifference : ((s.apply (m <<< (e - min e e').toNat : Nat) -
          s'.apply (m' <<< (e' - min e e').toNat : Nat) : Int) : ℚ) * 2 ^ (min e e') =
          signed s (m * 2 ^ e) - signed s' (m' * 2 ^ e') := by
        rw [Int.cast_sub, sub_mul, hfirst, hsecond]
      have hexact := normalize_exact (hdifference ▸ h)
      rw [hdifference] at hexact
      exact hexact

/-! ## Quotients -/

theorem located_inexact (m : Nat) {x : ℚ} (hpos : 0 < x) (hlt : x < 1) :
    Located m (.inexact (compare x (1 / 2))) (m + x) := by
  have hle : (m : ℚ) ≤ m + x := by linarith
  have hbelow : (m : ℚ) + x < m + 1 := by linarith
  have hne : (m : ℚ) + x ≠ m := by linarith
  rcases lt_trichotomy x (1 / 2) with hless | heq | hmore
  · rw [compare_lt_iff_lt.2 hless]
    refine ⟨hle, hbelow, iff_of_false Bool.false_ne_true (not_le.2 ?_), iff_of_true rfl ⟨hne, ?_⟩⟩
    · exact add_lt_add_right hless (m : ℚ)
    · exact (add_lt_add_right hless (m : ℚ)).ne
  · rw [compare_eq_iff_eq.2 heq]
    refine ⟨hle, hbelow, iff_of_true rfl ?_, iff_of_false Bool.false_ne_true fun h => h.2 ?_⟩
    · exact (congrArg ((m : ℚ) + ·) heq).ge
    · exact congrArg ((m : ℚ) + ·) heq
  · rw [compare_gt_iff_gt.2 hmore]
    refine ⟨hle, hbelow, iff_of_true rfl ?_, iff_of_true rfl ⟨hne, ?_⟩⟩
    · exact (add_lt_add_right hmore (m : ℚ)).le
    · exact (add_lt_add_right hmore (m : ℚ)).ne'

/-- The remainder says where the quotient is. -/
theorem located_fraction (n : Nat) {d : Nat} (hd : 0 < d) :
    Located (n / d) (UnpackedFloat.accuracyOfFraction (n % d) d) (n / d) := by
  have hpos : (0 : ℚ) < d := by exact_mod_cast hd
  have hquotient : (n : ℚ) / d = (n / d : Nat) + (n % d : Nat) / d := by
    have hsum : ((d * (n / d) + n % d : Nat) : ℚ) = n := by rw [Nat.div_add_mod]
    rw [← hsum]
    push_cast
    field_simp
  have hlt : ((n % d : Nat) : ℚ) / d < 1 := by
    rw [div_lt_one hpos]
    exact_mod_cast Nat.mod_lt n hd
  rw [hquotient]
  generalize n % d = r at *
  unfold UnpackedFloat.accuracyOfFraction
  by_cases hzero : r = 0
  · rw [if_pos hzero, hzero, Nat.cast_zero, zero_div, add_zero]
    exact located_exact _
  · have hrest : (0 : ℚ) < r / d := div_pos (by exact_mod_cast Nat.pos_of_ne_zero hzero) hpos
    -- The program compares twice the remainder to the divisor.
    have hcompare : compare (2 * r) d = compare ((r : ℚ) / d) (1 / 2) := by
      rcases lt_trichotomy (2 * r) d with hless | heq | hmore
      · have hhalf : (r : ℚ) / d < 1 / 2 := by
          rw [div_lt_div_iff₀ hpos two_pos]
          exact_mod_cast (by omega : r * 2 < 1 * d)
        rw [Nat.compare_eq_lt.2 hless, compare_lt_iff_lt.2 hhalf]
      · have hhalf : (r : ℚ) / d = 1 / 2 := by
          rw [div_eq_div_iff hpos.ne' two_ne_zero]
          exact_mod_cast (by omega : r * 2 = 1 * d)
        rw [Nat.compare_eq_eq.2 heq, compare_eq_iff_eq.2 hhalf]
      · have hhalf : 1 / 2 < (r : ℚ) / d := by
          rw [div_lt_div_iff₀ two_pos hpos]
          exact_mod_cast (by omega : 1 * d < r * 2)
        rw [Nat.compare_eq_gt.2 hmore, compare_gt_iff_gt.2 hhalf]
    rw [if_neg hzero, hcompare]
    exact located_inexact _ hrest hlt

/-- A quotient that is not too small for all its bits. -/
theorem rounded_div (s s' : Sign) {m m' : Nat} (hm : 0 < m) (hm' : 0 < m') (e e' : Int)
    (hlow : -1021 ≤ totalExponent m e - totalExponent m' e') :
    ∃ t j, Rounded (s / s') (m * 2 ^ e / (m' * 2 ^ e')) t j
      (UnpackedFloat.div .binary64 (.finite s m e hm) (.finite s' m' e' hm')) := by
  obtain ⟨low, hmin⟩ : ∃ low, low = min (e - e')
      (Format.binary64.targetExponent (totalExponent m e - totalExponent m' e')) := ⟨_, rfl⟩
  obtain ⟨k, hk⟩ : ∃ k, k = (e - e' - low).toNat := ⟨_, rfl⟩
  have hdiv : UnpackedFloat.div .binary64 (.finite s m e hm) (.finite s' m' e' hm') =
      roundWithAccuracy .binary64 (s / s') (m * 2 ^ k / m') low
        (UnpackedFloat.accuracyOfFraction (m * 2 ^ k % m') m') := by
    rw [← Nat.shiftLeft_eq, hk, hmin]
    rfl
  rw [targetExponent_eq, totalExponent, totalExponent] at hmin
  rw [totalExponent, totalExponent] at hlow
  have hbits : 2 ^ (m.log2 + k - m'.log2 - 1) ≤ m * 2 ^ k / m' := by
    rw [Nat.le_div_iff_mul_le hm']
    have hfirst := Nat.log2_self_le (Nat.ne_of_gt hm)
    have hsecond : m' ≤ 2 ^ (m'.log2 + 1) := Nat.le_of_lt Nat.lt_log2_self
    calc 2 ^ (m.log2 + k - m'.log2 - 1) * m' ≤ 2 ^ (m.log2 + k - m'.log2 - 1) * 2 ^ (m'.log2 + 1) :=
          Nat.mul_le_mul_left _ hsecond
      _ = 2 ^ m.log2 * 2 ^ k := by
          rw [← Nat.pow_add, ← Nat.pow_add]
          congr 1
          omega
      _ ≤ m * 2 ^ k := Nat.mul_le_mul_right _ hfirst
  have hpos : 0 < m * 2 ^ k / m' := Nat.lt_of_lt_of_le (Nat.two_pow_pos _) hbits
  have hlog := (Nat.le_log2 (Nat.ne_of_gt hpos)).2 hbits
  obtain ⟨j, hj⟩ := rounded_roundWithAccuracy (s / s') hpos (located_fraction (m * 2 ^ k) hm') (e := low)
    (by rw [roundingExponent_eq]; omega)
  have hvalue : ((m * 2 ^ k : Nat) : ℚ) / m' * 2 ^ low = m * 2 ^ e / (m' * 2 ^ e') := by
    have hexponent : e = e' + low + k := by omega
    rw [hexponent, zpow_add₀ two_ne_zero, zpow_add₀ two_ne_zero, zpow_natCast]
    push_cast
    field_simp
  rw [hvalue] at hj
  exact ⟨_, j, hdiv ▸ hj⟩

end JsonSchema.Double
