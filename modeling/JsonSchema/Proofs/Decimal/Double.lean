import JsonSchema.Json.Canonical
import JsonSchema.Proofs.Decimal.Packing

/-! # Doubles that stand for integers -/

namespace JsonSchema

namespace Double

open Float.Model Float.Model.UnpackedFloat

/-! ## Integers -/

theorem isFinite_unpack (b : BitVec 64) (h : @unpackExponent .binary64 b ≠ -1#11) :
    (UnpackedFloat.unpack .binary64 b).isFinite = true := by
  unfold UnpackedFloat.unpack
  simp only
  rw [if_neg h]
  split_ifs <;> rfl

theorem Upto.isFinite {u : UnpackedFloat} (h : Upto 971 u) :
    (Float.Model.pack u).unpack.isFinite = true := by
  apply isFinite_unpack
  cases h with
  | zero s => cases s <;> decide
  | finite s m e hm h =>
    have hbias : e + Format.binary64.exponentBias + (52 : Nat) = e + 1075 := by
      show e + ((1023 : Nat) : Int) + ((52 : Nat) : Int) = _
      omega
    show unpackExponent (UnpackedFloat.pack .binary64 (.finite s m e hm)) ≠ _
    unfold UnpackedFloat.pack
    simp only [hbias]
    rw [if_neg (by simp; omega)]
    split
    · rw [unpackExponent_packComponents]
      intro hones
      have := congrArg BitVec.toNat hones
      simp at this
      omega
    · rw [unpackExponent_packComponents]
      decide

theorem canonical_shifted (n : Nat) (hpos : 0 < n) (h : n < 9007199254740992) :
    Canonical (n * 2 ^ (52 - n.log2)) ((n.log2 : Int) - 52) := by
  have hlog : n.log2 < 53 := (Nat.log2_lt (by omega)).2 h
  refine ⟨?_, by omega⟩
  rw [targetExponent_eq, totalExponent, log2_shift n _ hpos]
  omega

theorem round_exact (n : Nat) (hpos : 0 < n) (h : n < 9007199254740992) :
    UnpackedFloat.round .binary64 .positive n 0
      = .finite .positive (n * 2 ^ (52 - n.log2)) ((n.log2 : Int) - 52)
          (Nat.mul_pos hpos (Nat.two_pow_pos _)) := by
  have hlog : n.log2 < 53 := (Nat.log2_lt (by omega)).2 h
  have hcanonical := (canonical_shifted n hpos h).target
  have htarget : Format.binary64.targetExponent (totalExponent n 0) = (n.log2 : Int) - 52 := by
    rw [targetExponent_eq, totalExponent]
    omega
  have hshift : (0 - ((n.log2 : Int) - 52)).toNat = 52 - n.log2 := by omega
  have hexp : 0 - ((52 - n.log2 : Nat) : Int) = (n.log2 : Int) - 52 := by omega
  unfold UnpackedFloat.round decreaseExponent
  simp only [htarget, hshift, hexp, Nat.shiftLeft_eq]
  have hround := roundWithAccuracy_of_multiple .positive (n * 2 ^ (52 - n.log2)) 0
    ((n.log2 : Int) - 52) (Nat.mul_pos hpos (Nat.two_pow_pos _))
  simp only [Nat.pow_zero, Nat.mul_one, Int.natCast_zero, Int.add_zero] at hround
  exact hround hcanonical

theorem unpack_one :
    (Float.ofBits 0x3FF0000000000000).toModel.unpack
      = .finite .positive (2 ^ 52) (-52) (by decide) := by
  rfl

theorem unpack_ofNat (n : Nat) (hpos : 0 < n) (h : n < 9007199254740992) :
    (Float.ofNat n).toModel.unpack
      = .finite .positive (n * 2 ^ (52 - n.log2)) ((n.log2 : Int) - 52)
          (Nat.mul_pos hpos (Nat.two_pow_pos _)) := by
  have hcanonical := canonical_shifted n hpos h
  have hheld : Held (.finite .positive (n * 2 ^ (52 - n.log2)) ((n.log2 : Int) - 52)
      (Nat.mul_pos hpos (Nat.two_pow_pos _))) := .finite _ _ _ _ hcanonical
  -- The integer goes through a word first and is then multiplied by one: both keep it.
  have hword : n.toUInt64.toFloat.toModel.unpack
      = .finite .positive (n * 2 ^ (52 - n.log2)) ((n.log2 : Int) - 52)
          (Nat.mul_pos hpos (Nat.two_pow_pos _)) := by
    have hn : n.toUInt64.toNat = n := by
      show n % 18446744073709551616 = n
      omega
    have hcompare : compare (n : Int) 0 = .gt := by
      rw [Int.compare_eq_gt]
      omega
    have hofNat : UnpackedFloat.ofUInt64 .binary64 n.toUInt64 = UnpackedFloat.round .binary64 .positive n 0 := by
      unfold UnpackedFloat.ofUInt64 UnpackedFloat.ofNat UnpackedFloat.ofInt UnpackedFloat.normalize
      rw [hn, hcompare]
      rfl
    show (Float.Model.pack (UnpackedFloat.ofUInt64 .binary64 n.toUInt64)).unpack = _
    rw [hofNat, round_exact n hpos h, hheld.unpack_pack]
  have hone : Float.ofNat n = n.toUInt64.toFloat * Float.ofBits 0x3FF0000000000000 := by
    show Float.ofScientific n false 0 = _
    unfold Float.ofScientific
    rw [dif_pos ⟨h, by omega⟩]
    rfl
  have hmul : (n.toUInt64.toFloat * Float.ofBits 0x3FF0000000000000).toModel.unpack
      = (Float.Model.pack (UnpackedFloat.mul .binary64 n.toUInt64.toFloat.toModel.unpack
          (Float.ofBits 0x3FF0000000000000).toModel.unpack)).unpack := rfl
  have hround := roundWithAccuracy_of_multiple .positive (n * 2 ^ (52 - n.log2)) 52
    ((n.log2 : Int) - 52 + -52) (Nat.mul_pos hpos (Nat.two_pow_pos _))
  have hexp : (n.log2 : Int) - 52 + -52 + ((52 : Nat) : Int) = (n.log2 : Int) - 52 := by omega
  simp only [hexp] at hround
  rw [hone, hmul, hword, unpack_one]
  show (Float.Model.pack (roundWithAccuracy .binary64 .positive _ _ .exact)).unpack = _
  rw [hround hcanonical.target, hheld.unpack_pack]

theorem unpack_zero : (Float.ofNat 0).toModel.unpack = .zero .positive := rfl

theorem toModel_ofNat {n : Nat} (hlow : 9007199254740992 ≤ n) (hhigh : n < 18446744073709551616) :
    (Float.ofNat n).toModel =
      Float.Model.pack (roundWithAccuracy .binary64 .positive (n <<< 53 * 10 ^ 0) (-53 + 0) .exact) := by
  have hlog : n.log2 < 64 := (Nat.log2_lt (by omega)).2 hhigh
  have hofNat : Float.ofNat n = Float.ofModel (Float.Model.ofScientific n 0) := by
    show Float.ofScientific n false 0 = _
    unfold Float.ofScientific
    rw [dif_neg (by omega)]
    rfl
  rw [hofNat]
  show Float.Model.pack (UnpackedFloat.ofScientific .binary64 n 0) = _
  have hbits : (2 : Int) ^ Format.binary64.exponentBits = 2048 := rfl
  unfold UnpackedFloat.ofScientific
  rw [hbits, dif_neg (by omega), if_neg (by omega), if_neg (by omega), if_pos (by omega)]
  rfl

theorem log2_shifted {n : Nat} (hpos : 0 < n) : (n <<< 53 * 10 ^ 0).log2 = n.log2 + 53 := by
  rw [Nat.pow_zero, Nat.mul_one, Nat.shiftLeft_eq]
  exact log2_shift n 53 hpos

theorem isFinite_ofNat (n : Nat) (h : n < 18446744073709551616) :
    (Float.ofNat n).isFinite = true := by
  show (Float.ofNat n).toModel.unpack.isFinite = true
  by_cases hexact : n < 9007199254740992
  · rcases Nat.eq_zero_or_pos n with rfl | hpos
    · rw [unpack_zero]
      rfl
    · rw [unpack_ofNat n hpos hexact]
      rfl
  · have hlog : n.log2 < 64 := (Nat.log2_lt (by omega)).2 h
    rw [toModel_ofNat (by omega) h]
    apply Upto.isFinite
    apply upto_roundWithAccuracy _ _ _ 970 (by omega)
    rw [targetExponent_eq, totalExponent, log2_shifted (by omega)]
    omega

theorem held_of_isFinite {f : Float} (h : f.isFinite = true) : Held f.toModel.unpack :=
  held_unpack _ h

theorem unpack_neg {f : Float} (h : f.isFinite = true) :
    f.neg.toModel.unpack = f.toModel.unpack.neg :=
  (held_of_isFinite h).neg.unpack_pack

theorem unpack_abs {f : Float} (h : f.isFinite = true) :
    f.abs.toModel.unpack = f.toModel.unpack.abs :=
  (held_of_isFinite h).abs.unpack_pack

theorem isFinite_neg {f : Float} (h : f.isFinite = true) : f.neg.isFinite = true := by
  show f.neg.toModel.unpack.isFinite = true
  rw [unpack_neg h]
  exact (held_of_isFinite h).neg.isFinite

/-! ## Reading back -/

theorem Held.ne_notANumber {u : UnpackedFloat} (h : Held u) : u ≠ .notANumber := by
  rintro rfl
  cases h

theorem beq_of_unpack {a b : Float} (h : a.toModel.unpack = b.toModel.unpack)
    (hheld : Held b.toModel.unpack) : (a == b) = true := by
  have hne : b.toModel.unpack ≠ .notANumber := hheld.ne_notANumber
  exact (beq_iff_ne_notANumber_and_eq _ _).2 ⟨h ▸ hne, hne, .inl h⟩

theorem beq_self {f : Float} (h : f.isFinite = true) : (f == f) = true :=
  beq_of_unpack rfl (held_of_isFinite h)

theorem unpack_limit :
    (9007199254740992.0 : Float).toModel.unpack
      = .finite .positive 4503599627370496 1 (by decide) := rfl

theorem exponent_of_small {f : Float} {s : Sign} {m : Nat} {e : Int} {hm : 0 < m}
    (hu : f.toModel.unpack = .finite s m e hm) (h : f.isFinite = true)
    (hsmall : f.abs < 9007199254740992.0) : e ≤ 0 := by
  have hlt : f.abs.toModel.unpack.lt (9007199254740992.0 : Float).toModel.unpack = true := by
    have hle : Float.lt f.abs 9007199254740992.0 = true := hsmall
    exact of_decide_eq_true hle
  have hheld := held_of_isFinite h
  rw [unpack_abs h, hu, unpack_limit] at hlt
  rw [hu] at hheld
  cases hheld with
  | finite _ _ _ _ hcanonical =>
    obtain ⟨_, hnormal, _, _⟩ := (canonical_iff m e hm).1 hcanonical
    have hcompare : (compare e 1).then (compare m 4503599627370496) = .lt := by
      cases s <;> simpa [UnpackedFloat.lt, UnpackedFloat.abs, UnpackedFloat.compare] using hlt
    rw [Ordering.then_eq_lt, Int.compare_eq_lt, Int.compare_eq_eq, Nat.compare_eq_lt] at hcompare
    omega

theorem canonical_unique (w k : Nat) (e : Int) (hw : 0 < w) (he : e = -(k : Int))
    (h : Canonical (w * 2 ^ k) e) : k = 52 - w.log2 ∧ e = (w.log2 : Int) - 52 := by
  have htarget := h.target
  rw [targetExponent_eq, totalExponent, log2_shift w k hw] at htarget
  omega

theorem unpack_ofInt (s : Sign) (w : Nat) (hpos : 0 < w) (h : w < 9007199254740992) :
    (Float.ofInt (if s == .negative then -(w : Int) else w)).toModel.unpack
      = .finite s (w * 2 ^ (52 - w.log2)) ((w.log2 : Int) - 52)
          (Nat.mul_pos hpos (Nat.two_pow_pos _)) := by
  cases s with
  | positive => exact unpack_ofNat w hpos h
  | negative =>
    obtain ⟨n, rfl⟩ : ∃ n, w = n + 1 := ⟨w - 1, by omega⟩
    show (Float.ofNat (n + 1)).neg.toModel.unpack = _
    rw [unpack_neg (isFinite_ofNat (n + 1) (by omega)), unpack_ofNat (n + 1) hpos h]
    rfl

theorem describes_binary {f : Float} (h : f.isFinite = true) :
    Describes (Decimal.binary f) f.toModel.unpack :=
  describes_ofBits f.toBits h

/-- A small double without a fraction is the double of an integer. -/
theorem beq_truncate {f : Float} (h : f.isFinite = true)
    (hintegral : (Decimal.binary f).isIntegral = true) (hsmall : f.abs < 9007199254740992.0) :
    FitsWord (Decimal.truncate f) ∧ (Float.ofInt (Decimal.truncate f) == f) = true := by
  have hheld := held_of_isFinite h
  have hdescribes := describes_binary h
  unfold Decimal.Binary.isIntegral at hintegral
  unfold Decimal.truncate Decimal.Binary.truncate Decimal.Binary.whole Decimal.Binary.signed
  generalize hu : f.toModel.unpack = u at hheld hdescribes
  cases hdescribes with
  | zero s hmantissa =>
    rw [hmantissa]
    simp only [Nat.zero_mul, Nat.zero_div, Int.natCast_zero, Int.neg_zero, ite_self]
    refine ⟨by decide, ?_⟩
    show UnpackedFloat.beq _ f.toModel.unpack = true
    rw [hu]
    rfl
  | finite s m e hm hsign hmantissa hexponent =>
    have he := exponent_of_small hu h hsmall
    obtain ⟨k, rfl⟩ : ∃ k : Nat, e = -(k : Int) := ⟨(-e).toNat, by omega⟩
    rw [hmantissa, hexponent] at hintegral ⊢
    simp only [Int.neg_neg, Int.toNat_natCast, Bool.or_eq_true, decide_eq_true_eq, beq_iff_eq]
      at hintegral
    have hdvd : 2 ^ k ∣ m := by
      rcases hintegral with hzero | hmod
      · obtain rfl : k = 0 := by omega
        exact Nat.one_dvd m
      · exact Nat.dvd_of_mod_eq_zero hmod
    obtain ⟨w, rfl⟩ : ∃ w, m = w * 2 ^ k := ⟨m / 2 ^ k, (Nat.div_mul_cancel hdvd).symm⟩
    have hw : 0 < w := Nat.pos_of_mul_pos_right hm
    have hwhole : w * 2 ^ k * Nat.pow 2 (-(k : Int)).toNat / Nat.pow 2 (- -(k : Int)).toNat = w := by
      have hnone : (-(k : Int)).toNat = 0 := by omega
      rw [hnone, Int.neg_neg, Int.toNat_natCast]
      show w * 2 ^ k * 1 / 2 ^ k = w
      rw [Nat.mul_one, Nat.mul_div_left w (Nat.two_pow_pos k)]
    -- Only one form is canonical, so the integer is unpacked to the same mantissa and exponent.
    have hcanonical : Canonical (w * 2 ^ k) (-(k : Int)) := by
      cases hheld with
      | finite _ _ _ _ h => exact h
    obtain ⟨hk, hexp⟩ := canonical_unique w k _ hw rfl hcanonical
    have hlt : w < 9007199254740992 := by
      have hbound := ((canonical_iff _ _ hm).1 hcanonical).1
      exact Nat.lt_of_le_of_lt (Nat.le_mul_of_pos_right w (Nat.two_pow_pos k)) hbound
    rw [hsign, hwhole]
    refine ⟨?_, beq_of_unpack ?_ (hu ▸ hheld)⟩
    · unfold FitsWord
      split <;> omega
    · rw [unpack_ofInt s w hw hlt, hu]
      simp only [← hk, ← hexp]

end Double

theorem Number.isFinite_toFloat (n : Number) : n.toFloat.isFinite = true := by
  cases n with
  | double f finite => exact finite
  | int k fits =>
    obtain ⟨hlow, hhigh⟩ := fits
    cases k with
    | ofNat n => exact Double.isFinite_ofNat n (Int.ofNat_lt.1 hhigh)
    | negSucc n => exact Double.isFinite_neg (Double.isFinite_ofNat (n + 1) (by omega))

theorem Number.toFloat_ofDouble? {f : Float} (h : f.isFinite = true) :
    ∃ n, Number.ofDouble? f = some n ∧ (n.toFloat == f) = true := by
  have hfloat : ∃ n, Number.ofFloat? f = some n ∧ (n.toFloat == f) = true :=
    ⟨.double f h, dif_pos h, Double.beq_self h⟩
  unfold Number.ofDouble?
  split_ifs with hsmall
  · rw [Bool.and_eq_true, decide_eq_true_eq] at hsmall
    obtain ⟨hintegral, hlt⟩ := hsmall
    unfold Decimal.isIntegral at hintegral
    rw [Bool.and_eq_true] at hintegral
    obtain ⟨fits, hback⟩ := Double.beq_truncate h hintegral.2 hlt
    exact ⟨.int _ fits, dif_pos fits, hback⟩
  · exact hfloat

end JsonSchema
