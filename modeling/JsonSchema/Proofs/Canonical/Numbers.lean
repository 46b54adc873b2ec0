import JsonSchema.Proofs.Canonical.Equality
import JsonSchema.Proofs.Decimal.Fewest
import JsonSchema.Proofs.Decimal.Layout

/-!
# Integers and doubles of one canonical text

Up to the magnitude at which doubles hold all integers, canonical texts compare numbers by their value. Beyond it a
double is written in the fewest digits that are read as it, with zeros behind, and is the same as the integer that
these digits spell.
-/

namespace JsonSchema

open Decimal

/-! ## Doubles that become integers -/

namespace Double

theorem abs_le_maxExact_iff {f : Float} (h : f.isFinite = true) :
    f.abs ≤ maxExact ↔ |value f| ≤ 9007199254740991 := by
  have hvalue : value maxExact = 9007199254740991 := by
    rw [value_of_unpack unpack_maxExact, valueOf, signed]
    norm_num
  have hfinite : maxExact.isFinite = true := rfl
  rw [le_iff_value (isFinite_abs h) hfinite, value_abs h, hvalue]

theorem value_of_isIntegral {f : Float} (h : f.isFinite = true) (hintegral : Decimal.isIntegral f = true) :
    value f = Decimal.truncate f := by
  unfold Decimal.isIntegral at hintegral
  rw [h, Bool.true_and] at hintegral
  obtain ⟨n, hn⟩ := Binary.exists_magnitude hintegral
  have hvalue := (value_eq_binary h).trans (Binary.value_signed _ hn)
  rw [(truncate_of_value h hvalue).2, hvalue]

theorem isIntegral_iff {f : Float} (h : f.isFinite = true) : Decimal.isIntegral f = true ↔ ∃ n : Int, value f = n :=
  ⟨fun hintegral => ⟨_, value_of_isIntegral h hintegral⟩, fun ⟨_, hn⟩ => (truncate_of_value h hn).1⟩

theorem mantissa_pos {f : Float} (h : f.isFinite = true) (hne : value f ≠ 0) : 0 < (binary f).mantissa := by
  by_contra hzero
  refine hne ?_
  rw [value_eq_binary h, Binary.value, Binary.magnitude, Nat.eq_zero_of_not_pos hzero, Nat.cast_zero, zero_mul]
  split_ifs
  · exact neg_zero
  · rfl

theorem value_eq_of_reads {f : Float} {n : Int} (hsmall : |value f| ≤ 9007199254740991) (h : Reads f n) :
    value f = n := by
  have hfinite : (9007199254740992.0 : Float).isFinite = true := rfl
  have hsmall := abs_le.1 hsmall
  rcases Nat.lt_or_ge n.natAbs 9007199254740992 with hn | hn
  · have hnear := h.nearest (Float.ofInt n) (isFinite_ofInt hn)
    rw [value_ofInt hn, sub_self, abs_zero] at hnear
    exact sub_eq_zero.1 (abs_nonpos_iff.1 hnear)
  · rcases le_or_gt 0 n with hpos | hneg
    · have hn : 9007199254740992 ≤ n := by omega
      have hn : (9007199254740992 : ℚ) ≤ n := by exact_mod_cast hn
      have hnear := h.nearest _ hfinite
      rw [value_limit, abs_of_nonpos (by linarith), abs_of_nonpos (by linarith)] at hnear
      linarith
    · have hn : n ≤ -9007199254740992 := by omega
      have hn : (n : ℚ) ≤ -9007199254740992 := by exact_mod_cast hn
      have hnear := h.nearest _ (isFinite_neg hfinite)
      rw [value_neg hfinite, value_limit, abs_of_nonneg (by linarith), abs_of_nonneg (by linarith)] at hnear
      linarith

end Double

namespace Number

open Double

variable {f : Float} (finite : f.isFinite = true)

theorem normalize_of_whole {n : Int} (hsmall : |value f| ≤ 9007199254740991) (hn : value f = n) :
    ∃ fits, (double f finite).normalize = .int n fits := by
  obtain ⟨hintegral, htruncate⟩ := truncate_of_value finite hn
  have hfits : FitsWord n := by
    rw [hn] at hsmall
    have hsmall : |n| ≤ 9007199254740991 := by exact_mod_cast hsmall
    have hsmall := abs_le.1 hsmall
    exact ⟨by omega, by omega⟩
  refine ⟨hfits, ?_⟩
  have hexact : (Decimal.isIntegral f && f.abs ≤ maxExact) = true := by
    rw [hintegral, Bool.true_and]
    exact decide_eq_true ((abs_le_maxExact_iff finite).2 hsmall)
  rw [normalize, if_pos hexact, htruncate, ofInt?, dif_pos hfits, Option.getD_some]

theorem normalize_of_not_whole (h : |value f| ≤ 9007199254740991 → ∀ n : Int, value f ≠ n) :
    (double f finite).normalize = double f finite := by
  rw [normalize, if_neg]
  rw [Bool.and_eq_true, isIntegral_iff finite, decide_eq_true_iff, abs_le_maxExact_iff finite]
  rintro ⟨⟨n, hn⟩, hsmall⟩
  exact h hsmall n hn

end Number

/-! ## Texts of doubles that stay doubles -/

namespace Decimal

/-- A sign before the text of a decimal is that of the integer. -/
theorem signed_layout_eq_toString_iff {d : Digits} (hd : d.digits % 10 ≠ 0) (negative : Bool) {n : Int}
    (fits : FitsWord n) :
    (if negative then "-" else "") ++ canonicalStyle.layout d = toString n ↔
      (if negative then -d.value else d.value) = n := by
  have hpos : 0 < d.value := by
    have hdigits : (0 : ℚ) < d.digits := by exact_mod_cast Nat.pos_of_ne_zero fun hzero => hd (by rw [hzero])
    exact mul_pos hdigits (zpow_pos (by norm_num) _)
  have hminus := canonicalStyle.toList_layout_ne_minus d
  obtain ⟨hlow, hhigh⟩ := fits
  rw [← String.toList_inj, String.toList_append]
  cases negative with
  | false =>
    rw [if_neg Bool.false_ne_true, if_neg Bool.false_ne_true, String.toList_empty, List.nil_append]
    cases n with
    | ofNat n =>
      rw [toList_toString_ofNat, ← Segment.toList_toString, String.toList_inj]
      have hn : n < 18446744073709551616 := Int.ofNat_lt.1 hhigh
      exact layout_canonicalStyle_iff hd (by omega)
    | negSucc n =>
      rw [toList_toString_negSucc]
      refine iff_of_false (hminus _) fun hvalue => ?_
      have hneg : ((Int.negSucc n : Int) : ℚ) < 0 := by exact_mod_cast Int.negSucc_lt_zero n
      linarith
  | true =>
    rw [if_pos rfl, if_pos rfl]
    cases n with
    | ofNat n =>
      rw [toList_toString_ofNat]
      refine iff_of_false (fun htext => ?_) fun hvalue => ?_
      · have hdigit : isDigit '-' = true := isDigit_of_mem_toDigits (n := n) (htext ▸ List.mem_cons_self)
        revert hdigit
        decide
      · have hnonneg : (0 : ℚ) ≤ (Int.ofNat n : Int) := Nat.cast_nonneg n
        linarith
    | negSucc n =>
      rw [toList_toString_negSucc]
      have hcancel : "-".toList ++ (canonicalStyle.layout d).toList = '-' :: Nat.toDigits 10 (n + 1) ↔
          canonicalStyle.layout d = toString (n + 1) := by
        rw [← String.toList_inj, Segment.toList_toString]
        exact List.cons_inj_right '-'
      rw [hcancel, layout_canonicalStyle_iff hd (by omega), Int.cast_negSucc, neg_inj]

section Large

variable {f : Float} (h : f.isFinite = true) (hpos : 0 < (binary f).mantissa)
include h hpos

theorem render_eq_toString_iff {n : Int} (fits : FitsWord n) :
    canonicalStyle.render f = toString n ↔
      (binary f).withSign ((binary f).shortest canonicalStyle.tie).value = n := by
  have hshortest := Binary.isShortest_shortest (Double.ofDouble_binary h hpos) canonicalStyle.tie
  have hrender : canonicalStyle.render f = (if (binary f).negative then "-" else "") ++
      canonicalStyle.layout ((binary f).shortest canonicalStyle.tie) := if_neg hpos.ne'
  rw [hrender, signed_layout_eq_toString_iff hshortest.stripped _ fits]
  rfl

theorem reads_of_render_eq_toString {n : Int} (fits : FitsWord n) (htext : canonicalStyle.render f = toString n) :
    Double.Reads f n := by
  have hshortest := Binary.isShortest_shortest (Double.ofDouble_binary h hpos) canonicalStyle.tie
  rw [← (render_eq_toString_iff h hpos fits).1 htext]
  exact (Double.shortest_withSign h hpos hshortest).reads

theorem render_eq_toString_iff_shortest (hlarge : 0 ≤ (binary f).exponent) {n : Int} (fits : FitsWord n) :
    canonicalStyle.render f = toString n ↔ Double.Shortest f n := by
  have hshortest := Binary.isShortest_shortest (Double.ofDouble_binary h hpos) canonicalStyle.tie
  rw [render_eq_toString_iff h hpos fits, Double.shortest_iff h hpos hshortest hlarge, eq_comm]

end Large

end Decimal

theorem Double.exponent_nonneg {f : Float} (h : f.isFinite = true) (hlarge : 9007199254740991 < |value f|) :
    0 < (binary f).mantissa ∧ 0 ≤ (binary f).exponent := by
  have hpos : 0 < (binary f).mantissa := mantissa_pos h fun hzero => by
    rw [hzero, abs_zero] at hlarge
    linarith
  refine ⟨hpos, ?_⟩
  by_contra hneg
  have hsmall : ((binary f).mantissa : ℚ) ≤ 9007199254740991 := by
    have hsmall := (ofDouble_binary h hpos).small
    exact_mod_cast Nat.le_of_lt_succ hsmall
  have hscale : (2 : ℚ) ^ (binary f).exponent ≤ 1 := zpow_le_one_of_nonpos₀ one_le_two (by omega)
  rw [abs_value h, Binary.magnitude] at hlarge
  nlinarith [zpow_pos (two_pos : (0 : ℚ) < 2) (binary f).exponent]

/-! ## Numbers that are the same -/

namespace Json

open Double

theorem same_number_iff_text {n : Number} {k : Int} {fits : FitsWord k} :
    (number (.int k fits)).same (number n) = true ↔ n.normalize.text canonicalStyle = toString k := by
  rw [same, beq_iff_eq, eq_comm]
  rfl

theorem same_int_iff {n m : Int} (fits : FitsWord n) (fits' : FitsWord m) :
    (number (.int n fits)).same (number (.int m fits')) = true ↔ n = m := by
  rw [same_number_iff_text]
  exact toString_int_injective.eq_iff.trans eq_comm

section Doubles

variable {n : Int} (fits : FitsWord n) {f : Float} (finite : f.isFinite = true)

theorem same_small_iff (hsmall : |value f| ≤ 9007199254740991) :
    (number (.int n fits)).same (number (.double f finite)) = true ↔ value f = n := by
  rw [same_number_iff_text]
  by_cases hwhole : ∃ k : Int, value f = k
  · obtain ⟨k, hk⟩ := hwhole
    obtain ⟨fits', hnormalize⟩ := Number.normalize_of_whole finite hsmall hk
    rw [hnormalize, hk, Int.cast_inj]
    exact toString_int_injective.eq_iff
  · rw [not_exists] at hwhole
    rw [Number.normalize_of_not_whole finite fun _ => hwhole]
    refine iff_of_false (fun htext => ?_) (hwhole n)
    have hpos : 0 < (binary f).mantissa := mantissa_pos finite fun hzero => hwhole 0 (by rw [hzero, Int.cast_zero])
    exact hwhole n (value_eq_of_reads hsmall (reads_of_render_eq_toString finite hpos fits htext))

theorem same_large_iff (hlarge : 9007199254740991 < |value f|) :
    (number (.int n fits)).same (number (.double f finite)) = true ↔ Shortest f n := by
  obtain ⟨hpos, hexponent⟩ := exponent_nonneg finite hlarge
  rw [same_number_iff_text, Number.normalize_of_not_whole finite fun hsmall => absurd hlarge (not_lt.2 hsmall)]
  exact render_eq_toString_iff_shortest finite hpos hexponent fits

end Doubles

/-- Integers are the same only as themselves. Beside a double an integer is the same as its value up to the magnitude
to which doubles hold all integers, and above as its shortest number. -/
theorem same_number_iff {n : Int} (fits : FitsWord n) :
    (∀ {m : Int} (fits' : FitsWord m), (number (.int n fits)).same (number (.int m fits')) = true ↔ n = m) ∧
      ∀ {f : Float} (finite : f.isFinite = true),
        (|value f| ≤ 9007199254740991 →
          ((number (.int n fits)).same (number (.double f finite)) = true ↔ value f = n)) ∧
        (9007199254740991 < |value f| →
          ((number (.int n fits)).same (number (.double f finite)) = true ↔ Shortest f n)) :=
  ⟨fun fits' => same_int_iff fits fits', fun finite =>
    ⟨same_small_iff fits finite, same_large_iff fits finite⟩⟩

theorem value_huge : value 9223372036854775808.0 = 9223372036854775808 := by
  have hunpack : (9223372036854775808.0 : Float).toModel.unpack =
      .finite .positive 4503599627370496 11 (by decide) := by
    rfl
  rw [value_of_unpack hunpack, valueOf, signed]
  norm_num

theorem same_number_huge :
    FitsWord 9223372036854776000 ∧ 9007199254740991 < |value 9223372036854775808.0| ∧
      Shortest 9223372036854775808.0 (9223372036854776000 : Int) ∧
      (number (.int 9223372036854776000 (by decide))).same (number (.int 9223372036854775808 (by decide))) ≠ true ∧
      ¬Shortest 9223372036854775808.0 (9223372036854775808 : Int) := by
  have hlarge : 9007199254740991 < |value 9223372036854775808.0| := by
    rw [value_huge]
    norm_num
  obtain ⟨hint, hdouble⟩ := same_number_iff (n := 9223372036854776000) (by decide)
  obtain ⟨_, hdouble'⟩ := same_number_iff (n := 9223372036854775808) (by decide)
  refine ⟨by decide, hlarge, ((hdouble (f := 9223372036854775808.0) rfl).2 hlarge).1 (by decide +kernel),
    fun hsame => ?_, fun hshortest => ?_⟩
  · exact absurd ((hint (by decide)).1 hsame) (by decide)
  · exact absurd (((hdouble' (f := 9223372036854775808.0) rfl).2 hlarge).2 hshortest) (by decide +kernel)

/-- A number that is not the same in its two spellings, and another one that is the same as the double. -/
theorem huge_not_same :
    value 9223372036854775808.0 = (9223372036854775808 : Int) ∧
      (number (.int 9223372036854775808 (by decide))).same (number (.double 9223372036854775808.0 rfl)) = false ∧
      (number (.int 9223372036854776000 (by decide))).same (number (.double 9223372036854775808.0 rfl)) = true :=
  ⟨by rw [value_huge]; norm_num, by decide +kernel, by decide +kernel⟩

end Json

end JsonSchema
