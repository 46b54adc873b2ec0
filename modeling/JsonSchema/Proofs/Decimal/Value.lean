import JsonSchema.Proofs.Decimal.Double

/-!
# The numbers that doubles stand for

A finite double is a rational number. Its order is the order of these numbers, and integers below 2 ^ 53 stand for
themselves.
-/

namespace JsonSchema.Double

open Float.Model Float.Model.UnpackedFloat

/-! ## Values -/

def signed (s : Sign) (x : ℚ) : ℚ :=
  match s with
  | .negative => -x
  | .positive => x

/-- What is not finite stands for no number. -/
def valueOf : UnpackedFloat → ℚ
  | .finite s m e _ => signed s (m * 2 ^ e)
  | _ => 0

def value (f : Float) : ℚ := valueOf f.toModel.unpack

theorem signed_neg (s : Sign) (x : ℚ) : signed (-s) x = -signed s x := by
  cases s
  · exact (neg_neg x).symm
  · rfl

theorem abs_signed (s : Sign) (x : ℚ) : |signed s x| = |x| := by
  cases s
  · exact abs_neg x
  · rfl

theorem valueOf_abs (u : UnpackedFloat) : valueOf u.abs = |valueOf u| := by
  cases u with
  | finite s m e hm =>
    have hnonneg : (0 : ℚ) ≤ m * 2 ^ e := by positivity
    rw [valueOf, abs_signed, abs_of_nonneg hnonneg]
    rfl
  | _ => exact abs_zero.symm

theorem value_of_unpack {f : Float} {u : UnpackedFloat} (h : f.toModel.unpack = u) : value f = valueOf u :=
  congrArg valueOf h

theorem value_limit : value 9007199254740992.0 = 9007199254740992 := by
  rw [value_of_unpack unpack_limit, valueOf, signed]
  norm_num

theorem isFinite_of_unpack {f : Float} {u : UnpackedFloat} (h : f.toModel.unpack = u) (hu : Held u) :
    f.isFinite = true := by
  show f.toModel.unpack.isFinite = true
  rw [h]
  exact hu.isFinite

theorem two_mul_zpow_le {e t : Int} (h : e < t) : (2 : ℚ) * 2 ^ e ≤ 2 ^ t := by
  rw [← zpow_one_add₀ two_ne_zero]
  exact zpow_le_zpow_right₀ one_le_two (by omega)

/-! ## Order -/

theorem lt_of_exponent_lt {m m' : Nat} {e e' : Int} (hm : 0 < m) (hm' : 0 < m') (h : Canonical m e)
    (h' : Canonical m' e') (hlt : e < e') : (m * 2 ^ e : ℚ) < m' * 2 ^ e' := by
  obtain ⟨hhigh, _, hlow, _⟩ := (canonical_iff m e hm).1 h
  obtain ⟨_, hfull, _, _⟩ := (canonical_iff m' e' hm').1 h'
  have hfull : 4503599627370496 ≤ m' := hfull.resolve_right (by omega)
  have hpos : (0 : ℚ) < 2 ^ e := zpow_pos two_pos e
  have hm : (m : ℚ) < 9007199254740992 := by exact_mod_cast hhigh
  have hm' : (4503599627370496 : ℚ) ≤ m' := by exact_mod_cast hfull
  calc (m * 2 ^ e : ℚ) < 9007199254740992 * 2 ^ e := mul_lt_mul_of_pos_right hm hpos
    _ = 4503599627370496 * (2 * 2 ^ e) := by ring
    _ ≤ m' * 2 ^ e' := mul_le_mul hm' (two_mul_zpow_le hlt) (by positivity) (by positivity)

theorem compare_of_canonical {m m' : Nat} {e e' : Int} (hm : 0 < m) (hm' : 0 < m') (h : Canonical m e)
    (h' : Canonical m' e') :
    (compare e e').then (compare m m') = compare (m * 2 ^ e : ℚ) (m' * 2 ^ e') := by
  rcases lt_trichotomy e e' with hlt | rfl | hgt
  · rw [Int.compare_eq_lt.2 hlt, compare_lt_iff_lt.2 (lt_of_exponent_lt hm hm' h h' hlt)]
    rfl
  · have hpos : (0 : ℚ) < 2 ^ e := zpow_pos two_pos e
    rw [Int.compare_eq_eq.2 rfl, Ordering.eq_then]
    rcases lt_trichotomy m m' with hlt | rfl | hgt
    · have hless : (m : ℚ) * 2 ^ e < m' * 2 ^ e := mul_lt_mul_of_pos_right (by exact_mod_cast hlt) hpos
      rw [Nat.compare_eq_lt.2 hlt, compare_lt_iff_lt.2 hless]
    · rw [Nat.compare_eq_eq.2 rfl, compare_eq_iff_eq.2 rfl]
    · have hmore : (m' : ℚ) * 2 ^ e < m * 2 ^ e := mul_lt_mul_of_pos_right (by exact_mod_cast hgt) hpos
      rw [Nat.compare_eq_gt.2 hgt, compare_gt_iff_gt.2 hmore]
  · rw [Int.compare_eq_gt.2 hgt, compare_gt_iff_gt.2 (lt_of_exponent_lt hm' hm h' h hgt)]
    rfl

theorem compare_neg (x y : ℚ) : compare (-x) (-y) = (compare x y).swap := by
  rcases lt_trichotomy x y with hlt | rfl | hgt
  · rw [compare_lt_iff_lt.2 hlt, compare_gt_iff_gt.2 (neg_lt_neg hlt)]
    rfl
  · rw [compare_eq_iff_eq.2 rfl, compare_eq_iff_eq.2 rfl]
    rfl
  · rw [compare_gt_iff_gt.2 hgt, compare_lt_iff_lt.2 (neg_lt_neg hgt)]
    rfl

theorem magnitude_pos {m : Nat} (hm : 0 < m) (e : Int) : (0 : ℚ) < m * 2 ^ e :=
  mul_pos (by exact_mod_cast hm) (zpow_pos two_pos e)

theorem Held.compare_eq {u v : UnpackedFloat} (hu : Held u) (hv : Held v) :
    u.compare v = some (compare (valueOf u) (valueOf v)) := by
  cases hu with
  | zero s =>
    cases hv with
    | zero s' => exact congrArg some (compare_eq_iff_eq.2 rfl).symm
    | finite s' m' e' hm' _ =>
      have hpos := magnitude_pos hm' e'
      cases s' with
      | negative => exact congrArg some (compare_gt_iff_gt.2 (neg_lt_zero.2 hpos)).symm
      | positive => exact congrArg some (compare_lt_iff_lt.2 hpos).symm
  | finite s m e hm h =>
    have hpos := magnitude_pos hm e
    cases hv with
    | zero s' =>
      cases s with
      | negative => exact congrArg some (compare_lt_iff_lt.2 (neg_lt_zero.2 hpos)).symm
      | positive => exact congrArg some (compare_gt_iff_gt.2 hpos).symm
    | finite s' m' e' hm' h' =>
      have hpos' := magnitude_pos hm' e'
      have hcompare := compare_of_canonical hm hm' h h'
      cases s with
      | negative =>
        cases s' with
        | negative =>
          refine congrArg some ?_
          rw [hcompare]
          exact (compare_neg _ _).symm
        | positive =>
          exact congrArg some (compare_lt_iff_lt.2 ((neg_lt_zero.2 hpos).trans hpos')).symm
      | positive =>
        cases s' with
        | negative =>
          exact congrArg some (compare_gt_iff_gt.2 ((neg_lt_zero.2 hpos').trans hpos)).symm
        | positive => exact congrArg some hcompare

theorem Held.lt_iff {u v : UnpackedFloat} (hu : Held u) (hv : Held v) :
    u.lt v = true ↔ valueOf u < valueOf v := by
  rw [UnpackedFloat.lt, hu.compare_eq hv, beq_iff_eq, Option.some.injEq, compare_lt_iff_lt]

theorem Held.le_iff {u v : UnpackedFloat} (hu : Held u) (hv : Held v) :
    u.le v = true ↔ valueOf u ≤ valueOf v := by
  rw [UnpackedFloat.le, hu.compare_eq hv, Option.any_some, Ordering.isLE_iff_ne_gt]
  exact compare_le_iff_le

theorem lt_iff_value {f g : Float} (hf : f.isFinite = true) (hg : g.isFinite = true) :
    f < g ↔ value f < value g := by
  have hlt : f < g ↔ f.toModel.unpack.lt g.toModel.unpack = true := decide_eq_true_iff
  rw [hlt, (held_of_isFinite hf).lt_iff (held_of_isFinite hg), value, value]

theorem le_iff_value {f g : Float} (hf : f.isFinite = true) (hg : g.isFinite = true) :
    f ≤ g ↔ value f ≤ value g := by
  have hle : f ≤ g ↔ f.toModel.unpack.le g.toModel.unpack = true := decide_eq_true_iff
  rw [hle, (held_of_isFinite hf).le_iff (held_of_isFinite hg), value, value]

theorem beq_iff_value {f g : Float} (hf : f.isFinite = true) (hg : g.isFinite = true) :
    (f == g) = true ↔ value f = value g := by
  change f.toModel.unpack.beq g.toModel.unpack = true ↔ _
  rw [UnpackedFloat.beq, (held_of_isFinite hf).compare_eq (held_of_isFinite hg), beq_iff_eq, Option.some.injEq,
    compare_eq_iff_eq, value, value]

theorem value_abs {f : Float} (h : f.isFinite = true) : value f.abs = |value f| := by
  rw [value, unpack_abs h, valueOf_abs, value]

/-! ## Integers -/

theorem exists_sign (n : Int) : ∃ s : Sign, n = if s == .negative then -(n.natAbs : Int) else n.natAbs := by
  rcases Int.natAbs_eq n with hpos | hneg
  · exact ⟨.positive, hpos⟩
  · exact ⟨.negative, hneg⟩

theorem filled {w : Nat} (h : w.log2 < 53) :
    ((w * 2 ^ (52 - w.log2) : Nat) : ℚ) * 2 ^ ((w.log2 : Int) - 52) = w := by
  have hexponent : (w.log2 : Int) - 52 = -((52 - w.log2 : Nat) : Int) := by omega
  rw [hexponent, zpow_neg, zpow_natCast]
  push_cast
  field_simp

theorem isFinite_ofInt {n : Int} (h : n.natAbs < 9007199254740992) : (Float.ofInt n).isFinite = true :=
  Number.isFinite_toFloat (.int n ⟨by omega, by omega⟩)

theorem value_ofInt {n : Int} (h : n.natAbs < 9007199254740992) : value (Float.ofInt n) = n := by
  by_cases hzero : n = 0
  · rw [hzero, Int.cast_zero]
    rfl
  · obtain ⟨s, hs⟩ := exists_sign n
    have hw : 0 < n.natAbs := Int.natAbs_pos.2 hzero
    generalize n.natAbs = w at h hs hw
    rw [hs, value, unpack_ofInt s w hw h, valueOf, filled ((Nat.log2_lt (by omega)).2 h)]
    cases s with
    | negative => exact (Int.cast_neg _).symm
    | positive => rfl

end JsonSchema.Double
