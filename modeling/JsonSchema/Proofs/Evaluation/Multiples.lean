import JsonSchema.Proofs.Decimal.Divisors
import JsonSchema.Proofs.Evaluation.Changes

/-!
# Integers that are accepted as multiples

A schema with `multipleOf` asks integers that doubles hold for nothing but the test on integers. It accepts all
multiples of the divisor, only these where the numbers are some bits short of all that doubles hold, and others
beside them above.
-/

namespace JsonSchema

open Double

/-! ## The keyword -/

theorem Double.zero_lt_ofInt {m : Int} (hm : 0 < m) (hm' : m ≤ 9007199254740991) : 0.0 < Float.ofInt m := by
  rw [lt_iff_value rfl (isFinite_ofInt (by omega)), value_ofInt (by omega)]
  have hzero : value 0.0 = 0 := rfl
  rw [hzero]
  exact_mod_cast hm

section Keyword

variable {m x : Int} (hm : 0 < m) (hm' : m ≤ 9007199254740991) (hx : |x| ≤ 9007199254740991)
include hm hm' hx

theorem Leaf.check_multipleOf (fits : FitsWord x) (formats : FormatRegistry) (at_ : Location) :
    (multipleOf (Float.ofInt m)).check formats (.number (.int x fits)) at_ =
      .require (isMultiple (Float.ofInt m) (Float.ofInt x)) at_ "multipleOf" (.notMultiple (Float.ofInt m))
        (.number (.int x fits)) := by
  have hguard : (0.0 < Float.ofInt m && (Float.ofInt m).isFinite && (Float.ofInt x).isFinite) = true := by
    have hx := abs_le.1 hx
    rw [isFinite_ofInt (by omega), isFinite_ofInt (by omega)]
    simpa using zero_lt_ofInt hm hm'
  exact if_pos hguard

theorem Leaf.passes_multipleOf_iff (fits : FitsWord x) (formats : FormatRegistry) (at_ : Location) :
    (multipleOf (Float.ofInt m)).check formats (.number (.int x fits)) at_ = .ok [] ↔
      NearMultiple m.natAbs x.natAbs := by
  have hx' := abs_le.1 hx
  have hnat : ((m.natAbs : Nat) : Int) = m := by omega
  have htest := isMultiple_ofInt_iff (m := m.natAbs) (x := x) (by omega) (by omega) (by omega)
  rw [hnat] at htest
  rw [check_multipleOf hm hm' hx, ← htest, Outcome.require]
  cases isMultiple (Float.ofInt m) (Float.ofInt x) <;> simp

end Keyword

/-! ## Schemas -/

namespace Schema

theorem accepts_iff_of_standsAlone {s : Schema} {n : Node} (hn : s.node? root = some n) (h : n.StandsAlone)
    {shared : FormatRegistry} {options : ValidateOptions} (hcoerce : options.coerce = false) (v : Json) :
    s.Accepts shared options v ↔ ∀ k ∈ n.keywords,
      k.check (s.context shared options) ((s.context shared options).judgeBelow 0 root) 0 n v
        ⟨options.keywordPath, options.instancePath⟩ = .ok [] := by
  rw [accepts_iff_check hcoerce, Context.check_of_standsAlone hn h]
  exact ⟨Outcome.eq_pass_of_ofAll, Outcome.ofAll_eq_pass⟩

/-- A node with no other keyword. -/
def divisorNode (m : Int) : Node := { kind := .any, keywords := [.leaf (.multipleOf (Float.ofInt m))] }

theorem standsAlone_divisorNode (m : Int) : (divisorNode m).StandsAlone := ⟨nofun, nofun, nofun, rfl, rfl, rfl⟩

theorem ofJson_divisorNode (m : Int) (fits : FitsWord m) :
    ofJson (.object [("multipleOf", .number (.int m fits))]) = .ok ⟨#[divisorNode m]⟩ := by
  with_unfolding_all rfl

theorem accepts_divisorNode_iff {m x : Int} (hm : 0 < m) (hm' : m ≤ 9007199254740991)
    (hx : |x| ≤ 9007199254740991) (fits : FitsWord x) {shared : FormatRegistry} {options : ValidateOptions}
    (hcoerce : options.coerce = false) :
    Accepts ⟨#[divisorNode m]⟩ shared options (.number (.int x fits)) ↔ NearMultiple m.natAbs x.natAbs := by
  rw [accepts_iff_of_standsAlone rfl (standsAlone_divisorNode m) hcoerce]
  refine List.forall_mem_singleton.trans ?_
  exact Leaf.passes_multipleOf_iff hm hm' hx fits shared _

/-- Of integers that doubles hold a schema with `multipleOf` accepts those that the test on integers lets pass and
its other keywords accept. All multiples are among them, and nothing else where the numbers are some bits short. -/
theorem accepts_multipleOf {m x : Int} (hm : 0 < m) (hm' : m ≤ 9007199254740991) (hx : |x| ≤ 9007199254740991)
    (fits : FitsWord m) (fits' : FitsWord x) :
    (∀ {s : Schema} {n : Node}, s.node? root = some n → n.StandsAlone →
      .leaf (.multipleOf (Float.ofInt m)) ∈ n.keywords →
      ∀ (shared : FormatRegistry) (options : ValidateOptions), options.coerce = false →
        (s.Accepts shared options (.number (.int x fits')) ↔ NearMultiple m.natAbs x.natAbs ∧
          ∀ k ∈ n.keywords, k ≠ .leaf (.multipleOf (Float.ofInt m)) →
            k.check (s.context shared options) ((s.context shared options).judgeBelow 0 root) 0 n
              (.number (.int x fits')) ⟨options.keywordPath, options.instancePath⟩ = .ok [])) ∧
    (∃ s, ofJson (.object [("multipleOf", .number (.int m fits))]) = .ok s ∧
      ∀ (shared : FormatRegistry) (options : ValidateOptions), options.coerce = false →
        (s.Accepts shared options (.number (.int x fits')) ↔ NearMultiple m.natAbs x.natAbs)) ∧
    (m ∣ x → NearMultiple m.natAbs x.natAbs) ∧
    (3 * |x| ≤ 9007199254740992 → 5 * m ≤ 18014398509481984 → NearMultiple m.natAbs x.natAbs → m ∣ x) := by
  have hpos : 0 < m.natAbs := Int.natAbs_pos.2 hm.ne'
  refine ⟨?_, ⟨_, ofJson_divisorNode m fits, ?_⟩, ?_, ?_⟩
  · intro s n hn halone hmem shared options hcoerce
    have hkeyword := Leaf.passes_multipleOf_iff hm hm' hx fits' shared
    rw [accepts_iff_of_standsAlone hn halone hcoerce]
    constructor
    · intro hall
      exact ⟨(hkeyword _).1 (hall _ hmem), fun k hk _ => hall k hk⟩
    · rintro ⟨hnear, hothers⟩ k hk
      by_cases heq : k = .leaf (.multipleOf (Float.ofInt m))
      · rw [heq]
        exact (hkeyword _).2 hnear
      · exact hothers k hk heq
  · intro shared options hcoerce
    exact accepts_divisorNode_iff hm hm' hx fits' hcoerce
  · intro hdvd
    exact NearMultiple.of_dvd hpos (Int.natAbs_dvd_natAbs.2 hdvd)
  · intro hsmall hsmall' hnear
    rw [Int.abs_eq_natAbs] at hsmall
    exact Int.natAbs_dvd_natAbs.1 ((NearMultiple.iff_dvd hpos (by omega) (by omega)).1 hnear)

theorem accepts_multipleOf_three :
    ∃ s, ofJson (.object [("multipleOf", .number (.int 3 (by decide)))]) = .ok s ∧
      s.Accepts .empty {} (.number (.int (-12) (by decide))) ∧
      ¬s.Accepts .empty {} (.number (.int 13 (by decide))) := by
  obtain ⟨_, ⟨s, hs, hless⟩, hdvd, _⟩ :=
    accepts_multipleOf (m := 3) (x := -12) (by decide) (by decide) (by decide) (by decide) (by decide)
  obtain ⟨hmore, _, _, honly⟩ :=
    accepts_multipleOf (m := 3) (x := 13) (by decide) (by decide) (by decide) (by decide) (by decide)
  refine ⟨s, hs, (hless _ _ rfl).2 (hdvd (by decide)), fun haccepts => ?_⟩
  obtain rfl : s = ⟨#[divisorNode 3]⟩ := Except.ok.inj (hs.symm.trans (ofJson_divisorNode 3 _))
  have hmore := hmore (s := ⟨#[divisorNode 3]⟩) rfl (standsAlone_divisorNode 3) (List.mem_singleton_self _)
    .empty {} rfl
  exact absurd (honly (by decide) (by decide) (hmore.1 haccepts).1) (by decide)

/-- Halves of large odd numbers are as near to an integer as rounding allows. -/
theorem accepts_odd_as_even :
    ∃ s, ofJson (.object [("multipleOf", .number (.int 2 (by decide)))]) = .ok s ∧
      s.Accepts .empty {} (.number (.int 9007199254740991 (by decide))) ∧ ¬(2 : Int) ∣ 9007199254740991 := by
  refine ⟨_, ofJson_divisorNode 2 (by decide), ?_, by decide⟩
  rw [accepts_divisorNode_iff (by decide) (by decide) (by decide) _ rfl]
  decide

end Schema

end JsonSchema
