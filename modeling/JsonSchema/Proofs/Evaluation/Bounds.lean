import JsonSchema.Proofs.Decimal.Words
import JsonSchema.Proofs.Evaluation.Multiples

/-!
# Limits on integers

A limit and a number are compared as the doubles nearest to them. Rounding keeps the order, so the comparison goes
wrong only where both have the same double. That takes two integers that doubles do not hold.
-/

namespace JsonSchema

open Double

/-! ## Rounding integers -/

namespace Double

/-- The integers have the same nearest double. -/
def SameNearest (n m : Int) : Prop := value (Float.ofInt n) = value (Float.ofInt m)

section Order

variable {n m : Int} (fits : FitsWord n) (fits' : FitsWord m)
include fits fits'

/-- Were the order turned around, the first integer would lie above the middle of the doubles and the second below. -/
theorem value_ofInt_le (h : n ≤ m) : value (Float.ofInt n) ≤ value (Float.ofInt m) := by
  by_contra hlt
  have hlt := not_le.1 hlt
  have hnear := sq_le_sq.2 (nearest_ofInt fits (g := Float.ofInt m) (Number.isFinite_toFloat (.int m fits')))
  have hnear' := sq_le_sq.2 (nearest_ofInt fits' (g := Float.ofInt n) (Number.isFinite_toFloat (.int n fits)))
  have habove : value (Float.ofInt m) + value (Float.ofInt n) ≤ 2 * n := by nlinarith only [hnear, hlt]
  have hbelow : (2 : ℚ) * m ≤ value (Float.ofInt m) + value (Float.ofInt n) := by nlinarith only [hnear', hlt]
  have hle : (n : ℚ) ≤ m := by exact_mod_cast h
  have heq : n = m := by exact_mod_cast le_antisymm hle (by linarith)
  exact hlt.ne (by rw [heq])

theorem value_ofInt_le_iff : value (Float.ofInt n) ≤ value (Float.ofInt m) ↔ n ≤ m ∨ SameNearest n m := by
  constructor
  · intro hle
    rcases le_or_gt n m with h | h
    · exact .inl h
    · exact .inr (le_antisymm hle (value_ofInt_le fits' fits h.le))
  · rintro (h | hsame)
    · exact value_ofInt_le fits fits' h
    · exact le_of_eq hsame

theorem value_ofInt_lt_iff : value (Float.ofInt n) < value (Float.ofInt m) ↔ n < m ∧ ¬SameNearest n m := by
  rw [← not_le, value_ofInt_le_iff fits' fits, not_or, not_le]
  exact and_congr_right fun _ => not_congr eq_comm

end Order

theorem eq_of_sameNearest {n m : Int} (fits' : FitsWord m) (hsmall : |n| < 9007199254740992) (h : SameNearest n m) :
    n = m := by
  have hn : n.natAbs < 9007199254740992 := by
    rw [Int.abs_eq_natAbs] at hsmall
    omega
  have hvalue : value (Float.ofInt m) = n := (Eq.symm h).trans (value_ofInt hn)
  obtain hm | hm := Nat.lt_or_ge m.natAbs 9007199254740992
  · exact_mod_cast hvalue.symm.trans (value_ofInt hm)
  · have hlarge := le_abs_value_ofInt fits' hm
    rw [hvalue] at hlarge
    exact absurd hsmall (not_lt.2 (by exact_mod_cast hlarge))

end Double

/-! ## The keywords -/

namespace Bound

/-- What the keyword asks of the number. -/
def Asks (which : Bound) (limit x : Int) : Prop :=
  match which with
  | minimum => limit ≤ x
  | maximum => x ≤ limit
  | exclusiveMinimum => limit < x
  | exclusiveMaximum => x < limit

/-- What it gets: integers with one double count as equal. -/
def AsksNearest (which : Bound) (limit x : Int) : Prop :=
  match which with
  | minimum => limit ≤ x ∨ SameNearest limit x
  | maximum => x ≤ limit ∨ SameNearest limit x
  | exclusiveMinimum => limit < x ∧ ¬SameNearest limit x
  | exclusiveMaximum => x < limit ∧ ¬SameNearest limit x

variable {limit x : Int} (fits : FitsWord limit) (fits' : FitsWord x)
include fits fits'

theorem asksNearest_iff_asks (which : Bound) (hsmall : |limit| < 9007199254740992 ∨ |x| < 9007199254740992) :
    which.AsksNearest limit x ↔ which.Asks limit x := by
  have hsame : SameNearest limit x ↔ limit = x := by
    refine ⟨fun h => ?_, fun h => h ▸ rfl⟩
    rcases hsmall with hlimit | hx
    · exact eq_of_sameNearest fits' hlimit h
    · exact (eq_of_sameNearest fits hx (Eq.symm h)).symm
  cases which <;> simp only [AsksNearest, Asks, hsame] <;> omega

theorem admits_ofInt_iff (which : Bound) :
    which.admits (Float.ofInt limit) (Float.ofInt x) = true ↔ which.AsksNearest limit x := by
  have hlimit : (Float.ofInt limit).isFinite = true := Number.isFinite_toFloat (.int limit fits)
  have hx : (Float.ofInt x).isFinite = true := Number.isFinite_toFloat (.int x fits')
  cases which with
  | minimum =>
    refine decide_eq_true_iff.trans ?_
    rw [le_iff_value hlimit hx]
    exact value_ofInt_le_iff fits fits'
  | maximum =>
    refine decide_eq_true_iff.trans ?_
    rw [le_iff_value hx hlimit, value_ofInt_le_iff fits' fits]
    exact or_congr_right eq_comm
  | exclusiveMinimum =>
    refine decide_eq_true_iff.trans ?_
    rw [lt_iff_value hlimit hx]
    exact value_ofInt_lt_iff fits fits'
  | exclusiveMaximum =>
    refine decide_eq_true_iff.trans ?_
    rw [lt_iff_value hx hlimit, value_ofInt_lt_iff fits' fits]
    exact and_congr_right fun _ => not_congr eq_comm

theorem passes_iff (which : Bound) (formats : FormatRegistry) (at_ : Location) :
    (Leaf.bound which (Float.ofInt limit)).check formats (.number (.int x fits')) at_ = .ok [] ↔
      which.AsksNearest limit x := by
  rw [← admits_ofInt_iff fits fits' which]
  change Outcome.require (which.admits (Float.ofInt limit) (Float.ofInt x)) _ _ _ _ = _ ↔ _
  rw [Outcome.require]
  cases which.admits (Float.ofInt limit) (Float.ofInt x) <;> simp

end Bound

/-! ## Schemas -/

namespace Schema

/-- A node with no other keyword. -/
def boundNode (which : Bound) (limit : Int) : Node :=
  { kind := .any, keywords := [.leaf (.bound which (Float.ofInt limit))] }

theorem standsAlone_boundNode (which : Bound) (limit : Int) : (boundNode which limit).StandsAlone :=
  ⟨nofun, nofun, nofun, rfl, by cases which <;> rfl, by cases which <;> rfl⟩

theorem ofJson_boundNode (which : Bound) (limit : Int) (fits : FitsWord limit) :
    ofJson (.object [(which.name, .number (.int limit fits))]) = .ok ⟨#[boundNode which limit]⟩ := by
  cases which <;> with_unfolding_all rfl

theorem accepts_boundNode_iff (which : Bound) {limit x : Int} (fits : FitsWord limit) (fits' : FitsWord x)
    {shared : FormatRegistry} {options : ValidateOptions} (hcoerce : options.coerce = false) :
    Accepts ⟨#[boundNode which limit]⟩ shared options (.number (.int x fits')) ↔ which.AsksNearest limit x := by
  rw [accepts_iff_of_standsAlone rfl (standsAlone_boundNode which limit) hcoerce]
  refine List.forall_mem_singleton.trans ?_
  exact Bound.passes_iff fits fits' which shared _

/-- Limits on integers are decided up to integers with the same double, and exactly where doubles hold one of the
two. -/
theorem accepts_bound (which : Bound) {limit x : Int} (fits : FitsWord limit) (fits' : FitsWord x) :
    (∀ {s : Schema} {n : Node}, s.node? root = some n → n.StandsAlone →
      .leaf (.bound which (Float.ofInt limit)) ∈ n.keywords →
      ∀ (shared : FormatRegistry) (options : ValidateOptions), options.coerce = false →
        (s.Accepts shared options (.number (.int x fits')) ↔ which.AsksNearest limit x ∧
          ∀ k ∈ n.keywords, k ≠ .leaf (.bound which (Float.ofInt limit)) →
            k.check (s.context shared options) ((s.context shared options).judgeBelow 0 root) 0 n
              (.number (.int x fits')) ⟨options.keywordPath, options.instancePath⟩ = .ok [])) ∧
    (∃ s, ofJson (.object [(which.name, .number (.int limit fits))]) = .ok s ∧
      ∀ (shared : FormatRegistry) (options : ValidateOptions), options.coerce = false →
        (s.Accepts shared options (.number (.int x fits')) ↔ which.AsksNearest limit x)) ∧
    (|limit| < 9007199254740992 ∨ |x| < 9007199254740992 →
      (which.AsksNearest limit x ↔ which.Asks limit x)) := by
  refine ⟨?_, ⟨_, ofJson_boundNode which limit fits, ?_⟩, Bound.asksNearest_iff_asks fits fits' which⟩
  · intro s n hn halone hmem shared options hcoerce
    have hkeyword := Bound.passes_iff fits fits' which shared
    rw [accepts_iff_of_standsAlone hn halone hcoerce]
    constructor
    · intro hall
      exact ⟨(hkeyword _).1 (hall _ hmem), fun k hk _ => hall k hk⟩
    · rintro ⟨hasks, hothers⟩ k hk
      by_cases heq : k = .leaf (.bound which (Float.ofInt limit))
      · rw [heq]
        exact (hkeyword _).2 hasks
      · exact hothers k hk heq
  · intro shared options hcoerce
    exact accepts_boundNode_iff which fits fits' hcoerce

/-- A limit just below 2 ^ 53 still parts its neighbours. -/
theorem accepts_bound_limit :
    ∃ s, ofJson (.object [("exclusiveMaximum", .number (.int 9007199254740991 (by decide)))]) = .ok s ∧
      s.Accepts .empty {} (.number (.int 9007199254740990 (by decide))) ∧
      ¬s.Accepts .empty {} (.number (.int 9007199254740992 (by decide))) := by
  have hlimit : FitsWord 9007199254740991 := by decide
  have hbelow : FitsWord 9007199254740990 := by decide
  have habove : FitsWord 9007199254740992 := by decide
  obtain ⟨_, ⟨s, hs, hless⟩, hexact⟩ := accepts_bound .exclusiveMaximum hlimit hbelow
  obtain ⟨hmore, _, hexact'⟩ := accepts_bound .exclusiveMaximum hlimit habove
  have hasks : (9007199254740990 : Int) < 9007199254740991 := by decide
  refine ⟨s, hs, (hless _ _ rfl).2 ((hexact (.inl (by decide))).2 hasks), fun haccepts => ?_⟩
  obtain rfl : s = ⟨#[boundNode .exclusiveMaximum 9007199254740991]⟩ :=
    Except.ok.inj (hs.symm.trans (ofJson_boundNode .exclusiveMaximum 9007199254740991 _))
  have hmore := hmore (s := ⟨#[boundNode .exclusiveMaximum 9007199254740991]⟩) rfl
    (standsAlone_boundNode .exclusiveMaximum 9007199254740991) (List.mem_singleton_self _) .empty {} rfl
  have hasks : (9007199254740992 : Int) < 9007199254740991 := (hexact' (.inl (by decide))).1 (hmore.1 haccepts).1
  exact absurd hasks (by decide)

/-- A minimum lets the integer below it pass. -/
theorem accepts_below_minimum :
    ∃ s, ofJson (.object [("minimum", .number (.int 9007199254740993 (by decide)))]) = .ok s ∧
      s.Accepts .empty {} (.number (.int 9007199254740992 (by decide))) ∧
      ¬(9007199254740993 : Int) ≤ 9007199254740992 := by
  refine ⟨_, ofJson_boundNode .minimum 9007199254740993 (by decide), ?_, by decide⟩
  rw [accepts_boundNode_iff .minimum (by decide) (by decide) rfl]
  have hvalue : value (Float.ofInt 9007199254740993) = value (Float.ofInt 9007199254740992) :=
    congrArg value (by decide +kernel : Float.ofInt 9007199254740993 = Float.ofInt 9007199254740992)
  exact .inr hvalue

end Schema

end JsonSchema
