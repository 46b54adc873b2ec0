import JsonSchema.Proofs.Comparison.Agreement
import JsonSchema.Proofs.Decimal.Double
import JsonSchema.Proofs.Writing.Sameness

/-!
# Limits up to the sign of zero

A number that is written and read back may lose the sign of zero. Limits that differ in nothing else admit
the same values.
-/

namespace JsonSchema

/-! ## Doubles -/

namespace Double

open Float.Model Float.Model.UnpackedFloat

theorem compare_zero (s s' : Sign) (u : UnpackedFloat) :
    (zero s).compare u = (zero s').compare u ∧ u.compare (zero s) = u.compare (zero s') := by
  cases u with
  | notANumber | zero => exact ⟨rfl, rfl⟩
  | infinity sign | finite sign => cases sign <;> exact ⟨rfl, rfl⟩

theorem decide_le (f g : Float) : decide (f ≤ g) = f.toModel.unpack.le g.toModel.unpack := by
  rw [Bool.eq_iff_iff, decide_eq_true_iff]
  change decide (f.toModel ≤ g.toModel) = true ↔ _
  rw [decide_eq_true_iff]
  rfl

theorem decide_lt (f g : Float) : decide (f < g) = f.toModel.unpack.lt g.toModel.unpack := by
  rw [Bool.eq_iff_iff, decide_eq_true_iff]
  change decide (f.toModel < g.toModel) = true ↔ _
  rw [decide_eq_true_iff]
  rfl

variable {f g : Float} (h : (f == g) = true)
include h

theorem unpack_of_beq : f.toModel.unpack = g.toModel.unpack ∨
    ∃ s s', f.toModel.unpack = .zero s ∧ g.toModel.unpack = .zero s' := by
  obtain ⟨_, _, heq | ⟨hf, hg⟩ | ⟨hf, hg⟩⟩ := (beq_iff_ne_notANumber_and_eq _ _).1 h
  · exact .inl heq
  · exact .inr ⟨_, _, hf, hg⟩
  · exact .inr ⟨_, _, hf, hg⟩

theorem compare_of_beq (u : UnpackedFloat) :
    f.toModel.unpack.compare u = g.toModel.unpack.compare u ∧
      u.compare f.toModel.unpack = u.compare g.toModel.unpack := by
  rcases unpack_of_beq h with heq | ⟨s, s', hf, hg⟩
  · rw [heq]
    exact ⟨rfl, rfl⟩
  · rw [hf, hg]
    exact compare_zero s s' u

theorem isFinite_of_beq : f.isFinite = g.isFinite := by
  change f.toModel.unpack.isFinite = g.toModel.unpack.isFinite
  rcases unpack_of_beq h with heq | ⟨s, s', hf, hg⟩
  · rw [heq]
  · rw [hf, hg]
    rfl

theorem pos_of_beq : decide (0.0 < f) = decide (0.0 < g) := by
  rw [decide_lt, decide_lt]
  unfold UnpackedFloat.lt
  rw [(compare_of_beq h _).2]

theorem admits_of_beq (which : Bound) (x : Float) : which.admits f x = which.admits g x := by
  obtain ⟨hleft, hright⟩ := compare_of_beq h x.toModel.unpack
  unfold Bound.admits
  cases which with
  | minimum => simp only [decide_le, UnpackedFloat.le, hleft]
  | maximum => simp only [decide_le, UnpackedFloat.le, hright]
  | exclusiveMinimum => simp only [decide_lt, UnpackedFloat.lt, hleft]
  | exclusiveMaximum => simp only [decide_lt, UnpackedFloat.lt, hright]

theorem div_of_beq (hpos : decide (0.0 < f) = true) (x : Float) : x / f = x / g := by
  have hdiv : ∀ d : Float, x / d = .ofModel (x.toModel.div d.toModel) := fun _ => rfl
  rcases unpack_of_beq h with heq | ⟨s, _, hf, _⟩
  · rw [hdiv, hdiv]
    unfold Float.Model.div
    rw [heq]
  · rw [decide_lt, hf] at hpos
    cases s <;> cases hpos

end Double

/-! ## Errors -/

/-- The same error, about divisors that differ in the sign of zero at most. -/
inductive SchemaError.Same : SchemaError → SchemaError → Prop where
  | refl (e : SchemaError) : Same e e
  | invalidMultipleOf {f g : Float} (h : (f == g) = true) (x : Float) :
      Same (.invalidMultipleOf f x) (.invalidMultipleOf g x)

/-! ## Judging by limits -/

namespace Comparison

/-- What failures say and where they are does not count, only whether there are any. -/
structure Coarse (C : Comparison) : Prop where
  failures : ∀ {found found'}, (found = [] ↔ found' = []) → C.failures found found'
  locations : ∀ p q, C.locations p q
  leaves : C.leaves = Leaf.Same

/-- The same verdicts, and the same errors up to the sign of zero. -/
def verdicts : Comparison where
  forgiving := fun _ => False
  errors := SchemaError.Same
  refl := .refl
  failures := fun found found' => found = [] ↔ found' = []
  locations := fun _ _ => True
  leaves := Leaf.Same
  values := fun _ => True
  nil := Iff.rfl
  nil_iff := id
  append := by
    intro found found' more more' h h'
    rw [List.append_eq_nil_iff, List.append_eq_nil_iff, h, h']
  failure := fun _ _ _ _ => iff_of_false (List.cons_ne_nil _ _) (List.cons_ne_nil _ _)
  descend := fun _ _ _ => trivial
  items := fun _ _ _ => trivial
  members := fun _ _ _ => ⟨trivial, trivial⟩

/-- The same verdicts on null, and the same errors. -/
def nullVerdicts : Comparison where
  toTolerance := { forgiving := fun _ => False, errors := Eq, refl := fun _ => rfl }
  failures := verdicts.failures
  locations := verdicts.locations
  leaves := Leaf.Same
  values := (· = .null)
  nil := verdicts.nil
  nil_iff := verdicts.nil_iff
  append := verdicts.append
  failure := verdicts.failure
  descend := verdicts.descend
  items := by rintro _ ⟨⟩
  members := by rintro _ ⟨⟩

theorem coarse_verdicts : verdicts.Coarse := ⟨id, fun _ _ => trivial, rfl⟩

theorem coarse_nullVerdicts : nullVerdicts.Coarse := ⟨id, fun _ _ => trivial, rfl⟩

variable {C : Comparison} {p q : Location}

theorem agree_checkCount (hat : C.locations p q) (which : Count) (limit : UInt64) (v : Json) :
    C.Agree C.failures (Leaf.checkCount which limit v p) (Leaf.checkCount which limit v q) := by
  unfold Leaf.checkCount
  dsimp only
  split
  case h_7 => exact agree_pass
  all_goals exact agree_require rfl hat _ _ _

theorem agree_checkMultiple (hat : C.locations p q) (divisor : Float) (v : Json) :
    C.Agree C.failures (Leaf.checkMultiple divisor v p) (Leaf.checkMultiple divisor v q) := by
  unfold Leaf.checkMultiple
  cases v.asFloat? with
  | none => exact agree_pass
  | some x =>
    dsimp only
    split
    · exact agree_require rfl hat _ _ _
    · exact .error _

theorem agree_leaf (hat : C.locations p q) (formats : FormatRegistry) (l : Leaf) (v : Json) :
    C.Agree C.failures (l.check formats v p) (l.check formats v q) := by
  unfold Leaf.check
  dsimp only
  split
  case h_4 => exact agree_checkCount hat _ _ _
  case h_6 => exact agree_checkMultiple hat _ _
  case h_11 =>
    split
    · exact agree_require rfl hat _ _ _
    · exact agree_pass
  case h_12 => exact agree_pass
  all_goals exact agree_require rfl hat _ _ _

theorem Coarse.agree_require (hC : C.Coarse) {holds holds' : Bool} (hholds : holds = holds')
    (keyword : String) (complaint complaint' : Complaint) (v : Json) :
    C.Agree C.failures (Outcome.require holds p keyword complaint v)
      (Outcome.require holds' q keyword complaint' v) := by
  subst hholds
  refine .ok (hC.failures ?_)
  cases holds with
  | true => exact Iff.rfl
  | false => exact iff_of_false (List.cons_ne_nil _ _) (List.cons_ne_nil _ _)

theorem agree_leaf_verdicts (formats : FormatRegistry) {l l' : Leaf} (h : l.Same l') (v : Json) :
    verdicts.Agree verdicts.failures (l.check formats v p) (l'.check formats v q) := by
  cases h with
  | refl l => exact agree_leaf trivial formats l v
  | @bound which f g heq =>
    cases v with
    | number n =>
      exact coarse_verdicts.agree_require (Double.admits_of_beq heq which n.toFloat) _ _ _ _
    | _ => exact agree_pass
  | @multipleOf f g heq =>
    have hpos := Double.pos_of_beq heq
    have hfinite := Double.isFinite_of_beq heq
    change verdicts.Agree verdicts.failures (Leaf.checkMultiple f v p) (Leaf.checkMultiple g v q)
    unfold Leaf.checkMultiple
    cases v.asFloat? with
    | none => exact agree_pass
    | some x =>
      dsimp only
      rw [hpos, hfinite]
      -- Zeros of both signs fail as divisors with messages of their own.
      by_cases hvalid : (decide (0.0 < g) && g.isFinite && x.isFinite) = true
      · rw [if_pos hvalid, if_pos hvalid]
        apply coarse_verdicts.agree_require
        have hg : decide (0.0 < g) = true := by
          rw [Bool.and_assoc, Bool.and_eq_true_iff] at hvalid
          exact hvalid.1
        unfold Leaf.isMultiple
        rw [Double.div_of_beq heq (hpos.trans hg)]
      · rw [if_neg hvalid, if_neg hvalid]
        exact .inr ⟨_, rfl, .invalidMultipleOf heq x⟩

theorem agree_leaf_null (formats : FormatRegistry) {l l' : Leaf} (h : l.Same l') :
    nullVerdicts.Agree nullVerdicts.failures (l.check formats .null p) (l'.check formats .null q) := by
  cases h with
  | refl l => exact agree_leaf trivial formats l .null
  | bound | multipleOf => exact agree_pass

end Comparison

end JsonSchema
