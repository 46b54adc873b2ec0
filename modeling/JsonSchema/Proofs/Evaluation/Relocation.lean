import JsonSchema.Proofs.Building.Everywhere
import JsonSchema.Proofs.Comparison.Runs
import JsonSchema.Proofs.Places.Pointers

/-!
# Runs that start elsewhere

The paths at which a run starts stand in front of all that its failures name, and have no part in any
decision. Only a hook could read them.
-/

namespace JsonSchema

/-! ## Moving places -/

section Below

variable (keywords instances : Path)

def Location.below (l : Location) : Location :=
  ⟨keywords ++ l.keywordPath, instances ++ l.instancePath⟩

def Failure.below (f : Failure) : Failure :=
  { f with keywordPath := keywords ++ f.keywordPath, instancePath := instances ++ f.instancePath }

theorem Location.descend_below (l : Location) (ks is : Path) :
    (l.below keywords instances).descend ks is = (l.descend ks is).below keywords instances := by
  simp only [below, descend, List.append_assoc]

theorem Location.failure_below (l : Location) (keyword : Option String) (complaint : Complaint)
    (data : Option Json) :
    (l.below keywords instances).failure keyword complaint data =
      (l.failure keyword complaint data).below keywords instances := by
  simp only [below, failure, Failure.below, List.append_assoc]

/-- The same failure, found at a place that stands below the paths. -/
structure Failure.Relocated (f f' : Failure) : Prop where
  keywordLocation : f'.keywordLocation = Pointer.render keywords ++ f.keywordLocation
  instanceLocation : f'.instanceLocation = Pointer.render instances ++ f.instanceLocation
  message : f'.message = f.message
  data : f'.data = f.data

theorem Failure.relocated_below (f : Failure) :
    f.Relocated keywords instances (f.below keywords instances) where
  keywordLocation := Pointer.render_append keywords f.keywordPath
  instanceLocation := Pointer.render_append instances f.instancePath
  message := rfl
  data := rfl

/-- The second run finds below the paths what the first one finds. -/
def Comparison.relocated : Comparison where
  toTolerance := exact.toTolerance
  failures found found' := found' = found.map (·.below keywords instances)
  locations p q := q = p.below keywords instances
  leaves := Eq
  values := fun _ => True
  nil := List.map_nil.symm
  nil_iff := by
    rintro found _ rfl
    exact List.map_eq_nil_iff.symm
  append := by
    rintro found _ more _ rfl rfl
    exact List.map_append.symm
  failure := by
    rintro p _ keyword complaint v rfl
    rw [Location.failure_below]
    rfl
  descend := by
    rintro p _ ks is rfl
    exact p.descend_below keywords instances ks is
  items := exact.items
  members := exact.members

end Below

/-! ## Runs -/

namespace Context

variable {c : Context} (h : c.schema.Everywhere fun n => n.hooks.validate = none)
  (keywords instances : Path)
include h

theorem turns_below (hops : Nat) (id : NodeId) (value : Option Json) (p : Location) :
    (Comparison.relocated keywords instances).Turns (c.turn hops id value p)
      (c.turn hops id value (p.below keywords instances)) := by
  unfold turn
  cases c.schema.follow hops id with
  | error e => exact .settled (.error e)
  | ok r =>
    dsimp only
    cases hnode : c.schema.node? r.2 with
    | none => exact .settled Comparison.agree_pass
    | some node =>
      have hrejection : ∀ at_, node.rejection? value at_ = none := by
        intro at_
        unfold Node.rejection?
        rw [h r.2 node hnode]
      dsimp only
      rw [hrejection, hrejection]
      split
      · exact .settled Comparison.agree_pass
      · exact .settled Comparison.agree_pass
      · refine .settled (.ok ?_)
        rw [Location.failure_below]
        rfl
      · cases !c.ignoreUnsupported && node.declares "$defs" with
        | true => exact .settled (.error _)
        | false =>
          cases value with
          | none => exact .settled Comparison.agree_pass
          | some v =>
            cases node.reference? with
            | none => exact .asked ..
            | some reference =>
              dsimp only
              cases c.index.resolve reference with
              | error e => exact .settled (.error e)
              | ok target =>
                by_cases hlt : r.1 < maxHops
                · simp only [Bool.false_eq_true, if_false, if_pos hlt]
                  exact .handed ..
                · simp only [Bool.false_eq_true, if_false, if_neg hlt]
                  exact .settled (.error _)

theorem accords_below : c.Accords (.relocated keywords instances) c where
  schema := rfl
  formats := rfl
  shortCircuit := rfl
  leaves := rfl
  values := fun _ => trivial
  turn := by
    rintro hops id value p _ rfl
    exact turns_below h keywords instances hops id value p

end Context

/-! ## Verdicts -/

namespace Schema

/-- Without hooks, a run that starts below two paths has the result of the run that starts at none of
them: the same error, or a verdict with the same failures in the same order, each below the paths. -/
theorem validateAt_relocated (s : Schema) (hs : s.Everywhere fun n => n.hooks.validate = none)
    (shared : FormatRegistry) (id : NodeId) (value : Option Json) (options : ValidateOptions)
    (keywords instances : Path) :
    (∃ e,
      s.validateAt shared id value { options with keywordPath := [], instancePath := [] } = .error e ∧
      s.validateAt shared id value
        { options with keywordPath := keywords, instancePath := instances } = .error e) ∨
    ∃ r r',
      s.validateAt shared id value { options with keywordPath := [], instancePath := [] } = .ok r ∧
      s.validateAt shared id value
        { options with keywordPath := keywords, instancePath := instances } = .ok r' ∧
      r'.valid = r.valid ∧
      List.Forall₂ (Failure.Relocated keywords instances) r.failures r'.failures := by
  let start : ValidateOptions := { options with keywordPath := [], instancePath := [] }
  let moved : ValidateOptions := { options with keywordPath := keywords, instancePath := instances }
  let C : Comparison := .relocated keywords instances
  have hvalue : C.Agree Eq (s.judged shared id start value) (s.judged shared id moved value) :=
    .same (fun _ => rfl) _
  have hcheck : ∀ v, C.Agree C.failures ((s.context shared start).check 0 id v ⟨[], []⟩)
      ((s.context shared moved).check 0 id v ⟨keywords, instances⟩) := by
    intro v
    refine (Context.accords_below (c := s.context shared options) hs keywords instances).agree_check
      0 id v ?_
    exact congrArg₂ Location.mk (List.append_nil _).symm (List.append_nil _).symm
  refine Comparison.cases_of_exact (?_ : C.Agree _ _ _)
  rw [validateAt_eq_judged, validateAt_eq_judged]
  refine hvalue.bind ?_
  rintro v _ rfl
  refine (hcheck v).map ?_
  rintro found _ rfl
  refine ⟨List.isEmpty_map, List.forall₂_map_right_iff.2 (List.forall₂_same.2 fun f _ => ?_)⟩
  exact f.relocated_below keywords instances

theorem validateAt_relocated_two :
    let s : Schema :=
      .ofNode { kind := .string, keywords := [.leaf (.types [.string]), .leaf (.const .null)] }
    (s.Everywhere fun n => n.hooks.validate = none) ∧ ∃ r,
      s.validateAt .empty root (some (.bool true))
        { keywordPath := [.key "a/b"], instancePath := [.index 0] } = .ok r ∧
      r.failures.map (·.keywordLocation) = ["/a~1b/type", "/a~1b/const"] ∧
      r.failures.map (·.instanceLocation) = ["/0", "/0"] := by
  intro s
  have hs : s.Everywhere fun n => n.hooks.validate = none := everywhere_ofNode rfl
  have hstart : s.validateAt .empty root (some (.bool true)) {} =
      .ok (.ofFailures [⟨[.key "type"], [], .notOfType [.string], some (.bool true)⟩,
        ⟨[.key "const"], [], .notConst .null, some (.bool true)⟩]) := by
    rw [validateAt_eq_judged, judged, if_neg (by decide), Except.ok_bind, Context.check_eq_turn,
      Context.turn, follow]
    rfl
  rcases s.validateAt_relocated hs .empty root (some (.bool true)) {} [.key "a/b"] [.index 0] with
    ⟨e, herror, _⟩ | ⟨r, ⟨valid, failures⟩, hr, hr', _, hrelocated⟩
  · rw [hstart] at herror
    cases herror
  · rw [hstart] at hr
    cases hr
    refine ⟨hs, _, hr', ?_⟩
    rcases hrelocated with _ | ⟨htype, _ | ⟨hconst, _ | _⟩⟩
    simp only [List.map_cons, List.map_nil, htype.keywordLocation, hconst.keywordLocation,
      htype.instanceLocation, hconst.instanceLocation]
    exact ⟨by decide +kernel, by decide +kernel⟩

end Schema

end JsonSchema
