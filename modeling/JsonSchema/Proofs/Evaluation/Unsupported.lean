import JsonSchema.Proofs.Comparison.Runs

/-!
# Running without `$defs`

Every node that is passed is asked whether it declares `$defs`. A run that does not allow it ends there,
also within a branch whose verdict would not count; otherwise it does what the run that allows it does.
-/

namespace JsonSchema

/-- The second run does exactly what the first one does, unless that one ends in the error. -/
def Comparison.allowing (e : SchemaError) : Comparison where
  forgiving := (· = e)
  errors := Eq
  refl := fun _ => rfl
  failures := Eq
  locations := Eq
  leaves := Eq
  values := fun _ => True
  nil := exact.nil
  nil_iff := exact.nil_iff
  append := exact.append
  failure := exact.failure
  descend := exact.descend
  items := exact.items
  members := exact.members

theorem Comparison.error_or_eq_of_agree {e : SchemaError} {x y : Except SchemaError α}
    (h : (allowing e).Agree Eq x y) : x = .error e ∨ x = y := by
  cases x with
  | error e' =>
    rcases h with rfl | ⟨_, rfl, rfl⟩
    · exact .inl rfl
    · exact .inr rfl
  | ok a =>
    obtain ⟨_, rfl, rfl⟩ := h
    exact .inr rfl

namespace Context

def ignoring (c : Context) (ignore : Bool) : Context := { c with ignoreUnsupported := ignore }

/-- The question for `$defs` comes after the hook and before the reference. -/
theorem turn_ignoring (c : Context) (hops : Nat) (id : NodeId) (value : Option Json) (at_ : Location) :
    (c.ignoring false).turn hops id value at_ = .settled (.error (.unsupported "$defs")) ∨
      (c.ignoring false).turn hops id value at_ = (c.ignoring true).turn hops id value at_ := by
  unfold turn ignoring
  dsimp only
  cases c.schema.follow hops id with
  | error e => exact .inr rfl
  | ok r =>
    dsimp only
    cases c.schema.node? r.2 with
    | none => exact .inr rfl
    | some node =>
      dsimp only
      cases hdefs : node.declares "$defs" with
      | false => exact .inr rfl
      | true =>
        cases node.kind with
        | constant accepts => exact .inr (by cases accepts <;> rfl)
        | hole token => exact .inr rfl
        | _ =>
          cases node.rejection? value at_ with
          | some failures => exact .inr rfl
          | none => exact .inl rfl

theorem accords_ignoring (c : Context) :
    (c.ignoring false).Accords (.allowing (.unsupported "$defs")) (c.ignoring true) where
  schema := rfl
  formats := rfl
  shortCircuit := rfl
  leaves := rfl
  values := fun _ => trivial
  turn := by
    rintro hops id value p _ rfl
    rcases c.turn_ignoring hops id value p with hturn | hturn
    · rw [hturn]
      exact .forgiven rfl _
    · rw [hturn]
      generalize (c.ignoring true).turn hops id value p = t
      cases t with
      | settled outcome => exact .settled (.same (fun _ => rfl) outcome)
      | handed hops target v => exact .handed hops target v
      | asked hops place node v => exact .asked hops place node v

end Context

/-- Whether `$defs` is allowed decides about nothing but the error for it. -/
theorem Schema.validateAt_unsupported (s : Schema) (shared : FormatRegistry) (id : NodeId)
    (value : Option Json) (options : ValidateOptions) :
    s.validateAt shared id value { options with ignoreUnsupported := false } =
        .error (.unsupported "$defs") ∨
      s.validateAt shared id value { options with ignoreUnsupported := false } =
        s.validateAt shared id value { options with ignoreUnsupported := true } := by
  refine Comparison.error_or_eq_of_agree ?_
  have hcheck : ∀ v, (Comparison.allowing (.unsupported "$defs")).Agree Eq
      ((s.context shared { options with ignoreUnsupported := false }).check 0 id v
        ⟨options.keywordPath, options.instancePath⟩)
      ((s.context shared { options with ignoreUnsupported := true }).check 0 id v
        ⟨options.keywordPath, options.instancePath⟩) :=
    fun v => (s.context shared options).accords_ignoring.agree_check 0 id v rfl
  have hvalue : (Comparison.allowing (.unsupported "$defs")).Agree Eq
      (s.judged shared id { options with ignoreUnsupported := false } value)
      (s.judged shared id { options with ignoreUnsupported := true } value) := .same (fun _ => rfl) _
  rw [validateAt_eq_judged, validateAt_eq_judged]
  refine hvalue.bind ?_
  rintro v _ rfl
  exact (hcheck v).map fun _ _ hfound => congrArg Verdict.ofFailures hfound

end JsonSchema
