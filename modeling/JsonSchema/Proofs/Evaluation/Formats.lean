import JsonSchema.Proofs.Comparison.Twins

/-!
# Formats that a run brings with it

A run that brings its own formats never asks the shared ones, not even if it coerces first: a coercion has
nothing but null judged, and formats are asked about texts only.
-/

namespace JsonSchema

namespace Schema

variable (s : Schema)

theorem coerceAt_formats (shared shared' : FormatRegistry) (id : NodeId) (v : Json)
    (options : CoerceOptions) :
    s.coerceAt shared id v options = s.coerceAt shared' id v options := by
  have htwin : (s.lenientContext shared).Twin (s.lenientContext shared') := ⟨.refl s, rfl, rfl, rfl⟩
  exact htwin.coerce_eq options 0 id v

/-- Formats that a run brings with it count as the shared ones would. -/
theorem validateAt_own_formats (own shared : FormatRegistry) (id : NodeId) (value : Option Json)
    (options : ValidateOptions) :
    s.validateAt shared id value { options with formats := some own } =
      s.validateAt own id value { options with formats := none } := by
  have hjudged : s.judged shared id { options with formats := some own } value =
      s.judged own id { options with formats := none } value := by
    unfold judged
    cases value with
    | none => rfl
    | some v =>
      dsimp only
      rw [s.coerceAt_formats shared own id v]
  rw [validateAt_eq_judged, validateAt_eq_judged, hjudged]
  rfl

/-- A run that brings its own formats has the same result whatever the shared ones are: the same
error, or the same verdict with the same failures. -/
theorem validateAt_isolated (own shared shared' : FormatRegistry) (id : NodeId)
    (value : Option Json) (options : ValidateOptions) :
    s.validateAt shared id value { options with formats := some own } =
      s.validateAt shared' id value { options with formats := some own } := by
  rw [validateAt_own_formats, validateAt_own_formats]

end Schema

end JsonSchema
