import JsonSchema.Schema.Coercion

/-! # Validating and coercing with a schema -/

namespace JsonSchema

structure ValidateOptions where
  /-- The value is coerced first. -/
  coerce : Bool := false
  shortCircuit : Bool := false
  ignoreUnsupported : Bool := false
  /-- Where the schema and the value stand in what holds them. -/
  keywordPath : Path := []
  instancePath : Path := []
  /-- The formats to use in place of the shared ones. -/
  formats : Option FormatRegistry := none

namespace Schema

/-- Only acceptance counts. -/
def lenientContext (s : Schema) (shared : FormatRegistry) : Context where
  schema := s
  index := .ofSchema s
  formats := shared
  shortCircuit := true
  ignoreUnsupported := true

def context (s : Schema) (shared : FormatRegistry) (options : ValidateOptions) : Context where
  schema := s
  index := .ofSchema s
  formats := options.formats.getD shared
  shortCircuit := options.shortCircuit
  ignoreUnsupported := options.ignoreUnsupported

def coerceAt (s : Schema) (shared : FormatRegistry) (id : NodeId) (v : Json)
    (options : CoerceOptions := {}) : Except SchemaError Json :=
  (s.lenientContext shared).coerce options 0 id v

/-- The value as far as it converts to what the schema asks for. -/
def coerce (s : Schema) (shared : FormatRegistry) (v : Json) (options : CoerceOptions := {}) :
    Except SchemaError Json :=
  s.coerceAt shared root v options

/-- The verdict of a node on a value that may be absent. -/
def validateAt (s : Schema) (shared : FormatRegistry) (id : NodeId) (value : Option Json)
    (options : ValidateOptions := {}) : Except SchemaError Verdict := do
  let value ← match value with
    | some v => if options.coerce then some <$> s.coerceAt shared id v else pure (some v)
    | none => pure none
  let start : Location := ⟨options.keywordPath, options.instancePath⟩
  return .ofFailures (← (s.context shared options).check 0 id value start)

def validate (s : Schema) (shared : FormatRegistry) (v : Json) (options : ValidateOptions := {}) :
    Except SchemaError Verdict :=
  s.validateAt shared root (some v) options

end Schema

end JsonSchema
