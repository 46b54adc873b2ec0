import JsonSchema.Schema.Document
import JsonSchema.Schema.Loader
import JsonSchema.Schema.Template
import JsonSchema.Schema.Validation

/-! # Coercing, filling in and judging in one step -/

namespace JsonSchema

structure ParseOptions where
  coerce : Bool := true
  coerceDropUnknown : Bool := false
  withDefaults : Bool := true
  withExtendedDefaults : Bool := false
  /-- The value is coerced and filled in with a copy that was written out and read back. -/
  clone : Bool := false

inductive ParseError where
  | invalid (value : Json) (failures : List Failure)
  | schema (error : SchemaError)

namespace ParseError

def summary : List Failure → String
  | [] => "validation failed"
  | [only] => "validation failed: " ++ only.display
  | first :: rest =>
    "validation failed: " ++ first.display ++ " (and " ++ toString rest.length ++ " more)"

def message : ParseError → String
  | invalid _ failures => summary failures
  | schema error => error.message

/-- The first failure in short: its message and its place in the value. -/
def first? : ParseError → Option String
  | invalid _ (f :: _) => some (f.message ++ " at " ++ f.instanceLocation)
  | _ => none

end ParseError

namespace Schema

/-- What the schema offers for a value that is given in part, or for none. -/
def template (s : Schema) (seed : Option Json) (options : TemplateOptions := {}) : Option Json :=
  s.templateFrom options false root seed

/-- The schema that prepares values: itself, or itself read back from its document. -/
def working (s : Schema) (options : ParseOptions) : Except SchemaError Schema :=
  if options.clone then ofJson s.toJson else .ok s

/-- The value coerced and filled in. -/
def prepare (s : Schema) (shared : FormatRegistry) (v : Json) (options : ParseOptions) :
    Except SchemaError Json := do
  let working ← s.working options
  let coerced ←
    if options.coerce then
      working.coerce shared v { dropUnknown := options.coerceDropUnknown }
    else pure v
  if !options.withDefaults then return coerced
  let filled? := working.template (some coerced)
    { withOptional := true, withExtendedOptional := options.withExtendedDefaults }
  return filled?.getD coerced

/-- The prepared value if it is valid. -/
def parse (s : Schema) (shared : FormatRegistry) (v : Json) (options : ParseOptions := {}) :
    Except ParseError Json := do
  let prepared ← (s.prepare shared v options).mapError .schema
  let verdict ←
    (s.validate shared prepared { shortCircuit := true, ignoreUnsupported := true }).mapError .schema
  if verdict.valid then return prepared else throw (.invalid prepared verdict.failures)

end Schema

end JsonSchema
