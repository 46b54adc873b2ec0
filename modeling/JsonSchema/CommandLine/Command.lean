import JsonSchema.CommandLine.Source
import JsonSchema.Schema.Parse
import JsonSchema.Schema.Walk

/-! # The commands -/

namespace JsonSchema

inductive Command where
  | validate (schema data : String) (coerceFirst shortCircuit ignoreUnsupported : Bool)
  | coerce (schema data : String) (dropUnknown : Bool)
  | template (schema : String) (options : TemplateOptions)
  | walk (schema : String) (data : Option String) (maxDepth : Option Nat)
  | formats

/-- What a command prints, and whether all is well. -/
structure Report where
  output : Json
  success : Bool := true

namespace Failure

def toJson (f : Failure) : Json :=
  .object ([("keywordLocation", .string f.keywordLocation),
    ("instanceLocation", .string f.instanceLocation), ("error", .string f.message)] ++
      (f.data.map fun d => ("data", d)).toList)

end Failure

def Verdict.toJson (v : Verdict) : Json :=
  .object [("valid", .bool v.valid), ("errors", .array (v.failures.map (·.toJson)))]

def Visit.toJson (s : Schema) (v : Visit) : Json :=
  .object ([("instanceLocation", .string (Pointer.render v.instancePath)),
    ("keywordLocation", .string (Pointer.render v.keywordPath)), ("depth", .ofSize v.depth),
    ("schema", s.documentAt v.node)] ++ (v.data.map fun d => ("data", d)).toList)

namespace Command

/-- The files that the command reads. -/
def paths : Command → List String
  | validate schema data _ _ _ => [schema, data]
  | coerce schema data _ => [schema, data]
  | template schema _ => [schema]
  | walk schema data _ => schema :: data.toList
  | formats => []

/-- The schema is read before the data. -/
def run (files : Files) (shared : FormatRegistry) : Command → Except Problem Report
  | validate schema data coerceFirst shortCircuit ignoreUnsupported => do
    let s ← files.schema schema
    let v ← files.document data
    let verdict ← (s.validate shared v
      { coerce := coerceFirst, shortCircuit := shortCircuit
        ignoreUnsupported := ignoreUnsupported }).mapError .schema
    return { output := verdict.toJson, success := verdict.valid }
  | coerce schema data dropUnknown => do
    let s ← files.schema schema
    let v ← files.document data
    return { output := ← (s.coerce shared v { dropUnknown := dropUnknown }).mapError .schema }
  | template schema options => do
    let s ← files.schema schema
    return { output := (s.template none options).getD .null }
  | walk schema data maxDepth => do
    let s ← files.schema schema
    let v ← data.mapM files.document
    let visits := s.walk shared Schema.root { data := v, maxDepth := maxDepth }
    return { output := .array (visits.map (·.toJson s)) }
  | formats => .ok { output := .strings shared.names }

end Command

end JsonSchema
