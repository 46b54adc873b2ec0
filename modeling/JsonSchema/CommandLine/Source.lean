import JsonSchema.Json.Reader
import JsonSchema.Yaml.Convert
import JsonSchema.Schema.Loader

/-! # Documents in files -/

namespace JsonSchema

/-- Why a text is no document. -/
inductive DocumentError where
  | invalidJson
  | invalidYaml
  | conversion (error : Yaml.Value.ConversionError)

def DocumentError.message : DocumentError → String
  | invalidJson => "invalid JSON"
  | invalidYaml => "invalid YAML"
  | conversion error => "YAML-to-JSON conversion failed: " ++ error.message

/-- The value that a text of JSON or YAML holds. -/
def Json.ofDocument (yaml : Bool) (text : String) : Except DocumentError Json :=
  if yaml then
    match Yaml.Value.parse? text with
    | some v => v.toJson.mapError .conversion
    | none => .error .invalidYaml
  else
    match Json.parse? text with
    | some v => .ok v
    | none => .error .invalidJson

/-! ## Files -/

/-- The texts of files; `none` for a file that cannot be read. -/
abbrev Files := String → Option String

namespace FileName

/-- The parts of a path that count: empty ones and single dots do not. -/
def parts (path : String) : List (List Char) :=
  (Text.pieces '/' path.toList).filter fun p => !p.isEmpty && p != ['.']

/-- What follows the last dot of the last part, if something stands before the dot. -/
def extension? (path : String) : Option String := do
  let last ← (parts path).getLast?
  if last == ['.', '.'] then none
  let after := (last.reverse.takeWhile (· ≠ '.')).reverse
  if last.length ≤ after.length + 1 then none else some (String.ofList after)

/-- The name says that the file holds YAML. -/
def isYaml (path : String) : Bool :=
  (extension? path).any fun e => ["yaml", "yml"].contains (Decimal.lowerAscii e.toList)

end FileName

/-- Why a command has no result. -/
inductive Problem where
  | unreadable (path : String)
  | document (path : String) (error : DocumentError)
  /-- The schema of a file is no schema. -/
  | invalidSchema (path : String) (error : SchemaError)
  /-- The schema cannot be used on the value. -/
  | schema (error : SchemaError)

/-- What is wrong, from the outside to the inside. -/
def Problem.chain : Problem → List String
  | unreadable path => ["reading " ++ path]
  | document path error => ["parsing " ++ path, error.message]
  | invalidSchema path error => ["invalid schema " ++ path, error.message]
  | schema error => [error.message]

namespace Files

def document (files : Files) (path : String) : Except Problem Json :=
  match files path with
  | none => .error (.unreadable path)
  | some text => (Json.ofDocument (FileName.isYaml path) text).mapError (.document path)

def schema (files : Files) (path : String) : Except Problem Schema := do
  (Schema.ofJson (← files.document path)).mapError (.invalidSchema path)

end Files

end JsonSchema
