import JsonSchema.Json.Printer
import JsonSchema.Pointer

/-! # What can be wrong with a schema -/

namespace JsonSchema

/-- What a place of a schema document should have held. -/
inductive Expected where
  | schema (found : Json)
  | array
  | object
  | string
  | number
  | count
  | boolean
  | typeName
  | types

def Expected.message : Expected → String
  | schema found => "expected an object or boolean, found " ++ found.compact
  | array => "expected an array"
  | object => "expected an object"
  | string => "expected a string"
  | number => "expected a number"
  | count => "expected a non-negative integer"
  | boolean => "expected a boolean"
  | typeName => "type names must be strings"
  | types => "expected a type name or a list of type names"

/-- Problems of the schema or of its use. What is wrong with a value is never one of them. -/
inductive SchemaError where
  | unknownType (name : String)
  | invalidSchema (location : Path) (expected : Expected)
  | invalidPattern (pattern : String)
  | invalidMultipleOf (divisor value : Float)
  | unresolvedRef (reference : String)
  | unsupported (feature : String)
  | recursionLimit (limit : Nat)
  | notAnObject (operation : String)

def SchemaError.message : SchemaError → String
  | unknownType name => "unknown type: " ++ name
  | invalidSchema location expected =>
    "invalid schema at '" ++ Pointer.render location ++ "': " ++ expected.message
  | invalidPattern pattern => "invalid pattern '" ++ pattern ++ "'"
  | invalidMultipleOf divisor value =>
    "multipleOf must be a positive finite number (multipleOf: " ++ Decimal.plainText divisor
      ++ ", value: " ++ Decimal.plainText value ++ ")"
  | unresolvedRef reference => "no schema found for $ref '" ++ reference ++ "'"
  | unsupported feature => feature ++ " not implemented"
  | recursionLimit limit => "$ref resolution exceeded the maximum depth of " ++ toString limit
  | notAnObject operation => "operation '" ++ operation ++ "' requires an object schema"

end JsonSchema
