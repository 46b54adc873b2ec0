import JsonSchema.Json.Basic
import JsonSchema.Decimal.Binary

/-! # The types of values -/

namespace JsonSchema

/-- Every integer is also a number. -/
inductive InstanceType where
  | string
  | number
  | integer
  | boolean
  | object
  | array
  | null
deriving DecidableEq, Repr

/-- A number without a fraction: `1.0` is an integer as `1` is. -/
def Number.isInteger : Number → Bool
  | int _ _ => true
  | double f _ => Decimal.isIntegral f

def Json.isInteger : Json → Bool
  | number n => n.isInteger
  | _ => false

namespace InstanceType

def all : List InstanceType := [string, number, integer, boolean, object, array, null]

def name : InstanceType → String
  | string => "string"
  | number => "number"
  | integer => "integer"
  | boolean => "boolean"
  | object => "object"
  | array => "array"
  | null => "null"

def ofName? (s : String) : Option InstanceType := all.find? (·.name == s)

theorem ofName?_name (t : InstanceType) : ofName? t.name = some t := by cases t <;> decide

def accepts : InstanceType → Json → Bool
  | string, .string _ => true
  | number, .number _ => true
  | integer, v => v.isInteger
  | boolean, .bool _ => true
  | object, .object _ => true
  | array, .array _ => true
  | null, .null => true
  | _, _ => false

/-- The most special type of a value. -/
def ofValue : Json → InstanceType
  | .null => null
  | .bool _ => boolean
  | .number n => if n.isInteger then integer else number
  | .string _ => string
  | .array _ => array
  | .object _ => object

end InstanceType

end JsonSchema
