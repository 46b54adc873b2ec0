import JsonSchema.Json.InstanceType
import JsonSchema.Pointer
import JsonSchema.Regex.Reader

/-! # The keywords of a schema -/

namespace JsonSchema

/-- The place of a node in its schema. -/
abbrev NodeId := Nat

/-! ## Names -/

/-- Keywords with a limit on a length or a count. -/
inductive Count where
  | minLength
  | maxLength
  | minProperties
  | maxProperties
  | minItems
  | maxItems
  | minContains
  | maxContains
deriving DecidableEq, Repr

namespace Count

def all : List Count :=
  [minLength, maxLength, minProperties, maxProperties, minItems, maxItems, minContains, maxContains]

def name : Count → String
  | minLength => "minLength"
  | maxLength => "maxLength"
  | minProperties => "minProperties"
  | maxProperties => "maxProperties"
  | minItems => "minItems"
  | maxItems => "maxItems"
  | minContains => "minContains"
  | maxContains => "maxContains"

def ofName? (s : String) : Option Count := all.find? (·.name == s)

end Count

/-- Keywords with a limit on a number. -/
inductive Bound where
  | minimum
  | maximum
  | exclusiveMinimum
  | exclusiveMaximum
deriving DecidableEq, Repr

namespace Bound

def all : List Bound := [minimum, maximum, exclusiveMinimum, exclusiveMaximum]

def name : Bound → String
  | minimum => "minimum"
  | maximum => "maximum"
  | exclusiveMinimum => "exclusiveMinimum"
  | exclusiveMaximum => "exclusiveMaximum"

def ofName? (s : String) : Option Bound := all.find? (·.name == s)

/-- Doubles are compared; no number is above or below no number. -/
def admits (b : Bound) (limit x : Float) : Bool :=
  match b with
  | minimum => limit ≤ x
  | maximum => x ≤ limit
  | exclusiveMinimum => limit < x
  | exclusiveMaximum => x < limit

end Bound

/-- Keywords that hold one schema. -/
inductive Slot where
  | negated
  | condition
  | consequent
  | alternative
  | items
  | contains
  | additionalProperties
  | propertyNames
deriving DecidableEq, Repr

namespace Slot

def all : List Slot :=
  [negated, condition, consequent, alternative, items, contains, additionalProperties, propertyNames]

def name : Slot → String
  | negated => "not"
  | condition => "if"
  | consequent => "then"
  | alternative => "else"
  | items => "items"
  | contains => "contains"
  | additionalProperties => "additionalProperties"
  | propertyNames => "propertyNames"

def ofName? (s : String) : Option Slot := all.find? (·.name == s)

end Slot

/-- Keywords that hold a list of schemas. -/
inductive ListSlot where
  | allOf
  | anyOf
  | oneOf
  | prefixItems
deriving DecidableEq, Repr

namespace ListSlot

def all : List ListSlot := [allOf, anyOf, oneOf, prefixItems]

def name : ListSlot → String
  | allOf => "allOf"
  | anyOf => "anyOf"
  | oneOf => "oneOf"
  | prefixItems => "prefixItems"

def ofName? (s : String) : Option ListSlot := all.find? (·.name == s)

end ListSlot

/-- Keywords that hold schemas under keys. -/
inductive KeyedSlot where
  | properties
  | dependentSchemas
  | defs
deriving DecidableEq, Repr

namespace KeyedSlot

def all : List KeyedSlot := [properties, dependentSchemas, defs]

def name : KeyedSlot → String
  | properties => "properties"
  | dependentSchemas => "dependentSchemas"
  | defs => "$defs"

def ofName? (s : String) : Option KeyedSlot := all.find? (·.name == s)

end KeyedSlot

/-! ## Keywords -/

/-- A keyword that holds no schema. -/
inductive Leaf where
  | types (types : List InstanceType)
  | const (value : Json)
  | enum (options : List Json)
  | default (value : Json)
  | count (which : Count) (limit : UInt64)
  | bound (which : Bound) (limit : Float)
  | multipleOf (divisor : Float)
  | pattern (pattern : Pattern)
  | format (name : String)
  | uniqueItems (unique : Bool)
  | required (keys : List String)
  | dependentRequired (entries : List (String × List String))
  | ref (reference : String)
  | id (id : String)
  /-- A keyword that is carried along without a meaning. -/
  | note (name : String) (value : Json)

def Leaf.name : Leaf → String
  | types _ => "type"
  | const _ => "const"
  | enum _ => "enum"
  | default _ => "default"
  | count which _ => which.name
  | bound which _ => which.name
  | multipleOf _ => "multipleOf"
  | pattern _ => "pattern"
  | format _ => "format"
  | uniqueItems _ => "uniqueItems"
  | required _ => "required"
  | dependentRequired _ => "dependentRequired"
  | ref _ => "$ref"
  | id _ => "$id"
  | note name _ => name

/-- Schemas are held by the places of their nodes. -/
inductive Keyword where
  | leaf (leaf : Leaf)
  | single (slot : Slot) (child : NodeId)
  | listed (slot : ListSlot) (children : List NodeId)
  | keyed (slot : KeyedSlot) (entries : List (String × NodeId))
  | patternProperties (entries : List (Pattern × NodeId))

namespace Keyword

def name : Keyword → String
  | leaf l => l.name
  | single slot _ => slot.name
  | listed slot _ => slot.name
  | keyed slot _ => slot.name
  | patternProperties _ => "patternProperties"

/-- Nodes under their positions, from a position on. -/
def positioned (name : String) (i : Nat) : List NodeId → List (Path × NodeId)
  | [] => []
  | child :: children => ([.key name, .ofPosition i], child) :: positioned name (i + 1) children

/-- The schemas of the keyword, each with the way to it from the keyword's owner. -/
def children (k : Keyword) : List (Path × NodeId) :=
  match k with
  | leaf _ => []
  | single _ child => [([.key k.name], child)]
  | listed _ children => positioned k.name 0 children
  | keyed _ entries => entries.map fun e => ([.key k.name, .key e.1], e.2)
  | patternProperties entries => entries.map fun e => ([.key k.name, .key e.1.source], e.2)

def mapIds (f : NodeId → NodeId) : Keyword → Keyword
  | leaf l => leaf l
  | single slot child => single slot (f child)
  | listed slot children => listed slot (children.map f)
  | keyed slot entries => keyed slot (entries.map fun e => (e.1, f e.2))
  | patternProperties entries => patternProperties (entries.map fun e => (e.1, f e.2))

theorem name_mapIds (f : NodeId → NodeId) (k : Keyword) : (k.mapIds f).name = k.name := by
  cases k <;> rfl

theorem positioned_map (f : NodeId → NodeId) (name : String) (i : Nat) (ids : List NodeId) :
    positioned name i (ids.map f) = (positioned name i ids).map fun e => (e.1, f e.2) := by
  induction ids generalizing i with
  | nil => rfl
  | cons id ids ih => simp [positioned, ih]

theorem children_mapIds (f : NodeId → NodeId) (k : Keyword) :
    (k.mapIds f).children = k.children.map fun e => (e.1, f e.2) := by
  cases k <;> simp [mapIds, children, name, positioned_map]

end Keyword

end JsonSchema
