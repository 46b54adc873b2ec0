import JsonSchema.Schema.Keyword
import JsonSchema.Json.Canonical

/-! # What is wrong with a value, and where -/

namespace JsonSchema

/-! ## Causes -/

/-- Why a value does not satisfy a schema. -/
inductive Complaint where
  | alwaysFails
  | notOfType (types : List InstanceType)
  | notConst (expected : Json)
  | notInEnum (options : List Json)
  | notAllMatch
  | noneMatches
  | notExactlyOneMatches
  | matchesNegated
  | shortString (limit : UInt64)
  | longString (limit : UInt64)
  | noPatternMatch (source : String)
  | notInFormat (name : String)
  | outOfBound (which : Bound) (limit : Float)
  | notMultiple (divisor : Float)
  | missingRequired (keys : List String)
  | unknownProperties
  | fewProperties (limit : UInt64)
  | manyProperties (limit : UInt64)
  | missingDependent (key : String)
  | fewItems (limit : UInt64)
  | manyItems (limit : UInt64)
  | repeatedItems
  | fewContained (limit found : UInt64)
  | manyContained (limit found : UInt64)
  /-- A hook's own words. -/
  | custom (text : String)

namespace Complaint

def relation : Bound → String
  | .minimum => "greater than or equal to"
  | .maximum => "less than or equal to"
  | .exclusiveMinimum => "greater than"
  | .exclusiveMaximum => "less than"

def countText (n : UInt64) : String := toString n.toNat

def message : Complaint → String
  | alwaysFails => "Always fails"
  | notOfType [t] => "Expected " ++ t.name
  | notOfType types => "Expected one of: " ++ ", ".intercalate (types.map (·.name))
  | notConst expected => "Expected const: " ++ expected.canonical
  | notInEnum options => "Expected enum: " ++ (Json.array options).canonical
  | notAllMatch => "Expected all to match"
  | noneMatches => "Expected at least one to match"
  | notExactlyOneMatches => "Expected exactly one to match"
  | matchesNegated => "Expected not to match"
  | shortString limit => "Expected string with minimum length of " ++ countText limit
  | longString limit => "Expected string with maximum length of " ++ countText limit
  | noPatternMatch source => "Expected string matching pattern " ++ source
  | notInFormat name => "Expected string matching format " ++ name
  | outOfBound which limit =>
    "Expected number " ++ relation which ++ " " ++ Decimal.displayText limit
  | notMultiple divisor => "Expected number being a multiple of " ++ Decimal.displayText divisor
  | missingRequired keys => "Expected object with required properties " ++ ", ".intercalate keys
  | unknownProperties => "Additional properties are not allowed"
  | fewProperties limit => "Expected object with at least " ++ countText limit ++ " properties"
  | manyProperties limit => "Expected object with at most " ++ countText limit ++ " properties"
  | missingDependent key => "Expected dependent required property " ++ key
  | fewItems limit => "Expected array with at least " ++ countText limit ++ " items"
  | manyItems limit => "Expected array with at most " ++ countText limit ++ " items"
  | repeatedItems => "Expected array with unique items"
  | fewContained limit found =>
    "Expected array to contain at least " ++ countText limit ++ ", but found " ++ countText found
  | manyContained limit found =>
    "Expected array to contain at most " ++ countText limit ++ ", but found " ++ countText found
  | custom text => text

end Complaint

/-! ## Failures -/

/-- One failure of a value: the keyword that fails and the place of the value it fails on. -/
structure Failure where
  keywordPath : Path
  instancePath : Path
  complaint : Complaint
  data : Option Json

namespace Failure

def keywordLocation (f : Failure) : String := Pointer.render f.keywordPath

def instanceLocation (f : Failure) : String := Pointer.render f.instancePath

def message (f : Failure) : String := f.complaint.message

/-- One line; the whole value is at `/`. -/
def display (f : Failure) : String :=
  let place := f.instanceLocation
  f.message ++ " at " ++ (if place.isEmpty then "/" else place) ++ " (" ++ f.keywordLocation ++ ")"

/-- The path that the location reads as: keys that are positions by their text become positions. -/
def issuePath (f : Failure) : Path :=
  match Pointer.parse f.instanceLocation with
  | .ok path => path
  | .error _ => []

end Failure

/-! ## Places -/

/-- The place that is judged: in the schema and in the value. -/
structure Location where
  keywordPath : Path
  instancePath : Path
deriving DecidableEq

namespace Location

def root : Location := ⟨[], []⟩

def descend (l : Location) (keywords instances : Path) : Location :=
  ⟨l.keywordPath ++ keywords, l.instancePath ++ instances⟩

/-- A failure of the named keyword, or of the schema itself. -/
def failure (l : Location) (keyword : Option String) (complaint : Complaint) (data : Option Json) :
    Failure :=
  ⟨l.keywordPath ++ (keyword.map Segment.key).toList, l.instancePath, complaint, data⟩

end Location

/-! ## Verdicts -/

/-- The judgement on a value. -/
structure Verdict where
  valid : Bool
  failures : List Failure

namespace Verdict

def success : Verdict := ⟨true, []⟩

/-- A value without failures is valid. -/
def ofFailures (failures : List Failure) : Verdict := ⟨failures.isEmpty, failures⟩

end Verdict

end JsonSchema
