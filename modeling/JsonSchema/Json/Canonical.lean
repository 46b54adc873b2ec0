import JsonSchema.Json.Printer
import JsonSchema.Text.Composed

/-! # Canonical text: when two values are the same -/

namespace JsonSchema

/-! ## Numbers -/

/-- The integers that doubles hold exactly, up to this magnitude. -/
def maxExact : Float := 9007199254740991.0

namespace Number

/-- An integral double of exact magnitude becomes an integer. -/
def normalize : Number → Number
  | int n h => int n h
  | double f h =>
    if Decimal.isIntegral f && f.abs ≤ maxExact then
      (ofInt? (Decimal.truncate f)).getD (double f h)
    else double f h

/-- The number for a double, as an integer where its magnitude is exact. -/
def ofDouble? (f : Float) : Option Number :=
  if Decimal.isIntegral f && f.abs < 9007199254740992.0 then ofInt? (Decimal.truncate f)
  else ofFloat? f

end Number

namespace Json

/-! ## Normal form -/

mutual

/-- Composed strings, integers for integral doubles, and members in the order of their keys. When
two keys compose to one, the value of the later key counts. -/
def normalize : Json → Json
  | number n => number n.normalize
  | string s => string (composedString s)
  | array items => array (normalizeItems items)
  | object members =>
    object (Members.ofList
      (((normalizeMembers members).mergeSort fun a b => decide (a.1 ≤ b.1)).map
        fun e => (composedString e.1, e.2)))
  | v => v

def normalizeItems : List Json → List Json
  | [] => []
  | v :: vs => v.normalize :: normalizeItems vs

def normalizeMembers : List (String × Json) → List (String × Json)
  | [] => []
  | (k, v) :: ms => (k, v.normalize) :: normalizeMembers ms

end

/-! ## Text -/

mutual

/-- Text of a normal form: members in the order of their quoted keys, numbers in their own style. -/
def sortedText : Json → String
  | number n => n.text Decimal.canonicalStyle
  | array items => "[" ++ ",".intercalate (sortedItems items) ++ "]"
  | object members =>
    "\x7b" ++ ",".intercalate
      (((sortedMembers members).mergeSort fun a b => decide (a.1 ≤ b.1)).map
        fun e => e.1 ++ ":" ++ e.2) ++ "\x7d"
  | v => v.scalarText

def sortedItems : List Json → List String
  | [] => []
  | v :: vs => v.sortedText :: sortedItems vs

/-- The quoted key and the text of the value. -/
def sortedMembers : List (String × Json) → List (String × String)
  | [] => []
  | (k, v) :: ms => (quote k, v.sortedText) :: sortedMembers ms

end

/-- Two values are the same for a schema exactly if these texts are equal. -/
def canonical (v : Json) : String := v.normalize.sortedText

def same (a b : Json) : Bool := a.canonical == b.canonical

end Json

end JsonSchema
