import JsonSchema.Json.Basic
import JsonSchema.Decimal.Numeral
import JsonSchema.Text.Pieces

/-! # Pointers: paths through values and their text -/

namespace JsonSchema

/-- One step into a value: to a member by its name or to an item by its position. -/
inductive Segment where
  | key (name : String)
  | index (position : UInt64)
deriving DecidableEq, Repr

abbrev Path := List Segment

namespace Segment

/-- Before escaping. -/
def text : Segment → String
  | key name => name
  | index position => toString position.toNat

/-- A position that no word holds is named by its digits. -/
def ofPosition (i : Nat) : Segment :=
  if i < UInt64.size then index (UInt64.ofNat i) else key (toString i)

/-- The digits of a natural number in their only spelling: no zero leads. -/
def isCanonicalDecimal (cs : List Char) : Bool :=
  !cs.isEmpty && cs.all Decimal.isDigit && (cs == ['0'] || cs.head? != some '0')

/-- The canonical decimal of a word is a position, all else a key. -/
def ofText (name : String) : Segment :=
  let n := Decimal.digitsValue name.toList
  if isCanonicalDecimal name.toList ∧ n < UInt64.size then index (UInt64.ofNat n) else key name

/-- The position that the segment names in an array: zeros and a plus may lead. -/
def position? : Segment → Option Nat
  | index position => some position.toNat
  | key name =>
    match name.toList with
    | '+' :: digits => Decimal.readNat? digits
    | digits => Decimal.readNat? digits

end Segment

/-! ## Text -/

namespace Pointer

/-- Why a text is no pointer. -/
inductive Error where
  | missingLeadingSlash (pointer : String)
  | invalidEscape (segment : String)
deriving DecidableEq, Repr

def Error.message : Error → String
  | missingLeadingSlash pointer => "JSON pointer must be empty or start with '/': " ++ pointer
  | invalidEscape segment => "invalid escape sequence in JSON pointer: " ++ segment

def escape (cs : List Char) : List Char :=
  cs.flatMap fun c => if c = '~' then ['~', '0'] else if c = '/' then ['~', '1'] else [c]

/-- A tilde must be followed by `0` or `1`. -/
def unescape? : List Char → Option (List Char)
  | [] => some []
  | '~' :: '0' :: cs => (unescape? cs).map ('~' :: ·)
  | '~' :: '1' :: cs => (unescape? cs).map ('/' :: ·)
  | c :: cs => if c = '~' then none else (unescape? cs).map (c :: ·)

def renderChars (p : Path) : List Char := p.flatMap fun s => '/' :: escape s.text.toList

def render (p : Path) : String := String.ofList (renderChars p)

def parseSegment (piece : List Char) : Except Error Segment :=
  match unescape? piece with
  | some name => .ok (Segment.ofText (String.ofList name))
  | none => .error (.invalidEscape (String.ofList piece))

/-- One `#` may stand in front. -/
def dropHash : List Char → List Char
  | '#' :: cs => cs
  | cs => cs

def parse (pointer : String) : Except Error Path :=
  match dropHash pointer.toList with
  | [] => .ok []
  | '/' :: cs => (Text.pieces '/' cs).mapM parseSegment
  | cs => .error (.missingLeadingSlash (String.ofList cs))

end Pointer

/-! ## Lookup -/

namespace Json

def child? : Json → Segment → Option Json
  | object members, s => Members.get? members s.text
  | array items, s => s.position?.bind (items[·]?)
  | _, _ => none

def get? (v : Json) : Path → Option Json
  | [] => some v
  | s :: p => (v.child? s).bind (·.get? p)

end Json

end JsonSchema
