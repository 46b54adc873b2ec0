import JsonSchema.Yaml.Node
import JsonSchema.Json.Basic
import JsonSchema.Decimal.Numeral
import JsonSchema.Decimal.Style
import JsonSchema.Text.Category

/-! # The values of YAML -/

namespace JsonSchema.Yaml

inductive Value where
  | null
  | bool (value : Bool)
  | int (value : Int) (fits : FitsWord value)
  /-- Also no number and the infinities. -/
  | float (value : Float)
  | string (text : String)
  | sequence (items : List Value)
  | mapping (entries : List (Value × Value))
  | tagged (tag : String) (value : Value)

namespace Value

/-! ## Equality -/

mutual

/-- Keys are equal as values: no number equals itself, and entries may stand in any order. -/
def same : Value → Value → Bool
  | null, null => true
  | bool a, bool b => a == b
  | int a _, int b _ => a == b
  | float a, float b => (a.isNaN && b.isNaN) || a == b
  | string a, string b => a == b
  | sequence as, sequence bs => sameItems as bs
  | mapping as, mapping bs => as.length == bs.length && sameEntries as bs
  | tagged s a, tagged t b => s == t && same a b
  | _, _ => false

def sameItems : List Value → List Value → Bool
  | [], [] => true
  | a :: as, b :: bs => same a b && sameItems as bs
  | _, _ => false

/-- Each entry of the first mapping is in the second. -/
def sameEntries : List (Value × Value) → List (Value × Value) → Bool
  | [], _ => true
  | (k, v) :: es, others => others.any (fun e => same k e.1 && same v e.2) && sameEntries es others

end

/-! ## Plain scalars -/

/-- Digits of a number that a zero leads are text. -/
def isZeroLed (cs : List Char) : Bool :=
  let digits := match cs with
    | '-' :: rest | '+' :: rest => rest
    | _ => cs
  1 < digits.length && digits.head? == some '0' && digits.all Decimal.isDigit

def digitOf? (radix : Nat) (c : Char) : Option Nat := (Text.hexValue? c).filter (· < radix)

/-- The digits of a radix, at least one. -/
def readRadix? (radix : Nat) (cs : List Char) : Option Nat :=
  if cs.isEmpty then none
  else cs.foldlM (fun n c => (digitOf? radix c).map (radix * n + ·)) 0

/-- An unsigned integer: decimal, or with the mark of its radix. -/
def readNatural? : List Char → Option Nat
  | '0' :: 'x' :: cs => readRadix? 16 cs
  | '0' :: 'o' :: cs => readRadix? 8 cs
  | '0' :: 'b' :: cs => readRadix? 2 cs
  | cs => if isZeroLed cs then none else readRadix? 10 cs

/-- An integer with an optional sign. -/
def readInteger? : List Char → Option Int
  | '-' :: cs => (readNatural? cs).map fun n => -(n : Int)
  | '+' :: cs => (readNatural? cs).map Int.ofNat
  | cs => (readNatural? cs).map Int.ofNat

def readFloat? (cs : List Char) : Option Float :=
  match String.ofList cs with
  | ".inf" | ".Inf" | ".INF" | "+.inf" | "+.Inf" | "+.INF" => some (1.0 / 0.0)
  | "-.inf" | "-.Inf" | "-.INF" => some (-(1.0 / 0.0))
  | ".nan" | ".NaN" | ".NAN" => some (0.0 / 0.0)
  | _ => (Decimal.readDouble? cs).filter (·.isFinite)

/-- An integer of up to 128 bits has to fit a word; a larger one is a double. -/
def ofInteger? (n : Int) : Option (Option Value) :=
  if h : FitsWord n then some (some (int n h))
  else if -(Nat.pow 2 127 : Int) ≤ n ∧ n < Nat.pow 2 128 then none
  else some none

def isNullText (s : String) : Bool := ["", "~", "null", "Null", "NULL"].contains s

def boolOf? (s : String) : Option Bool :=
  if ["true", "True", "TRUE"].contains s then some true
  else if ["false", "False", "FALSE"].contains s then some false
  else none

/-- What a number that is no integer stands for: a double, or else the text. -/
def ofFloatText (s : String) : Value :=
  if isZeroLed s.toList then string s else ((readFloat? s.toList).map float).getD (string s)

/-- The value of a text without quotes. -/
def ofPlain? (s : String) : Option Value :=
  if isNullText s then some null
  else
    match boolOf? s, (readInteger? s.toList).map ofInteger? with
    | some b, _ => some (bool b)
    | none, some none => none
    | none, some (some (some v)) => some v
    | none, _ => some (ofFloatText s)

/-! ## Tagged scalars -/

def coreTag (name : String) : List UInt8 := Tag.bytes ("tag:yaml.org,2002:" ++ name).toList

/-- A tag that starts with a mark names an application's own type. -/
def isOwn (tag : List UInt8) : Bool := tag.head? == '!'.toUInt8

/-- The value of a scalar. A core tag decides for its type, and the text has to be of it. -/
def ofScalar? (tag : Option (List UInt8)) (text : String) (plain : Bool) : Option Value :=
  match tag with
  | none => if plain then ofPlain? text else some (string text)
  | some t =>
    if t = coreTag "bool" then (boolOf? text).map bool
    else if t = coreTag "int" then
      ((readInteger? text.toList).bind ofInteger?).bind id
    else if t = coreTag "float" then (readFloat? text.toList).map float
    else if t = coreTag "null" then
      if ["~", "null", "Null", "NULL"].contains text then some null else none
    else if isOwn t && plain then ofPlain? text
    else some (string text)

end Value

/-! ## Values of nodes -/

namespace Node

mutual

/-- The number of marks that describe the node. -/
def marks : Node → Nat
  | aliasOf _ => 1
  | scalar _ _ _ => 1
  | sequence _ items => 2 + marksOfItems items
  | mapping _ entries => 2 + marksOfEntries entries

def marksOfItems : List Node → Nat
  | [] => 0
  | n :: ns => n.marks + marksOfItems ns

def marksOfEntries : List (Node × Node) → Nat
  | [] => 0
  | (k, v) :: es => k.marks + v.marks + marksOfEntries es

end

def own (n : Node) : List (Nat × Node) := (n.properties.anchor.map (·, n)).toList

mutual

/-- The nodes with anchors, in the order of their starts. -/
def anchored : Node → List (Nat × Node)
  | aliasOf _ => []
  | scalar p text plain => own (scalar p text plain)
  | sequence p items => own (sequence p items) ++ anchoredItems items
  | mapping p entries => own (mapping p entries) ++ anchoredEntries entries

def anchoredItems : List Node → List (Nat × Node)
  | [] => []
  | n :: ns => n.anchored ++ anchoredItems ns

def anchoredEntries : List (Node × Node) → List (Nat × Node)
  | [] => []
  | (k, v) :: es => k.anchored ++ v.anchored ++ anchoredEntries es

end

end Node

/-- What aliases mean, and how often they may be used. -/
structure Aliases where
  nodes : List (Nat × Node)
  limit : Nat

namespace Aliases

/-- Of several nodes with one number the last counts. -/
def ofRoot (root : Node) : Aliases := ⟨root.anchored.reverse, 100 * root.marks⟩

/-- The node itself, or the node that it is an alias of, which counts as a use. -/
def follow? (a : Aliases) (used : Nat) : Node → Option (Node × Nat)
  | .aliasOf number =>
    if used < a.limit then (a.nodes.lookup number).map (·, used + 1) else none
  | n => some (n, used)

end Aliases

namespace Value

/-- Leaves out a mark in front, unless it is all there is. -/
def unmarked : List UInt8 → List UInt8
  | b :: c :: bs => if b = '!'.toUInt8 then c :: bs else b :: c :: bs
  | bs => bs

/-- The name of an application's own type, with up to two marks left out. Bytes that are no text
name nothing. -/
def ownTag? (tag : Option (List UInt8)) : Option String :=
  (tag.filter isOwn).bind fun t => String.fromUTF8? ⟨(unmarked (unmarked t)).toArray⟩

def wrap (tag? : Option String) (v : Value) : Value := tag?.elim v (tagged · v)

/-- Adds an entry whose key is new. -/
def addEntry? (entries : List (Value × Value)) (k v : Value) : Option (List (Value × Value)) :=
  if entries.any (same k ·.1) then none else some (entries ++ [(k, v)])

/-- The value of a node and the number of aliases used so far. Collections may be nested to a
depth. -/
def ofNode? (a : Aliases) : Nat → Node → Nat → Option (Value × Nat)
  | depth, n, used => do
    let (n, used) ← a.follow? used n
    let tag? := ownTag? n.properties.tag
    match depth, n with
    | _, .scalar p text plain =>
      let v ← ofScalar? (if tag?.isSome then none else p.tag) text plain
      return (wrap tag? v, used)
    | depth + 1, .sequence _ items =>
      let (vs, used) ← items.foldlM (fun (vs, used) item => do
        let (v, used) ← ofNode? a depth item used
        return (vs ++ [v], used)) ([], used)
      return (wrap tag? (sequence vs), used)
    | depth + 1, .mapping _ entries =>
      let (es, used) ← entries.foldlM (fun (es, used) e => do
        let (k, used) ← ofNode? a depth e.1 used
        let (v, used) ← ofNode? a depth e.2 used
        return (← addEntry? es k v, used)) ([], used)
      return (wrap tag? (mapping es), used)
    | _, _ => none

def maxDepth : Nat := 128

/-- The value of a text of one document. -/
def parse? (text : String) : Option Value := do
  let root ← Node.ofTokens? (← Token.ofText? text)
  return (← ofNode? (.ofRoot root) maxDepth root 0).1

end Value

end JsonSchema.Yaml
