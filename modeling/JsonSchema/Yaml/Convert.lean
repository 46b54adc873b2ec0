import JsonSchema.Yaml.Value
import JsonSchema.Json.Printer

/-! # YAML values as JSON -/

namespace JsonSchema.Yaml

namespace Value

/-! ## Values as they are named in messages -/

/-- A double as a key: no number and the infinities have names. -/
def floatText (f : Float) : String :=
  if f.isNaN then ".nan"
  else if f.isFinite then Decimal.keyStyle.render f
  else if f < 0 then "-.inf" else ".inf"

/-- Four fillers of Korean syllables look like nothing. -/
def isFiller (c : Char) : Bool := [0x115F, 0x1160, 0x3164, 0xFFA0].contains c.toNat

/-- Not shown as they are: controls, unassigned characters, and blanks but the space. -/
def isShown (c : Char) : Bool :=
  c == ' ' ||
    !([.cc, .cf, .cs, .co, .cn, .zl, .zp, .zs].contains (Text.category c) ||
      Text.extendsGrapheme c || isFiller c)

def hexText (n : Nat) : String := String.ofList (Nat.toDigits 16 n)

def shownChar (c : Char) : String :=
  match c with
  | '\x00' => "\\0"
  | '\t' => "\\t"
  | '\r' => "\\r"
  | '\n' => "\\n"
  | '"' => "\\\""
  | '\\' => "\\\\"
  | c => if isShown c then c.toString else "\\u\x7b" ++ hexText c.toNat ++ "\x7d"

def quoted (s : String) : String := "\"" ++ String.join (s.toList.map shownChar) ++ "\""

/-- A scalar as a key of a mapping. -/
def keyText? : Value → Option String
  | bool b => some (toString b)
  | int n _ => some (toString n)
  | float f => some (floatText f)
  | string s => some (quoted s)
  | _ => none

mutual

/-- A value with the name of its kind. -/
def described : Value → String
  | null => "Null"
  | bool b => "Bool(" ++ toString b ++ ")"
  | int n _ => "Number(" ++ toString n ++ ")"
  | float f => "Number(" ++ floatText f ++ ")"
  | string s => "String(" ++ quoted s ++ ")"
  | sequence items => "Sequence [" ++ ", ".intercalate (describedItems items) ++ "]"
  | mapping entries => "Mapping \x7b" ++ ", ".intercalate (describedEntries entries) ++ "\x7d"
  | tagged tag v =>
    "TaggedValue \x7b tag: !" ++ tag ++ ", value: " ++ v.described ++ " \x7d"

def describedItems : List Value → List String
  | [] => []
  | v :: vs => v.described :: describedItems vs

def describedEntries : List (Value × Value) → List String
  | [] => []
  | (k, v) :: es =>
    ((match keyText? k with
      | some text => text
      | none => k.described) ++ ": " ++ v.described) :: describedEntries es

end

/-! ## Conversion -/

/-- Why a value has no JSON form. -/
inductive ConversionError where
  | notFinite (value : Float)
  | unsupportedKey (key : Value)

def ConversionError.message : ConversionError → String
  | notFinite f => "cannot represent float " ++ Decimal.plainText f ++ " in JSON"
  | unsupportedKey key => "unsupported YAML map key: " ++ key.described

/-- Texts are keys as they are, and numbers and truth values by their texts. -/
def keyOf? : Value → Option String
  | string s => some s
  | int n _ => some (toString n)
  | float f => some (floatText f)
  | bool b => some (toString b)
  | _ => none

mutual

/-- The value without its tags. Of keys with the same text the last counts. -/
def toJson : Value → Except ConversionError Json
  | null => .ok .null
  | bool b => .ok (.bool b)
  | int n h => .ok (.number (.int n h))
  | float f =>
    match Number.ofFloat? f with
    | some n => .ok (.number n)
    | none => .error (.notFinite f)
  | string s => .ok (.string s)
  | sequence items => (itemsToJson items).map .array
  | mapping entries => (entriesToJson entries).map fun ms => .object (Members.ofList ms)
  | tagged _ v => v.toJson

def itemsToJson : List Value → Except ConversionError (List Json)
  | [] => .ok []
  | v :: vs => do
    let j ← v.toJson
    return j :: (← itemsToJson vs)

def entriesToJson : List (Value × Value) → Except ConversionError (List (String × Json))
  | [] => .ok []
  | (k, v) :: es =>
    match keyOf? k with
    | some key => do
      let j ← v.toJson
      return (key, j) :: (← entriesToJson es)
    | none => .error (.unsupportedKey k)

end

end Value

end JsonSchema.Yaml
