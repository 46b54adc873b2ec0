import JsonSchema.Schema.Edit

/-! # Reading a schema from its document -/

namespace JsonSchema

namespace Loader

def invalid (path : Path) (expected : Expected) : Except SchemaError α :=
  .error (.invalidSchema path expected)

/-! ## Keywords without schemas -/

def typeNamed (name : String) : Except SchemaError InstanceType :=
  match InstanceType.ofName? name with
  | some t => .ok t
  | none => .error (.unknownType name)

def readTypes (path : Path) : Json → Except SchemaError (List InstanceType)
  | .string name => (typeNamed name).map ([·])
  | .array items => items.mapM fun
    | .string name => typeNamed name
    | _ => invalid path .typeName
  | _ => invalid path .types

def readArray (path : Path) (v : Json) : Except SchemaError (List Json) :=
  v.asArray?.elim (invalid path .array) .ok

def readObject (path : Path) (v : Json) : Except SchemaError Members :=
  v.asObject?.elim (invalid path .object) .ok

def readString (path : Path) (v : Json) : Except SchemaError String :=
  v.asString?.elim (invalid path .string) .ok

def readNumber (path : Path) (v : Json) : Except SchemaError Float :=
  v.asFloat?.elim (invalid path .number) .ok

def readBool (path : Path) (v : Json) : Except SchemaError Bool :=
  v.asBool?.elim (invalid path .boolean) .ok

def readStrings (path : Path) (v : Json) : Except SchemaError (List String) := do
  (← readArray path v).mapM (readString path)

/-- An integer that is not negative; an integral double above the words counts as the largest. -/
def countOf? : Json → Option UInt64
  | .number (.int n _) => if 0 ≤ n then some (UInt64.ofNat n.toNat) else none
  | .number (.double f _) =>
    if 0.0 ≤ f && Decimal.isIntegral f then
      some (UInt64.ofNat (min (Decimal.truncate f).toNat (UInt64.size - 1)))
    else none
  | _ => none

def readCount (path : Path) (v : Json) : Except SchemaError UInt64 :=
  (countOf? v).elim (invalid path .count) .ok

def readDependents (path : Path) (v : Json) : Except SchemaError (List (String × List String)) := do
  (← readObject path v).mapM fun e => do
    return (e.1, ← readStrings (path ++ [.key e.1]) e.2)

/-- A name without a meaning makes a note. -/
def readLeaf (path : Path) (name : String) (v : Json) : Except SchemaError Leaf :=
  match name with
  | "type" => (readTypes path v).map .types
  | "const" => .ok (.const v)
  | "default" => .ok (.default v)
  | "enum" => (readArray path v).map .enum
  | "multipleOf" => (readNumber path v).map .multipleOf
  | "pattern" => do return .pattern (← Schema.compile (← readString path v))
  | "format" => (readString path v).map .format
  | "$ref" => (readString path v).map .ref
  | "$id" => (readString path v).map .id
  | "uniqueItems" => (readBool path v).map .uniqueItems
  | "required" => (readStrings path v).map .required
  | "dependentRequired" => (readDependents path v).map .dependentRequired
  | _ =>
    match Count.ofName? name, Bound.ofName? name with
    | some which, _ => (readCount path v).map (.count which)
    | none, some which => (readNumber path v).map (.bound which)
    | none, none => .ok (.note name v)

/-! ## Nodes -/

/-- A single type decides; without a type alternatives do. -/
def kindOf (ms : Members) : Except SchemaError Kind :=
  match ms.get? "type" with
  | some (.string name) => (typeNamed name).map .ofType
  | some (.array [.string name]) => (typeNamed name).map .ofType
  | some _ => .ok .any
  | none => .ok (if ms.hasKey "anyOf" || ms.hasKey "oneOf" then .union else .any)

/-- Properties that are not required are optional. -/
def markOptional (s : Schema) : Schema :=
  match s.node? Schema.root with
  | none => s
  | some node =>
    let required := node.required?.getD []
    (node.properties.filter fun e => !required.contains e.1).foldl
      (fun s e => s.modify e.2 fun n => { n with optional := true }) s

/-- What a keyword's value holds. -/
inductive Role where
  | single (slot : Slot)
  | listed (slot : ListSlot)
  | keyed (slot : KeyedSlot)
  | patterns
  | leaf

def roleOf (name : String) : Role :=
  match Slot.ofName? name, ListSlot.ofName? name, KeyedSlot.ofName? name with
  | some slot, _, _ => .single slot
  | none, some slot, _ => .listed slot
  | none, none, some slot => .keyed slot
  | none, none, none => if name = "patternProperties" then .patterns else .leaf

mutual

/-- The schema of the document at the path. -/
def load (path : Path) : Json → Except SchemaError Schema
  | .bool accepts => .ok (.ofNode (.ofKind (.constant accepts)))
  | .object ms => do
    let kind ← kindOf ms
    let s ← loadMembers path (.ofNode (.ofKind kind)) ms
    return markOptional s
  | v => invalid path (.schema v)

/-- The schema with one more keyword for each member. -/
def loadMembers (path : Path) (s : Schema) : List (String × Json) → Except SchemaError Schema
  | [] => .ok s
  | (name, v) :: ms => do
    let place := path ++ [.key name]
    let s ← match roleOf name with
      | .single slot => (load place v).map (s.setSingle slot)
      | .listed slot =>
        match v with
        | .array items => (loadItems place 0 items).map (s.setListed slot)
        | _ => invalid place .array
      | .keyed slot =>
        match v with
        | .object entries => (loadEntries place entries).map (s.setKeyed slot)
        | _ => invalid place .object
      | .patterns =>
        match v with
        | .object entries => do s.setPatterns (← loadEntries place entries)
        | _ => invalid place .object
      | .leaf => (readLeaf place name v).map s.setLeaf
    loadMembers path s ms

def loadItems (path : Path) (i : Nat) : List Json → Except SchemaError (List Schema)
  | [] => .ok []
  | v :: vs => do
    let child ← load (path ++ [.ofPosition i]) v
    return child :: (← loadItems path (i + 1) vs)

def loadEntries (path : Path) : List (String × Json) → Except SchemaError (List (String × Schema))
  | [] => .ok []
  | (key, v) :: ms => do
    let child ← load (path ++ [.key key]) v
    return (key, child) :: (← loadEntries path ms)

end

end Loader

/-- The schema that the document describes, or the first thing that is wrong with it. -/
def Schema.ofJson (document : Json) : Except SchemaError Schema := Loader.load [] document

end JsonSchema
