import JsonSchema.Schema.Hooks
import JsonSchema.Schema.Loader

/-! # Building schemas from expressions -/

namespace JsonSchema

namespace Schema

/-! ## Combinators -/

def ofKind (kind : Kind) : Schema := ofNode (.ofKind kind)

def typed (t : InstanceType) : Schema := ofNode (.typed t)

def any : Schema := ofKind .any

/-- Which members an object may have and must have. -/
inductive Shape where
  /-- All properties that are not optional, and any others. -/
  | plain
  /-- All properties that are not optional, and no others. -/
  | closed
  /-- No property has to be there. -/
  | loose
deriving DecidableEq, Repr

def object (shape : Shape) (properties : List (String × Schema)) : Schema :=
  let s := ((typed .object).setKeyed .properties properties).syncRequired root
  match shape with
  | .plain => s
  | .closed => s.close
  | .loose => s.loosen

def array (items : Schema) : Schema := (typed .array).setSingle .items items

def composed (kind : Kind) (slot : ListSlot) (parts : List Schema) : Schema :=
  (ofKind kind).setListed slot parts

def anyOf (parts : List Schema) : Schema := composed .union .anyOf parts

def oneOf (parts : List Schema) : Schema := composed .union .oneOf parts

def allOf (parts : List Schema) : Schema := composed .any .allOf parts

def negated (s : Schema) : Schema := any.setSingle .negated s

def literal (value : Json) : Schema := any.setLeaf (.const value)

/-- A text that is always the same: coercion and templates produce it. -/
def stringConst (text : String) : Schema :=
  ((((typed .string).setLeaf (.const (.string text))).setLeaf (.default (.string text))).setLeaf
    (.note "readOnly" (.bool true))).modifyRoot fun n =>
      { n with hooks := { n.hooks with coerce := some (Hooks.constant (.string text)) } }

def reference (pointer : String) : Schema := any.setLeaf (.ref pointer)

/-! ## Recursion -/

def placeholder (token : Nat) : Schema := ofKind (.hole token)

/-- The placeholders become links to the whole; a whole that is itself one says nothing. -/
def tie (s : Schema) (token : Nat) : Schema :=
  let patched := if s.kind? root = some (.hole token) then .any else .link root
  ⟨s.nodes.map fun n => if n.kind = .hole token then { n with kind := patched } else n⟩

end Schema

/-! ## Expressions -/

/-- How a schema is put together. -/
inductive Expr where
  | any
  | constant (accepts : Bool)
  | typed (t : InstanceType)
  | object (shape : Schema.Shape) (properties : List (String × Expr))
  | array (items : Expr)
  | anyOf (parts : List Expr)
  | oneOf (parts : List Expr)
  | allOf (parts : List Expr)
  | negated (of_ : Expr)
  | literal (value : Json)
  | stringConst (text : String)
  | reference (pointer : String)
  | document (document : Json)
  /-- A schema that contains itself under a name. -/
  | recursive (name : String) (body : Expr)
  | this (name : String)
  | edited (base : Expr) (edits : List (Edit Expr))

namespace Expr

mutual

/-- The schema, where names stand for other schemas. -/
def buildIn (scope : List (String × Schema)) : Expr → Except SchemaError Schema
  | any => .ok .any
  | constant accepts => .ok (.ofKind (.constant accepts))
  | typed t => .ok (.typed t)
  | object shape properties => do return .object shape (← buildEntries scope properties)
  | array items => do return .array (← buildIn scope items)
  | anyOf parts => do return .anyOf (← buildList scope parts)
  | oneOf parts => do return .oneOf (← buildList scope parts)
  | allOf parts => do return .allOf (← buildList scope parts)
  | negated of_ => do return .negated (← buildIn scope of_)
  | literal value => .ok (.literal value)
  | stringConst text => .ok (.stringConst text)
  | reference r => .ok (.reference r)
  | document d => Schema.ofJson d
  | recursive name body => do
    let token := scope.length
    return (← buildIn ((name, .placeholder token) :: scope) body).tie token
  | this name => .ok ((scope.lookup name).getD (.placeholder scope.length))
  | edited base edits => do buildEdits scope (← buildIn scope base) edits

def buildList (scope : List (String × Schema)) : List Expr → Except SchemaError (List Schema)
  | [] => .ok []
  | e :: es => do
    let s ← buildIn scope e
    return s :: (← buildList scope es)

def buildEntries (scope : List (String × Schema)) :
    List (String × Expr) → Except SchemaError (List (String × Schema))
  | [] => .ok []
  | (key, e) :: es => do
    let s ← buildIn scope e
    return (key, s) :: (← buildEntries scope es)

def buildOption (scope : List (String × Schema)) : Option Expr → Except SchemaError (Option Schema)
  | none => .ok none
  | some e => do return some (← buildIn scope e)

/-- The edits applied one after the other. -/
def buildEdits (scope : List (String × Schema)) (s : Schema) :
    List (Edit Expr) → Except SchemaError Schema
  | [] => .ok s
  | e :: es => do
    let s ← s.apply (← buildEdit scope e)
    buildEdits scope s es

/-- The edit with its expressions built. -/
def buildEdit (scope : List (String × Schema)) : Edit Expr → Except SchemaError (Edit Schema)
  | .keyword leaf => .ok (.keyword leaf)
  | .const value => .ok (.const value)
  | .enum options => .ok (.enum options)
  | .default value => .ok (.default value)
  | .note name value => .ok (.note name value)
  | .id id => .ok (.id id)
  | .ref r => .ok (.ref r)
  | .count which limit => .ok (.count which limit)
  | .bound which limit => .ok (.bound which limit)
  | .multipleOf divisor => .ok (.multipleOf divisor)
  | .pattern source => .ok (.pattern source)
  | .format name => .ok (.format name)
  | .uniqueItems unique => .ok (.uniqueItems unique)
  | .dependentRequired entries => .ok (.dependentRequired entries)
  | .single slot child => do return .single slot (← buildIn scope child)
  | .prefixItems children => do return .prefixItems (← buildList scope children)
  | .patternProperties entries => do return .patternProperties (← buildEntries scope entries)
  | .dependentSchemas entries => do return .dependentSchemas (← buildEntries scope entries)
  | .branches condition consequent alternative => do
    let condition ← buildIn scope condition
    let consequent ← buildOption scope consequent
    let alternative ← buildOption scope alternative
    return .branches condition consequent alternative
  | .validateHook hook => .ok (.validateHook hook)
  | .coerceHook hook => .ok (.coerceHook hook)
  | .templateHook hook => .ok (.templateHook hook)
  | .optional => .ok .optional
  | .strict => .ok .strict
  | .partialObject => .ok .partialObject

end

/-- A name without a schema around it stays a placeholder. -/
def build (e : Expr) : Except SchemaError Schema := buildIn [] e

end Expr

end JsonSchema
