import JsonSchema.Schema.Failure
import JsonSchema.Error

/-! # Schemas: trees of nodes in one array -/

namespace JsonSchema

/-! ## Nodes -/

/-- What a node is, which decides how values are coerced and filled in. -/
inductive Kind where
  | any
  | string
  | number
  | integer
  | boolean
  | null
  | object
  | array
  /-- Alternatives without a type. -/
  | union
  /-- The schema that every value or no value satisfies. -/
  | constant (accepts : Bool)
  /-- Stands for another node of the same schema. -/
  | link (target : NodeId)
  /-- Stands for a schema that is still being built. -/
  | hole (token : Nat)
deriving DecidableEq, Repr

namespace Kind

def ofType : InstanceType → Kind
  | .string => string
  | .number => number
  | .integer => integer
  | .boolean => boolean
  | .object => object
  | .array => array
  | .null => null

def label : Kind → String
  | any => "any"
  | string => "string"
  | number => "number"
  | integer => "integer"
  | boolean => "boolean"
  | null => "null"
  | object => "object"
  | array => "array"
  | union => "union"
  | constant true => "true"
  | constant false => "false"
  | link _ => "link"
  | hole _ => "link"

def mapIds (f : NodeId → NodeId) : Kind → Kind
  | link target => link (f target)
  | k => k

end Kind

structure CoerceOptions where
  /-- Members that the schema does not declare are left out. -/
  dropUnknown : Bool := false
deriving DecidableEq

structure TemplateOptions where
  withOptional : Bool := false
  /-- An enumeration offers its first option, and empty objects are kept. -/
  withExtendedOptional : Bool := false
deriving DecidableEq

/-- Functions of the user that stand in for what a node would do. -/
structure Hooks where
  /-- Asked before the keywords; a rejection is final. -/
  validate : Option (Json → Location → Verdict) := none
  /-- Replaces the coercion. -/
  coerce : Option (CoerceOptions → Json → Json) := none
  /-- May replace the value that was chosen. -/
  template : Option (TemplateOptions → Option Json → Option Json) := none

/-- Keywords stand in the order in which they were declared, and no two have the same name. -/
structure Node where
  kind : Kind
  keywords : List Keyword := []
  /-- As a property the node may be absent. -/
  optional : Bool := false
  hooks : Hooks := {}

namespace Node

def ofKind (kind : Kind) : Node := { kind }

/-- A node of one type that says so. -/
def typed (t : InstanceType) : Node :=
  { kind := .ofType t, keywords := [.leaf (.types [t])] }

/-! ### Keywords -/

def declares (n : Node) (name : String) : Bool := n.keywords.any (·.name == name)

/-- The first keyword that has a part of the wanted form. -/
def find? (n : Node) (part? : Keyword → Option α) : Option α := n.keywords.findSome? part?

def single? (n : Node) (slot : Slot) : Option NodeId :=
  n.find? fun
    | .single s child => if s = slot then some child else none
    | _ => none

def properties (n : Node) : List (String × NodeId) :=
  (n.find? fun
    | .keyed .properties entries => some entries
    | _ => none).getD []

def prefixItems (n : Node) : List NodeId :=
  (n.find? fun
    | .listed .prefixItems ids => some ids
    | _ => none).getD []

def patterns (n : Node) : List Pattern :=
  (n.find? fun
    | .patternProperties entries => some (entries.map (·.1))
    | _ => none).getD []

def count? (n : Node) (which : Count) : Option UInt64 :=
  n.find? fun
    | .leaf (.count c limit) => if c = which then some limit else none
    | _ => none

def const? (n : Node) : Option Json :=
  n.find? fun
    | .leaf (.const value) => some value
    | _ => none

def default? (n : Node) : Option Json :=
  n.find? fun
    | .leaf (.default value) => some value
    | _ => none

def enum? (n : Node) : Option (List Json) :=
  n.find? fun
    | .leaf (.enum options) => some options
    | _ => none

def required? (n : Node) : Option (List String) :=
  n.find? fun
    | .leaf (.required keys) => some keys
    | _ => none

def reference? (n : Node) : Option String :=
  n.find? fun
    | .leaf (.ref reference) => some reference
    | _ => none

def id? (n : Node) : Option String :=
  n.find? fun
    | .leaf (.id id) => some id
    | _ => none

/-- The key is neither declared as a property nor matched by a pattern. -/
def isExtra (n : Node) (key : String) : Bool :=
  !(n.properties.any (·.1 == key)) && !(n.patterns.any (·.occursIn key))

/-- All schemas that the node holds, with the ways to them. -/
def children (n : Node) : List (Path × NodeId) := n.keywords.flatMap Keyword.children

/-- A keyword of the same name gives up its place, or the new one comes last. -/
def setKeyword (n : Node) (k : Keyword) : Node :=
  let rec replace : List Keyword → List Keyword
    | [] => [k]
    | old :: ks => if old.name = k.name then k :: ks else old :: replace ks
  { n with keywords := replace n.keywords }

def removeKeyword (n : Node) (name : String) : Node :=
  { n with keywords := n.keywords.filter (·.name != name) }

def mapIds (f : NodeId → NodeId) (n : Node) : Node :=
  { n with kind := n.kind.mapIds f, keywords := n.keywords.map (·.mapIds f) }

end Node

/-! ## Schemas -/

/-- Nodes hold the places of others; the first node is the schema as a whole. -/
structure Schema where
  nodes : Array Node

/-- The number of times that a value may be handed on by references. -/
def maxHops : Nat := 256

namespace Schema

def ofNode (n : Node) : Schema := ⟨#[n]⟩

def root : NodeId := 0

def size (s : Schema) : Nat := s.nodes.size

def node? (s : Schema) (id : NodeId) : Option Node := s.nodes[id]?

def kind? (s : Schema) (id : NodeId) : Option Kind := (s.node? id).map (·.kind)

def isOptional (s : Schema) (id : NodeId) : Bool := ((s.node? id).map (·.optional)).getD false

/-- The place can be held by a node at an earlier place. -/
def Below (s : Schema) (parent child : NodeId) : Prop := parent < child ∧ child < s.size

instance (s : Schema) (parent child : NodeId) : Decidable (s.Below parent child) :=
  inferInstanceAs (Decidable (_ ∧ _))

theorem Below.size_sub_lt {s : Schema} {parent child : NodeId} (h : s.Below parent child) :
    s.size - child < s.size - parent :=
  Nat.sub_lt_sub_left (Nat.lt_trans h.1 h.2) h.1

def modify (s : Schema) (id : NodeId) (f : Node → Node) : Schema := ⟨s.nodes.modify id f⟩

/-- The other schema's nodes come after the own ones, its root at the returned place. -/
def adopt (s child : Schema) : Schema × NodeId :=
  (⟨s.nodes ++ child.nodes.map (·.mapIds (· + s.size))⟩, s.size)

def adoptAll (s : Schema) : List Schema → Schema × List NodeId
  | [] => (s, [])
  | child :: children =>
    let (s, id) := s.adopt child
    let (s, ids) := s.adoptAll children
    (s, id :: ids)

/-- The first node that is no link, and the hops so far. -/
def follow (s : Schema) (hops : Nat) (id : NodeId) : Except SchemaError (Nat × NodeId) :=
  match s.kind? id with
  | some (.link target) =>
    if hops < maxHops then s.follow (hops + 1) target else .error (.recursionLimit maxHops)
  | _ => .ok (hops, id)
termination_by maxHops - hops

theorem follow_cases {s : Schema} {hops reached : Nat} {id place : NodeId}
    (eq : s.follow hops id = .ok (reached, place)) :
    (reached = hops ∧ place = id) ∨ (hops < reached ∧ hops < maxHops) := by
  fun_induction follow s hops id with
  | case1 hops id next _ lt ih => have := ih eq; omega
  | case2 => simp at eq
  | case3 hops id _ =>
    simp only [Except.ok.injEq, Prod.mk.injEq] at eq
    exact .inl ⟨eq.1.symm, eq.2.symm⟩

/-- What is left to do after a step: hops first, then nodes further down. -/
def remaining (s : Schema) (hops : Nat) (id : NodeId) : Nat × Nat := (maxHops - hops, s.size - id)

theorem remaining_reference {s : Schema} {hops reached : Nat} {id place target : NodeId}
    (eq : s.follow hops id = .ok (reached, place)) (lt : reached < maxHops) :
    Prod.Lex (· < ·) (· < ·) (s.remaining (reached + 1) target) (s.remaining hops id) := by
  have := follow_cases eq
  exact .left _ _ (by omega)

theorem remaining_child {s : Schema} {hops reached : Nat} {id place child : NodeId}
    (eq : s.follow hops id = .ok (reached, place)) (below : s.Below place child) :
    Prod.Lex (· < ·) (· < ·) (s.remaining reached child) (s.remaining hops id) := by
  rcases follow_cases eq with ⟨rfl, rfl⟩ | h
  · exact .right _ below.size_sub_lt
  · exact .left _ _ (by omega)

end Schema

end JsonSchema
