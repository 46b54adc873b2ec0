import JsonSchema.Schema.Basic

/-! # Changing a schema at its root -/

namespace JsonSchema

/-- One change to a schema, whose new parts are of type `α`. -/
inductive Edit (α : Type) where
  /-- Any keyword that holds no schemas. Nothing else is brought in line with it. -/
  | keyword (leaf : Leaf)
  | const (value : Json)
  | enum (options : List Json)
  | default (value : Json)
  /-- A keyword without a meaning of its own; it may take the name and place of another. -/
  | note (name : String) (value : Json)
  | id (id : String)
  | ref (reference : String)
  | count (which : Count) (limit : UInt64)
  | bound (which : Bound) (limit : Float)
  | multipleOf (divisor : Float)
  | pattern (source : String)
  | format (name : String)
  | uniqueItems (unique : Bool)
  | dependentRequired (entries : List (String × List String))
  | single (slot : Slot) (child : α)
  | prefixItems (children : List α)
  | patternProperties (entries : List (String × α))
  | dependentSchemas (entries : List (String × α))
  /-- A condition with what holds if it is met and if it is not. -/
  | branches (condition : α) (consequent alternative : Option α)
  | validateHook (hook : Json → Location → Verdict)
  | coerceHook (hook : CoerceOptions → Json → Json)
  | templateHook (hook : TemplateOptions → Option Json → Option Json)
  | optional
  | strict
  | partialObject

namespace Schema

/-! ## Keywords -/

def modifyRoot (s : Schema) (f : Node → Node) : Schema := s.modify root f

/-- Any keyword, also one that holds schemas. Whether the places that it holds are those of nodes is left to
the caller. -/
def setKeyword (s : Schema) (k : Keyword) : Schema := s.modifyRoot (·.setKeyword k)

def setLeaf (s : Schema) (l : Leaf) : Schema := s.setKeyword (.leaf l)

/-- The child's nodes are taken in and its root is held by the keyword. -/
def setSingle (s : Schema) (slot : Slot) (child : Schema) : Schema :=
  let (s, id) := s.adopt child
  s.setKeyword (.single slot id)

def setListed (s : Schema) (slot : ListSlot) (children : List Schema) : Schema :=
  let (s, ids) := s.adoptAll children
  s.setKeyword (.listed slot ids)

def setKeyed (s : Schema) (slot : KeyedSlot) (entries : List (String × Schema)) : Schema :=
  let (s, ids) := s.adoptAll (entries.map (·.2))
  s.setKeyword (.keyed slot ((entries.map (·.1)).zip ids))

def compile (source : String) : Except SchemaError Pattern :=
  match Pattern.compile? source with
  | some p => .ok p
  | none => .error (.invalidPattern source)

def setPatterns (s : Schema) (entries : List (String × Schema)) : Except SchemaError Schema := do
  let patterns ← entries.mapM fun e => compile e.1
  let (s, ids) := s.adoptAll (entries.map (·.2))
  return s.setKeyword (.patternProperties (patterns.zip ids))

/-! ## Objects -/

/-- Exactly the properties that may not be absent are required. -/
def syncRequired (s : Schema) (id : NodeId) : Schema :=
  match s.node? id with
  | none => s
  | some node =>
    let keys := (node.properties.filter fun e => !s.isOptional e.2).map (·.1)
    s.modify id fun n =>
      if keys.isEmpty then n.removeKeyword "required" else n.setKeyword (.leaf (.required keys))

/-- Only declared properties are admitted. -/
def close (s : Schema) : Schema :=
  let s := s.syncRequired root
  let closed := ((s.node? root).bind (·.single? .additionalProperties)).bind s.kind?
  if closed = some (.constant false) then s
  else s.setSingle .additionalProperties (ofNode (.ofKind (.constant false)))

/-- No declared property is required. -/
def loosen (s : Schema) : Schema :=
  let properties := ((s.node? root).map (·.properties)).getD []
  let s := properties.foldl (fun s e => s.modify e.2 fun n => { n with optional := true }) s
  s.syncRequired root

def ifObject (s : Schema) (operation : String) (changed : Schema) : Except SchemaError Schema :=
  if s.kind? root = some .object then .ok changed else .error (.notAnObject operation)

def strict (s : Schema) : Except SchemaError Schema := s.ifObject "strict" s.close

def partialObject (s : Schema) : Except SchemaError Schema := s.ifObject "partial" s.loosen

/-! ## Edits -/

def apply (s : Schema) : Edit Schema → Except SchemaError Schema
  | .keyword leaf => .ok (s.setLeaf leaf)
  | .const value => .ok (s.setLeaf (.const value))
  | .enum options => .ok (s.setLeaf (.enum options))
  | .default value => .ok (s.setLeaf (.default value))
  | .note name value => .ok (s.setLeaf (.note name value))
  | .id id => .ok (s.setLeaf (.id id))
  | .ref reference => .ok (s.setLeaf (.ref reference))
  | .count which limit => .ok (s.setLeaf (.count which limit))
  | .bound which limit => .ok (s.setLeaf (.bound which limit))
  | .multipleOf divisor => .ok (s.setLeaf (.multipleOf divisor))
  | .pattern source => (compile source).map fun p => s.setLeaf (.pattern p)
  | .format name => .ok (s.setLeaf (.format name))
  | .uniqueItems unique => .ok (s.setLeaf (.uniqueItems unique))
  | .dependentRequired entries => .ok (s.setLeaf (.dependentRequired entries))
  | .single slot child => .ok (s.setSingle slot child)
  | .prefixItems children => .ok (s.setListed .prefixItems children)
  | .patternProperties entries => s.setPatterns entries
  | .dependentSchemas entries => .ok (s.setKeyed .dependentSchemas entries)
  | .branches condition consequent alternative =>
    let s := s.setSingle .condition condition
    let s := consequent.elim s (s.setSingle .consequent)
    .ok (alternative.elim s (s.setSingle .alternative))
  | .validateHook hook =>
    .ok (s.modifyRoot fun n => { n with hooks := { n.hooks with validate := some hook } })
  | .coerceHook hook =>
    .ok (s.modifyRoot fun n => { n with hooks := { n.hooks with coerce := some hook } })
  | .templateHook hook =>
    .ok (s.modifyRoot fun n => { n with hooks := { n.hooks with template := some hook } })
  | .optional => .ok (s.modifyRoot fun n => { n with optional := true })
  | .strict => s.strict
  | .partialObject => s.partialObject

end Schema

end JsonSchema
