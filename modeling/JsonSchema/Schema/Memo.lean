import JsonSchema.Schema.Builder
import JsonSchema.Schema.Index

/-!
# A schema that remembers its index

The index is built when it is first asked for, and whatever changes the nodes has to forget it. A node that
is changed and nodes that are taken in see to that themselves.
-/

namespace JsonSchema

open Schema (root)

structure Memo where
  schema : Schema
  index? : Option Index := none

namespace Memo

def ofSchema (s : Schema) : Memo := { schema := s }

/-! ## Queries -/

def index (m : Memo) : Index × Memo :=
  match m.index? with
  | some ix => (ix, m)
  | none =>
    let ix := Index.ofSchema m.schema
    (ix, { m with index? := some ix })

def resolve (m : Memo) (reference : String) : Except SchemaError NodeId × Memo :=
  let (ix, m) := m.index
  (ix.resolve reference, m)

def pointer? (m : Memo) (id : NodeId) : Option String × Memo :=
  let (ix, m) := m.index
  (ix.pointer? id, m)

/-! ## Nodes -/

def forget (m : Memo) : Memo := { m with index? := none }

def modify (m : Memo) (id : NodeId) (f : Node → Node) : Memo :=
  let m := m.forget
  { m with schema := m.schema.modify id f }

def modifyRoot (m : Memo) (f : Node → Node) : Memo := m.modify root f

/-- The child is taken in without its own index. -/
def adopt (m : Memo) (child : Schema) : Memo × NodeId :=
  let (s, id) := m.schema.adopt child
  ({ m with schema := s }.forget, id)

def adoptAll (m : Memo) : List Schema → Memo × List NodeId
  | [] => (m, [])
  | child :: children =>
    let (m, id) := m.adopt child
    let (m, ids) := m.adoptAll children
    (m, id :: ids)

/-- A node comes last, where no other node holds it yet. The index is kept. -/
def push (m : Memo) (n : Node) : Memo × NodeId :=
  ({ m with schema := ⟨m.schema.nodes.push n⟩ }, m.schema.size)

/-! ## Keywords -/

def setKeyword (m : Memo) (k : Keyword) : Memo := m.modifyRoot (·.setKeyword k)

def setLeaf (m : Memo) (l : Leaf) : Memo := m.setKeyword (.leaf l)

def setSingle (m : Memo) (slot : Slot) (child : Schema) : Memo :=
  let (m, id) := m.adopt child
  m.setKeyword (.single slot id)

def setListed (m : Memo) (slot : ListSlot) (children : List Schema) : Memo :=
  let (m, ids) := m.adoptAll children
  m.setKeyword (.listed slot ids)

def setKeyed (m : Memo) (slot : KeyedSlot) (entries : List (String × Schema)) : Memo :=
  let (m, ids) := m.adoptAll (entries.map (·.2))
  m.setKeyword (.keyed slot ((entries.map (·.1)).zip ids))

def setPatterns (m : Memo) (entries : List (String × Schema)) : Except SchemaError Memo := do
  let patterns ← entries.mapM fun e => Schema.compile e.1
  let (m, ids) := m.adoptAll (entries.map (·.2))
  return m.setKeyword (.patternProperties (patterns.zip ids))

/-! ## Objects -/

def syncRequired (m : Memo) (id : NodeId) : Memo :=
  match m.schema.node? id with
  | none => m
  | some node =>
    let keys := (node.properties.filter fun e => !m.schema.isOptional e.2).map (·.1)
    m.modify id fun n =>
      if keys.isEmpty then n.removeKeyword "required" else n.setKeyword (.leaf (.required keys))

/-- The schema that admits no other members is no one's child before it is held. -/
def close (m : Memo) : Memo :=
  let m := m.syncRequired root
  let closed := ((m.schema.node? root).bind (·.single? .additionalProperties)).bind m.schema.kind?
  if closed = some (.constant false) then m
  else
    let (m, never) := m.push (.ofKind (.constant false))
    m.setKeyword (.single .additionalProperties never)

def loosen (m : Memo) : Memo :=
  let properties := ((m.schema.node? root).map (·.properties)).getD []
  let m := properties.foldl (fun m e => m.modify e.2 fun n => { n with optional := true }) m
  m.syncRequired root

def ifObject (m : Memo) (operation : String) (changed : Memo) : Except SchemaError Memo :=
  if m.schema.kind? root = some .object then .ok changed else .error (.notAnObject operation)

/-! ## Edits -/

def apply (m : Memo) : Edit Schema → Except SchemaError Memo
  | .keyword leaf => .ok (m.setLeaf leaf)
  | .const value => .ok (m.setLeaf (.const value))
  | .enum options => .ok (m.setLeaf (.enum options))
  | .default value => .ok (m.setLeaf (.default value))
  | .note name value => .ok (m.setLeaf (.note name value))
  | .id id => .ok (m.setLeaf (.id id))
  | .ref reference => .ok (m.setLeaf (.ref reference))
  | .count which limit => .ok (m.setLeaf (.count which limit))
  | .bound which limit => .ok (m.setLeaf (.bound which limit))
  | .multipleOf divisor => .ok (m.setLeaf (.multipleOf divisor))
  | .pattern source => (Schema.compile source).map fun p => m.setLeaf (.pattern p)
  | .format name => .ok (m.setLeaf (.format name))
  | .uniqueItems unique => .ok (m.setLeaf (.uniqueItems unique))
  | .dependentRequired entries => .ok (m.setLeaf (.dependentRequired entries))
  | .single slot child => .ok (m.setSingle slot child)
  | .prefixItems children => .ok (m.setListed .prefixItems children)
  | .patternProperties entries => m.setPatterns entries
  | .dependentSchemas entries => .ok (m.setKeyed .dependentSchemas entries)
  | .branches condition consequent alternative =>
    let m := m.setSingle .condition condition
    let m := consequent.elim m (m.setSingle .consequent)
    .ok (alternative.elim m (m.setSingle .alternative))
  | .validateHook hook =>
    .ok (m.modifyRoot fun n => { n with hooks := { n.hooks with validate := some hook } })
  | .coerceHook hook =>
    .ok (m.modifyRoot fun n => { n with hooks := { n.hooks with coerce := some hook } })
  | .templateHook hook =>
    .ok (m.modifyRoot fun n => { n with hooks := { n.hooks with template := some hook } })
  | .optional => .ok (m.modifyRoot fun n => { n with optional := true })
  | .strict => m.ifObject "strict" m.close
  | .partialObject => m.ifObject "partial" m.loosen

/-- The edit puts the schema into another one. -/
def embed (m parent : Memo) (edit : Schema → Edit Schema) : Except SchemaError Memo :=
  parent.apply (edit m.schema)

/-- All placeholders are filled in at once, and the index is forgotten after that. -/
def tie (m : Memo) (token : Nat) : Memo := { m with schema := m.schema.tie token }.forget

end Memo

end JsonSchema
