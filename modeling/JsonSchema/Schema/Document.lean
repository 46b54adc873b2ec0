import JsonSchema.Schema.Index

/-! # Writing a schema as a document -/

namespace JsonSchema

namespace Leaf

def numberJson (f : Float) : Json := ((Number.ofDouble? f).map Json.number).getD .null

def typesJson : List InstanceType → Json
  | [t] => .string t.name
  | ts => .strings (ts.map (·.name))

def toJson : Leaf → Json
  | types ts => typesJson ts
  | const value => value
  | enum options => .array options
  | default value => value
  | count _ limit => .ofNat limit
  | bound _ limit => numberJson limit
  | multipleOf divisor => numberJson divisor
  | pattern p => .string p.source
  | format name => .string name
  | uniqueItems unique => .bool unique
  | required keys => .strings keys
  | dependentRequired entries => .object (Members.ofList (entries.map fun e => (e.1, .strings e.2)))
  | ref reference => .string reference
  | id name => .string name
  | note _ value => value

end Leaf

/-- The value of the keyword, given the documents of nodes. -/
def Keyword.toJson (document : NodeId → Json) : Keyword → Json
  | leaf l => l.toJson
  | single _ child => document child
  | listed _ children => .array (children.map document)
  | keyed _ entries => .object (Members.ofList (entries.map fun e => (e.1, document e.2)))
  | patternProperties entries =>
    .object (Members.ofList (entries.map fun e => (e.1.source, document e.2)))

namespace Schema

/-- The document of a node: its keywords in order, or a reference to the node it stands for. -/
def document (s : Schema) (ix : Index) (id : NodeId) : Json :=
  match s.node? id with
  | none => .null
  | some node =>
    match node.kind with
    | .constant accepts => .bool accepts
    | .link target => .object [("$ref", .string ((ix.pointer? target).getD "#"))]
    | _ =>
      .object (Members.ofList (node.keywords.map fun k =>
        (k.name, k.toJson fun child => if _ : s.Below id child then s.document ix child else .null)))
termination_by s.size - id
decreasing_by exact Below.size_sub_lt ‹_›

def documentAt (s : Schema) (id : NodeId) : Json := s.document (.ofSchema s) id

def toJson (s : Schema) : Json := s.documentAt root

end Schema

end JsonSchema
