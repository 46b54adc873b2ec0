import JsonSchema.Schema.Basic

/-! # Filling in what a schema offers -/

namespace JsonSchema

namespace Node

/-- What the node starts from: its constant, what is given, its default, or its first option. -/
def chosen? (n : Node) (options : TemplateOptions) (seed : Option Json) : Option Json :=
  let firstOption := if options.withExtendedOptional then n.enum?.bind List.head? else none
  n.const?.or (seed.or (n.default?.or firstOption))

/-- The node's hook may replace the value. -/
def replaced? (n : Node) (options : TemplateOptions) (value : Option Json) : Option Json :=
  match n.hooks.template with
  | some hook => (hook options value).or value
  | none => value

end Node

namespace Template

/-- The value with which a node of a simple type starts. -/
def blank? : Kind → Option Json
  | .string => some (.string "")
  | .number | .integer => some (.number .zero)
  | .boolean => some (.bool false)
  | .array => some (.array [])
  | .null => some .null
  | _ => none

/-- Puts in what the properties offer; an optional one only if it is wanted or already there. -/
def fillMembers (s : Schema) (options : TemplateOptions) (value : Option Json) (base : Members)
    (fill : NodeId → Option Json → Option Json) (properties : List (String × NodeId)) : Members :=
  properties.foldl (fun out e =>
    let current := base.get? e.1
    if s.isOptional e.2 && !options.withOptional && current.isNone && value.isNone then out
    else
      match fill e.2 current with
      | some filled => out.insert e.1 filled
      | none => out) base

def fillObject (s : Schema) (options : TemplateOptions) (nested : Bool) (n : Node)
    (fill : NodeId → Option Json → Option Json) (value : Option Json) : Option Json :=
  match value with
  | some (.object base) => finish (fillMembers s options value base fill n.properties)
  | some v => some v
  | none => finish (fillMembers s options value [] fill n.properties)
where
  /-- An empty object inside another is left out unless it is wanted. -/
  finish (out : Members) : Option Json :=
    if out.isEmpty && nested && !options.withExtendedOptional then none else some (.object out)

end Template

namespace Schema

/-- What a node offers for a value that may be given in part. -/
def templateFrom (s : Schema) (options : TemplateOptions) (nested : Bool) (id : NodeId)
    (seed : Option Json) : Option Json :=
  match s.node? id with
  | none => seed
  | some node =>
    match node.kind with
    | .constant _ | .link _ | .hole _ => seed
    | kind =>
      let chosen := node.chosen? options seed
      if chosen.isNone && node.optional && !options.withOptional then none
      else
        let value := node.replaced? options chosen
        match kind with
        | .object =>
          Template.fillObject s options nested node
            (fun child current =>
              if _ : s.Below id child then s.templateFrom options true child current else current)
            value
        | _ => value.or (Template.blank? kind)
termination_by s.size - id
decreasing_by exact Below.size_sub_lt ‹_›

end Schema

end JsonSchema
