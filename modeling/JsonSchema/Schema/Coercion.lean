import JsonSchema.Schema.Evaluation
import JsonSchema.Json.Conversion
import JsonSchema.Json.Reader

/-! # Converting loosely typed values -/

namespace JsonSchema

/-- How a value is converted for a node that another node holds. -/
abbrev Convert := NodeId → Json → Except SchemaError Json

namespace Coercion

/-- Text of an object is read; any other text stays. -/
def openText (v : Json) : Json :=
  match v with
  | .string s =>
    if (Text.trimStart s.toList).head? = some '{' then
      match Json.parse? s with
      | some (.object ms) => .object ms
      | _ => v
    else v
  | _ => v

/-- Properties are declared, and none may be absent. -/
def isStrict (s : Schema) (n : Node) : Bool :=
  !n.properties.isEmpty && n.properties.all (!s.isOptional ·.2)

/-- The members that are declared, in the order of the declarations. -/
def declaredMembers (n : Node) (ms : Members) : Members :=
  Members.ofList (n.properties.filterMap fun e => (ms.get? e.1).map (e.1, ·))

/-- Converts the members with the keys of the entries and puts the results in. -/
def convertEntries (convert : Convert) (input : Members) :
    List (String × NodeId) → Members → Except SchemaError Members
  | [], out => .ok out
  | (key, id) :: entries, out =>
    match input.get? key with
    | none => convertEntries convert input entries out
    | some v => do
      let converted ← convert id v
      convertEntries convert input entries (out.insert key converted)

/-- Puts in the members that are not declared, converted by the schema for them. -/
def convertExtra (convert : Convert) (extra? : Option NodeId) :
    Members → Members → Except SchemaError Members
  | [], out => .ok out
  | (key, v) :: ms, out => do
    let converted ← match extra? with
      | some id => convert id v
      | none => pure v
    convertExtra convert extra? ms (Members.insert out key converted)

/-- Members that are not declared are admitted if there is no schema for them or it accepts null. -/
def admitsExtra (c : Context) (hops : Nat) (extra? : Option NodeId) : Except SchemaError Bool :=
  match extra? with
  | none => .ok true
  | some id => (c.check hops id (some .null) .root).map (·.isEmpty)

def coerceObject (c : Context) (options : CoerceOptions) (convert : Convert) (hops : Nat) (n : Node)
    (v : Json) : Except SchemaError Json := do
  match openText v with
  | .object input =>
    let kept :=
      if options.dropUnknown || isStrict c.schema n then declaredMembers n input else input
    let out ← convertEntries convert input n.properties kept
    if options.dropUnknown then return .object out
    let extra? := n.single? .additionalProperties
    if ← admitsExtra c hops extra? then
      let extra := input.filter fun m => !n.properties.any (·.1 == m.1)
      return .object (← convertExtra convert extra? extra out)
    else return .object out
  | other => return other

def coerceArray (convert : Convert) (n : Node) (v : Json) : Except SchemaError Json :=
  match v with
  | .array items =>
    (items.zipIdx.mapM fun (e : Json × Nat) =>
      match n.prefixItems[e.2]?.or (n.single? .items) with
      | some id => convert id e.1
      | none => .ok e.1).map .array
  | _ => .ok v

end Coercion

/-- The value converted for a node. A hook alone decides for its node, and so does a reference. -/
def Context.coerce (c : Context) (options : CoerceOptions) (hops : Nat) (id : NodeId) (v : Json) :
    Except SchemaError Json :=
  match _ : c.schema.follow hops id with
  | .error e => .error e
  | .ok (reached, place) =>
    match c.schema.node? place with
    | none => .ok v
    | some node =>
      match node.hooks.coerce with
      | some hook => .ok (hook options v)
      | none =>
        match node.reference? with
        | some reference =>
          match c.index.resolve reference with
          | .error e => .error e
          | .ok target =>
            if _ : reached < maxHops then c.coerce options (reached + 1) target v
            else .error (.recursionLimit maxHops)
        | none =>
          let convert : Convert := fun child v =>
            if _ : c.schema.Below place child then c.coerce options reached child v else .ok v
          match node.kind with
          | .string => .ok v.coerceToString
          | .number | .integer => .ok v.coerceToNumber
          | .boolean => .ok v.coerceToBoolean
          | .object => Coercion.coerceObject c options convert reached node v
          | .array => Coercion.coerceArray convert node v
          | _ => .ok v
termination_by c.schema.remaining hops id
decreasing_by
  · exact Schema.remaining_reference ‹_› ‹_›
  · exact Schema.remaining_child ‹_› ‹_›

end JsonSchema
