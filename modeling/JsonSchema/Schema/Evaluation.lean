import JsonSchema.Schema.Index
import JsonSchema.Format.Registry

/-! # Judging a value -/

namespace JsonSchema

/-- All failures of a part of a schema, or what is wrong with the schema. -/
abbrev Outcome := Except SchemaError (List Failure)

/-- What stays the same while a value is judged. -/
structure Context where
  schema : Schema
  index : Index
  formats : FormatRegistry
  /-- Nothing is looked at after the first failing keyword of a node. -/
  shortCircuit : Bool
  ignoreUnsupported : Bool

/-- How a value is judged against a node that another node holds. -/
abbrev Judge := NodeId → Json → Location → Outcome

namespace Outcome

def pass : Outcome := .ok []

/-- The failure unless the condition holds. -/
def require (holds : Bool) (at_ : Location) (keyword : String) (complaint : Complaint) (v : Json) :
    Outcome :=
  .ok (if holds then [] else [at_.failure (some keyword) complaint (some v)])

/-- The failures of the first item that has any. -/
def ofFirst (f : α → Outcome) : List α → Outcome
  | [] => pass
  | a :: as => do
    let found ← f a
    if found.isEmpty then ofFirst f as else return found

/-- The failures of all items in order, or only those of the first that has any. -/
def ofAll (stop : Bool) (f : α → Outcome) : List α → Outcome
  | [] => pass
  | a :: as => do
    let found ← f a
    if stop && !found.isEmpty then return found
    return found ++ (← ofAll stop f as)

end Outcome

/-! ## Keywords without schemas -/

namespace Leaf

/-- The double that the value is a multiple of the divisor up to rounding: the quotient is as near
to an integer as one step of its own size. -/
def isMultiple (divisor x : Float) : Bool :=
  let quotient := x / divisor
  (quotient - Decimal.nearest quotient).abs ≤ 2.220446049250313e-16 * max quotient.abs 1.0

def checkMultiple (divisor : Float) (v : Json) (at_ : Location) : Outcome :=
  match v.asFloat? with
  | none => .pass
  | some x =>
    if 0.0 < divisor && divisor.isFinite && x.isFinite then
      .require (isMultiple divisor x) at_ "multipleOf" (.notMultiple divisor) v
    else .error (.invalidMultipleOf divisor x)

def checkCount (which : Count) (limit : UInt64) (v : Json) (at_ : Location) : Outcome :=
  let least (n : Nat) (complaint : Complaint) : Outcome :=
    .require (limit.toNat ≤ n) at_ which.name complaint v
  let most (n : Nat) (complaint : Complaint) : Outcome :=
    .require (n ≤ limit.toNat) at_ which.name complaint v
  match which, v with
  | .minLength, .string s => least (composedLength s) (.shortString limit)
  | .maxLength, .string s => most (composedLength s) (.longString limit)
  | .minProperties, .object ms => least ms.length (.fewProperties limit)
  | .maxProperties, .object ms => most ms.length (.manyProperties limit)
  | .minItems, .array items => least items.length (.fewItems limit)
  | .maxItems, .array items => most items.length (.manyItems limit)
  | _, _ => .pass

/-- The first key that is asked for by a present key and not there. -/
def missingDependent? (ms : Members) (entries : List (String × List String)) : Option String :=
  (entries.filter (ms.hasKey ·.1)).findSome? fun e => e.2.find? fun key => !ms.hasKey key

def areDistinct (items : List Json) : Bool :=
  let texts := items.map (·.canonical)
  texts.eraseDups.length == texts.length

/-- The value against a keyword that holds no schema. -/
def check (formats : FormatRegistry) (l : Leaf) (v : Json) (at_ : Location) : Outcome :=
  let require (holds : Bool) (complaint : Complaint) := Outcome.require holds at_ l.name complaint v
  match l, v with
  | types ts, _ => require (ts.any (·.accepts v)) (.notOfType ts)
  | const expected, _ => require (v.same expected) (.notConst expected)
  | enum options, _ => require (options.any (·.same v)) (.notInEnum options)
  | count which limit, _ => checkCount which limit v at_
  | bound which limit, .number n =>
    require (which.admits limit n.toFloat) (.outOfBound which limit)
  | multipleOf divisor, _ => checkMultiple divisor v at_
  | pattern p, .string s => require (p.occursIn s) (.noPatternMatch p.source)
  | format name, .string s => require (formats.check name s) (.notInFormat name)
  | uniqueItems true, .array items => require (areDistinct items) .repeatedItems
  | required keys, .object ms => require (keys.all (Members.hasKey ms)) (.missingRequired keys)
  | dependentRequired entries, .object ms =>
    match missingDependent? ms entries with
    | some key => require false (.missingDependent key)
    | none => .pass
  | _, _ => .pass

end Leaf

/-! ## Keywords with schemas -/

namespace Keyword

def accepts (judge : Judge) (v : Json) (at_ : Location) (id : NodeId) : Except SchemaError Bool :=
  (judge id v at_).map (·.isEmpty)

/-- How many of the items are accepted. -/
def countAccepted (f : α → Except SchemaError Bool) : List α → Except SchemaError Nat
  | [] => .ok 0
  | a :: as => do
    let accepted ← f a
    let n ← countAccepted f as
    return if accepted then n + 1 else n

/-- Some item is accepted; those after it are not looked at. -/
def anyAccepted (f : α → Except SchemaError Bool) : List α → Except SchemaError Bool
  | [] => .ok false
  | a :: as => do if ← f a then return true else anyAccepted f as

def checkAllOf (judge : Judge) (ids : List NodeId) (v : Json) (at_ : Location) : Outcome := do
  let n ← countAccepted (accepts judge v at_) ids
  Outcome.require (n == ids.length) at_ "allOf" .notAllMatch v

def checkAnyOf (judge : Judge) (ids : List NodeId) (v : Json) (at_ : Location) : Outcome := do
  let found ← anyAccepted (accepts judge v at_) ids
  Outcome.require found at_ "anyOf" .noneMatches v

def checkOneOf (judge : Judge) (ids : List NodeId) (v : Json) (at_ : Location) : Outcome := do
  let n ← countAccepted (accepts judge v at_) ids
  Outcome.require (n == 1) at_ "oneOf" .notExactlyOneMatches v

def checkNegated (judge : Judge) (id : NodeId) (v : Json) (at_ : Location) : Outcome := do
  let accepted ← accepts judge v (at_.descend [.key "not"] []) id
  Outcome.require (!accepted) at_ "not" .matchesNegated v

/-- Without a branch the condition is not looked at. -/
def checkCondition (judge : Judge) (n : Node) (id : NodeId) (v : Json) (at_ : Location) :
    Outcome := do
  if (n.single? .consequent).isNone && (n.single? .alternative).isNone then return []
  let slot : Slot := if ← accepts judge v at_ id then .consequent else .alternative
  match n.single? slot with
  | some branch => judge branch v (at_.descend [.key slot.name] [])
  | none => Outcome.pass

def checkProperties (judge : Judge) (entries : List (String × NodeId)) (ms : Members)
    (at_ : Location) : Outcome :=
  Outcome.ofFirst (fun m =>
    match entries.lookup m.1 with
    | some id => judge id m.2 (at_.descend [.key "properties", .key m.1] [.key m.1])
    | none => Outcome.pass) ms

def checkPatterns (judge : Judge) (entries : List (Pattern × NodeId)) (ms : Members)
    (at_ : Location) : Outcome :=
  Outcome.ofFirst (fun m =>
    Outcome.ofFirst (fun e =>
      judge e.2 m.2 (at_.descend [.key "patternProperties", .key e.1.source] [.key m.1]))
      (entries.filter (·.1.occursIn m.1))) ms

/-- The extra members as a whole against a constant, one by one against any other schema. -/
def checkExtra (c : Context) (judge : Judge) (hops : Nat) (n : Node) (id : NodeId) (ms : Members)
    (at_ : Location) : Outcome := do
  let extra := ms.filter (n.isExtra ·.1)
  if extra.isEmpty then return []
  let (_, target) ← c.schema.follow hops id
  match c.schema.kind? target with
  | some (.constant accepts) =>
    Outcome.require accepts at_ "additionalProperties" .unknownProperties (.object extra)
  | _ =>
    Outcome.ofFirst (fun m => judge id m.2 (at_.descend [.key "additionalProperties"] [.key m.1])) extra

def checkNames (judge : Judge) (id : NodeId) (ms : Members) (at_ : Location) : Outcome :=
  Outcome.ofFirst (fun m => judge id (.string m.1) (at_.descend [.key "propertyNames"] [.key m.1])) ms

def checkDependents (judge : Judge) (entries : List (String × NodeId)) (ms : Members)
    (at_ : Location) : Outcome :=
  Outcome.ofFirst (fun e => judge e.2 (.object ms) (at_.descend [.key "dependentSchemas", .key e.1] []))
    (entries.filter (ms.hasKey ·.1))

/-- The items that the prefix leaves over, with their positions. -/
def checkItems (judge : Judge) (n : Node) (id : NodeId) (items : List Json) (at_ : Location) :
    Outcome :=
  Outcome.ofFirst (fun e => judge id e.1 (at_.descend [.key "items"] [.ofPosition e.2]))
    (items.zipIdx.drop n.prefixItems.length)

def checkPrefix (judge : Judge) (ids : List NodeId) (items : List Json) (at_ : Location) :
    Outcome :=
  Outcome.ofFirst (fun e =>
    judge e.1.1 e.1.2
      (at_.descend [.key "prefixItems", .ofPosition e.2] [.ofPosition e.2]))
    (ids.zip items).zipIdx

/-- At least one item is accepted, or as many as the node's own limits say. -/
def checkContains (judge : Judge) (n : Node) (id : NodeId) (items : List Json) (at_ : Location) :
    Outcome := do
  let inner := at_.descend [.key "contains"] []
  let found ← countAccepted (fun item => accepts judge item inner id) items
  let least := (n.count? .minContains).getD 1
  if found < least.toNat then
    let keyword := if (n.count? .minContains).isSome then "minContains" else "contains"
    Outcome.require false at_ keyword (.fewContained least (.ofNat found)) (.array items)
  else
    match n.count? .maxContains with
    | some most =>
      Outcome.require (found ≤ most.toNat) at_ "maxContains" (.manyContained most (.ofNat found))
        (.array items)
    | none => Outcome.pass

/-- The value against one keyword of a node that was reached with so many hops. -/
def check (c : Context) (judge : Judge) (hops : Nat) (n : Node) (k : Keyword) (v : Json)
    (at_ : Location) : Outcome :=
  match k, v with
  | leaf l, _ => l.check c.formats v at_
  | listed .allOf ids, _ => checkAllOf judge ids v at_
  | listed .anyOf ids, _ => checkAnyOf judge ids v at_
  | listed .oneOf ids, _ => checkOneOf judge ids v at_
  | single .negated id, _ => checkNegated judge id v at_
  | single .condition id, _ => checkCondition judge n id v at_
  | keyed .properties entries, .object ms => checkProperties judge entries ms at_
  | single .additionalProperties id, .object ms => checkExtra c judge hops n id ms at_
  | patternProperties entries, .object ms => checkPatterns judge entries ms at_
  | single .propertyNames id, .object ms => checkNames judge id ms at_
  | keyed .dependentSchemas entries, .object ms => checkDependents judge entries ms at_
  | single .items id, .array items => checkItems judge n id items at_
  | listed .prefixItems ids, .array items => checkPrefix judge ids items at_
  | single .contains id, .array items => checkContains judge n id items at_
  | _, _ => Outcome.pass

end Keyword

/-! ## Nodes -/

namespace Node

/-- The failures with which the node's own hook rejects the value. -/
def rejection? (n : Node) (value : Option Json) (at_ : Location) : Option (List Failure) :=
  match n.hooks.validate, value with
  | some hook, some v =>
    let verdict := hook v at_
    if verdict.valid then none else some verdict.failures
  | _, _ => none

end Node

namespace Context

/-- The failures of the value against a node. An absent value is asked for nothing, a reference
alone decides for its node, and more than `maxHops` references in a row are an error. -/
def check (c : Context) (hops : Nat) (id : NodeId) (value : Option Json) (at_ : Location) :
    Outcome :=
  match _ : c.schema.follow hops id with
  | .error e => .error e
  | .ok (reached, place) =>
    match c.schema.node? place with
    | none => Outcome.pass
    | some node =>
      match node.kind with
      | .constant true | .hole _ => Outcome.pass
      | .constant false => .ok [at_.failure none .alwaysFails value]
      | _ =>
        match node.rejection? value at_ with
        | some failures => .ok failures
        | none =>
          if !c.ignoreUnsupported && node.declares "$defs" then .error (.unsupported "$defs")
          else
            match value with
            | none => Outcome.pass
            | some v =>
              match node.reference? with
              | some reference =>
                match c.index.resolve reference with
                | .error e => .error e
                | .ok target =>
                  if _ : reached < maxHops then
                    c.check (reached + 1) target (some v) (at_.descend [.key "$ref"] [])
                  else .error (.recursionLimit maxHops)
              | none =>
                let judge : Judge := fun child v at_ =>
                  if _ : c.schema.Below place child then c.check reached child (some v) at_
                  else Outcome.pass
                Outcome.ofAll c.shortCircuit (fun k => k.check c judge reached node v at_) node.keywords
termination_by c.schema.remaining hops id
decreasing_by
  · exact Schema.remaining_reference ‹_› ‹_›
  · exact Schema.remaining_child ‹_› ‹_›

end Context

end JsonSchema
