import JsonSchema.Schema.Basic

/-! # Where the nodes of a schema are, and what references mean -/

namespace JsonSchema

namespace Schema

def children (s : Schema) (id : NodeId) : List (Path × NodeId) :=
  ((s.node? id).map (·.children)).getD []

/-- The node and all below it, each after the node that holds it and with the way to it. -/
def entriesFrom (s : Schema) (path : Path) (id : NodeId) : List (Path × NodeId) :=
  (path, id) :: (s.children id).flatMap fun e =>
    if _ : s.Below id e.2 then s.entriesFrom (path ++ e.1) e.2 else []
termination_by s.size - id
decreasing_by exact Below.size_sub_lt ‹_›

end Schema

/-- The nodes of a schema by their pointers, and by the names that they declare. -/
structure Index where
  entries : List (String × NodeId)
  declared : List (String × NodeId)

namespace Index

def ofSchema (s : Schema) : Index :=
  let entries := s.entriesFrom [] Schema.root
  { entries := entries.map fun e => ("#" ++ Pointer.render e.1, e.2)
    declared := entries.filterMap fun e => ((s.node? e.2).bind (·.id?)).map (·, e.2) }

/-- The number of different pointers. -/
def size (ix : Index) : Nat := (ix.entries.map (·.1)).eraseDups.length

def pointer? (ix : Index) (id : NodeId) : Option String :=
  (ix.entries.find? (·.2 == id)).map (·.1)

/-- Of several nodes with the same pointer the last one. -/
def at? (ix : Index) (pointer : String) : Option NodeId := ix.entries.reverse.lookup pointer

/-- Of several nodes that declare the same name the first one. -/
def declared? (ix : Index) (name : String) : Option NodeId := ix.declared.lookup name

/-- What stands before the first `#` and what after it. -/
def splitHash (reference : String) : String × String :=
  (String.ofList (reference.toList.takeWhile (· ≠ '#')),
    String.ofList ((reference.toList.dropWhile (· ≠ '#')).drop 1))

/-- The pointer of the node that a reference starts from: the root or a declared name. -/
def start? (ix : Index) (base : String) : Option String :=
  if base.isEmpty then some "#" else (ix.declared? base).bind ix.pointer?

/-- A reference is a declared name, or a pointer from the root or from a declared name. -/
def resolve (ix : Index) (reference : String) : Except SchemaError NodeId :=
  match ix.declared? reference with
  | some id => .ok id
  | none =>
    let (base, fragment) := splitHash reference
    match Pointer.parse fragment with
    | .error _ => .error (.unresolvedRef reference)
    | .ok path =>
      if path.head? = some (.key "$defs") then .error (.unsupported "$defs")
      else
        match (ix.start? base).bind fun start => ix.at? (start ++ Pointer.render path) with
        | some id => .ok id
        | none => .error (.unresolvedRef reference)

end Index

end JsonSchema
