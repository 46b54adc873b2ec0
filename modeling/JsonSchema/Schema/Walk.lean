import JsonSchema.Schema.Validation

/-! # Walking through a schema -/

namespace JsonSchema

/-- A node under another one, with the step to its value and the way to its keyword. -/
structure Child where
  node : NodeId
  instanceStep : Segment
  keywordPath : Path

namespace Schema

/-- The prefix items of an array, then one child for each item after them; without an array there
is one child for all of these. -/
def arrayChildren (n : Node) (data : Option Json) : List Child :=
  let leading := n.prefixItems
  let first := leading.zipIdx.map fun e =>
    ⟨e.1, .ofPosition e.2, [.key "prefixItems", .ofPosition e.2]⟩
  let positions : List Nat :=
    match data with
    | some (.array items) =>
      (List.range (items.length - leading.length)).map (leading.length + ·)
    | _ => [leading.length]
  match n.single? .items with
  | some id => first ++ positions.map fun i => ⟨id, .ofPosition i, [.key "items"]⟩
  | none => first

/-- Properties and items, for the value at the node if it is known. -/
def childrenFor (s : Schema) (id : NodeId) (data : Option Json) : List Child :=
  match s.node? id with
  | none => []
  | some n =>
    match n.kind with
    | .object => n.properties.map fun e => ⟨e.2, .key e.1, [.key "properties", .key e.1]⟩
    | .array => arrayChildren n data
    | _ => []

end Schema

structure WalkOptions where
  data : Option Json := none
  maxDepth : Option Nat := none
  includeSelf : Bool := true
  instancePath : Path := []
  keywordPath : Path := []

/-- A node on the way, and the value there if the node accepts it. -/
structure Visit where
  node : NodeId
  instancePath : Path
  keywordPath : Path
  data : Option Json

/-- The number of steps from the value that holds everything. -/
def Visit.depth (v : Visit) : Nat := v.instancePath.length

/-- A node that is yet to be visited. -/
structure Pending where
  node : NodeId
  instancePath : Path
  keywordPath : Path

/-- What stays the same during a walk. -/
structure Walk where
  schema : Schema
  shared : FormatRegistry
  data : Option Json
  /-- The length of the path to the value as a whole. -/
  baseDepth : Nat
  maxDepth : Option Nat

namespace Walk

def dataAt? (w : Walk) (path : Path) : Option Json := w.data.bind (·.get? (path.drop w.baseDepth))

/-- The value at the node, if the node accepts it. -/
def accepted? (w : Walk) (p : Pending) : Option Json :=
  (w.dataAt? p.instancePath).filter fun v =>
    match w.schema.validateAt w.shared p.node (some v) with
    | .ok verdict => verdict.valid
    | .error _ => false

def visit (w : Walk) (p : Pending) : Visit :=
  ⟨p.node, p.instancePath, p.keywordPath, w.accepted? p⟩

/-- Links and nodes at the greatest depth are not entered. -/
def enters (w : Walk) (p : Pending) : Bool :=
  let shallow := w.maxDepth.all (p.instancePath.length < ·)
  let isLink := match w.schema.kind? p.node with
    | some (.link _) => true
    | _ => false
  shallow && !isLink

/-- The children of the node in order. -/
def expand (w : Walk) (p : Pending) : List Pending :=
  if w.enters p then
    ((w.schema.childrenFor p.node (w.dataAt? p.instancePath)).filter
      fun c => w.schema.Below p.node c.node).map fun c =>
        ⟨c.node, p.instancePath ++ [c.instanceStep], p.keywordPath ++ c.keywordPath⟩
  else []

theorem below_of_mem_expand {w : Walk} {p c : Pending} (h : c ∈ w.expand p) :
    w.schema.Below p.node c.node := by
  unfold expand at h
  split at h
  · simp only [List.mem_map, List.mem_filter, decide_eq_true_eq] at h
    obtain ⟨_, ⟨_, below⟩, rfl⟩ := h
    exact below
  · simp at h

/-- The node and all below it, each in front of what belongs to it. -/
def preorder (w : Walk) (p : Pending) : List Pending :=
  p :: (w.expand p).attach.flatMap fun c => w.preorder c.1
termination_by w.schema.size - p.node
decreasing_by exact (below_of_mem_expand c.2).size_sub_lt

theorem preorder_eq (w : Walk) (p : Pending) :
    w.preorder p = p :: (w.expand p).flatMap w.preorder := by
  rw [preorder, List.flatMap_subtype fun c h => rfl, List.unattach_attach]

end Walk

/-- A walk under way. -/
structure Walker where
  walk : Walk
  /-- The next node is passed over. -/
  skipFirst : Bool
  stack : List Pending

namespace Walker

def start (s : Schema) (shared : FormatRegistry) (id : NodeId) (options : WalkOptions) : Walker where
  walk :=
    { schema := s
      shared := shared
      data := options.data
      baseDepth := options.instancePath.length
      maxDepth := options.maxDepth }
  skipFirst := !options.includeSelf
  stack := [⟨id, options.instancePath, options.keywordPath⟩]

/-- The next node, and the walk with its children in front. -/
def pop? (w : Walker) : Option (Pending × Walker) :=
  match w.stack with
  | [] => none
  | p :: rest => some (p, { w with stack := w.walk.expand p ++ rest, skipFirst := false })

/-- The next visit and the walk after it. -/
def next? (w : Walker) : Option (Visit × Walker) :=
  match w.pop? with
  | none => none
  | some (p, after) =>
    if w.skipFirst then after.pop?.map fun e => (w.walk.visit e.1, e.2)
    else some (w.walk.visit p, after)

/-- The nodes that are left, one that is passed over among them. -/
def left (w : Walker) : List Pending := w.stack.flatMap w.walk.preorder

theorem left_of_pop? {w after : Walker} {p : Pending} (h : w.pop? = some (p, after)) :
    w.left = p :: after.left := by
  unfold pop? at h
  split at h
  · simp at h
  · next q rest eq =>
    simp only [Option.some.injEq, Prod.mk.injEq] at h
    obtain ⟨rfl, rfl⟩ := h
    simp [left, eq, w.walk.preorder_eq q]

theorem length_left_of_pop? {w after : Walker} {p : Pending} (h : w.pop? = some (p, after)) :
    after.left.length < w.left.length := by
  simp [left_of_pop? h]

theorem length_left_of_next? {w after : Walker} {v : Visit} (h : w.next? = some (v, after)) :
    after.left.length < w.left.length := by
  unfold next? at h
  split at h
  · simp at h
  · next p popped eq =>
    have first := length_left_of_pop? eq
    split at h
    · simp only [Option.map_eq_some_iff, Prod.mk.injEq] at h
      obtain ⟨⟨q, last⟩, eq', _, rfl⟩ := h
      exact Nat.lt_trans (length_left_of_pop? eq') first
    · simp only [Option.some.injEq, Prod.mk.injEq] at h
      obtain ⟨_, rfl⟩ := h
      exact first

/-- All visits that are left, in order. -/
def toList (w : Walker) : List Visit :=
  match _ : w.next? with
  | none => []
  | some (v, after) => v :: after.toList
termination_by w.left.length
decreasing_by exact length_left_of_next? ‹_›

end Walker

/-- The node and all below it, each after the one that it belongs to. -/
def Schema.walk (s : Schema) (shared : FormatRegistry) (id : NodeId) (options : WalkOptions := {}) :
    List Visit :=
  (Walker.start s shared id options).toList

end JsonSchema
