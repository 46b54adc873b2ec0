import JsonSchema.Proofs.Indexing.Walks
import JsonSchema.Proofs.Places.Pointers

/-!
# Walks in pre-order

A walk visits its first node and then what the walks from the children visit, one child after the other,
each bound to its own part of the value. A greatest depth leaves visits out and changes no other.
-/

namespace JsonSchema

/-- How a walk goes on from a child: one step further in the value, and bound to what is found there. -/
def WalkOptions.into (options : WalkOptions) (c : Child) : WalkOptions where
  data := options.data.bind (·.child? c.instanceStep)
  maxDepth := options.maxDepth
  instancePath := options.instancePath ++ [c.instanceStep]
  keywordPath := options.keywordPath ++ c.keywordPath

namespace Walk

variable {w w' : Walk} {p q : Pending}

theorem expand_eq_map (h : w.schema.Orderly) :
    w.expand p = if w.enters p then
      (w.schema.childrenFor p.node (w.dataAt? p.instancePath)).map fun c =>
        ⟨c.node, p.instancePath ++ [c.instanceStep], p.keywordPath ++ c.keywordPath⟩
      else [] := by
  unfold expand
  congr 2
  refine List.filter_eq_self.2 fun c hc => ?_
  exact decide_eq_true (h.below_of_mem_childrenFor hc)

theorem instancePath_of_mem_expand (h : q ∈ w.expand p) :
    ∃ step, q.instancePath = p.instancePath ++ [step] := by
  obtain ⟨c, _, _, rfl⟩ := exists_child_of_mem_expand h
  exact ⟨c.instanceStep, rfl⟩

theorem instancePath_of_mem_preorder (h : q ∈ w.preorder p) :
    ∃ rest, q.instancePath = p.instancePath ++ rest := by
  induction p using w.expand_induction with | step p ih
  rcases mem_preorder_iff.1 h with rfl | ⟨c, hc, hq⟩
  · exact ⟨[], (List.append_nil _).symm⟩
  · obtain ⟨step, hstep⟩ := instancePath_of_mem_expand hc
    obtain ⟨rest, hrest⟩ := ih c hc hq
    exact ⟨step :: rest, by rw [hrest, hstep, List.append_assoc, List.singleton_append]⟩

/-! ## The part of the value -/

/-- The two walks do the same at the place and below. -/
structure AgreesFrom (w w' : Walk) (path : Path) : Prop where
  schema : w.schema = w'.schema
  shared : w.shared = w'.shared
  maxDepth : w.maxDepth = w'.maxDepth
  data : ∀ rest, w.dataAt? (path ++ rest) = w'.dataAt? (path ++ rest)

namespace AgreesFrom

variable {path : Path} (h : w.AgreesFrom w' p.instancePath)
include h

theorem dataAt? : w.dataAt? p.instancePath = w'.dataAt? p.instancePath := by
  have hdata := h.data []
  rwa [List.append_nil] at hdata

theorem visit_eq : w.visit p = w'.visit p := by
  unfold visit accepted?
  rw [h.dataAt?, h.schema, h.shared]

theorem expand_eq : w.expand p = w'.expand p := by
  unfold expand enters
  rw [h.dataAt?, h.schema, h.maxDepth]

theorem below (hq : q ∈ w.expand p) : w.AgreesFrom w' q.instancePath := by
  obtain ⟨step, hstep⟩ := instancePath_of_mem_expand hq
  refine ⟨h.schema, h.shared, h.maxDepth, fun rest => ?_⟩
  rw [hstep, List.append_assoc]
  exact h.data _

theorem map_visit_preorder : (w.preorder p).map w.visit = (w'.preorder p).map w'.visit := by
  induction p using w.expand_induction with | step p ih
  rw [preorder_eq, preorder_eq, List.map_cons, List.map_cons, List.map_flatMap, List.map_flatMap,
    h.visit_eq, ← h.expand_eq]
  exact congrArg (_ :: ·) (List.flatMap_congr fun q hq => ih q hq (h.below hq))

end AgreesFrom

/-! ## Greatest depths -/

/-- The walk without a greatest depth. -/
def unlimited (w : Walk) : Walk := { w with maxDepth := none }

theorem depth_lt_of_mem_flatMap (h : q ∈ (w.expand p).flatMap w.preorder) :
    p.instancePath.length < q.instancePath.length := by
  obtain ⟨c, hc, hq⟩ := List.mem_flatMap.1 h
  obtain ⟨step, hstep⟩ := instancePath_of_mem_expand hc
  obtain ⟨rest, hrest⟩ := instancePath_of_mem_preorder hq
  rw [hrest, hstep]
  simp only [List.length_append, List.length_singleton]
  omega

/-- The first node stays, however deep it is. -/
theorem preorder_eq_filter {m : Nat} (h : w.maxDepth = some m) (p : Pending) :
    w.preorder p = (w.unlimited.preorder p).filter fun q =>
      q.instancePath.length ≤ max m p.instancePath.length := by
  induction p using w.expand_induction with | step p ih
  have hfirst : p.instancePath.length ≤ max m p.instancePath.length := Nat.le_max_right _ _
  rw [preorder_eq, preorder_eq, List.filter_cons, if_pos (decide_eq_true hfirst), List.filter_flatMap]
  refine congrArg (p :: ·) ?_
  by_cases hdeep : p.instancePath.length < m
  · have hexpand : w.expand p = w.unlimited.expand p := by
      unfold expand enters unlimited
      rw [h]
      simp only [Option.all_some, Option.all_none, hdeep, decide_true]
      rfl
    rw [hexpand] at ih ⊢
    refine List.flatMap_congr fun q hq => (ih q hq).trans ?_
    obtain ⟨step, hstep⟩ := instancePath_of_mem_expand hq
    have hlength : q.instancePath.length = p.instancePath.length + 1 := by
      rw [hstep, List.length_append, List.length_singleton]
    rw [hlength, Nat.max_eq_left hdeep, Nat.max_eq_left (Nat.le_of_lt hdeep)]
  · have hexpand : w.expand p = [] := by
      refine if_neg ?_
      simp [enters, h, hdeep]
    rw [hexpand, List.flatMap_nil, ← List.filter_flatMap]
    refine (List.filter_eq_nil_iff.2 fun q hq => ?_).symm
    have hlt := depth_lt_of_mem_flatMap hq
    rw [decide_eq_true_eq]
    omega

end Walk

/-! ## The walk as a recursion -/

namespace Schema

/-- The walk goes on below its first node: it is no link, and not at the greatest depth. -/
def Entered (s : Schema) (id : NodeId) (options : WalkOptions) : Prop :=
  (∀ m, options.maxDepth = some m → options.instancePath.length < m) ∧
    ∀ target, s.kind? id ≠ some (.link target)

/-- What a walk visits: its first node, then what the walks from the children visit, in their order and
each with its own part of the value. -/
structure PreorderFrom (s : Schema) (shared : FormatRegistry) (id : NodeId) (options : WalkOptions)
    (first : Visit) : Prop where
  node : first.node = id
  instancePath : first.instancePath = options.instancePath
  keywordPath : first.keywordPath = options.keywordPath
  entered : s.Entered id options →
    s.walk shared id options = (if options.includeSelf then [first] else []) ++
      (s.childrenFor id options.data).flatMap fun c => s.walk shared c.node (options.into c)
  left : ¬ s.Entered id options → s.walk shared id options = if options.includeSelf then [first] else []
  limited : ∀ m, options.maxDepth = some m →
    s.walk shared id options = (s.walk shared id { options with maxDepth := none }).filter fun v =>
      v.depth ≤ max m options.instancePath.length
  data : ∀ v ∈ first :: s.walk shared id options, ∃ path, v.instancePath = options.instancePath ++ path ∧
    ∀ d, v.data = some d ↔ options.data.bind (·.get? path) = some d ∧
      ∃ verdict, s.validateAt shared v.node (some d) = .ok verdict ∧ verdict.valid = true

section

variable (s : Schema) (shared : FormatRegistry) (id : NodeId) (options : WalkOptions)

/-- What stays the same during the walk with these options. -/
def walkWith : Walk := (Walker.start s shared id options).walk

/-- The first node of the walk with these options. -/
def firstOf : Pending := ⟨id, options.instancePath, options.keywordPath⟩

end

section

variable {s : Schema} {shared : FormatRegistry} {id : NodeId} {options : WalkOptions}

theorem dataAt?_walkWith (path : Path) :
    (s.walkWith shared id options).dataAt? (options.instancePath ++ path) = options.data.bind (·.get? path) := by
  have hdrop : (options.instancePath ++ path).drop options.instancePath.length = path := List.drop_left
  exact congrArg (fun rest => options.data.bind (·.get? rest)) hdrop

theorem dataAt?_firstOf :
    (s.walkWith shared id options).dataAt? (firstOf id options).instancePath = options.data := by
  have hdata : (s.walkWith shared id options).dataAt? (options.instancePath ++ []) =
      options.data.bind (·.get? []) := dataAt?_walkWith []
  rw [List.append_nil] at hdata
  refine hdata.trans ?_
  cases options.data <;> rfl

theorem enters_firstOf :
    (s.walkWith shared id options).enters (firstOf id options) = true ↔ s.Entered id options := by
  have hfirst : (s.walkWith shared id options).schema.kind? (firstOf id options).node = s.kind? id := rfl
  have hdepth : (s.walkWith shared id options).maxDepth = options.maxDepth := rfl
  unfold Walk.enters Entered
  rw [Bool.and_eq_true, Option.all_eq_true, hfirst, hdepth]
  refine and_congr ?_ ?_
  · simp only [decide_eq_true_eq]
    rfl
  · cases hkind : s.kind? id with
    | none => simp
    | some kind => cases kind <;> simp

theorem agreesFrom_into (c : Child) :
    (s.walkWith shared id options).AgreesFrom (s.walkWith shared c.node (options.into c))
      (options.instancePath ++ [c.instanceStep]) where
  schema := rfl
  shared := rfl
  maxDepth := rfl
  data := by
    intro rest
    calc (s.walkWith shared id options).dataAt? (options.instancePath ++ [c.instanceStep] ++ rest)
      _ = options.data.bind (·.get? (c.instanceStep :: rest)) := by
        rw [List.append_assoc]
        exact dataAt?_walkWith _
      _ = (options.into c).data.bind (·.get? rest) := (Option.bind_assoc _ _ _).symm
      _ = _ := (dataAt?_walkWith rest).symm

theorem accepted?_eq_some_iff {w : Walk} {p : Pending} {d : Json} :
    w.accepted? p = some d ↔ w.dataAt? p.instancePath = some d ∧
      ∃ verdict, w.schema.validateAt w.shared p.node (some d) = .ok verdict ∧ verdict.valid = true := by
  unfold Walk.accepted?
  rw [Option.filter_eq_some_iff]
  refine and_congr_right fun _ => ?_
  cases w.schema.validateAt w.shared p.node (some d) with
  | ok verdict => simp
  | error e => simp

end

theorem drop_filter_cons {α : Type} {pass : α → Bool} {x : α} (hx : pass x = true) (xs : List α) (keep : Bool) :
    ((x :: xs).filter pass).drop (if keep then 0 else 1) =
      ((x :: xs).drop (if keep then 0 else 1)).filter pass := by
  rw [List.filter_cons_of_pos hx]
  cases keep with
  | false => rfl
  | true => exact (List.filter_cons_of_pos hx).symm

/-- Walks are recursive: the stack with its absolute paths never shows. -/
theorem Assembled.walk_preorder {s : Schema} (h : s.Assembled) (shared : FormatRegistry) (id : NodeId)
    (options : WalkOptions) : ∃ first, s.PreorderFrom shared id options first := by
  have hwalk : ∀ id options, s.walk shared id options = (((s.walkWith shared id options).preorder
      (firstOf id options)).drop (if options.includeSelf then 0 else 1)).map
        (s.walkWith shared id options).visit := fun id options => walk_eq_map shared id options
  have hself : ∀ {α : Type} (x : α) (xs : List α), (x :: xs).drop (if options.includeSelf then 0 else 1) =
      (if options.includeSelf then [x] else []) ++ xs := by
    intro α x xs
    cases options.includeSelf <;> rfl
  refine ⟨(s.walkWith shared id options).visit (firstOf id options), rfl, rfl, rfl, ?entered, ?left,
    ?limited, ?data⟩
  case entered =>
    intro hentered
    rw [hwalk, Walk.preorder_eq, hself, List.map_append, List.map_flatMap,
      Walk.expand_eq_map h.orderly, if_pos (enters_firstOf.2 hentered), List.flatMap_map, dataAt?_firstOf]
    refine congrArg₂ (· ++ ·) ?_ (List.flatMap_congr fun c _ => ?_)
    · cases options.includeSelf <;> rfl
    · rw [hwalk]
      exact (agreesFrom_into c).map_visit_preorder (p := firstOf c.node (options.into c))
  case left =>
    intro hleft
    have hexpand : (s.walkWith shared id options).expand (firstOf id options) = [] :=
      if_neg fun hentered => hleft (enters_firstOf.1 hentered)
    rw [hwalk, Walk.preorder_eq, hself, hexpand]
    cases options.includeSelf <;> rfl
  case limited =>
    intro m hm
    have hfirst : options.instancePath.length ≤ max m options.instancePath.length := Nat.le_max_right _ _
    have hlimited : (s.walkWith shared id options).preorder (firstOf id options) =
        ((s.walkWith shared id { options with maxDepth := none }).preorder (firstOf id options)).filter
          fun q => q.instancePath.length ≤ max m options.instancePath.length :=
      Walk.preorder_eq_filter hm (firstOf id options)
    rw [hwalk, hwalk, hlimited, List.filter_map]
    refine congrArg (List.map (s.walkWith shared id options).visit) ?_
    rw [Walk.preorder_eq, Walk.preorder_eq]
    exact drop_filter_cons (x := firstOf id options) (decide_eq_true hfirst) _ _
  case data =>
    intro v hv
    obtain ⟨p, hp, rfl⟩ : ∃ p ∈ (s.walkWith shared id options).preorder (firstOf id options),
        (s.walkWith shared id options).visit p = v := by
      rcases List.mem_cons.1 hv with rfl | hv
      · exact ⟨_, Walk.mem_preorder_self _ _, rfl⟩
      · rw [hwalk] at hv
        obtain ⟨p, hp, hv⟩ := List.mem_map.1 hv
        exact ⟨p, List.mem_of_mem_drop hp, hv⟩
    obtain ⟨path, hpath⟩ := Walk.instancePath_of_mem_preorder hp
    have hdata : (s.walkWith shared id options).dataAt? p.instancePath = options.data.bind (·.get? path) := by
      rw [hpath]
      exact dataAt?_walkWith path
    exact ⟨path, hpath, fun d => hdata ▸ accepted?_eq_some_iff⟩

/-- A list of texts. -/
def textsDocument : Json := .object [("type", .string "array"), ("items", .object [("type", .string "string")])]

/-- The list as a schema. -/
def texts : Schema :=
  ⟨#[{ kind := .array, keywords := [.leaf (.types [.array]), .single .items 1] }, .typed .string]⟩

theorem ofJson_textsDocument : ofJson textsDocument = .ok texts := by with_unfolding_all rfl

/-- The items of a list that is itself the member of something, the list left out. -/
def textsOptions : WalkOptions where
  data := some (.array [.string "a", .null])
  maxDepth := some 2
  includeSelf := false
  instancePath := [.key "texts"]

theorem walk_preorder_texts : ofJson textsDocument = .ok texts ∧
    ∃ first, texts.PreorderFrom .empty root textsOptions first :=
  ⟨ofJson_textsDocument, (Assembled.loaded ofJson_textsDocument).walk_preorder _ _ _⟩

end Schema

end JsonSchema
