import JsonSchema.Proofs.Building.Construction
import JsonSchema.Proofs.Building.Tree
import JsonSchema.Proofs.Coercion.Stage
import JsonSchema.Proofs.Comparison.Locality
import JsonSchema.Proofs.Reloading.Plain
import JsonSchema.Schema.Parse
import JsonSchema.Schema.Walk

/-!
# Nothing is looked up beyond the last node

Whatever nodes are put after the last node of an orderly schema, no answer changes: no place beyond
the schema's own nodes is ever looked at.
-/

namespace JsonSchema

open Schema

/-- More nodes after the last one. -/
def Schema.padded (s : Schema) (more : Array Node) : Schema := ⟨s.nodes ++ more⟩

namespace Schema

variable {s : Schema} {more : Array Node} {id child : NodeId}

theorem size_padded (s : Schema) (more : Array Node) : (s.padded more).size = s.size + more.size :=
  Array.size_append

theorem node?_padded (h : id < s.size) : (s.padded more).node? id = s.node? id :=
  Array.getElem?_append_left h

theorem kind?_padded (h : id < s.size) : (s.padded more).kind? id = s.kind? id := by
  rw [kind?, node?_padded h, kind?]

theorem isOptional_padded (h : id < s.size) : (s.padded more).isOptional id = s.isOptional id := by
  rw [isOptional, node?_padded h, isOptional]

theorem Below.padded (h : s.Below id child) : (s.padded more).Below id child := by
  refine ⟨h.1, ?_⟩
  rw [size_padded]
  exact Nat.lt_add_right _ h.2

namespace Orderly

variable (h : s.Orderly)
include h

theorem target_lt_size {target : NodeId} (hid : id < s.size)
    (hkind : s.kind? id = some (.link target)) : target < s.size := by
  obtain ⟨n, hn, hkind⟩ := Option.map_eq_some_iff.1 hkind
  exact Nat.lt_trans (h.link id n target hn hkind) hid

theorem lt_size_of_follow {hops : Nat} {r : Nat × NodeId} (hid : id < s.size)
    (hfollow : s.follow hops id = .ok r) : r.2 < s.size := by
  fun_induction follow s hops id with
  | case1 hops id target hkind hlt ih => exact ih (h.target_lt_size hid hkind) hfollow
  | case2 => cases hfollow
  | case3 hops id hlink =>
    cases hfollow
    exact hid

theorem lt_size_of_resolve {reference : String} {target : NodeId}
    (hresolve : (Index.ofSchema s).resolve reference = .ok target) : target < s.size := by
  obtain ⟨e, he, rfl⟩ := Index.mem_of_resolve hresolve
  exact h.lt_size_of_within (within_of_mem_entriesFrom he)

theorem follow_padded (hid : id < s.size) (hops : Nat) :
    (s.padded more).follow hops id = s.follow hops id := by
  fun_induction follow s hops id with
  | case1 hops id target hkind hlt ih =>
    rw [follow, kind?_padded hid, hkind]
    dsimp only
    rw [if_pos hlt]
    exact ih (h.target_lt_size hid hkind)
  | case2 hops id target hkind hlt =>
    rw [follow, kind?_padded hid, hkind]
    dsimp only
    rw [if_neg hlt]
  | case3 hops id hlink =>
    refine follow_eq_self (fun target hkind => ?_) hops
    rw [kind?_padded hid] at hkind
    exact hlink target hkind

/-! ## The index and documents -/

theorem entriesFrom_padded (hid : id < s.size) (path : Path) :
    (s.padded more).entriesFrom path id = s.entriesFrom path id := by
  fun_induction entriesFrom s path id with
  | case1 path id ih =>
    have hchildren : (s.padded more).children id = s.children id := by
      rw [children, node?_padded hid, children]
    rw [entriesFrom, hchildren]
    congr 1
    refine List.flatMap_congr fun e he => ?_
    have hbelow := h.below_of_heldBy (heldBy_of_mem_children he)
    rw [dif_pos hbelow, dif_pos hbelow.padded]
    exact ih e hbelow hbelow.2

theorem index_padded : Index.ofSchema (s.padded more) = Index.ofSchema s := by
  have hentries : (s.padded more).entriesFrom [] root = s.entriesFrom [] root :=
    h.entriesFrom_padded h.nonempty []
  unfold Index.ofSchema
  dsimp only
  rw [hentries]
  congr 1
  refine List.filterMap_congr fun e he => ?_
  rw [node?_padded (h.lt_size_of_within (within_of_mem_entriesFrom he))]

theorem document_padded (hid : id < s.size) (ix : Index) :
    (s.padded more).document ix id = s.document ix id := by
  induction hleft : s.size - id using Nat.strongRecOn generalizing id with | ind left ih
  subst hleft
  rw [document, node?_padded hid, document]
  cases hn : s.node? id with
  | none => rfl
  | some n =>
    have hkeywords : n.keywords.map (fun k => (k.name, k.toJson fun child =>
        if _ : (s.padded more).Below id child then (s.padded more).document ix child else .null)) =
          n.keywords.map fun k => (k.name, k.toJson fun child =>
            if _ : s.Below id child then s.document ix child else .null) := by
      refine List.map_congr_left fun k hk => ?_
      congr 1
      refine Keyword.toJson_congr fun child hchild => ?_
      have hbelow := h.below id n hn child (List.mem_flatMap.2 ⟨k, hk, hchild⟩)
      rw [dif_pos hbelow, dif_pos hbelow.padded]
      exact ih _ hbelow.size_sub_lt hbelow.2 rfl
    dsimp only
    rw [hkeywords]

/-! ## Templates -/

omit h in
theorem fillMembers_congr {s t : Schema} {fill fill' : NodeId → Option Json → Option Json}
    {properties : List (String × NodeId)}
    (hoptional : ∀ e ∈ properties, t.isOptional e.2 = s.isOptional e.2)
    (hfill : ∀ e ∈ properties, ∀ current, fill' e.2 current = fill e.2 current)
    (options : TemplateOptions) (value : Option Json) (base : Members) :
    Template.fillMembers t options value base fill' properties =
      Template.fillMembers s options value base fill properties := by
  unfold Template.fillMembers
  refine List.foldl_ext _ _ _ fun out e he => ?_
  dsimp only
  rw [hoptional e he, hfill e he]

omit h in
theorem fillObject_congr {s t : Schema} {fill fill' : NodeId → Option Json → Option Json} {n : Node}
    (hoptional : ∀ e ∈ n.properties, t.isOptional e.2 = s.isOptional e.2)
    (hfill : ∀ e ∈ n.properties, ∀ current, fill' e.2 current = fill e.2 current)
    (options : TemplateOptions) (nested : Bool) (value : Option Json) :
    Template.fillObject t options nested n fill' value =
      Template.fillObject s options nested n fill value := by
  unfold Template.fillObject
  simp only [fillMembers_congr hoptional hfill]

theorem templateFrom_padded (options : TemplateOptions) (nested : Bool) (hid : id < s.size)
    (seed : Option Json) :
    (s.padded more).templateFrom options nested id seed =
      s.templateFrom options nested id seed := by
  induction hleft : s.size - id using Nat.strongRecOn generalizing id nested seed with | ind left ih
  subst hleft
  rw [templateFrom, node?_padded hid, templateFrom]
  cases hn : s.node? id with
  | none => rfl
  | some n =>
    have hbelow : ∀ e ∈ n.properties, s.Below id e.2 := fun e he =>
      h.below id n hn e.2 (Node.mem_places_of_properties he)
    dsimp only
    rw [fillObject_congr fun e he => isOptional_padded (hbelow e he).2]
    intro e he current
    rw [dif_pos (hbelow e he), dif_pos (hbelow e he).padded]
    exact ih _ (hbelow e he).size_sub_lt true (hbelow e he).2 current rfl

end Orderly

end Schema

/-! ## Judging and coercing -/

namespace Context

/-- The same question to the schema with more nodes. -/
def padded (c : Context) (more : Array Node) : Context := { c with schema := c.schema.padded more }

variable {c : Context} {more : Array Node} {id : NodeId} (h : c.schema.Orderly)
  (hindex : c.index = .ofSchema c.schema)
include h

theorem turn_padded (hid : id < c.schema.size) (hops : Nat) (value : Option Json) (at_ : Location) :
    (c.padded more).turn hops id value at_ = c.turn hops id value at_ := by
  unfold turn padded
  dsimp only
  rw [h.follow_padded hid]
  cases hfollow : c.schema.follow hops id with
  | error e => rfl
  | ok r =>
    dsimp only
    rw [node?_padded (h.lt_size_of_follow hid hfollow)]

omit h in
theorem isOptional_children_padded {n : Node} (hbelow : ∀ child ∈ n.places, child < c.schema.size) :
    ∀ child ∈ n.places, (c.padded more).schema.isOptional child = c.schema.isOptional child :=
  fun child hchild => isOptional_padded (hbelow child hchild)

theorem follow_children_padded {hops : Nat} {n : Node}
    (hbelow : ∀ child ∈ n.places, child < c.schema.size) : ∀ child ∈ n.places,
      ((c.padded more).schema.follow hops child).map (fun r => (c.padded more).schema.kind? r.2) =
        (c.schema.follow hops child).map fun r => c.schema.kind? r.2 := by
  intro child hchild
  have hlt := hbelow child hchild
  have hfollow : (c.padded more).schema.follow hops child = c.schema.follow hops child :=
    h.follow_padded hlt hops
  rw [hfollow]
  cases hreached : c.schema.follow hops child with
  | error e => rfl
  | ok r => exact congrArg Except.ok (kind?_padded (h.lt_size_of_follow hlt hreached))

include hindex

/-- By the turns of the judgement: each one asks only nodes of the schema. -/
theorem check_padded (hid : id < c.schema.size) (hops : Nat) (value : Option Json) (at_ : Location) :
    (c.padded more).check hops id value at_ = c.check hops id value at_ := by
  induction hops, id, value, at_ using check_induction (c := c) with
  | settled hops id value at_ outcome hturn =>
    rw [check_eq_turn, check_eq_turn c, turn_padded h hid, hturn]
  | handed hops id value at_ reached target v hturn ih =>
    obtain ⟨_, _, _, _, _, _, _, _, hresolve, _⟩ := turn_handed hturn
    rw [hindex] at hresolve
    rw [check_eq_turn, check_eq_turn c, turn_padded h hid, hturn]
    exact ih (h.lt_size_of_resolve hresolve)
  | asked hops id value at_ reached place n v hturn ih =>
    obtain ⟨_, _, hn, _⟩ := turn_asked hturn
    have hbelow := h.below place n hn
    rw [check_eq_turn, check_eq_turn c, turn_padded h hid, hturn]
    refine asked_congr (c.padded more) c rfl (fun child hchild w p => ?_)
      (follow_children_padded h fun child hchild => (hbelow child hchild).2) c.shortCircuit v at_
    have hpadded : (c.padded more).schema.Below place child := (hbelow child hchild).padded
    rw [judgeBelow_of_below (hbelow child hchild), judgeBelow_of_below hpadded]
    exact ih child w p (hbelow child hchild) (hbelow child hchild).2

theorem coerce_padded (hid : id < c.schema.size) (options : CoerceOptions) (hops : Nat) (v : Json) :
    (c.padded more).coerce options hops id v = c.coerce options hops id v := by
  -- The stage looks at the node that links lead to, and at no other.
  have hstage : ∀ {hops id}, id < c.schema.size → (c.padded more).stage hops id = c.stage hops id := by
    intro hops id hid
    have hfollow : (c.padded more).schema.follow hops id = c.schema.follow hops id :=
      h.follow_padded hid hops
    unfold stage
    rw [hfollow]
    cases hreached : c.schema.follow hops id with
    | error e => rfl
    | ok r =>
      have hnode : (c.padded more).schema.node? r.2 = c.schema.node? r.2 :=
        node?_padded (h.lt_size_of_follow hid hreached)
      dsimp only
      rw [hnode]
      rfl
  induction hops, id using stage_induction (c := c) generalizing v with
  | failed hops id e hs | kept hops id hs | hooked hops id hook hs =>
    rw [coerce_eq_stage, coerce_eq_stage c, hstage hid, hs]
  | handed hops id reached target hs ih =>
    obtain ⟨_, _, _, _, _, _, _, hresolve, _⟩ := stage_handed hs
    rw [hindex] at hresolve
    rw [coerce_eq_stage, coerce_eq_stage c, hstage hid, hs]
    exact ih (h.lt_size_of_resolve hresolve) v
  | converted hops id reached place n hs ih =>
    obtain ⟨_, hn, _⟩ := stage_converted hs
    have hbelow := h.below place n hn
    rw [coerce_eq_stage, coerce_eq_stage c, hstage hid, hs]
    refine Coercion.byKind_congr (c.padded more) c (fun child hchild w => ?_)
      (isOptional_children_padded fun child hchild => (hbelow child hchild).2)
      (fun child hchild => check_padded h hindex (hbelow child hchild).2 reached _ _) v
    have hpadded : (c.padded more).schema.Below place child := (hbelow child hchild).padded
    rw [convertBelow_of_below (hbelow child hchild), convertBelow_of_below hpadded]
    exact ih child (hbelow child hchild) (hbelow child hchild).2 w

end Context

/-! ## Whole answers -/

namespace Schema.Orderly

variable {s : Schema} (h : s.Orderly) {id : NodeId} (hid : id < s.size) (more : Array Node)
include h hid

theorem coerceAt_padded (shared : FormatRegistry) (v : Json) (options : CoerceOptions) :
    (s.padded more).coerceAt shared id v options = s.coerceAt shared id v options := by
  have hcontext : (s.padded more).lenientContext shared = (s.lenientContext shared).padded more := by
    unfold lenientContext Context.padded
    rw [h.index_padded]
  unfold coerceAt
  rw [hcontext]
  exact Context.coerce_padded h rfl hid options 0 v

theorem validateAt_padded (shared : FormatRegistry) (value : Option Json) (options : ValidateOptions) :
    (s.padded more).validateAt shared id value options = s.validateAt shared id value options := by
  have hcontext : (s.padded more).context shared options = (s.context shared options).padded more := by
    unfold context Context.padded
    rw [h.index_padded]
  have hcheck : ∀ value at_, ((s.padded more).context shared options).check 0 id value at_ =
      (s.context shared options).check 0 id value at_ := by
    intro value at_
    rw [hcontext]
    exact Context.check_padded h rfl hid 0 value at_
  unfold validateAt
  simp only [h.coerceAt_padded hid more, hcheck]

end Schema.Orderly

/-! ## Walks -/

namespace Node

variable {n : Node}

theorem mem_children_of_properties {e : String × NodeId} (h : e ∈ n.properties) :
    ([.key "properties", .key e.1], e.2) ∈ n.children :=
  List.mem_flatMap.2 ⟨_, mem_keywords_of_properties h, List.mem_map.2 ⟨e, h, rfl⟩⟩

theorem mem_children_of_prefixItems {i : Nat} {child : NodeId} (h : n.prefixItems[i]? = some child) :
    ([.key "prefixItems", .ofPosition i], child) ∈ n.children := by
  refine List.mem_flatMap.2 ⟨_, mem_keywords_of_prefixItems h, ?_⟩
  have hmem := Keyword.mem_positioned_of_getElem? h "prefixItems" 0
  rwa [Nat.zero_add] at hmem

theorem mem_children_of_items {child : NodeId} (h : n.single? .items = some child) :
    ([.key "items"], child) ∈ n.children :=
  List.mem_flatMap.2 ⟨_, mem_keywords_of_single? h, List.mem_singleton.2 rfl⟩

theorem mem_children_of_mem_arrayChildren {data : Option Json} {c : Child}
    (h : c ∈ Schema.arrayChildren n data) : (c.keywordPath, c.node) ∈ n.children := by
  have hleading : ∀ c ∈ n.prefixItems.zipIdx.map (fun e =>
      (⟨e.1, .ofPosition e.2, [.key "prefixItems", .ofPosition e.2]⟩ : Child)),
      (c.keywordPath, c.node) ∈ n.children := by
    intro c hc
    obtain ⟨e, he, rfl⟩ := List.mem_map.1 hc
    exact mem_children_of_prefixItems (List.mem_zipIdx_iff_getElem?.1 he)
  unfold Schema.arrayChildren at h
  dsimp only at h
  cases hitems : n.single? .items with
  | none =>
    simp only [hitems] at h
    exact hleading c h
  | some item =>
    simp only [hitems] at h
    rcases List.mem_append.1 h with h | h
    · exact hleading c h
    · obtain ⟨i, _, rfl⟩ := List.mem_map.1 h
      exact mem_children_of_items hitems

end Node

namespace Schema

variable {s : Schema}

theorem mem_children_of_mem_childrenFor {id : NodeId} {data : Option Json} {c : Child}
    (h : c ∈ s.childrenFor id data) : (c.keywordPath, c.node) ∈ s.children id := by
  unfold childrenFor at h
  unfold children
  cases hn : s.node? id with
  | none => simp [hn] at h
  | some n =>
    simp only [hn] at h
    show (c.keywordPath, c.node) ∈ n.children
    split at h
    · obtain ⟨e, he, rfl⟩ := List.mem_map.1 h
      exact Node.mem_children_of_properties he
    · exact Node.mem_children_of_mem_arrayChildren h
    · cases h

end Schema

theorem Schema.Orderly.below_of_mem_childrenFor {s : Schema} (h : s.Orderly) {id : NodeId}
    {data : Option Json} {child : Child} (hchild : child ∈ s.childrenFor id data) :
    s.Below id child.node :=
  h.below_of_heldBy (heldBy_of_mem_children (mem_children_of_mem_childrenFor hchild))

namespace Walk

/-- The same walk where more nodes follow. -/
def padded (w : Walk) (more : Array Node) : Walk := { w with schema := w.schema.padded more }

variable {w : Walk} (h : w.schema.Orderly) (more : Array Node) {p : Pending}
  (hp : p.node < w.schema.size)
include h hp

theorem visit_padded : (w.padded more).visit p = w.visit p := by
  have haccepted : (w.padded more).accepted? p = w.accepted? p := by
    unfold accepted? padded
    simp only [h.validateAt_padded hp more]
    rfl
  rw [visit, haccepted, visit]

theorem expand_padded : (w.padded more).expand p = w.expand p := by
  have henters : (w.padded more).enters p = w.enters p := by
    unfold enters padded
    dsimp only
    rw [kind?_padded hp]
  have hchildren : ∀ data, (w.padded more).schema.childrenFor p.node data =
      w.schema.childrenFor p.node data := by
    intro data
    unfold childrenFor padded
    dsimp only
    rw [node?_padded hp]
  unfold expand
  rw [henters, hchildren]
  split
  · congr 1
    refine List.filter_congr fun child hchild => ?_
    have hbelow := h.below_of_mem_childrenFor hchild
    have hpadded : (w.padded more).schema.Below p.node child.node := hbelow.padded
    rw [decide_eq_true hbelow, decide_eq_true hpadded]
  · rfl

end Walk

namespace Walker

/-- The same walker where more nodes follow. -/
def padded (w : Walker) (more : Array Node) : Walker := { w with walk := w.walk.padded more }

/-- Only nodes of the schema are yet to be visited. -/
def Inside (w : Walker) : Prop := ∀ p ∈ w.stack, p.node < w.walk.schema.size

variable {w : Walker} (h : w.walk.schema.Orderly) (hinside : w.Inside) (more : Array Node)
include h hinside

theorem pop?_padded :
    (w.padded more).pop? = w.pop?.map fun e => (e.1, e.2.padded more) := by
  unfold pop? padded
  dsimp only
  cases hstack : w.stack with
  | nil => rfl
  | cons p rest =>
    have hp : p.node < w.walk.schema.size := hinside p (by rw [hstack]; exact List.mem_cons_self)
    dsimp only
    rw [Walk.expand_padded h more hp]
    rfl

omit h in
theorem inside_of_pop? {after : Walker} {p : Pending} (hpop : w.pop? = some (p, after)) :
    p.node < w.walk.schema.size ∧ after.Inside ∧ after.walk = w.walk := by
  unfold pop? at hpop
  split at hpop
  · cases hpop
  · next q rest hstack =>
    cases hpop
    have hrest : ∀ q ∈ p :: rest, q.node < w.walk.schema.size := hstack ▸ hinside
    refine ⟨hrest p List.mem_cons_self, ?_, rfl⟩
    intro q hq
    rcases List.mem_append.1 hq with hq | hq
    · exact (Walk.below_of_mem_expand hq).2
    · exact hrest q (List.mem_cons_of_mem _ hq)

theorem next?_padded :
    (w.padded more).next? = w.next?.map fun e => (e.1, e.2.padded more) := by
  unfold next?
  rw [pop?_padded h hinside more]
  cases hpop : w.pop? with
  | none => rfl
  | some e =>
    obtain ⟨p, after⟩ := e
    obtain ⟨hp, hafter, hwalk⟩ := inside_of_pop? hinside hpop
    have horderly : after.walk.schema.Orderly := hwalk ▸ h
    simp only [Option.map_some]
    have hskip : (w.padded more).skipFirst = w.skipFirst := rfl
    have hvisit : ∀ q : Pending, q.node < w.walk.schema.size →
        (w.padded more).walk.visit q = w.walk.visit q := fun q hq => Walk.visit_padded h more hq
    rw [hskip]
    cases w.skipFirst with
    | true =>
      rw [if_pos rfl, if_pos rfl, pop?_padded horderly hafter more]
      cases hnext : after.pop? with
      | none => rfl
      | some e =>
        obtain ⟨q, last⟩ := e
        have hq := (inside_of_pop? hafter hnext).1
        rw [hwalk] at hq
        simp only [Option.map_some, hvisit q hq]
    | false =>
      rw [if_neg Bool.false_ne_true, if_neg Bool.false_ne_true, hvisit p hp]
      rfl

omit h in
theorem inside_of_next? {after : Walker} {v : Visit} (hnext : w.next? = some (v, after)) :
    after.Inside ∧ after.walk = w.walk := by
  unfold next? at hnext
  split at hnext
  · cases hnext
  · next p popped hpop =>
    obtain ⟨_, hpopped, hwalk⟩ := inside_of_pop? hinside hpop
    split at hnext
    · obtain ⟨⟨q, last⟩, hlast, heq⟩ := Option.map_eq_some_iff.1 hnext
      cases heq
      obtain ⟨_, hinside', hwalk'⟩ := inside_of_pop? hpopped hlast
      exact ⟨hinside', hwalk'.trans hwalk⟩
    · cases hnext
      exact ⟨hpopped, hwalk⟩

theorem toList_padded : (w.padded more).toList = w.toList := by
  fun_induction toList w with
  | case1 w hnext =>
    rw [toList, next?_padded h hinside more, hnext]
    rfl
  | case2 w v after hnext ih =>
    obtain ⟨hafter, hwalk⟩ := inside_of_next? hinside hnext
    rw [toList, next?_padded h hinside more, hnext]
    exact congrArg (v :: ·) (ih (hwalk ▸ h) hafter)

end Walker

/-! ## All answers -/

namespace Schema

/-- Nothing beyond the last node is ever looked at: not by following links, by references, or when a
value is judged, coerced or filled in, when the schema is walked, and when its document is written. -/
structure Confined (s : Schema) : Prop where
  follow : ∀ hops id r, id < s.size → s.follow hops id = .ok r → r.2 < s.size
  resolve : ∀ reference id, (Index.ofSchema s).resolve reference = .ok id → id < s.size
  index : ∀ more, Index.ofSchema (s.padded more) = Index.ofSchema s
  validate : ∀ more shared id value options, id < s.size →
    (s.padded more).validateAt shared id value options = s.validateAt shared id value options
  coerce : ∀ more shared id v options, id < s.size →
    (s.padded more).coerceAt shared id v options = s.coerceAt shared id v options
  template : ∀ more options nested id seed, id < s.size →
    (s.padded more).templateFrom options nested id seed = s.templateFrom options nested id seed
  walk : ∀ more shared id options, id < s.size →
    (s.padded more).walk shared id options = s.walk shared id options
  document : ∀ more id, id < s.size → (s.padded more).documentAt id = s.documentAt id
  parse : ∀ more shared v options, (s.padded more).parse shared v options = s.parse shared v options

theorem Orderly.parse_padded {s : Schema} (h : s.Orderly) (more : Array Node)
    (shared : FormatRegistry) (v : Json) (options : ParseOptions) :
    (s.padded more).parse shared v options = s.parse shared v options := by
  have hroot : root < s.size := h.nonempty
  have hjson : (s.padded more).toJson = s.toJson := by
    rw [toJson, documentAt, h.index_padded, h.document_padded hroot, toJson, documentAt]
  have hcoerce : ∀ v options, (s.padded more).coerce shared v options = s.coerce shared v options :=
    fun v options => h.coerceAt_padded hroot more shared v options
  have htemplate : ∀ seed options, (s.padded more).template seed options = s.template seed options :=
    fun seed options => h.templateFrom_padded options false hroot seed
  have hprepare : (s.padded more).prepare shared v options = s.prepare shared v options := by
    unfold prepare working
    cases options.clone with
    | true => rw [if_pos rfl, if_pos rfl, hjson]
    | false =>
      rw [if_neg Bool.false_ne_true, if_neg Bool.false_ne_true]
      simp only [Except.ok_bind, hcoerce, htemplate]
  have hvalidate : ∀ v options, (s.padded more).validate shared v options = s.validate shared v options :=
    fun v options => h.validateAt_padded hroot more shared (some v) options
  unfold parse
  simp only [hprepare, hvalidate]

theorem Orderly.confined {s : Schema} (h : s.Orderly) : s.Confined where
  follow := fun _ _ _ hid hfollow => h.lt_size_of_follow hid hfollow
  resolve := fun _ _ hresolve => h.lt_size_of_resolve hresolve
  index := fun _ => h.index_padded
  validate := fun more shared _ value options hid => h.validateAt_padded hid more shared value options
  coerce := fun more shared _ v options hid => h.coerceAt_padded hid more shared v options
  template := fun _ options nested _ seed hid => h.templateFrom_padded options nested hid seed
  walk := by
    intro more shared id options hid
    have hinside : (Walker.start s shared id options).Inside := by
      intro p hp
      rw [List.mem_singleton.1 hp]
      exact hid
    exact Walker.toList_padded (w := .start s shared id options) h hinside more
  document := by
    intro more id hid
    rw [documentAt, h.index_padded, h.document_padded hid, documentAt]
  parse := h.parse_padded

/-! ## Schemas that can be made -/

/-- Every schema that can be made is orderly, has no placeholder left, and is never left by anything
that works with it. -/
theorem Constructed.wellFormed {s : Schema} (h : s.Constructed) :
    s.Orderly ∧ s.HoleFree ∧ s.Confined :=
  ⟨h.orderly, h.holeFree, h.orderly.confined⟩

/-- A list of lists, which cannot be made strict, with its items replaced by the list. -/
theorem wellFormed_list : ∃ s, (Expr.recursive "list" (.array (.this "list"))).build = .ok s ∧
    ((s.attempt .strict).attempt (.single .items s)).Constructed ∧
    ((s.attempt .strict).attempt (.single .items s)).Orderly ∧
    ((s.attempt .strict).attempt (.single .items s)).HoleFree ∧
    ((s.attempt .strict).attempt (.single .items s)).Confined := by
  have hbuild : (Expr.recursive "list" (.array (.this "list"))).build =
      .ok ((Schema.array (.placeholder 0)).tie 0) := by with_unfolding_all rfl
  have hclosed : (Expr.recursive "list" (.array (.this "list"))).ClosedIn [] := by
    simp [Expr.ClosedIn]
  have hscope : ∀ entry ∈ ([] : List (String × Schema)), entry.2.Constructed := by simp
  have hmade := Constructed.built hscope hclosed hbuild
  have hparts : ∀ part ∈ (Edit.single .items ((Schema.array (.placeholder 0)).tie 0)).parts,
      part.Constructed := List.forall_mem_singleton.2 hmade
  have hstrict : ∀ part ∈ (Edit.strict : Edit Schema).parts, part.Constructed := by simp [Edit.parts]
  have hchanged := (hmade.changed hstrict).changed hparts
  exact ⟨_, hbuild, hchanged, Constructed.wellFormed hchanged⟩

/-- A keyword that is set as it is may hold the very node it is set at. -/
theorem not_orderly_setKeyword : ¬ (any.setKeyword (.single .negated root)).Orderly := by
  intro h
  have hroot : (any.setKeyword (.single .negated root)).node? root =
      some { kind := .any, keywords := [.single .negated root] } := rfl
  have hbelow := h.below root _ hroot root (by decide)
  exact Nat.lt_irrefl root hbelow.1

end Schema

end JsonSchema
