import JsonSchema.Proofs.Building.Tree
import JsonSchema.Proofs.Evaluation.Leaves
import JsonSchema.Proofs.Indexing.Entries
import JsonSchema.Proofs.Json.Insertion
import Mathlib.Data.Finset.Card
import Mathlib.Data.Finset.Range

/-!
# Index, document and pointers agree

Where no node is held twice, a stack and the nodes met before lead through the nodes in the order of their
keywords. In a loaded schema every node has one pointer of its own, which is the way to it from the root. The
pointer leads to the node's document in the document of the whole, and resolves to the node.
-/

namespace JsonSchema

open Loader

namespace Schema

variable {s : Schema}

/-! ## The stack -/

/-- The children of a node, put on the stack in front of all others, the last one first. -/
def pushChildren (s : Schema) (path : Path) (id : NodeId) (stack : List (Path × NodeId)) :
    List (Path × NodeId) :=
  (s.children id).reverse.foldl (fun stack e => (path ++ e.1, e.2) :: stack) stack

theorem pushChildren_eq (path : Path) (id : NodeId) (stack : List (Path × NodeId)) :
    s.pushChildren path id stack = (s.children id).map (fun e => (path ++ e.1, e.2)) ++ stack := by
  rw [pushChildren, List.foldl_reverse, List.foldr_cons_eq_append]

theorem pushChildren_of_size_le {path : Path} {id : NodeId} {stack : List (Path × NodeId)}
    (h : s.size ≤ id) : s.pushChildren path id stack = stack := by
  have hnone : s.node? id = none := Array.getElem?_eq_none h
  rw [pushChildren_eq, children, hnone]
  rfl

/-- The nodes that were not met yet. -/
def unseen (s : Schema) (seen : List NodeId) : Finset NodeId := Finset.range s.size \ seen.toFinset

theorem unseen_cons (seen : List NodeId) (id : NodeId) :
    s.unseen (id :: seen) = (s.unseen seen).erase id := by
  rw [unseen, List.toFinset_cons, Finset.sdiff_insert, unseen]

/-- The nodes on the stack and all below them, without those that were met before. -/
def visit (s : Schema) (seen : List NodeId) : List (Path × NodeId) → List (Path × NodeId)
  | [] => []
  | (path, id) :: stack =>
    if id ∈ seen then s.visit seen stack
    else (path, id) :: s.visit (id :: seen) (s.pushChildren path id stack)
termination_by stack => ((s.unseen seen).card, stack.length)
decreasing_by
  · exact .right _ (Nat.lt_succ_self _)
  · next hunseen =>
    rw [unseen_cons]
    by_cases hid : id < s.size
    · have hmem : id ∈ s.unseen seen := by simp [unseen, hid, hunseen]
      exact .left _ _ (Finset.card_erase_lt_of_mem hmem)
    · have hmem : id ∉ s.unseen seen := by simp [unseen, hid]
      rw [Finset.erase_eq_of_notMem hmem, pushChildren_of_size_le (Nat.le_of_not_lt hid)]
      exact .right _ (Nat.lt_succ_self _)

/-! ## The order -/

namespace Orderly

theorem entriesFrom_eq (h : s.Orderly) (path : Path) (id : NodeId) :
    s.entriesFrom path id =
      (path, id) :: (s.children id).flatMap fun e => s.entriesFrom (path ++ e.1) e.2 := by
  rw [entriesFrom]
  congr 1
  refine List.flatMap_congr fun e he => ?_
  rw [dif_pos (h.below_of_heldBy (heldBy_of_mem_children he))]

theorem flatMap_entriesFrom_cons (h : s.Orderly) (path : Path) (id : NodeId)
    (stack : List (Path × NodeId)) :
    ((path, id) :: stack).flatMap (fun e => s.entriesFrom e.1 e.2) =
      (path, id) :: (s.pushChildren path id stack).flatMap fun e => s.entriesFrom e.1 e.2 := by
  rw [List.flatMap_cons, h.entriesFrom_eq, List.cons_append, pushChildren_eq, List.flatMap_append,
    List.flatMap_map]

/-- As long as no node is below two others on the stack, none is passed over. -/
theorem visit_eq (h : s.Orderly) {seen : List NodeId} {stack : List (Path × NodeId)}
    (hnodup : ((stack.flatMap fun e => s.entriesFrom e.1 e.2).map (·.2)).Nodup)
    (hunseen : ∀ e ∈ stack.flatMap fun e => s.entriesFrom e.1 e.2, e.2 ∉ seen) :
    s.visit seen stack = stack.flatMap fun e => s.entriesFrom e.1 e.2 := by
  fun_induction visit s seen stack with
  | case1 seen => rfl
  | case2 seen path id stack hseen =>
    rw [h.flatMap_entriesFrom_cons] at hunseen
    exact absurd hseen (hunseen _ List.mem_cons_self)
  | case3 seen path id stack _ ih =>
    rw [h.flatMap_entriesFrom_cons] at hnodup hunseen ⊢
    obtain ⟨hid, hnodup⟩ := List.nodup_cons.1 hnodup
    rw [ih hnodup]
    intro e he hmem
    rcases List.mem_cons.1 hmem with heq | hmem
    · exact hid (List.mem_map.2 ⟨e, he, heq⟩)
    · exact hunseen e (List.mem_cons_of_mem _ he) hmem

theorem visit_root (h : s.Orderly) : s.visit [] [([], root)] = s.entriesFrom [] root := by
  have hnodup := h.nodup_entriesFrom [] root
  have hentries : [(([] : Path), root)].flatMap (fun e => s.entriesFrom e.1 e.2) =
      s.entriesFrom [] root := List.append_nil _
  rw [h.visit_eq (hentries ▸ hnodup) (fun _ _ => List.not_mem_nil), hentries]

end Orderly

end Schema

/-! ## Names -/

/-- The name that a document declares for itself. -/
def Json.declared? : Json → Option String
  | .object ms => (Members.get? ms "$id").bind Json.asString?
  | _ => none

theorem Node.Reads.id?_eq {R : NodeId → Json → Prop} {d : Json} {n : Node} (h : n.Reads R d) :
    n.id? = d.declared? := by
  cases h with
  | constant kind keywords hooks =>
    rw [Node.id?, Node.find?, keywords]
    rfl
  | @object ms n kind keywords hooks =>
    have hrel := Node.rel_id? keywords
    unfold Json.declared?
    dsimp only
    generalize n.id? = name? at hrel ⊢
    generalize Members.get? ms "$id" = d? at hrel ⊢
    cases hrel with
    | none => rfl
    | some heq =>
      rw [heq]
      rfl

theorem exists_lookup_of_find? {f : Path × NodeId → Option String} {es : List (Path × NodeId)}
    {xs : List (Path × Json)}
    (h : List.Forall₂ (fun e x => e.1 = x.1 ∧ f e = x.2.declared?) es xs) {name : String} {p : Path}
    {x : Json} (hfirst : xs.find? (fun x => x.2.declared? == some name) = some (p, x)) :
    ∃ id, (p, id) ∈ es ∧ (es.filterMap fun e => (f e).map (·, e.2)).lookup name = some id := by
  induction h with
  | nil => cases hfirst
  | @cons e y es xs he _ ih =>
    obtain ⟨hpath, hdeclared⟩ := he
    rw [List.filterMap_cons, hdeclared]
    by_cases hname : y.2.declared? = some name
    · rw [List.find?_cons_of_pos (by simpa using hname), Option.some.injEq] at hfirst
      obtain rfl : e.1 = p := by rw [hpath, hfirst]
      rw [hname]
      exact ⟨e.2, List.mem_cons_self, List.lookup_cons_self⟩
    · rw [List.find?_cons_of_neg (by simpa using hname)] at hfirst
      obtain ⟨id, hid, hlookup⟩ := ih hfirst
      refine ⟨id, List.mem_cons_of_mem _ hid, ?_⟩
      cases hother : y.2.declared? with
      | none => exact hlookup
      | some other =>
        have hne : name ≠ other := fun heq => hname (heq ▸ hother)
        rw [Option.map_some, List.lookup_cons, beq_false_of_ne hne]
        exact hlookup

/-! ## Documents of children -/

theorem Json.get?_ofList {ms : Members} (h : ms.keys.Nodup) {m : String × Json} (hm : m ∈ ms) :
    (Json.object (Members.ofList ms)).get? [.key m.1] = some m.2 := by
  rw [Members.ofList_of_nodup ms h, get?_singleton, child?_key h hm]

theorem keys_eq_of_forall₂ {P : α → String × Json → Prop} {f : α → String × Json}
    (hP : ∀ a m, P a m → (f a).1 = m.1) {as : List α} {ms : Members} (h : List.Forall₂ P as ms) :
    Members.keys (as.map f) = ms.keys := by
  rw [Members.keys, List.map_map]
  exact map_eq_map_of_forall₂ (h.imp hP)

/-- In the document of a keyword the way to a child leads to the document of the child. -/
theorem Keyword.Reads.get?_toJson {R : NodeId → Json → Prop} {m : String × Json} {k : Keyword}
    (h : k.Reads R m) (hm : m.2.keysDistinct = true) {e : Path × NodeId} (he : e ∈ k.children)
    (document : NodeId → Json) :
    ∃ p, e.1 = .key k.name :: p ∧ (k.toJson document).get? p = some (document e.2) := by
  cases h with
  | leaf role read => cases he
  | single role held =>
    obtain rfl := List.mem_singleton.1 he
    exact ⟨[], rfl, rfl⟩
  | listed role held =>
    obtain ⟨j, hid, hpath⟩ := mem_positioned he
    refine ⟨[.ofPosition j], by rw [hpath, Nat.zero_add], ?_⟩
    rw [Keyword.toJson, Json.get?_singleton, Json.child?_ofPosition, List.getElem?_map, hid]
    rfl
  | keyed role held =>
    obtain ⟨entry, hentry, rfl⟩ := List.mem_map.1 he
    have hkeys := keys_eq_of_forall₂ (f := fun e => (e.1, document e.2)) (fun _ _ h => h.1) held
    have hnodup := ((Json.keysDistinct_object _).1 hm).1
    exact ⟨_, rfl, Json.get?_ofList (hkeys ▸ hnodup) (List.mem_map_of_mem hentry)⟩
  | patterns role held =>
    obtain ⟨entry, hentry, rfl⟩ := List.mem_map.1 he
    have hkeys := keys_eq_of_forall₂ (f := fun e => (e.1.source, document e.2))
      (fun _ _ h => Pattern.source_of_compile? h.1) held
    have hnodup := ((Json.keysDistinct_object _).1 hm).1
    exact ⟨_, rfl, Json.get?_ofList (hkeys ▸ hnodup) (List.mem_map_of_mem hentry)⟩

namespace Schema

/-! ## Loaded schemas -/

/-- The nodes of the schema stand for the documents, and for all that is inside its own. -/
structure Depicts (s : Schema) (docs : List Json) (d : Json) : Prop where
  orderly : s.Orderly
  labels : s.Labels docs
  root : docs[root]? = some d
  keysDistinct : d.keysDistinct = true
  size : s.size = d.schemas.length

theorem exists_depicts {d : Json} {s : Schema} (hd : d.keysDistinct = true) (h : ofJson d = .ok s) :
    ∃ docs, s.Depicts docs d := by
  obtain ⟨docs, hlabels, hroot⟩ := loads_of_load d [] s hd h
  exact ⟨docs, orderly_ofJson h, hlabels, hroot, hd, size_of_load h⟩

namespace Depicts

variable {s : Schema} {docs : List Json} {d : Json} (h : s.Depicts docs d)
include h

theorem forall₂_entries :
    List.Forall₂ (fun e x => e.1 = x.1 ∧ docs[e.2]? = some x.2) (s.entriesFrom [] Schema.root)
      d.schemas := h.labels.forall₂_entriesFrom [] h.root

/-! ### The entries -/

theorem lt_size {p : Path} {id : NodeId} (hleads : s.Leads p id) : id < s.size :=
  h.orderly.lt_size_of_within (within_of_mem_entriesFrom (h.orderly.leads_iff.1 hleads))

theorem perm_entries : ((s.entriesFrom [] Schema.root).map (·.2)).Perm (List.range s.size) := by
  have hlength := h.forall₂_entries.length_eq
  refine List.Subperm.perm_of_length_le (List.subperm_of_subset (h.orderly.nodup_entriesFrom [] _) ?_) ?_
  · intro id hid
    obtain ⟨e, he, rfl⟩ := List.mem_map.1 hid
    exact List.mem_range.2 (h.lt_size (h.orderly.leads_iff.2 he))
  · rw [List.length_range, List.length_map, hlength, h.size]

theorem exists_leads {id : NodeId} (hid : id < s.size) : ∃ p, s.Leads p id := by
  obtain ⟨e, he, rfl⟩ := List.mem_map.1 (h.perm_entries.mem_iff.2 (List.mem_range.2 hid))
  exact ⟨e.1, h.orderly.leads_iff.2 he⟩

theorem path_unique {p q : Path} {id : NodeId} (hp : s.Leads p id) (hq : s.Leads q id) : p = q := by
  have heq := List.inj_on_of_nodup_map (h.orderly.nodup_entriesFrom [] _) (h.orderly.leads_iff.1 hp)
    (h.orderly.leads_iff.1 hq) rfl
  exact congrArg Prod.fst heq

theorem nodup_pointers : ((Index.ofSchema s).entries.map (·.1)).Nodup := by
  have hpaths : (s.entriesFrom [] Schema.root).map (·.1) = d.schemas.map (·.1) :=
    map_eq_map_of_forall₂ (h.forall₂_entries.imp fun _ _ he => he.1)
  have htexts : (d.schemas.map (·.1)).Pairwise fun p q => Path.texts p ≠ Path.texts q :=
    List.pairwise_map.2 (Json.pairwise_schemasFrom [] h.keysDistinct)
  rw [← hpaths, List.pairwise_map] at htexts
  rw [Index.ofSchema, List.map_map, List.Nodup, List.pairwise_map]
  refine htexts.imp ?_
  intro e e' hne heq
  exact hne (Path.texts_eq_of_render ((String.append_right_inj "#").1 heq))

theorem size_index : (Index.ofSchema s).size = s.size := by
  rw [Index.size, (Leaf.eraseDups_length_eq_iff _).2 h.nodup_pointers, List.length_map, Index.ofSchema,
    List.length_map, h.forall₂_entries.length_eq, h.size]

/-! ### The pointer of a node -/

theorem pointer?_eq {p : Path} {id : NodeId} (hleads : s.Leads p id) :
    (Index.ofSchema s).pointer? id = some ("#" ++ Pointer.render p) :=
  pointer?_of_mem_entries h.orderly (h.orderly.leads_iff.1 hleads)

theorem mem_entries {p : Path} {id : NodeId} (hleads : s.Leads p id) :
    ("#" ++ Pointer.render p, id) ∈ (Index.ofSchema s).entries :=
  List.mem_map.2 ⟨(p, id), h.orderly.leads_iff.1 hleads, rfl⟩

theorem exists_leads_of_pointer? {id : NodeId} {pointer : String}
    (hpointer : (Index.ofSchema s).pointer? id = some pointer) :
    ∃ p, s.Leads p id ∧ pointer = "#" ++ Pointer.render p := by
  obtain ⟨e, hfind, heq⟩ := Option.map_eq_some_iff.1 hpointer
  obtain ⟨entry, hentry, rfl⟩ := List.mem_map.1 (List.mem_of_find?_eq_some hfind)
  obtain rfl : entry.2 = id := by simpa using List.find?_some hfind
  exact ⟨entry.1, h.orderly.leads_iff.2 hentry, heq.symm⟩

theorem eq_of_pointer? {x y : NodeId} {pointer : String}
    (hx : (Index.ofSchema s).pointer? x = some pointer)
    (hy : (Index.ofSchema s).pointer? y = some pointer) : x = y := by
  obtain ⟨p, hp, rfl⟩ := h.exists_leads_of_pointer? hx
  obtain ⟨q, hq, heq⟩ := h.exists_leads_of_pointer? hy
  have hentry := List.inj_on_of_nodup_map h.nodup_pointers (h.mem_entries hp) (h.mem_entries hq) heq
  exact congrArg Prod.snd hentry

theorem at?_eq {p : Path} {id : NodeId} (hleads : s.Leads p id) :
    (Index.ofSchema s).at? ("#" ++ Pointer.render p) = some id := by
  have hnodup := List.nodup_reverse.2 h.nodup_pointers
  rw [← List.map_reverse] at hnodup
  exact lookup_eq_some_of_mem hnodup (List.mem_reverse.2 (h.mem_entries hleads))

/-! ### The document of a node -/

theorem exists_document {id : NodeId} {n : Node} (hn : s.node? id = some n) :
    ∃ here, docs[id]? = some here ∧ here.keysDistinct = true ∧ n.Reads (s.Held docs id) here := by
  obtain ⟨p, hleads⟩ := h.exists_leads (lt_size_of_node? hn)
  obtain ⟨here, hget, hhere⟩ :=
    h.labels.get?_of_mem_entriesFrom h.keysDistinct h.root rfl (h.orderly.leads_iff.1 hleads)
  obtain ⟨n', hn', hreads⟩ := h.labels.exists_reads hhere
  rw [hn] at hn'
  cases hn'
  exact ⟨here, hhere, Json.keysDistinct_of_get? h.keysDistinct hget, hreads⟩

theorem get?_toJson {p : Path} {id : NodeId} (hleads : s.Leads p id) :
    s.toJson.get? p = some (s.documentAt id) := by
  induction hleads with
  | root => rfl
  | @child p id e hleads held ih =>
    obtain ⟨n, hn, he⟩ := exists_of_mem_children held
    obtain ⟨here, _, hkeys, hreads⟩ := h.exists_document hn
    obtain ⟨k, hk, he⟩ := List.mem_flatMap.1 he
    cases hreads with
    | constant kind keywords hooks =>
      rw [keywords] at hk
      cases hk
    | @object ms n kind keywords hooks =>
      obtain ⟨m, hm, hread⟩ := exists_of_forall₂ keywords.flip hk
      have hvalue := ((Json.keysDistinct_object ms).1 hkeys).2 m hm
      obtain ⟨q, hpath, hget⟩ := hread.get?_toJson hvalue he s.documentAt
      have hdocument := documentAt_keywords hn h.orderly (ne_of_kindOf kind).1 (ne_of_kindOf kind).2.1
      have hnames := h.orderly.names id n hn
      have hmember : (k.name, k.toJson s.documentAt) ∈
          n.keywords.map fun k => (k.name, k.toJson s.documentAt) := List.mem_map_of_mem hk
      rw [Json.get?_append, ih, Option.bind_some, hdocument, hpath, Json.get?,
        Json.child?_key ?_ hmember, Option.bind_some, hget]
      rw [Members.keys, List.map_map]
      exact hnames

/-! ### Resolving -/

theorem declared_eq {e : Path × NodeId} {x : Path × Json} (hdoc : docs[e.2]? = some x.2) :
    (s.node? e.2).bind (·.id?) = x.2.declared? := by
  obtain ⟨n, hn, hreads⟩ := h.labels.exists_reads hdoc
  rw [hn, Option.bind_some, hreads.id?_eq]

theorem not_declared_hash (hnames : ∀ x ∈ d.schemas, ∀ name ∈ x.2.declared?,
    name.toList.head? ≠ some '#') (text : String) :
    (Index.ofSchema s).declared? ("#" ++ text) = none := by
  rw [Option.eq_none_iff_forall_ne_some]
  intro id hid
  obtain ⟨e, he, hdeclared⟩ := List.mem_filterMap.1 (mem_of_lookup hid)
  obtain ⟨name, hname, heq⟩ := Option.map_eq_some_iff.1 hdeclared
  obtain ⟨x, hx, _, hdoc⟩ := exists_of_forall₂ h.forall₂_entries he
  rw [h.declared_eq hdoc] at hname
  refine hnames x hx name hname ?_
  rw [(Prod.mk.inj heq).1, String.toList_append]
  rfl

theorem resolve_pointer (hnames : ∀ x ∈ d.schemas, ∀ name ∈ x.2.declared?,
    name.toList.head? ≠ some '#') {p : Path} {id : NodeId} (hleads : s.Leads p id)
    (hdefs : p.head? ≠ some (.key "$defs")) :
    (Index.ofSchema s).resolve ("#" ++ Pointer.render p) = .ok id := by
  refine Reloaded.resolve_hash_render ?_ (h.not_declared_hash hnames _) ?_
  · rw [List.head?_map]
    intro hhead
    obtain ⟨first, hfirst, hreread⟩ := Option.map_eq_some_iff.1 hhead
    rw [Segment.eq_of_reread_eq_key hreread] at hfirst
    exact hdefs hfirst
  · rw [Pointer.render_reread]
    exact h.at?_eq hleads

theorem resolve_declared {name : String} {p : Path} {x : Json}
    (hfirst : d.schemas.find? (fun e => e.2.declared? == some name) = some (p, x)) :
    ∃ id, s.Leads p id ∧ (Index.ofSchema s).resolve name = .ok id := by
  obtain ⟨id, hid, hlookup⟩ := exists_lookup_of_find?
    (h.forall₂_entries.imp fun _ _ he => ⟨he.1, h.declared_eq he.2⟩) hfirst
  refine ⟨id, h.orderly.leads_iff.2 hid, ?_⟩
  have hdeclared : (Index.ofSchema s).declared? name = some id := hlookup
  rw [Index.resolve, hdeclared]

end Depicts

end Schema

/-! ## Agreement -/

/-- The index of a schema tells the places of its nodes, as the document has them. -/
structure Index.Agrees (ix : Index) (s : Schema) (d : Json) : Prop where
  /-- The nodes are entered as a stack leads to them from the root. -/
  visited : ix.entries =
    (s.visit [] [([], Schema.root)]).map fun e => ("#" ++ Pointer.render e.1, e.2)
  /-- Each node has one entry. -/
  entries : (ix.entries.map (·.2)).Perm (List.range s.size)
  size : ix.size = s.size
  /-- Each node has one pointer, the way to it from the root. -/
  way : ∀ id < s.size, ∃! p, s.Leads p id
  pointer : ∀ p id, s.Leads p id → ix.pointer? id = some ("#" ++ Pointer.render p)
  injective : ∀ id id' pointer, ix.pointer? id = some pointer → ix.pointer? id' = some pointer →
    id = id'
  /-- The pointer leads to the node's own document. -/
  document : ∀ id pointer, ix.pointer? id = some pointer →
    ∃ path, Pointer.parse pointer = .ok path ∧ s.toJson.get? path = some (s.documentAt id)
  /-- The pointer resolves to the node, unless the way to it starts with `$defs`. -/
  resolve : ∀ p id, s.Leads p id → p.head? ≠ some (.key "$defs") →
    ∃ pointer, ix.pointer? id = some pointer ∧ ix.resolve pointer = .ok id
  /-- A name resolves to the first schema in the document that declares it. -/
  declared : ∀ name p x, d.schemas.find? (fun e => e.2.declared? == some name) = some (p, x) →
    ∃ id, s.Leads p id ∧ ix.resolve name = .ok id

/-- As long as no name that is declared could be taken for a pointer. -/
theorem Schema.index_agrees (d : Json) (s : Schema) (hd : d.keysDistinct = true)
    (h : ofJson d = .ok s)
    (hnames : ∀ x ∈ d.schemas, ∀ name ∈ x.2.declared?, name.toList.head? ≠ some '#') :
    (Index.ofSchema s).Agrees s d := by
  obtain ⟨docs, hdepicts⟩ := exists_depicts hd h
  refine ⟨?_, ?_, hdepicts.size_index, ?_, fun _ _ => hdepicts.pointer?_eq,
    fun _ _ _ => hdepicts.eq_of_pointer?, ?_, ?_, fun _ _ _ => hdepicts.resolve_declared⟩
  · rw [hdepicts.orderly.visit_root, Index.ofSchema]
  · rw [Index.ofSchema, List.map_map]
    exact hdepicts.perm_entries
  · intro id hid
    obtain ⟨p, hp⟩ := hdepicts.exists_leads hid
    exact ⟨p, hp, fun q hq => hdepicts.path_unique hq hp⟩
  · intro id pointer hpointer
    obtain ⟨p, hp, rfl⟩ := hdepicts.exists_leads_of_pointer? hpointer
    refine ⟨p.map Segment.reread, Pointer.parse_hash_render p, ?_⟩
    rw [Json.get?_reread, hdepicts.get?_toJson hp]
  · intro p id hp hdefs
    exact ⟨_, hdepicts.pointer?_eq hp, hdepicts.resolve_pointer hnames hp hdefs⟩

/-- Keys that hold a slash or look like a position, and a name that is declared twice. -/
theorem Schema.index_agrees_keys :
    let d : Json := .object
      [("properties", .object
        [("a/b", .object [("$id", .string "n")]),
          ("0", .object [("prefixItems", .array [.object [("$id", .string "n")]])])]),
        ("$defs", .object [("properties", .bool true)])]
    d.keysDistinct = true ∧ (∀ x ∈ d.schemas, ∀ name ∈ x.2.declared?, name.toList.head? ≠ some '#') ∧
      ∃ s, ofJson d = .ok s ∧ (Index.ofSchema s).Agrees s d ∧ (Index.ofSchema s).size = 5 ∧
        (Index.ofSchema s).pointer? 3 = some "#/properties/0/prefixItems/0" ∧
        ((Index.ofSchema s).resolve "n").toOption = some 1 := by
  intro d
  have hd : d.keysDistinct = true := by decide
  have hnames : ∀ x ∈ d.schemas, ∀ name ∈ x.2.declared?, name.toList.head? ≠ some '#' := by
    decide +kernel
  obtain ⟨s, hs⟩ : ∃ s, ofJson d = .ok s := ⟨_, rfl⟩
  refine ⟨hd, hnames, s, hs, index_agrees d s hd hs hnames, ?_⟩
  cases hs
  exact ⟨by decide +kernel, by decide +kernel, by decide +kernel⟩

end JsonSchema
