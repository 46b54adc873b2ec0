import JsonSchema.Proofs.Loading.Reading
import JsonSchema.Proofs.Loading.Steps

/-!
# What the nodes of a loaded schema stand for

A loaded schema is labelled with one document for each node. Children are looked up by their places,
so that no proof has to follow the tree of the document and the array of nodes at once.
-/

namespace JsonSchema

open Loader

namespace Schema

/-! ## Nodes by their places -/

theorem size_modify (s : Schema) (id : NodeId) (f : Node → Node) : (s.modify id f).size = s.size :=
  Array.size_modify

theorem node?_modify (s : Schema) (id place : NodeId) (f : Node → Node) :
    (s.modify id f).node? place =
      if id = place then (s.node? place).map f else s.node? place := Array.getElem?_modify

theorem size_adopt (s child : Schema) : (s.adopt child).1.size = s.size + child.size := by
  simp [adopt, size]

theorem node?_adopt_left (s child : Schema) {id : NodeId} (h : id < s.size) :
    (s.adopt child).1.node? id = s.node? id := by
  simp only [adopt, node?]
  exact Array.getElem?_append_left h

theorem node?_adopt_right (s child : Schema) (id : NodeId) :
    (s.adopt child).1.node? (s.size + id) = (child.node? id).map (·.mapIds (· + s.size)) := by
  simp only [adopt, node?, size]
  rw [Array.getElem?_append_right (Nat.le_add_right _ _), Nat.add_sub_cancel_left]
  exact Array.getElem?_map

theorem lt_size_of_node? {s : Schema} {id : NodeId} {n : Node} (h : s.node? id = some n) :
    id < s.size := by
  unfold node? at h
  exact (Array.getElem?_eq_some_iff.1 h).1

/-! ## Labels -/

/-- What the places below a node stand for. -/
def Held (s : Schema) (docs : List Json) (parent child : NodeId) (d : Json) : Prop :=
  s.Below parent child ∧ docs[child]? = some d

/-- The node at the place reads its document. -/
def ReadsAt (s : Schema) (docs : List Json) (id : NodeId) : Prop :=
  ∃ n d, s.node? id = some n ∧ docs[id]? = some d ∧ n.Reads (s.Held docs id) d

structure Labels (s : Schema) (docs : List Json) : Prop where
  length : docs.length = s.size
  reads : ∀ id < s.size, s.ReadsAt docs id

/-- The root has read the members that are done. -/
structure RootReads (s : Schema) (docs : List Json) (kind : Kind) (done : Members) : Prop where
  length : docs.length = s.size
  top : ∃ n, s.node? root = some n ∧ n.kind = kind ∧ n.hooks = {} ∧
    List.Forall₂ (Keyword.Reads (s.Held docs root)) done n.keywords
  reads : ∀ id < s.size, id ≠ root → s.ReadsAt docs id

/-- The schema stands for the document. -/
def Loads (s : Schema) (d : Json) : Prop := ∃ docs, s.Labels docs ∧ docs[root]? = some d

theorem ReadsAt.congr {s t : Schema} {docs docs' : List Json} {id : NodeId} (h : s.ReadsAt docs id)
    (hnode : ∀ n, s.node? id = some n → ∃ n', t.node? id = some n' ∧ n'.kind = n.kind ∧
      n'.keywords = n.keywords ∧ n'.hooks = n.hooks)
    (hdoc : ∀ d, docs[id]? = some d → docs'[id]? = some d)
    (hheld : ∀ child d, s.Held docs id child d → t.Held docs' id child d) : t.ReadsAt docs' id := by
  obtain ⟨n, d, hn, hd, hreads⟩ := h
  obtain ⟨n', hn', hkind, hkeywords, hhooks⟩ := hnode n hn
  exact ⟨n', d, hn', hdoc d hd, hreads.congr hkind hkeywords hhooks hheld⟩

/-! ## Looking up labels -/

theorem follow_eq_self {s : Schema} {id : NodeId} (h : ∀ target, s.kind? id ≠ some (.link target))
    (hops : Nat) : s.follow hops id = .ok (hops, id) := by
  rw [follow]
  split
  · next target hkind => exact absurd hkind (h target)
  · rfl

theorem follow_of_node {s : Schema} {id : NodeId} {n : Node} (hn : s.node? id = some n)
    (hlink : ∀ target, n.kind ≠ .link target) (hops : Nat) : s.follow hops id = .ok (hops, id) := by
  refine follow_eq_self (fun target hkind => hlink target ?_) hops
  rwa [kind?, hn, Option.map_some, Option.some.injEq] at hkind

theorem follow_of_none {s : Schema} {id : NodeId} (hnone : s.node? id = none) (hops : Nat) :
    s.follow hops id = .ok (hops, id) := by
  refine follow_eq_self (fun target hkind => ?_) hops
  rw [kind?, hnone] at hkind
  cases hkind

namespace Labels

variable {s : Schema} {docs : List Json} (h : s.Labels docs) {id : NodeId} {d : Json}
  (hd : docs[id]? = some d)
include h hd

theorem exists_reads : ∃ n, s.node? id = some n ∧ n.Reads (s.Held docs id) d := by
  obtain ⟨hlt, _⟩ := List.getElem?_eq_some_iff.1 hd
  obtain ⟨n, d', hn, hd', hreads⟩ := h.reads id (h.length ▸ hlt)
  rw [hd] at hd'
  cases hd'
  exact ⟨n, hn, hreads⟩

theorem follow_eq (hops : Nat) : s.follow hops id = .ok (hops, id) := by
  obtain ⟨n, hn, hreads⟩ := h.exists_reads hd
  refine follow_of_node hn (fun target hkind => ?_) hops
  cases hreads with
  | constant kind => rw [kind] at hkind; cases hkind
  | object kind => exact (ne_of_kindOf kind).2.1 target hkind

theorem kind?_eq_constant_iff (accepts : Bool) :
    s.kind? id = some (.constant accepts) ↔ d = .bool accepts := by
  obtain ⟨n, hn, hreads⟩ := h.exists_reads hd
  rw [kind?, hn, Option.map_some, Option.some.injEq]
  cases hreads with
  | constant kind => rw [kind, Kind.constant.injEq, Json.bool.injEq]
  | object kind => exact iff_of_false ((ne_of_kindOf kind).1 accepts) (by rintro ⟨⟩)

end Labels

/-! ## Taking in other schemas -/

section Adopt

variable {s child : Schema} {docs docs' : List Json}

theorem held_adopt_left (hlen : docs.length = s.size) {parent id : Nat} {d : Json}
    (h : s.Held docs parent id d) : (s.adopt child).1.Held (docs ++ docs') parent id d := by
  obtain ⟨hbelow, hd⟩ := h
  obtain ⟨hlt, hsize⟩ : parent < id ∧ id < s.size := hbelow
  have hsize' : id < (s.adopt child).1.size := by rw [size_adopt]; omega
  refine ⟨⟨hlt, hsize'⟩, ?_⟩
  rw [List.getElem?_append_left (by omega)]; exact hd

theorem held_adopt_right (hlen : docs.length = s.size) {parent id : Nat} {d : Json}
    (h : child.Held docs' parent id d) :
    (s.adopt child).1.Held (docs ++ docs') (s.size + parent) (id + s.size) d := by
  obtain ⟨hbelow, hd⟩ := h
  obtain ⟨hlt, hsize⟩ : parent < id ∧ id < child.size := hbelow
  have hlt' : s.size + parent < id + s.size := by omega
  have hsize' : id + s.size < (s.adopt child).1.size := by rw [size_adopt]; omega
  refine ⟨⟨hlt', hsize'⟩, ?_⟩
  rw [List.getElem?_append_right (by omega), hlen, Nat.add_sub_cancel]; exact hd

theorem ReadsAt.adopt_left (hlen : docs.length = s.size) {id : NodeId} (h : s.ReadsAt docs id) :
    (s.adopt child).1.ReadsAt (docs ++ docs') id := by
  refine h.congr ?_ ?_ fun _ _ => held_adopt_left hlen
  · intro n hn
    exact ⟨n, by rw [node?_adopt_left s child (lt_size_of_node? hn), hn], rfl, rfl, rfl⟩
  · intro d hd
    obtain ⟨hlt, _⟩ := List.getElem?_eq_some_iff.1 hd
    rw [List.getElem?_append_left hlt, hd]

theorem ReadsAt.adopt_right (hlen : docs.length = s.size) {id : NodeId}
    (h : child.ReadsAt docs' id) : (s.adopt child).1.ReadsAt (docs ++ docs') (s.size + id) := by
  obtain ⟨n, d, hn, hd, hreads⟩ := h
  refine ⟨n.mapIds (· + s.size), d, ?_, ?_, hreads.mapIds _ fun _ _ => held_adopt_right hlen⟩
  · rw [node?_adopt_right, hn]; rfl
  · rw [List.getElem?_append_right (by omega), hlen, Nat.add_sub_cancel_left, hd]

theorem RootReads.adopt {kind : Kind} {done : Members} (h : s.RootReads docs kind done)
    (hchild : child.Labels docs') : (s.adopt child).1.RootReads (docs ++ docs') kind done := by
  have hlen := h.length
  obtain ⟨n, hn, hkind, hhooks, hkeywords⟩ := h.top
  refine ⟨?_, ⟨n, ?_, hkind, hhooks, ?_⟩, ?_⟩
  · rw [List.length_append, size_adopt, hlen, hchild.length]
  · rw [node?_adopt_left s child (lt_size_of_node? hn), hn]
  · exact hkeywords.imp fun _ _ hk => hk.imp fun _ _ => held_adopt_left hlen
  · intro id hid hroot
    by_cases hlt : id < s.size
    · exact (h.reads id hlt hroot).adopt_left hlen
    · rw [size_adopt] at hid
      have hright := (hchild.reads (id - s.size) (by omega)).adopt_right hlen
      rwa [Nat.add_sub_of_le (by omega)] at hright

theorem held_adopt (hlen : docs.length = s.size) (hpos : 0 < s.size) (hchild : child.Labels docs')
    {d : Json} (hd : docs'[root]? = some d) :
    (s.adopt child).1.Held (docs ++ docs') root (s.adopt child).2 d := by
  obtain ⟨hlt, _⟩ := List.getElem?_eq_some_iff.1 hd
  refine ⟨⟨hpos, ?_⟩, ?_⟩
  · rw [size_adopt, ← hchild.length]
    exact Nat.lt_add_of_pos_right (Nat.zero_lt_of_lt hlt)
  · rw [List.getElem?_append_right (by simp [Schema.adopt, hlen])]
    rw [hlen, Schema.adopt, Nat.sub_self]
    exact hd

end Adopt

theorem RootReads.adoptAll {s : Schema} {docs : List Json} {kind : Kind} {done : Members}
    (h : s.RootReads docs kind done) {children : List Schema} {items : List Json}
    (hchildren : List.Forall₂ Loads children items) :
    ∃ docs', (s.adoptAll children).1.RootReads docs' kind done ∧ docs'[root]? = docs[root]? ∧
      (∀ id d, s.Held docs root id d → (s.adoptAll children).1.Held docs' root id d) ∧
      List.Forall₂ ((s.adoptAll children).1.Held docs' root) (s.adoptAll children).2 items := by
  induction hchildren generalizing s docs with
  | nil => exact ⟨docs, h, rfl, fun _ _ hd => hd, .nil⟩
  | cons hchild _ ih =>
    obtain ⟨labels, hlabels, hdoc⟩ := hchild
    obtain ⟨docs', hreads, hroot, hkeep, hheld⟩ := ih (h.adopt hlabels)
    obtain ⟨n, hn, _⟩ := h.top
    have hpos := lt_size_of_node? hn
    refine ⟨docs', hreads, ?_, ?_, .cons ?_ hheld⟩
    · rw [hroot, List.getElem?_append_left (by rw [h.length]; exact hpos)]
    · exact fun id d hd => hkeep id d (held_adopt_left h.length hd)
    · exact hkeep _ _ (held_adopt h.length hpos hlabels hdoc)

/-! ## Setting keywords -/

theorem replace_of_not_mem (k : Keyword) (ks : List Keyword) (h : k.name ∉ ks.map (·.name)) :
    Node.setKeyword.replace k ks = ks ++ [k] := by
  induction ks with
  | nil => rfl
  | cons old ks ih =>
    obtain ⟨hne, hrest⟩ := not_or.1 (mt List.mem_cons.2 h)
    rw [Node.setKeyword.replace, if_neg (Ne.symm hne), ih hrest, List.cons_append]

theorem held_modify (s : Schema) (docs : List Json) (id : NodeId) (f : Node → Node) :
    (s.modify id f).Held docs = s.Held docs := by
  funext parent child d
  simp only [Held, Below, size_modify]

theorem RootReads.setKeyword {s : Schema} {docs : List Json} {kind : Kind} {done : Members}
    (h : s.RootReads docs kind done) {m : String × Json} {k : Keyword} (hnew : m.1 ∉ done.keys)
    (hk : k.Reads (s.Held docs root) m) :
    (s.setKeyword k).RootReads docs kind (done ++ [m]) := by
  obtain ⟨n, hn, hkind, hhooks, hkeywords⟩ := h.top
  unfold Schema.setKeyword modifyRoot
  refine ⟨?_, ⟨n.setKeyword k, ?_, hkind, hhooks, ?_⟩, ?_⟩
  · rw [size_modify, h.length]
  · rw [node?_modify, if_pos rfl, hn]; rfl
  · rw [held_modify, Node.setKeyword, replace_of_not_mem]
    · exact List.rel_append hkeywords (.cons hk .nil)
    · rw [Node.keys_eq_names hkeywords, hk.name_eq]
      exact hnew
  · intro id hid hroot
    rw [size_modify] at hid
    refine (h.reads id hid hroot).congr ?_ (fun _ hd => hd) ?_
    · intro n hn
      exact ⟨n, by rw [node?_modify, if_neg (Ne.symm hroot), hn], rfl, rfl, rfl⟩
    · intro child d hd
      rw [held_modify]
      exact hd

/-- The schema stands for a document of which the root has read some members. -/
def RootLoads (s : Schema) (doc : Json) (kind : Kind) (done : Members) : Prop :=
  ∃ docs, s.RootReads docs kind done ∧ docs[root]? = some doc

section Steps

variable {s : Schema} {doc : Json} {kind : Kind} {done : Members}

theorem RootLoads.setLeaf (h : s.RootLoads doc kind done) {m : String × Json} {l : Leaf}
    (hnew : m.1 ∉ done.keys) (hl : ∀ R, (Keyword.leaf l).Reads R m) :
    (s.setLeaf l).RootLoads doc kind (done ++ [m]) := by
  obtain ⟨docs, hreads, hdoc⟩ := h
  exact ⟨docs, hreads.setKeyword hnew (hl _), hdoc⟩

theorem RootLoads.setChildren (h : s.RootLoads doc kind done) {m : String × Json}
    {children : List Schema} {items : List Json} (hnew : m.1 ∉ done.keys)
    (hchildren : List.Forall₂ Loads children items) {k : Keyword}
    (hk : ∀ R, List.Forall₂ R (s.adoptAll children).2 items → k.Reads R m) :
    ((s.adoptAll children).1.setKeyword k).RootLoads doc kind (done ++ [m]) := by
  obtain ⟨docs, hreads, hdoc⟩ := h
  obtain ⟨docs', hreads', hroot, _, hheld⟩ := hreads.adoptAll hchildren
  exact ⟨docs', hreads'.setKeyword hnew (hk _ hheld), by rw [hroot, hdoc]⟩

end Steps

theorem Loads.markOptional {s : Schema} {d : Json} (h : s.Loads d) : (markOptional s).Loads d := by
  have hstep : ∀ (s : Schema) (id : NodeId), s.Loads d →
      (s.modify id fun n => { n with optional := true }).Loads d := by
    rintro s id ⟨docs, hlabels, hdoc⟩
    refine ⟨docs, ⟨by rw [size_modify, hlabels.length], ?_⟩, hdoc⟩
    intro place hplace
    rw [size_modify] at hplace
    refine (hlabels.reads place hplace).congr ?_ (fun _ hd => hd) ?_
    · intro n hn
      rw [node?_modify, hn]
      split
      · exact ⟨_, rfl, rfl, rfl, rfl⟩
      · exact ⟨_, rfl, rfl, rfl, rfl⟩
    · intro child d hd
      rw [held_modify]
      exact hd
  unfold Loader.markOptional
  split
  · exact h
  · exact List.foldlRecOn (motive := fun s : Schema => s.Loads d) _ _ h
      fun s hs (e : String × NodeId) _ => hstep s e.2 hs

end Schema

/-! ## Loading -/

namespace Loader

/-- What entries under keys stand for. -/
def EntriesLoad (entries : List (String × Schema)) (ms : Members) : Prop :=
  List.Forall₂ (fun e m => e.1 = m.1 ∧ e.2.Loads m.2) entries ms

theorem EntriesLoad.keys {entries : List (String × Schema)} {ms : Members}
    (h : EntriesLoad entries ms) : List.Forall₂ (fun key m => key = m.1) (entries.map (·.1)) ms :=
  List.forall₂_map_left_iff.2 (h.imp fun _ _ h => h.1)

theorem EntriesLoad.schemas {entries : List (String × Schema)} {ms : Members}
    (h : EntriesLoad entries ms) :
    List.Forall₂ Schema.Loads (entries.map (·.2)) (ms.map (·.2)) :=
  List.forall₂_map_left_iff.2 (List.forall₂_map_right_iff.2 (h.imp fun _ _ h => h.2))

theorem EntriesLoad.patterns {entries : List (String × Schema)} {ms : Members}
    {patterns : List Pattern} (h : EntriesLoad entries ms)
    (hpatterns : List.Forall₂ (fun e p => Schema.compile e.1 = .ok p) entries patterns) :
    List.Forall₂ (fun p m => Pattern.compile? m.1 = some p) patterns ms := by
  induction h generalizing patterns with
  | nil => cases hpatterns; exact .nil
  | cons h _ ih =>
    cases hpatterns with
    | cons hp hrest =>
      rw [h.1] at hp
      unfold Schema.compile at hp
      refine .cons ?_ (ih hrest)
      split at hp
      · next hsome => cases hp; exact hsome
      · cases hp

section Steps

variable {s : Schema} {doc : Json} {kind : Kind} {done : Members} {name : String}

theorem rootLoads_setSingle {slot : Slot} {child : Schema} {v : Json}
    (h : s.RootLoads doc kind done) (hnew : name ∉ done.keys) (role : roleOf name = .single slot)
    (hchild : child.Loads v) :
    (s.setSingle slot child).RootLoads doc kind (done ++ [(name, v)]) := by
  have hchildren : List.Forall₂ Schema.Loads [child] [v] := .cons hchild .nil
  refine h.setChildren hnew hchildren fun R hheld => ?_
  cases hheld with
  | cons hheld _ => exact .single role hheld

theorem rootLoads_setListed {slot : ListSlot} {children : List Schema} {items : List Json}
    (h : s.RootLoads doc kind done) (hnew : name ∉ done.keys) (role : roleOf name = .listed slot)
    (hchildren : List.Forall₂ Schema.Loads children items) :
    (s.setListed slot children).RootLoads doc kind (done ++ [(name, .array items)]) :=
  h.setChildren hnew hchildren fun _ hheld => .listed role hheld

theorem rootLoads_setKeyed {slot : KeyedSlot} {entries : List (String × Schema)} {ms : Members}
    (h : s.RootLoads doc kind done) (hnew : name ∉ done.keys) (role : roleOf name = .keyed slot)
    (hentries : EntriesLoad entries ms) :
    (s.setKeyed slot entries).RootLoads doc kind (done ++ [(name, .object ms)]) := by
  refine h.setChildren hnew hentries.schemas fun R hheld => ?_
  exact .keyed role (forall₂_zip_left hentries.keys (List.forall₂_map_right_iff.1 hheld))

theorem rootLoads_setPatterns {t : Schema} {entries : List (String × Schema)} {ms : Members}
    (h : s.RootLoads doc kind done) (hnew : name ∉ done.keys) (role : roleOf name = .patterns)
    (hentries : EntriesLoad entries ms) (ht : s.setPatterns entries = .ok t) :
    t.RootLoads doc kind (done ++ [(name, .object ms)]) := by
  obtain ⟨patterns, hpatterns, ht⟩ := Except.bind_eq_ok_iff.1 ht
  cases ht
  refine h.setChildren hnew hentries.schemas fun R hheld => ?_
  have hzip := forall₂_zip_left (hentries.patterns (Except.mapM_eq_ok_iff.1 hpatterns))
    (List.forall₂_map_right_iff.1 hheld)
  exact .patterns role hzip

end Steps

theorem not_mem_keys_of_nodup {m : String × Json} {done ms : Members}
    (h : (done ++ m :: ms : Members).keys.Nodup) : m.1 ∉ done.keys := by
  intro hmem
  rw [Members.keys, List.map_append, List.nodup_append] at h
  exact h.2.2 m.1 hmem m.1 List.mem_cons_self rfl

theorem entriesLoad_of_loadEntries {path : Path} {ms : Members} {entries : List (String × Schema)}
    {size : Nat}
    (ih : ∀ d, sizeOf d < size → ∀ path u, d.keysDistinct = true → load path d = .ok u →
      u.Loads d)
    (hlt : sizeOf (Json.object ms) < size) (hd : (Json.object ms).keysDistinct = true)
    (h : loadEntries path ms = .ok entries) : EntriesLoad entries ms := by
  refine (forall₂_and_mem (forall₂_of_loadEntries h)).imp ?_
  rintro e m ⟨⟨hkey, path, hload⟩, _, hmem⟩
  exact ⟨hkey, ih m.2 (Nat.lt_trans (sizeOf_lt_of_mem_entries hmem) hlt) path e.2
    (((Json.keysDistinct_object ms).1 hd).2 m hmem) hload⟩

/-- Children are smaller documents, so that the induction is on the size of the document. -/
theorem rootLoads_of_loadMembers {path : Path} {ms : Members} {s t : Schema} {doc : Json}
    {kind : Kind} {done : Members}
    (ih : ∀ d, sizeOf d < sizeOf ms → ∀ path u, d.keysDistinct = true → load path d = .ok u →
      u.Loads d)
    (hs : s.RootLoads doc kind done) (hnodup : (done ++ ms : Members).keys.Nodup)
    (hd : ∀ m ∈ ms, m.2.keysDistinct = true) (h : loadMembers path s ms = .ok t) :
    t.RootLoads doc kind (done ++ ms) := by
  induction ms generalizing s done with
  | nil =>
    rw [loadMembers] at h
    cases h
    rwa [List.append_nil]
  | cons m ms ihms =>
    obtain ⟨u, hu, h⟩ := adds_of_loadMembers_cons h
    obtain ⟨hv, hms⟩ := List.forall_mem_cons.1 hd
    have hnew := not_mem_keys_of_nodup hnodup
    have hlt : sizeOf m.2 < sizeOf (m :: ms) := sizeOf_lt_of_mem_members List.mem_cons_self
    have hnext : u.RootLoads doc kind (done ++ [m]) := by
      cases hu with
      | single role read => exact rootLoads_setSingle hs hnew role (ih _ hlt _ _ hv read)
      | listed role read =>
        refine rootLoads_setListed hs hnew role ?_
        refine (forall₂_and_mem (forall₂_of_loadItems read)).imp ?_
        rintro child v ⟨⟨path, hload⟩, _, hmem⟩
        exact ih v (Nat.lt_trans (sizeOf_lt_of_mem_items hmem) hlt) path child
          ((Json.keysDistinct_array _).1 hv v hmem) hload
      | keyed role read =>
        exact rootLoads_setKeyed hs hnew role (entriesLoad_of_loadEntries ih hlt hv read)
      | patterns role read set =>
        exact rootLoads_setPatterns hs hnew role (entriesLoad_of_loadEntries ih hlt hv read) set
      | leaf role read => exact hs.setLeaf hnew fun _ => .leaf role read
    have hsize : sizeOf (m :: ms) = 1 + sizeOf m + sizeOf ms := List.cons.sizeOf_spec m ms
    rw [List.append_cons] at hnodup ⊢
    exact ihms (fun d hlt => ih d (by omega)) hnext hnodup hms h

theorem loads_of_load (d : Json) (path : Path) (s : Schema) (hd : d.keysDistinct = true)
    (h : load path d = .ok s) : s.Loads d := by
  induction hn : sizeOf d using Nat.strongRecOn generalizing d path s with | ind n ih
  subst hn
  rcases load_cases h with ⟨accepts, rfl, rfl⟩ | ⟨ms, kind, t, rfl, hkind, ht, rfl⟩
  · refine ⟨[.bool accepts], ⟨rfl, ?_⟩, rfl⟩
    intro id hid
    cases Nat.lt_one_iff.1 hid
    exact ⟨.ofKind (.constant accepts), .bool accepts, rfl, rfl, .constant rfl rfl rfl⟩
  · obtain ⟨hnodup, hvalues⟩ := (Json.keysDistinct_object ms).1 hd
    have hstart : (Schema.ofNode (.ofKind kind)).RootLoads (.object ms) kind [] := by
      refine ⟨[.object ms], ⟨rfl, ⟨.ofKind kind, rfl, rfl, rfl, .nil⟩, ?_⟩, rfl⟩
      intro id hid hroot
      exact absurd (Nat.lt_one_iff.1 hid) hroot
    have hlt : sizeOf ms < sizeOf (Json.object ms) := by rw [Json.object.sizeOf_spec]; omega
    have hdone := rootLoads_of_loadMembers
      (fun d hd path u hkeys hload => ih _ (Nat.lt_trans hd hlt) d path u hkeys hload rfl)
      hstart hnodup hvalues ht
    obtain ⟨docs, hreads, hdoc⟩ := hdone
    refine Schema.Loads.markOptional ⟨docs, ⟨hreads.length, ?_⟩, hdoc⟩
    intro id hid
    by_cases hroot : id = Schema.root
    · obtain ⟨n, hn, hnkind, hhooks, hkeywords⟩ := hreads.top
      subst hroot
      exact ⟨n, .object ms, hn, hdoc, .object (hnkind ▸ hkind) hkeywords hhooks⟩
    · exact hreads.reads id hid hroot

end Loader

end JsonSchema
