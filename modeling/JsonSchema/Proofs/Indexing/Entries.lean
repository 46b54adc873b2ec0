import JsonSchema.Proofs.Loading.Parts
import JsonSchema.Proofs.Places.Pointers
import JsonSchema.Proofs.Reloading.References
import Mathlib.Data.List.Perm.Subperm

/-!
# The nodes of a loaded schema

The schemas inside a document are listed in its order, each after the one that holds it. No two of the ways
to them are spelled alike, whatever keys stand on them. A loaded schema has one node for each of them, and the
walk through its nodes meets them in the order of the document.
-/

namespace JsonSchema

open Loader

/-! ## Spelling -/

def Path.texts (p : Path) : List String := p.map Segment.text

namespace Path

@[simp] theorem texts_append (p q : Path) : texts (p ++ q) = texts p ++ texts q := List.map_append

theorem texts_eq_of_render {p q : Path} (h : Pointer.render p = Pointer.render q) :
    texts p = texts q := by
  have hparse := Pointer.parse_render p
  rw [h, Pointer.parse_render, Except.ok.injEq] at hparse
  have htexts := congrArg (List.map Segment.text) hparse
  simp only [List.map_map, Function.comp_def, Segment.text_reread] at htexts
  exact htexts.symm

/-- Ways that go on from the two are never spelled alike. -/
def Apart (p q : Path) : Prop := ∀ r r', texts (p ++ r) ≠ texts (q ++ r')

theorem apart_of_text_ne {s s' : Segment} (h : s.text ≠ s'.text) (p q : Path) :
    Apart (s :: p) (s' :: q) := by
  intro r r' heq
  exact h (List.cons.inj heq).1

theorem apart_of_key_ne {name name' : String} (h : name ≠ name') (p q : Path) :
    Apart (.key name :: p) (.key name' :: q) := by
  apply apart_of_text_ne
  exact h

theorem Apart.cons {p q : Path} (h : Apart p q) (s : Segment) : Apart (s :: p) (s :: q) := by
  intro r r' heq
  exact h r r' (List.cons.inj heq).2

end Path

theorem Segment.ofPosition_inj {i j : Nat} (h : (ofPosition i).text = (ofPosition j).text) : i = j := by
  have hreread : (ofPosition i).reread = (ofPosition j).reread := congrArg ofText h
  have hposition := congrArg position? hreread
  rw [position?_reread, position?_reread, position?_ofPosition, position?_ofPosition] at hposition
  exact Option.some.inj hposition

/-! ## One step down -/

namespace Loader

/-- The schemas that a member holds, with the ways to them. -/
def placed (m : String × Json) : List (Path × Json) :=
  match roleOf m.1, m.2 with
  | .single _, v => [([.key m.1], v)]
  | .listed _, .array items => items.zipIdx.map fun e => ([.key m.1, .ofPosition e.2], e.1)
  | .keyed _, .object ms => ms.map fun e => ([.key m.1, .key e.1], e.2)
  | .patterns, .object ms => ms.map fun e => ([.key m.1, .key e.1], e.2)
  | _, _ => []

theorem map_snd_placed (m : String × Json) : (placed m).map (·.2) = parts m.1 m.2 := by
  obtain ⟨name, v⟩ := m
  unfold placed parts
  dsimp only
  cases roleOf name with
  | single slot | leaf => rfl
  | listed slot =>
    cases v with
    | array items =>
      dsimp only
      rw [List.map_map]
      exact List.zipIdx_map_fst 0 items
    | _ => rfl
  | keyed slot | patterns =>
    cases v with
    | object ms => exact List.map_map
    | _ => rfl

theorem exists_of_mem_placed {m : String × Json} {e : Path × Json} (he : e ∈ placed m) :
    ∃ p, e.1 = .key m.1 :: p := by
  unfold placed at he
  split at he
  · obtain rfl := List.mem_singleton.1 he
    exact ⟨[], rfl⟩
  · obtain ⟨item, _, rfl⟩ := List.mem_map.1 he
    exact ⟨_, rfl⟩
  · obtain ⟨entry, _, rfl⟩ := List.mem_map.1 he
    exact ⟨_, rfl⟩
  · obtain ⟨entry, _, rfl⟩ := List.mem_map.1 he
    exact ⟨_, rfl⟩
  · cases he

theorem pairwise_keys {ms : Members} (h : ms.keys.Nodup) (name : String) :
    (ms.map fun e => (([.key name, .key e.1] : Path), e.2)).Pairwise fun e e' =>
      Path.Apart e.1 e'.1 := by
  refine List.pairwise_map.2 ((List.pairwise_map.1 h).imp ?_)
  intro e e' hne
  exact (Path.apart_of_key_ne hne [] []).cons _

theorem pairwise_placed {m : String × Json} (hm : m.2.keysDistinct = true) :
    (placed m).Pairwise fun e e' => Path.Apart e.1 e'.1 := by
  obtain ⟨name, v⟩ := m
  unfold placed
  dsimp only
  cases roleOf name with
  | single slot => exact List.pairwise_singleton _ _
  | leaf => exact .nil
  | listed slot =>
    cases v with
    | array items =>
      have hpositions : items.zipIdx.Pairwise fun e e' => e.2 ≠ e'.2 := by
        have hnodup := List.nodup_range' (s := 0) (n := items.length)
        rw [← List.zipIdx_map_snd 0 items] at hnodup
        exact List.pairwise_map.1 hnodup
      refine List.pairwise_map.2 (hpositions.imp ?_)
      intro e e' hne
      exact (Path.apart_of_text_ne (mt Segment.ofPosition_inj hne) [] []).cons _
    | _ => exact .nil
  | keyed slot | patterns =>
    cases v with
    | object ms => exact pairwise_keys ((Json.keysDistinct_object ms).1 hm).1 name
    | _ => exact .nil

end Loader

namespace Json

/-- The schemas right inside the document. -/
def inner : Json → List (Path × Json)
  | .object ms => ms.flatMap placed
  | _ => []

theorem exists_member_of_mem_inner {d : Json} {e : Path × Json} (he : e ∈ d.inner) :
    ∃ ms m, d = .object ms ∧ m ∈ ms ∧ e ∈ placed m := by
  unfold inner at he
  split at he
  · next ms =>
    obtain ⟨m, hm, he⟩ := List.mem_flatMap.1 he
    exact ⟨ms, m, rfl, hm, he⟩
  · cases he

theorem mem_parts_of_mem_placed {m : String × Json} {e : Path × Json} (he : e ∈ placed m) :
    e.2 ∈ parts m.1 m.2 := by
  rw [← map_snd_placed]
  exact List.mem_map_of_mem he

theorem sizeOf_lt_of_mem_inner {d : Json} {e : Path × Json} (he : e ∈ d.inner) :
    sizeOf e.2 < sizeOf d := by
  obtain ⟨ms, m, rfl, hm, he⟩ := exists_member_of_mem_inner he
  exact sizeOf_part_lt hm (mem_parts_of_mem_placed he)

theorem keysDistinct_of_mem_inner {d : Json} (hd : d.keysDistinct = true) {e : Path × Json}
    (he : e ∈ d.inner) : e.2.keysDistinct = true := by
  obtain ⟨ms, m, rfl, hm, he⟩ := exists_member_of_mem_inner he
  exact keysDistinct_of_mem_parts (((keysDistinct_object ms).1 hd).2 m hm) (mem_parts_of_mem_placed he)

theorem path_ne_nil_of_mem_inner {d : Json} {e : Path × Json} (he : e ∈ d.inner) : e.1 ≠ [] := by
  obtain ⟨_, m, _, _, he⟩ := exists_member_of_mem_inner he
  obtain ⟨p, hp⟩ := exists_of_mem_placed he
  rw [hp]
  exact List.cons_ne_nil _ _

theorem pairwise_inner {d : Json} (hd : d.keysDistinct = true) :
    d.inner.Pairwise fun e e' => Path.Apart e.1 e'.1 := by
  unfold inner
  split
  · next ms =>
    obtain ⟨hnodup, hvalues⟩ := (keysDistinct_object ms).1 hd
    refine List.pairwise_flatMap.2 ⟨fun m hm => pairwise_placed (hvalues m hm), ?_⟩
    refine (List.pairwise_map.1 hnodup).imp ?_
    intro m m' hne e he e' he'
    obtain ⟨p, hp⟩ := exists_of_mem_placed he
    obtain ⟨p', hp'⟩ := exists_of_mem_placed he'
    rw [hp, hp']
    exact Path.apart_of_key_ne hne p p'
  · exact .nil

/-! ## All the way down -/

/-- The document and all schemas inside it, each after the one that holds it and with the way to it. -/
def schemasFrom (path : Path) (d : Json) : List (Path × Json) :=
  (path, d) :: d.inner.attach.flatMap fun e => schemasFrom (path ++ e.1.1) e.1.2
termination_by sizeOf d
decreasing_by exact sizeOf_lt_of_mem_inner e.2

def schemas (d : Json) : List (Path × Json) := d.schemasFrom []

theorem schemasFrom_eq (path : Path) (d : Json) :
    d.schemasFrom path = (path, d) :: d.inner.flatMap fun e => e.2.schemasFrom (path ++ e.1) := by
  rw [schemasFrom, List.flatMap_def, List.flatMap_def]
  congr 2
  exact List.attach_map_val (f := fun e : Path × Json => e.2.schemasFrom (path ++ e.1))

theorem schemas_induction {motive : Path → Json → Prop}
    (step : ∀ path d, (∀ e ∈ d.inner, motive (path ++ e.1) e.2) → motive path d) (path : Path)
    (d : Json) : motive path d := by
  induction hsize : sizeOf d using Nat.strongRecOn generalizing path d with | ind size ih
  subst hsize
  exact step path d fun e he => ih _ (sizeOf_lt_of_mem_inner he) _ _ rfl

theorem exists_append_of_mem_schemasFrom {path : Path} {d : Json} {e : Path × Json}
    (he : e ∈ d.schemasFrom path) : ∃ p, e.1 = path ++ p := by
  induction path, d using schemas_induction with | step path d ih
  rw [schemasFrom_eq] at he
  rcases List.mem_cons.1 he with rfl | he
  · exact ⟨[], (List.append_nil _).symm⟩
  · obtain ⟨c, hc, he⟩ := List.mem_flatMap.1 he
    obtain ⟨p, hp⟩ := ih c hc he
    exact ⟨c.1 ++ p, by rw [hp, List.append_assoc]⟩

theorem pairwise_schemasFrom (path : Path) {d : Json} (hd : d.keysDistinct = true) :
    (d.schemasFrom path).Pairwise fun e e' => Path.texts e.1 ≠ Path.texts e'.1 := by
  induction path, d using schemas_induction with | step path d ih
  rw [schemasFrom_eq, List.pairwise_cons]
  constructor
  · intro e he heq
    obtain ⟨c, hc, he⟩ := List.mem_flatMap.1 he
    obtain ⟨p, hp⟩ := exists_append_of_mem_schemasFrom he
    have hlength := congrArg List.length heq
    have hlonger := List.length_pos_iff.2 (path_ne_nil_of_mem_inner hc)
    simp only [hp, Path.texts, List.length_map, List.length_append] at hlength
    omega
  · refine List.pairwise_flatMap.2 ⟨fun c hc => ih c hc (keysDistinct_of_mem_inner hd hc), ?_⟩
    refine (pairwise_inner hd).imp ?_
    intro c c' hapart e he e' he' heq
    obtain ⟨p, hp⟩ := exists_append_of_mem_schemasFrom he
    obtain ⟨p', hp'⟩ := exists_append_of_mem_schemasFrom he'
    rw [hp, hp', List.append_assoc, List.append_assoc, Path.texts_append path,
      Path.texts_append path] at heq
    exact hapart p p' (List.append_cancel_left heq)

end Json

/-! ## Ways to nodes -/

namespace Schema

/-- The keywords on the path lead from the root to the node. -/
inductive Leads (s : Schema) : Path → NodeId → Prop where
  | root : Leads s [] root
  | child {p : Path} {id : NodeId} {e : Path × NodeId} (h : Leads s p id) (held : e ∈ s.children id) :
      Leads s (p ++ e.1) e.2

theorem leads_of_mem_entriesFrom {s : Schema} {path : Path} {id : NodeId} (h : s.Leads path id)
    {e : Path × NodeId} (he : e ∈ s.entriesFrom path id) : s.Leads e.1 e.2 := by
  fun_induction entriesFrom s path id with
  | case1 path id ih =>
    rcases List.mem_cons.1 he with rfl | he
    · exact h
    · obtain ⟨c, hc, he⟩ := List.mem_flatMap.1 he
      split at he
      · next hbelow => exact ih c hbelow (h.child hc) he
      · cases he

theorem Orderly.leads_iff {s : Schema} (h : s.Orderly) {p : Path} {id : NodeId} :
    s.Leads p id ↔ (p, id) ∈ s.entriesFrom [] root := by
  constructor
  · intro hleads
    induction hleads with
    | root =>
      rw [entriesFrom]
      exact List.mem_cons_self
    | child _ held ih => exact mem_entriesFrom_of_mem_children h ih held
  · exact leads_of_mem_entriesFrom .root

/-! ## The number of nodes -/

theorem size_markOptional (s : Schema) : (markOptional s).size = s.size := by
  unfold markOptional
  split
  · rfl
  · refine List.foldlRecOn (motive := fun t : Schema => t.size = s.size) _ _ rfl ?_
    intro t ht e _
    rw [size_modify, ht]

end Schema

namespace Json

theorem length_schemasFrom (path : Path) (d : Json) :
    (d.schemasFrom path).length = d.schemas.length := by
  suffices h : ∀ path', (d.schemasFrom path).length = (d.schemasFrom path').length from h []
  induction path, d using schemas_induction with | step path d ih
  intro path'
  rw [schemasFrom_eq, schemasFrom_eq, List.length_cons, List.length_cons, List.length_flatMap,
    List.length_flatMap]
  congr 2
  exact List.map_congr_left fun e he => ih e he _

theorem length_schemas (d : Json) :
    d.schemas.length = 1 + (d.inner.map fun e => e.2.schemas.length).sum := by
  rw [schemas, schemasFrom_eq, List.length_cons, List.length_flatMap, Nat.add_comm]
  simp only [length_schemasFrom]

end Json

namespace Loader

/-- A member adds the nodes of the schemas that it holds. -/
theorem Adds.size_eq {s t : Schema} {m : String × Json} (h : Adds s m t) {f : Json → Nat}
    (hf : ∀ d ∈ parts m.1 m.2, ∀ path u, load path d = .ok u → u.size = f d) :
    t.size = s.size + ((parts m.1 m.2).map f).sum := by
  -- The schemas under keys are counted in the order of the keys.
  have hentries : ∀ {path : Path} {ms : Members} {entries : List (String × Schema)},
      (∀ d ∈ ms.map (·.2), ∀ path u, load path d = .ok u → u.size = f d) →
      loadEntries path ms = .ok entries →
      (entries.map (·.2)).map Schema.size = (ms.map (·.2)).map f := by
    intro path ms entries hf hread
    refine map_eq_map_of_forall₂ (List.forall₂_map_left_iff.2 (List.forall₂_map_right_iff.2 ?_))
    refine (forall₂_and_mem (forall₂_of_loadEntries hread)).imp ?_
    rintro e v ⟨⟨_, path, hload⟩, _, hv⟩
    exact hf v.2 (List.mem_map_of_mem hv) path e.2 hload
  cases h with
  | @single name v slot path child role read =>
    simp only [parts, role] at hf ⊢
    have hsize := hf v List.mem_cons_self path child read
    rw [Schema.setSingle, Schema.size_setKeyword, Schema.size_adopt, hsize]
    rfl
  | listed role read =>
    simp only [parts, role] at hf ⊢
    rw [Schema.setListed, Schema.size_setKeyword, Schema.size_adoptAll]
    congr 2
    refine map_eq_map_of_forall₂ ((forall₂_and_mem (forall₂_of_loadItems read)).imp ?_)
    rintro child v ⟨⟨path, hload⟩, _, hv⟩
    exact hf v hv path child hload
  | keyed role read =>
    simp only [parts, role] at hf ⊢
    rw [Schema.setKeyed, Schema.size_setKeyword, Schema.size_adoptAll, hentries hf read]
  | patterns role read set =>
    simp only [parts, role] at hf ⊢
    obtain ⟨patterns, _, hset⟩ := Except.bind_eq_ok_iff.1 set
    cases hset
    rw [Schema.size_setKeyword, Schema.size_adoptAll, hentries hf read]
  | leaf role read =>
    simp only [parts, role]
    exact Schema.size_setKeyword _ _

theorem size_of_loadMembers {path : Path} {ms : Members} {s t : Schema} {f : Json → Nat}
    (hf : ∀ m ∈ ms, ∀ d ∈ parts m.1 m.2, ∀ path u, load path d = .ok u → u.size = f d)
    (h : loadMembers path s ms = .ok t) :
    t.size = s.size + ((ms.flatMap placed).map fun e => f e.2).sum := by
  induction ms generalizing s with
  | nil =>
    rw [loadMembers] at h
    cases h
    rfl
  | cons m ms ih =>
    obtain ⟨u, hu, h⟩ := adds_of_loadMembers_cons h
    obtain ⟨hm, hms⟩ := List.forall_mem_cons.1 hf
    rw [ih hms h, hu.size_eq hm, ← map_snd_placed, List.map_map, List.flatMap_cons, List.map_append,
      List.sum_append, Nat.add_assoc]
    rfl

theorem size_of_load {path : Path} {d : Json} {s : Schema} (h : load path d = .ok s) :
    s.size = d.schemas.length := by
  induction hsize : sizeOf d using Nat.strongRecOn generalizing path d s with | ind size ih
  subst hsize
  rw [Json.length_schemas]
  rcases load_cases h with ⟨accepts, rfl, rfl⟩ | ⟨ms, kind, t, rfl, _, ht, rfl⟩
  · rfl
  · rw [Schema.size_markOptional, size_of_loadMembers (f := fun d => d.schemas.length) ?_ ht]
    · rfl
    · intro m hm d hd path u hload
      exact ih _ (sizeOf_part_lt hm hd) hload rfl

end Loader

/-! ## The order of the nodes -/

section Children

variable {R : NodeId → Json → Prop}

theorem Keyword.forall₂_positioned_zipIdx {ids : List NodeId} {items : List Json}
    (h : List.Forall₂ R ids items) (name : String) (i : Nat) :
    List.Forall₂ (fun e x => e.1 = x.1 ∧ R e.2 x.2) (positioned name i ids)
      ((items.zipIdx i).map fun e => ([.key name, .ofPosition e.2], e.1)) := by
  induction h generalizing i with
  | nil => exact .nil
  | cons hheld _ ih =>
    rw [List.zipIdx_cons]
    exact .cons ⟨rfl, hheld⟩ (ih (i + 1))

theorem Keyword.Reads.forall₂_children {m : String × Json} {k : Keyword} (h : k.Reads R m) :
    List.Forall₂ (fun e x => e.1 = x.1 ∧ R e.2 x.2) k.children (placed m) := by
  have hname := h.name_eq
  unfold Keyword.children placed
  rw [hname]
  cases h with
  | leaf role read =>
    simp only [role]
    exact .nil
  | single role held =>
    simp only [role]
    exact .cons ⟨rfl, held⟩ .nil
  | listed role held =>
    simp only [role]
    exact forall₂_positioned_zipIdx held _ 0
  | keyed role held =>
    simp only [role]
    refine List.forall₂_map_left_iff.2 (List.forall₂_map_right_iff.2 (held.imp ?_))
    rintro e v ⟨hkey, hheld⟩
    exact ⟨by rw [hkey], hheld⟩
  | patterns role held =>
    simp only [role]
    refine List.forall₂_map_left_iff.2 (List.forall₂_map_right_iff.2 (held.imp ?_))
    rintro e v ⟨hpattern, hheld⟩
    exact ⟨by rw [Pattern.source_of_compile? hpattern], hheld⟩

theorem Node.Reads.forall₂_children {d : Json} {n : Node} (h : n.Reads R d) :
    List.Forall₂ (fun e x => e.1 = x.1 ∧ R e.2 x.2) n.children d.inner := by
  unfold Node.children Json.inner
  cases h with
  | constant kind keywords hooks =>
    rw [keywords]
    exact .nil
  | object kind keywords hooks =>
    exact List.rel_flatMap keywords.flip fun _ _ hk => Keyword.Reads.forall₂_children hk

end Children

namespace Schema

variable {s : Schema} {docs : List Json}

theorem Labels.forall₂_entriesFrom (h : s.Labels docs) (path : Path) {id : NodeId} {d : Json}
    (hd : docs[id]? = some d) :
    List.Forall₂ (fun e x => e.1 = x.1 ∧ docs[e.2]? = some x.2) (s.entriesFrom path id)
      (d.schemasFrom path) := by
  induction path, d using Json.schemas_induction generalizing id with | step path d ih
  obtain ⟨n, hn, hreads⟩ := h.exists_reads hd
  rw [entriesFrom, Json.schemasFrom_eq, children, hn, Option.map_some, Option.getD_some]
  refine .cons ⟨rfl, hd⟩ (List.rel_flatMap (forall₂_and_mem hreads.forall₂_children) ?_)
  rintro e x ⟨⟨hpath, hbelow, hdoc⟩, _, hx⟩
  dsimp only
  rw [dif_pos hbelow, hpath]
  exact ih x hx hdoc

end Schema

end JsonSchema
