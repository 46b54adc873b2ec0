import JsonSchema.Proofs.Loading.Labels
import JsonSchema.Proofs.Meaning.Satisfaction
import JsonSchema.Proofs.Places.Pointers

/-!
# The part of a document that a path or a reference means

A path is read one segment at a time. What a reference means is first a parameter of the reading, so that
nothing there depends on how references are resolved. Every node of a loaded schema stands at the place of the
document that its pointer names.
-/

namespace JsonSchema

open Loader

/-! ## Spots -/

/-- What a path ends at. -/
inductive Spot where
  | schema (d : Json)
  /-- A keyword of the schema with these members. -/
  | keyword (ms : Members) (name : String)

/-- The spot of a keyword that is present. -/
def Json.keyword? : Json → Segment → Option Spot
  | .object ms, s => if Members.hasKey ms s.text then some (.keyword ms s.text) else none
  | _, _ => none

namespace Spot

/-- Where reading goes on: in the schema that the keyword holds, or in what a reference means. -/
def schema? (meant : String → Option Json) : Spot → Option Json
  | schema d => some d
  | keyword ms name =>
    match roleOf name, ms.get? name with
    | .single _, some d => some d
    | .leaf, some (.string reference) => if name = "$ref" then meant reference else none
    | _, _ => none

/-- One of several schemas that the keyword holds. -/
def part? : Spot → Segment → Option Json
  | schema _, _ => none
  | keyword ms name, s =>
    match roleOf name with
    | .listed _ | .keyed _ | .patterns => (ms.get? name).bind (·.child? s)
    | _ => none

def step (meant : String → Option Json) (spot : Spot) (s : Segment) : Option Spot :=
  match spot.schema? meant with
  | some d => d.keyword? s
  | none => (spot.part? s).map schema

/-- A keyword that is present, or a schema that no value satisfies. -/
def IsReal : Spot → Prop
  | schema d => d = .bool false
  | keyword ms name => name ∈ ms.keys

/-- The keyword that rejects the extra members of an object as a whole. -/
def RejectsExtra (spot : Spot) (ms : Members) : Prop :=
  spot = keyword ms "additionalProperties" ∧ ms.get? "additionalProperties" = some (.bool false)

end Spot

namespace Json

def read (meant : String → Option Json) (d : Json) (q : Path) : Option Spot :=
  q.foldlM (Spot.step meant) (.schema d)

/-- The path leads through the schema that the names of members are judged by. -/
def ReadsNames (meant : String → Option Json) (d : Json) (q : Path) : Prop :=
  ∃ n ms, d.read meant (q.take n) = some (.keyword ms "propertyNames")

end Json

/-! ## Data -/

open Classical in
/-- The members that are neither declared nor matched by a pattern. -/
noncomputable def Members.extra (vs ms : Members) : Members :=
  vs.filter fun v => decide (ms.IsExtra v.1)

/-- The data that a failure at a spot carries, where `p` is the path to `x` in the value. -/
inductive Carries (names : Prop) (spot : Spot) (p : Path) (x : Json) : Json → Prop where
  | name {s : Segment} (below : names) (last : p.getLast? = some s) :
    Carries names spot p x (.string s.text)
  | extra {ms vs : Members} (beside : ¬names) (rejects : spot.RejectsExtra ms)
    (eq : x = .object vs) :
    Carries names spot p x (.object (vs.extra ms))
  | value (beside : ¬names) (other : ∀ ms, ¬spot.RejectsExtra ms) : Carries names spot p x x

/-! ## Steps -/

namespace Spot

variable {meant : String → Option Json} {spot : Spot} {ms : Members} {name : String}

theorem step_of_schema? (h : spot.schema? meant = some (.object ms)) (hname : name ∈ ms.keys) :
    spot.step meant (.key name) = some (keyword ms name) := by
  unfold step
  rw [h]
  exact if_pos ((Members.hasKey_iff ms name).2 hname)

theorem step_keyword_inv {s : Segment} (h : spot.step meant s = some (keyword ms name)) :
    name ∈ ms.keys := by
  unfold step at h
  split at h
  · next d _ =>
    cases d with
    | object ms =>
      rw [Json.keyword?] at h
      split at h
      · next hname => cases h; exact (Members.hasKey_iff _ _).1 hname
      · cases h
    | _ => cases h
  · rw [Option.map_eq_some_iff] at h
    obtain ⟨_, _, h⟩ := h
    cases h

theorem step_reread (spot : Spot) (s : Segment) :
    spot.step meant s.reread = spot.step meant s := by
  have hkeyword (d : Json) : d.keyword? s.reread = d.keyword? s := by
    cases d with
    | object ms => rw [Json.keyword?, Segment.text_reread, Json.keyword?]
    | _ => rfl
  have hpart : spot.part? s.reread = spot.part? s := by
    cases spot with
    | schema d => rfl
    | keyword ms name =>
      rw [part?, part?]
      simp only [Json.child?_reread]
  unfold step
  rw [hpart]
  simp only [hkeyword]

/-- The keyword holds several schemas. -/
def HoldsParts (name : String) : Prop :=
  (∃ slot, roleOf name = .listed slot) ∨ (∃ slot, roleOf name = .keyed slot) ∨
    roleOf name = .patterns

theorem step_part {held child : Json} {s : Segment} (hname : HoldsParts name)
    (hget : ms.get? name = some held) (hchild : held.child? s = some child) :
    (keyword ms name).step meant s = some (schema child) := by
  unfold step
  rcases hname with ⟨slot, role⟩ | ⟨slot, role⟩ | role
  all_goals
    simp only [schema?, part?, role, hget, Option.bind_some, hchild, Option.map_some]

theorem schema?_single {slot : Slot} {held : Json} (role : roleOf name = .single slot)
    (hget : ms.get? name = some held) : (keyword ms name).schema? meant = some held := by
  simp only [schema?, role, hget]

theorem schema?_reference {reference : String} (hget : ms.get? "$ref" = some (.string reference)) :
    (keyword ms "$ref").schema? meant = meant reference := by
  have role : roleOf "$ref" = .leaf := rfl
  simp only [schema?, role, hget, if_true]

end Spot

/-! ## Paths -/

namespace Json

variable {meant : String → Option Json} {d : Json}

theorem read_append (q r : Path) :
    d.read meant (q ++ r) = (d.read meant q).bind fun spot => r.foldlM (Spot.step meant) spot := by
  rw [read, List.foldlM_append]
  rfl

theorem read_concat (q : Path) (s : Segment) :
    d.read meant (q ++ [s]) = (d.read meant q).bind fun spot => spot.step meant s := by
  rw [read_append]
  refine Option.bind_congr fun spot _ => ?_
  rw [List.foldlM_cons]
  exact bind_pure _

theorem read_reread (q : Path) : d.read meant (q.map Segment.reread) = d.read meant q := by
  rw [read, read, List.foldlM_map]
  simp only [Spot.step_reread]

theorem mem_keys_of_read {q : Path} {ms : Members} {name : String}
    (h : d.read meant q = some (.keyword ms name)) : name ∈ ms.keys := by
  rcases List.eq_nil_or_concat q with rfl | ⟨q, s, rfl⟩
  · cases h
  · rw [List.concat_eq_append, read_concat, Option.bind_eq_some_iff] at h
    obtain ⟨spot, _, hstep⟩ := h
    exact Spot.step_keyword_inv hstep

theorem readsNames_reread (q : Path) :
    d.ReadsNames meant (q.map Segment.reread) ↔ d.ReadsNames meant q := by
  unfold ReadsNames
  simp only [← List.map_take, read_reread]

theorem not_readsNames_nil : ¬d.ReadsNames meant [] := by
  rintro ⟨n, ms, h⟩
  rw [List.take_nil] at h
  cases h

theorem readsNames_concat (q : Path) (s : Segment) :
    d.ReadsNames meant (q ++ [s]) ↔
      d.ReadsNames meant q ∨
        ∃ ms, d.read meant (q ++ [s]) = some (.keyword ms "propertyNames") := by
  constructor
  · rintro ⟨n, ms, h⟩
    by_cases hn : n ≤ q.length
    · rw [List.take_append_of_le_length hn] at h
      exact .inl ⟨n, ms, h⟩
    · rw [List.take_of_length_le (by rw [List.length_append, List.length_singleton]; omega)] at h
      exact .inr ⟨ms, h⟩
  · rintro (⟨n, ms, h⟩ | ⟨ms, h⟩)
    · refine ⟨min n q.length, ms, ?_⟩
      rw [List.take_append_of_le_length (Nat.min_le_right _ _), ← List.take_eq_take_min]
      exact h
    · exact ⟨(q ++ [s]).length, ms, by rw [List.take_length]; exact h⟩

end Json

/-- What the pointer of the node that the reference resolves to names in the document. -/
def Schema.meant (s : Schema) (d : Json) (reference : String) : Option Json := do
  let id ← ((Index.ofSchema s).resolve reference).toOption
  let pointer ← (Index.ofSchema s).pointer? id
  let path ← (Pointer.parse pointer).toOption
  d.get? path

/-! ## Lookup -/

namespace Json

theorem keysDistinct_of_get? {v x : Json} {p : Path} (hv : v.keysDistinct = true)
    (h : v.get? p = some x) : x.keysDistinct = true := by
  induction p generalizing v with
  | nil => cases h; exact hv
  | cons s p ih =>
    rw [get?, Option.bind_eq_some_iff] at h
    obtain ⟨child, hchild, h⟩ := h
    refine ih ?_ h
    cases v with
    | object ms =>
      exact ((keysDistinct_object ms).1 hv).2 _ (Members.mem_of_get?_eq_some ms s.text child hchild)
    | array items =>
      obtain ⟨i, _, hitem⟩ := Option.bind_eq_some_iff.1 hchild
      exact (keysDistinct_array items).1 hv child (List.mem_of_getElem? hitem)
    | _ => cases hchild

theorem child?_key {vs : Members} (h : vs.keys.Nodup) {m : String × Json} (hm : m ∈ vs) :
    (object vs).child? (.key m.1) = some m.2 := Members.get?_eq_some_of_mem vs h m hm

theorem child?_ofPosition (items : List Json) (i : Nat) :
    (array items).child? (.ofPosition i) = items[i]? := by
  rw [child?, Segment.position?_ofPosition, Option.bind_some]

theorem get?_singleton (v : Json) (s : Segment) : v.get? [s] = v.child? s := by
  rw [get?]
  cases v.child? s <;> rfl

end Json

/-! ## Children -/

namespace Keyword

theorem mem_positioned {name : String} {i : Nat} {ids : List NodeId} {e : Path × NodeId}
    (h : e ∈ positioned name i ids) :
    ∃ j, ids[j]? = some e.2 ∧ e.1 = [.key name, .ofPosition (i + j)] := by
  induction ids generalizing i with
  | nil => cases h
  | cons id ids ih =>
    rw [positioned] at h
    rcases List.mem_cons.1 h with rfl | h
    · exact ⟨0, rfl, rfl⟩
    · obtain ⟨j, hid, hpath⟩ := ih h
      refine ⟨j + 1, hid, ?_⟩
      rw [hpath, Nat.add_right_comm]
      rfl

theorem mem_positioned_of_getElem? {ids : List NodeId} {i : Nat} {child : NodeId}
    (h : ids[i]? = some child) (name : String) (first : Nat) :
    ([.key name, .ofPosition (first + i)], child) ∈ positioned name first ids := by
  induction ids generalizing i first with
  | nil => simp at h
  | cons id ids ih =>
    rw [positioned]
    cases i with
    | zero =>
      obtain rfl : id = child := Option.some.inj h
      exact List.mem_cons_self
    | succ i =>
      refine List.mem_cons_of_mem _ ?_
      rw [Nat.add_comm i 1, ← Nat.add_assoc]
      exact ih h (first + 1)

/-- The way to a child leads to its document. -/
theorem Reads.get?_of_mem_children {R : NodeId → Json → Prop} {m : String × Json} {k : Keyword}
    (h : k.Reads R m) (hm : m.2.keysDistinct = true) {e : Path × NodeId} (he : e ∈ k.children) :
    ∃ p child, e.1 = .key m.1 :: p ∧ m.2.get? p = some child ∧ R e.2 child := by
  have hname := h.name_eq
  cases h with
  | leaf role read => cases he
  | single role held =>
    cases List.mem_singleton.1 he
    exact ⟨[], _, by rw [hname], rfl, held⟩
  | listed role held =>
    obtain ⟨j, hid, hpath⟩ := mem_positioned he
    obtain ⟨child, hchild, hheld⟩ := getElem?_of_forall₂ held hid
    refine ⟨[.ofPosition j], child, ?_, ?_, hheld⟩
    · rw [hpath, hname, Nat.zero_add]
    · rw [Json.get?_singleton, Json.child?_ofPosition, hchild]
  | keyed role held =>
    obtain ⟨entry, hentry, rfl⟩ := List.mem_map.1 he
    obtain ⟨v, hv, hkey, hheld⟩ := exists_of_forall₂ held hentry
    have hnodup := ((Json.keysDistinct_object _).1 hm).1
    refine ⟨[.key v.1], v.2, ?_, ?_, hheld⟩
    · rw [hname, hkey]
    · rw [Json.get?_singleton, Json.child?_key hnodup hv]
  | patterns role held =>
    obtain ⟨entry, hentry, rfl⟩ := List.mem_map.1 he
    obtain ⟨v, hv, hpattern, hheld⟩ := exists_of_forall₂ held hentry
    have hnodup := ((Json.keysDistinct_object _).1 hm).1
    refine ⟨[.key v.1], v.2, ?_, ?_, hheld⟩
    · rw [hname, Pattern.source_of_compile? hpattern]
    · rw [Json.get?_singleton, Json.child?_key hnodup hv]

end Keyword

theorem Node.Reads.get?_of_mem_children {R : NodeId → Json → Prop} {d : Json} {n : Node}
    (h : n.Reads R d) (hd : d.keysDistinct = true) {e : Path × NodeId} (he : e ∈ n.children) :
    ∃ child, d.get? e.1 = some child ∧ R e.2 child := by
  unfold Node.children at he
  cases h with
  | constant kind keywords hooks =>
    rw [keywords] at he
    cases he
  | @object ms n kind keywords hooks =>
    obtain ⟨k, hk, he⟩ := List.mem_flatMap.1 he
    obtain ⟨m, hm, hreads⟩ := exists_of_forall₂ keywords.flip hk
    obtain ⟨hnodup, hvalues⟩ := (Json.keysDistinct_object ms).1 hd
    obtain ⟨p, child, hpath, hget, hR⟩ := hreads.get?_of_mem_children (hvalues m hm) he
    refine ⟨child, ?_, hR⟩
    rw [hpath, Json.get?, Json.child?_key hnodup hm, Option.bind_some, hget]

/-! ## References -/

namespace Index

theorem mem_of_declared? {s : Schema} {name : String} {id : NodeId}
    (h : (ofSchema s).declared? name = some id) : ∃ e ∈ s.entriesFrom [] Schema.root, e.2 = id := by
  obtain ⟨e, he, heq⟩ := List.mem_filterMap.1 (mem_of_lookup h)
  obtain ⟨_, _, heq⟩ := Option.map_eq_some_iff.1 heq
  cases heq
  exact ⟨e, he, rfl⟩

theorem mem_of_at? {s : Schema} {pointer : String} {id : NodeId}
    (h : (ofSchema s).at? pointer = some id) : ∃ e ∈ s.entriesFrom [] Schema.root, e.2 = id := by
  obtain ⟨e, he, heq⟩ := List.mem_map.1 (List.mem_reverse.1 (mem_of_lookup h))
  cases heq
  exact ⟨e, he, rfl⟩

theorem mem_of_resolve {s : Schema} {reference : String} {id : NodeId}
    (h : (ofSchema s).resolve reference = .ok id) :
    ∃ e ∈ s.entriesFrom [] Schema.root, e.2 = id := by
  unfold resolve at h
  split at h
  · next hdeclared => cases h; exact mem_of_declared? hdeclared
  · dsimp only at h
    split at h
    · cases h
    · split at h
      · cases h
      · split at h
        · next hat =>
          cases h
          obtain ⟨start, _, hat⟩ := Option.bind_eq_some_iff.1 hat
          exact mem_of_at? hat
        · cases h

theorem pointer?_of_mem {s : Schema} {id : NodeId}
    (h : ∃ e ∈ s.entriesFrom [] Schema.root, e.2 = id) :
    ∃ e ∈ s.entriesFrom [] Schema.root,
      e.2 = id ∧ (ofSchema s).pointer? id = some ("#" ++ Pointer.render e.1) := by
  obtain ⟨e, he, rfl⟩ := h
  unfold pointer? ofSchema
  dsimp only
  rw [List.find?_map]
  cases hfind : (s.entriesFrom [] Schema.root).find? (fun e' => e'.2 == e.2) with
  | none =>
    have hnone := List.find?_eq_none.1 hfind e he
    exact absurd BEq.rfl hnone
  | some e' =>
    refine ⟨e', List.mem_of_find?_eq_some hfind, ?_, ?_⟩
    · have hid := List.find?_some hfind
      exact beq_iff_eq.1 hid
    · rw [show (fun e' : Path × NodeId => e'.2 == e.2) =
        (fun e' : String × NodeId => e'.2 == e.2) ∘
          fun e' => ("#" ++ Pointer.render e'.1, e'.2) from rfl] at hfind
      rw [hfind]
      rfl

end Index

namespace Schema

variable {s : Schema} {docs : List Json} {d : Json}

/-- The induction is on the walk through the nodes, which goes on only below the node it is at. -/
theorem Labels.get?_of_mem_entriesFrom (h : s.Labels docs) (hd : d.keysDistinct = true)
    {path : Path} {id : NodeId} {here : Json} (hhere : docs[id]? = some here)
    (hpath : d.get? path = some here) {e : Path × NodeId} (he : e ∈ s.entriesFrom path id) :
    ∃ there, d.get? e.1 = some there ∧ docs[e.2]? = some there := by
  fun_induction entriesFrom s path id generalizing here with
  | case1 path id ih =>
    rcases List.mem_cons.1 he with rfl | he
    · exact ⟨here, hpath, hhere⟩
    · obtain ⟨e', he', he⟩ := List.mem_flatMap.1 he
      split at he
      · next hbelow =>
        obtain ⟨n, hn, hreads⟩ := h.exists_reads hhere
        rw [children, hn, Option.map_some, Option.getD_some] at he'
        obtain ⟨child, hget, _, hchild⟩ :=
          hreads.get?_of_mem_children (Json.keysDistinct_of_get? hd hpath) he'
        refine ih e' hbelow hchild ?_ he
        rw [Json.get?_append, hpath, Option.bind_some, hget]
      · cases he

theorem Labels.meant_eq (h : s.Labels docs) (hd : d.keysDistinct = true)
    (hroot : docs[root]? = some d) {reference : String} {id : NodeId}
    (hresolve : (Index.ofSchema s).resolve reference = .ok id) :
    ∃ there, s.meant d reference = some there ∧ docs[id]? = some there ∧
      there.keysDistinct = true := by
  obtain ⟨e, he, rfl, hpointer⟩ := Index.pointer?_of_mem (Index.mem_of_resolve hresolve)
  obtain ⟨there, hget, hthere⟩ := h.get?_of_mem_entriesFrom hd hroot rfl he
  refine ⟨there, ?_, hthere, Json.keysDistinct_of_get? hd hget⟩
  have hparse := Pointer.parse_hash_render e.1
  simp only [meant, hresolve, hpointer, hparse, Except.toOption, Option.bind_eq_bind,
    Option.bind_some, Json.get?_reread, hget]

end Schema

end JsonSchema
