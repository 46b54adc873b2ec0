import JsonSchema.Proofs.Embedding.Keywords
import JsonSchema.Proofs.Embedding.Copies

/-!
# Schemas that are put into other schemas

A schema without references, once it has been put into another one, goes on to judge and coerce values as it
did. Nothing that is done to the whole later makes a difference, and the whole may be put into other schemas
again.
-/

namespace JsonSchema

open Schema

/-! ## What is put in -/

theorem Slot.name_injective {slot slot' : Slot} (h : slot.name = slot'.name) : slot = slot' := by
  cases slot <;> cases slot' <;> first | rfl | simp [Slot.name] at h

section Ways

variable {α : Type}

/-- Each part in a keyword of its own, with the way to it. -/
def underSlots (entries : List (Slot × α)) : List (Path × α) :=
  entries.map fun e => ([.key e.1.name], e.2)

/-- All parts in one keyword, by their positions. -/
def underPositions (name : String) (parts : List α) : List (Path × α) :=
  parts.zipIdx.map fun e => ([.key name, .ofPosition e.2], e.1)

/-- All parts in one keyword, by their keys. -/
def underKeys (name : String) (entries : List (String × α)) : List (Path × α) :=
  entries.map fun e => ([.key name, .key e.1], e.2)

theorem map_snd_underSlots (entries : List (Slot × α)) :
    (underSlots entries).map (·.2) = entries.map (·.2) := by
  rw [underSlots, List.map_map]
  rfl

theorem map_snd_underPositions (name : String) (parts : List α) :
    (underPositions name parts).map (·.2) = parts := by
  rw [underPositions, List.map_map]
  exact List.zipIdx_map_fst 0 parts

theorem map_snd_underKeys (name : String) (entries : List (String × α)) :
    (underKeys name entries).map (·.2) = entries.map (·.2) := by
  rw [underKeys, List.map_map]
  rfl

theorem exists_of_getElem?_underKeys {name : String} {entries : List (String × α)} {i : Nat} {way : Path}
    {a : α} (h : (underKeys name entries)[i]? = some (way, a)) :
    ∃ key, (entries.map (·.1))[i]? = some key ∧ (entries.map (·.2))[i]? = some a ∧
      way = [.key name, .key key] := by
  rw [underKeys, List.getElem?_map, Option.map_eq_some_iff] at h
  obtain ⟨e, he, heq⟩ := h
  cases heq
  exact ⟨e.1, by rw [List.getElem?_map, he, Option.map_some],
    by rw [List.getElem?_map, he, Option.map_some], rfl⟩

/-- The schemas that an edit puts in, with the ways to them from the root. -/
def Edit.held : Edit α → List (Path × α)
  | .single slot child => underSlots [(slot, child)]
  | .prefixItems children => underPositions "prefixItems" children
  | .patternProperties entries => underKeys "patternProperties" entries
  | .dependentSchemas entries => underKeys "dependentSchemas" entries
  | .branches condition consequent alternative =>
    underSlots ((.condition, condition) ::
      (consequent.toList.map (.consequent, ·) ++ alternative.toList.map (.alternative, ·)))
  | .keyword _ | .const _ | .enum _ | .default _ | .note _ _ | .id _ | .ref _ | .count _ _ | .bound _ _
  | .multipleOf _ | .pattern _ | .format _ | .uniqueItems _ | .dependentRequired _
  | .validateHook _ | .coerceHook _ | .templateHook _ | .optional | .strict | .partialObject => []

end Ways

/-- The ways of putting schemas into a new one, or into one that is there. -/
inductive Making where
  | object (shape : Shape) (properties : List (String × Schema))
  | array (items : Schema)
  | anyOf (parts : List Schema)
  | oneOf (parts : List Schema)
  | allOf (parts : List Schema)
  | negated (part : Schema)
  | edited (parent : Schema) (e : Edit Schema)

namespace Making

def make : Making → Except SchemaError Schema
  | object shape properties => .ok (.object shape properties)
  | array items => .ok (.array items)
  | anyOf parts => .ok (.anyOf parts)
  | oneOf parts => .ok (.oneOf parts)
  | allOf parts => .ok (.allOf parts)
  | negated part => .ok (.negated part)
  | edited parent e => parent.apply e

def held : Making → List (Path × Schema)
  | object _ properties => underKeys "properties" properties
  | array items => underSlots [(.items, items)]
  | anyOf parts => underPositions "anyOf" parts
  | oneOf parts => underPositions "oneOf" parts
  | allOf parts => underPositions "allOf" parts
  | negated part => underSlots [(.negated, part)]
  | edited _ e => e.held

/-- What the schemas are put into. -/
def base : Making → Schema
  | object _ _ => typed .object
  | array _ => typed .array
  | anyOf _ | oneOf _ => ofKind .union
  | allOf _ | negated _ => any
  | edited parent _ => parent

/-- All schemas that have to be there before. -/
def sources : Making → List Schema
  | edited parent e => parent :: e.held.map (·.2)
  | m => m.held.map (·.2)

/-- Where one of the schemas begins in what is made. -/
def place (m : Making) (i : Nat) : NodeId := m.base.beginning (m.held.map (·.2)) i

end Making

/-! ## Holding a schema -/

namespace Schema

/-- One of the root's keywords holds the place, and a copy of the other schema begins there. -/
structure Holds (s : Schema) (k : Keyword) (way : Path) (place : NodeId) (c : Schema) : Prop where
  carried : s.Carries k
  child : (way, place) ∈ k.children
  copied : CopiedOn (fun _ => True) c s place

namespace Holds

variable {s c : Schema} {k : Keyword} {way : Path} {place : NodeId} (h : s.Holds k way place c)
include h

theorem setSingle (slot : Slot) (hne : k.name ≠ slot.name) (child : Schema) :
    (s.setSingle slot child).Holds k way place c :=
  ⟨h.carried.setSingle slot hne child, h.child, h.copied.setSingle slot child⟩

theorem syncRequired (hne : k.name ≠ "required") : (s.syncRequired root).Holds k way place c :=
  ⟨h.carried.syncRequired hne, h.child, h.copied.syncRequired⟩

theorem close (hrequired : k.name ≠ "required") (hextra : k.name ≠ "additionalProperties") :
    s.close.Holds k way place c :=
  ⟨h.carried.close hrequired hextra, h.child, h.copied.close⟩

theorem loosen (hne : k.name ≠ "required") : s.loosen.Holds k way place c :=
  ⟨h.carried.loosen hne, h.child, h.copied.loosen⟩

end Holds

def setSingles (s : Schema) (entries : List (Slot × Schema)) : Schema :=
  entries.foldl (fun s e => s.setSingle e.1 e.2) s

theorem beginning_setSingle {s c : Schema} (slot : Slot) (cs : List Schema) (i : Nat) :
    s.beginning (c :: cs) (i + 1) = (s.setSingle slot c).beginning cs i := by
  rw [beginning_succ, beginning, beginning, Schema.setSingle, size_setKeyword]

namespace Orderly

variable {s c : Schema} (hs : s.Orderly)
include hs

theorem holds_setChildren {cs : List Schema} (hcs : ∀ c ∈ cs, c.Orderly) {i : Nat}
    (hc : cs[i]? = some c) {k : Keyword} (hk : k.places.Sublist (s.adoptAll cs).2) {way : Path}
    (hchild : (way, s.beginning cs i) ∈ k.children) :
    ((s.adoptAll cs).1.setKeyword k).Holds k way (s.beginning cs i) c where
  carried := by
    obtain ⟨n, hn⟩ := (hs.adoptAll hcs).1.exists_root
    exact carries_setKeyword hn k
  child := hchild
  copied := hs.copied_setChildren hcs hc hk

theorem holds_setSingle (hc : c.Orderly) (slot : Slot) :
    (s.setSingle slot c).Holds (.single slot s.size) [.key slot.name] s.size c := by
  have hcs : ∀ d ∈ [c], d.Orderly := List.forall_mem_singleton.2 hc
  exact hs.holds_setChildren hcs (i := 0) (k := .single slot s.size) rfl (List.Sublist.refl _)
    List.mem_cons_self

theorem holds_setSingles (entries : List (Slot × Schema))
    (hparts : ∀ e ∈ underSlots entries, e.2.Orderly) (hslots : (entries.map (·.1)).Nodup) {i : Nat}
    {way : Path} (hheld : (underSlots entries)[i]? = some (way, c)) :
    ∃ k, (s.setSingles entries).Holds k way (s.beginning ((underSlots entries).map (·.2)) i) c := by
  rw [map_snd_underSlots]
  induction entries generalizing s i with
  | nil => cases hheld
  | cons e entries ih =>
    obtain ⟨he, hrest⟩ := List.forall_mem_cons.1 hparts
    obtain ⟨hslot, hslots⟩ := List.nodup_cons.1 hslots
    cases i with
    | zero =>
      cases hheld
      refine ⟨_, List.foldlRecOn (motive := fun t : Schema => t.Holds _ _ _ e.2) entries _
        (hs.holds_setSingle he e.1) fun t ht e' he' => ht.setSingle e'.1 (fun hname => hslot ?_) e'.2⟩
      exact List.mem_map.2 ⟨e', he', (Slot.name_injective hname).symm⟩
    | succ i =>
      rw [List.map_cons, beginning_setSingle e.1]
      exact ih (hs.setSingle he e.1) hrest hslots hheld

theorem holds_setListed (slot : ListSlot) {cs : List Schema}
    (hparts : ∀ e ∈ underPositions slot.name cs, e.2.Orderly) {i : Nat} {way : Path}
    (hheld : (underPositions slot.name cs)[i]? = some (way, c)) :
    ∃ k, (s.setListed slot cs).Holds k way
      (s.beginning ((underPositions slot.name cs).map (·.2)) i) c := by
  have hcs : ∀ c ∈ (underPositions slot.name cs).map (·.2), c.Orderly := List.forall_mem_map.2 hparts
  rw [map_snd_underPositions] at hcs ⊢
  rw [underPositions, List.getElem?_map, List.getElem?_zipIdx, Option.map_map, Option.map_eq_some_iff] at hheld
  obtain ⟨_, hc, heq⟩ := hheld
  cases heq
  refine ⟨_, hs.holds_setChildren hcs hc ?_ ?_⟩
  · rw [places_listed]
  · have hids := s.getElem?_adoptAll (List.getElem?_eq_some_iff.1 hc).1
    exact Keyword.mem_positioned_of_getElem? hids slot.name 0

theorem holds_setKeyed (slot : KeyedSlot) {entries : List (String × Schema)}
    (hparts : ∀ e ∈ underKeys slot.name entries, e.2.Orderly) {i : Nat} {way : Path}
    (hheld : (underKeys slot.name entries)[i]? = some (way, c)) :
    ∃ k, k.name = slot.name ∧ (s.setKeyed slot entries).Holds k way
      (s.beginning ((underKeys slot.name entries).map (·.2)) i) c := by
  have hcs : ∀ c ∈ (underKeys slot.name entries).map (·.2), c.Orderly := List.forall_mem_map.2 hparts
  rw [map_snd_underKeys] at hcs ⊢
  obtain ⟨key, hkey, hc, rfl⟩ := exists_of_getElem?_underKeys hheld
  refine ⟨.keyed slot _, rfl, hs.holds_setChildren hcs hc ?_ ?_⟩
  · rw [places_keyed]
    exact map_snd_zip_sublist _ _
  · exact List.mem_map.2 ⟨_, mem_zip_adoptAll hkey hc, rfl⟩

theorem holds_setPatterns {entries : List (String × Schema)}
    (hparts : ∀ e ∈ underKeys "patternProperties" entries, e.2.Orderly) {t : Schema}
    (ht : s.setPatterns entries = .ok t) {i : Nat} {way : Path}
    (hheld : (underKeys "patternProperties" entries)[i]? = some (way, c)) :
    ∃ k, t.Holds k way (s.beginning ((underKeys "patternProperties" entries).map (·.2)) i) c := by
  obtain ⟨patterns, hpatterns, ht⟩ := Except.bind_eq_ok_iff.1 ht
  cases ht
  have hcs : ∀ c ∈ (underKeys "patternProperties" entries).map (·.2), c.Orderly :=
    List.forall_mem_map.2 hparts
  rw [map_snd_underKeys] at hcs ⊢
  obtain ⟨key, hkey, hc, rfl⟩ := exists_of_getElem?_underKeys hheld
  have hall : List.Forall₂ (fun key p => compile key = .ok p) (entries.map (·.1)) patterns :=
    List.forall₂_map_left_iff.2 (Except.mapM_eq_ok_iff.1 hpatterns)
  obtain ⟨p, hp, hcompiled⟩ := getElem?_of_forall₂ hall hkey
  refine ⟨.patternProperties _, hs.holds_setChildren hcs hc ?_ ?_⟩
  · rw [places_patterns]
    exact map_snd_zip_sublist _ _
  · rw [← Pattern.source_of_compile? (Loader.compile_eq_ok_iff.1 hcompiled)]
    exact List.mem_map.2 ⟨_, mem_zip_adoptAll hp hc, rfl⟩

end Orderly

end Schema

/-! ## Making schemas -/

namespace Making

variable {m : Making}

theorem mem_sources {e : Path × Schema} (he : e ∈ m.held) : e.2 ∈ m.sources := by
  have hmem : e.2 ∈ m.held.map (·.2) := List.mem_map_of_mem he
  cases m with
  | edited => exact List.mem_cons_of_mem _ hmem
  | _ => exact hmem

theorem orderly_base (hm : ∀ s ∈ m.sources, s.Orderly) : m.base.Orderly := by
  cases m with
  | object | array => exact preserved_orderly.typed _
  | allOf | negated => exact preserved_orderly.any
  | anyOf | oneOf => exact .ofNode rfl (by simp [Node.ofKind]) (by simp [Node.ofKind])
  | edited parent => exact hm parent List.mem_cons_self

end Making

theorem Edit.holds {s c t : Schema} (hs : s.Orderly) {e : Edit Schema} (he : ∀ x ∈ e.held, x.2.Orderly)
    (ht : s.apply e = .ok t) {i : Nat} {way : Path} (hheld : e.held[i]? = some (way, c)) :
    ∃ k, t.Holds k way (s.beginning (e.held.map (·.2)) i) c := by
  cases e with
  | single slot child =>
    cases ht
    exact hs.holds_setSingles [(slot, child)] he (List.nodup_singleton slot) hheld
  | prefixItems children =>
    cases ht
    exact hs.holds_setListed .prefixItems he hheld
  | patternProperties entries => exact hs.holds_setPatterns he ht hheld
  | dependentSchemas entries =>
    cases ht
    obtain ⟨k, _, h⟩ := hs.holds_setKeyed .dependentSchemas he hheld
    exact ⟨k, h⟩
  | branches condition consequent alternative =>
    have hslots : (((.condition, condition) :: (consequent.toList.map (Slot.consequent, ·) ++
        alternative.toList.map (Slot.alternative, ·)) : List (Slot × Schema)).map (·.1)).Nodup := by
      cases consequent <;> cases alternative <;> simp
    have hsingles := hs.holds_setSingles _ he hslots hheld
    cases consequent <;> cases alternative <;> cases ht <;> exact hsingles
  | _ => cases hheld

namespace Making

variable {m : Making} {t c : Schema}

/-- What is made holds each of the schemas that are put in. -/
theorem holds (hm : ∀ s ∈ m.sources, s.Orderly) (hmake : m.make = .ok t) {i : Nat} {way : Path}
    (hheld : m.held[i]? = some (way, c)) : ∃ k, t.Holds k way (m.place i) c := by
  have hbase := orderly_base hm
  have hparts : ∀ e ∈ m.held, e.2.Orderly := fun e he => hm e.2 (mem_sources he)
  cases m with
  | object shape properties =>
    cases hmake
    obtain ⟨k, hname, h⟩ := hbase.holds_setKeyed .properties hparts hheld
    have hrequired : k.name ≠ "required" := by simp [hname, KeyedSlot.name]
    have hextra : k.name ≠ "additionalProperties" := by simp [hname, KeyedSlot.name]
    have hsynced := h.syncRequired hrequired
    cases shape with
    | plain => exact ⟨k, hsynced⟩
    | closed => exact ⟨k, hsynced.close hrequired hextra⟩
    | loose => exact ⟨k, hsynced.loosen hrequired⟩
  | array items =>
    cases hmake
    exact hbase.holds_setSingles [(.items, items)] hparts (List.nodup_singleton _) hheld
  | negated part =>
    cases hmake
    exact hbase.holds_setSingles [(.negated, part)] hparts (List.nodup_singleton _) hheld
  | anyOf parts =>
    cases hmake
    exact hbase.holds_setListed .anyOf hparts hheld
  | oneOf parts =>
    cases hmake
    exact hbase.holds_setListed .oneOf hparts hheld
  | allOf parts =>
    cases hmake
    exact hbase.holds_setListed .allOf hparts hheld
  | edited parent e => exact e.holds hbase hparts hmake hheld

end Making

/-! ## What may become of a node -/

namespace Schema

/-- The node at the place of the first schema may come to stand at the other place of the second one: the
schema is changed at its root, is the body of a recursion, or is put into another schema. -/
inductive Later (t : Schema) (place : NodeId) : Schema → NodeId → Prop where
  | now : Later t place t place
  | changed {s : Schema} {q : NodeId} (h : Later t place s q) (e : Edit Schema) :
      Later t place (s.attempt e) q
  | tied {s : Schema} {q : NodeId} (h : Later t place s q) (token : Nat) : Later t place (s.tie token) q
  | embedded {s u : Schema} {q : NodeId} (h : Later t place s q) {m : Making}
      (hm : ∀ s ∈ m.sources, s.Assembled) (hmake : m.make = .ok u) {i : Nat} {way : Path}
      (hheld : m.held[i]? = some (way, s)) : Later t place u (q + m.place i)

theorem CopiedOn.later {D : NodeId → Prop} {c t s : Schema} {place q : NodeId}
    (hcopied : CopiedOn D c t place)
    (hholes : ∀ id n, D id → c.node? id = some n → ∀ token, n.kind ≠ .hole token)
    (h : Later t place s q) : CopiedOn D c s q := by
  induction h with
  | now => exact hcopied
  | changed _ e ih => exact (lasting D c _).attempt ih fun _ _ => trivial
  | tied _ token ih => exact ih.tie hholes token
  | embedded _ hm hmake hheld ih =>
    obtain ⟨_, houter⟩ := Making.holds (fun s hs => (hm s hs).orderly) hmake hheld
    exact ih.trans houter.copied

/-- A keyword of the root holds the place until it is stated anew, and the place behaves as the other schema
whatever becomes of it. -/
structure Embeds (t : Schema) (way : Path) (place : NodeId) (c : Schema) : Prop where
  held : ∃ k, (way, place) ∈ k.children ∧ ∀ edits : List (Edit Schema), (∀ e ∈ edits, k.name ∉ e.names) →
    (edits.foldl attempt t).Carries k
  behaves : ∀ s q, Later t place s q → s.BehavesAs q c

end Schema

/-- Putting a schema into another one does not change what it does. -/
theorem Making.embeds {m : Making} (hm : ∀ s ∈ m.sources, s.Assembled) {t : Schema}
    (hmake : m.make = .ok t) {i : Nat} {way : Path} {c : Schema} (hheld : m.held[i]? = some (way, c))
    (hself : c.SelfContained) : t.Embeds way (m.place i) c := by
  have hc : c.Assembled := hm c (mem_sources (List.mem_of_getElem? hheld))
  obtain ⟨ho, hnested⟩ := hc.preserved preserved_nested
  obtain ⟨k, hholds⟩ := holds (fun s hs => (hm s hs).orderly) hmake hheld
  have hcopied : CopiedOn (c.Within · root) c t (m.place i) := hholds.copied.imp fun _ _ => trivial
  refine ⟨⟨k, hholds.child, fun _ => hholds.carried.foldl_attempt⟩, fun s q hlater => ?_⟩
  exact (hcopied.later (fun id n hid hn => (hself id n hid hn).2) hlater).behavesAs ho hnested hself

/-! ### A tree inside other schemas -/

/-- Lists of lists of lists, and so on. -/
def Schema.lists : Schema :=
  ⟨#[{ kind := .array, keywords := [.leaf (.types [.array]), .single .items 1] }, { kind := .link root }]⟩

theorem Schema.assembled_lists : lists.Assembled := by
  have hscope : ∀ entry ∈ ([] : List (String × Schema)), entry.2.Assembled := nofun
  exact .built hscope (e := .recursive "lists" (.array (.this "lists"))) (by with_unfolding_all rfl)

theorem Schema.selfContained_lists : lists.SelfContained := by
  intro id n _ hn
  have hlt : id < 2 := lt_size_of_node? hn
  interval_cases id
  · obtain rfl := Option.some.inj hn
    exact ⟨rfl, nofun⟩
  · obtain rfl := Option.some.inj hn
    exact ⟨rfl, nofun⟩

/-- As a property that may be absent, of the items of an array. -/
theorem Making.embeds_lists :
    lists.Assembled ∧ lists.SelfContained ∧ ∃ t, (object .plain [("tree", lists)]).make = .ok t ∧
      t.Embeds [.key "properties", .key "tree"] 1 lists ∧
      (Schema.array (t.attempt .partialObject)).BehavesAs 2 lists := by
  have hsources : ∀ s ∈ (object .plain [("tree", lists)]).sources, s.Assembled :=
    List.forall_mem_singleton.2 assembled_lists
  have hembeds := embeds hsources rfl (i := 0) rfl selfContained_lists
  have hscope : ∀ entry ∈ [("tree", lists)], entry.2.Assembled :=
    List.forall_mem_singleton.2 assembled_lists
  have hparent : (Schema.object .plain [("tree", lists)]).Assembled :=
    .built hscope (e := .object .plain [("tree", .this "tree")]) (by with_unfolding_all rfl)
  have hchanged : ∀ s ∈ (array ((Schema.object .plain [("tree", lists)]).attempt .partialObject)).sources,
      s.Assembled := List.forall_mem_singleton.2 (.changed hparent nofun)
  refine ⟨assembled_lists, selfContained_lists, _, rfl, hembeds, hembeds.behaves _ 2 ?_⟩
  exact .embedded (.changed .now .partialObject) hchanged rfl (i := 0) rfl

end JsonSchema
