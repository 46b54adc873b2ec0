import JsonSchema.Proofs.Building.Candid
import JsonSchema.Proofs.Writing.Document

/-!
# Schemas whose documents say all

What a document cannot say are hooks, numbers that are not finite, keywords of truth values and of
links, and notes under names that mean something else to a reader.
-/

namespace JsonSchema

open Loader

/-! ## Names -/

namespace Loader

/-- The names under which a reader looks for something. -/
def interpreted : List String :=
  ["type", "const", "default", "enum", "multipleOf", "pattern", "format", "$ref", "$id",
    "uniqueItems", "required", "dependentRequired", "patternProperties"] ++
  Count.all.map (·.name) ++ Bound.all.map (·.name) ++ Slot.all.map (·.name) ++
  ListSlot.all.map (·.name) ++ KeyedSlot.all.map (·.name)

theorem find?_name_eq_none {name : α → String} {all : List α} {s : String} (h : s ∉ all.map name) :
    all.find? (name · == s) = none := by
  simp only [List.find?_eq_none, beq_iff_eq]
  intro a ha heq
  exact h (List.mem_map.2 ⟨a, ha, heq⟩)

variable {name : String} (h : name ∉ interpreted)
include h

theorem roleOf_of_not_interpreted : roleOf name = .leaf := by
  simp only [interpreted, List.mem_append, not_or] at h
  obtain ⟨⟨⟨⟨⟨hnames, _⟩, _⟩, hslot⟩, hlist⟩, hkeyed⟩ := h
  unfold roleOf Slot.ofName? ListSlot.ofName? KeyedSlot.ofName?
  rw [find?_name_eq_none hslot, find?_name_eq_none hlist, find?_name_eq_none hkeyed]
  refine if_neg ?_
  rintro rfl
  simp at hnames

theorem readLeaf_of_not_interpreted (path : Path) (v : Json) :
    readLeaf path name v = .ok (.note name v) := by
  simp only [interpreted, List.mem_append, not_or] at h
  obtain ⟨⟨⟨⟨⟨hnames, hcount⟩, hbound⟩, _⟩, _⟩, _⟩ := h
  unfold readLeaf
  split
  case h_13 =>
    unfold Count.ofName? Bound.ofName?
    rw [find?_name_eq_none hcount, find?_name_eq_none hbound]
  all_goals simp at hnames

end Loader

/-! ## Plain schemas -/

/-- The keyword is read from what is written for it: its limit is finite, its keys are distinct, its name
is not that of another keyword, and no pointer is taken for it. -/
def Leaf.IsPlain : Leaf → Prop
  | bound _ limit | multipleOf limit => limit.isFinite = true
  | const v | default v => v.keysDistinct = true
  | enum options => ∀ v ∈ options, v.keysDistinct = true
  | note name v => name ∉ interpreted ∧ v.keysDistinct = true
  | dependentRequired entries => (entries.map (·.1)).Nodup
  | id name => name.toList.head? ≠ some '#'
  | _ => True

def Keyword.IsPlain : Keyword → Prop
  | leaf l => l.IsPlain
  | keyed slot entries => slot ≠ .defs ∧ (entries.map (·.1)).Nodup
  | patternProperties entries => (entries.map (·.1.source)).Nodup
  | _ => True

/-- Nothing is asked of the keyword where a node is judged without its keywords: it holds no schemas, leads
nowhere, and no reference leads to it. -/
def Keyword.IsInert : Keyword → Prop
  | leaf (.ref _) | leaf (.id _) => False
  | leaf _ => True
  | _ => False

/-- Truth values, links and placeholders are judged without their keywords. -/
def Kind.IsBare : Kind → Prop
  | constant _ | link _ | hole _ => True
  | _ => False

theorem Kind.ne_link_of_not_bare {kind : Kind} (h : ¬kind.IsBare) (target : NodeId) : kind ≠ .link target :=
  fun heq => h (heq ▸ trivial)

structure Node.IsPlain (n : Node) : Prop where
  hooks : n.hooks = {}
  keywords : ∀ k ∈ n.keywords, k.IsPlain
  bare : n.kind.IsBare → ∀ k ∈ n.keywords, k.IsInert
  /-- The keywords of a placeholder would be written. -/
  hole : ∀ token, n.kind = .hole token → n.keywords = []

/-- Everything that the schema means is written in its document. -/
def Schema.IsPlain (s : Schema) : Prop := s.Everywhere Node.IsPlain

/-! ## Nodes with inert keywords -/

namespace Node

variable {n : Node}

theorem inert_of_nil (h : n.keywords = []) : ∀ k ∈ n.keywords, k.IsInert := by
  rw [h]
  exact nofun

variable (h : ∀ k ∈ n.keywords, k.IsInert)
include h

theorem children_of_inert : n.children = [] := by
  rw [children, List.flatMap_eq_nil_iff]
  intro k hk
  cases k with
  | leaf l => rfl
  | single | listed | keyed | patternProperties => exact (h _ hk).elim

theorem reference?_of_inert : n.reference? = none := by
  rw [reference?, find?, List.findSome?_eq_none_iff]
  intro k hk
  cases k with
  | leaf l =>
    cases l with
    | ref reference => exact (h _ hk).elim
    | _ => rfl
  | _ => rfl

theorem id?_of_inert : n.id? = none := by
  rw [id?, find?, List.findSome?_eq_none_iff]
  intro k hk
  cases k with
  | leaf l =>
    cases l with
    | id name => exact (h _ hk).elim
    | _ => rfl
  | _ => rfl

end Node

/-! ## What is written for a keyword -/

theorem Json.keysDistinct_strings (texts : List String) : (Json.strings texts).keysDistinct = true := by
  rw [Json.strings, Json.keysDistinct_array]
  simp [Json.keysDistinct]

namespace Leaf

variable {l : Leaf} (h : l.IsPlain)
include h

theorem IsPlain.isReadable (hcompiled : (Keyword.leaf l).Compiled) : l.IsReadable := by
  cases l with
  | bound | multipleOf | dependentRequired => exact h
  | pattern p => exact hcompiled
  | note name v => exact readLeaf_of_not_interpreted h.1
  | _ => exact trivial

theorem IsPlain.roleOf : roleOf l.name = .leaf := by
  cases l with
  | note name v => exact roleOf_of_not_interpreted h.1
  | count which => exact roleOf_count which
  | bound which => cases which <;> rfl
  | _ => rfl

theorem IsPlain.keysDistinct : l.toJson.keysDistinct = true := by
  have hnumber : ∀ f, (numberJson f).keysDistinct = true := by
    intro f
    unfold numberJson
    cases Number.ofDouble? f <;> rfl
  cases l with
  | const v | default v => exact h
  | note name v => exact h.2
  | enum options => exact (Json.keysDistinct_array options).2 h
  | types ts =>
    rcases ts with _ | ⟨t, _ | ⟨t', ts⟩⟩
    · rfl
    · rfl
    · exact Json.keysDistinct_strings _
  | required keys => exact Json.keysDistinct_strings keys
  | bound which limit => exact hnumber limit
  | multipleOf divisor => exact hnumber divisor
  | dependentRequired entries =>
    rw [toJson_dependentRequired h, Json.keysDistinct_object, Members.keys, List.map_map]
    refine ⟨h, ?_⟩
    simp only [List.forall_mem_map]
    exact fun e _ => Json.keysDistinct_strings e.2
  | _ => rfl

end Leaf

theorem Keyword.toJson_congr {f g : NodeId → Json} {k : Keyword} (h : ∀ id ∈ k.places, f id = g id) :
    k.toJson f = k.toJson g := by
  cases k with
  | leaf l => rfl
  | single slot child => exact h child (by simp [places, children])
  | listed slot ids =>
    rw [Schema.Orderly.places_listed] at h
    rw [toJson, toJson, List.map_congr_left h]
  | keyed slot entries =>
    rw [Schema.Orderly.places_keyed] at h
    rw [toJson, toJson]
    congr 2
    exact List.map_congr_left fun e he => by rw [h e.2 (List.mem_map_of_mem he)]
  | patternProperties entries =>
    rw [Schema.Orderly.places_patterns] at h
    rw [toJson, toJson]
    congr 2
    exact List.map_congr_left fun e he => by rw [h e.2 (List.mem_map_of_mem he)]

namespace Keyword

theorem keysDistinct_entries {α : Type} {entries : List (α × NodeId)} {write : NodeId → Json} (keyOf : α → String)
    (hnodup : (entries.map fun e => keyOf e.1).Nodup)
    (hwrite : ∀ id ∈ entries.map (·.2), (write id).keysDistinct = true) :
    (Json.object (Members.ofList (entries.map fun e => (keyOf e.1, write e.2)))).keysDistinct = true := by
  have hkeys : (Members.keys (entries.map fun e => (keyOf e.1, write e.2))).Nodup := by
    rwa [Members.keys, List.map_map]
  rw [Members.ofList_of_nodup _ hkeys, Json.keysDistinct_object]
  refine ⟨hkeys, ?_⟩
  simp only [List.forall_mem_map] at hwrite ⊢
  exact hwrite

variable {k : Keyword} (h : k.IsPlain) {write : NodeId → Json}
include h

theorem IsPlain.keysDistinct (hwrite : ∀ id ∈ k.places, (write id).keysDistinct = true) :
    (k.toJson write).keysDistinct = true := by
  cases k with
  | leaf l => exact Leaf.IsPlain.keysDistinct h
  | single slot child => exact hwrite child (by simp [places, children])
  | listed slot ids =>
    rw [Schema.Orderly.places_listed] at hwrite
    simpa [toJson, Json.keysDistinct_array] using hwrite
  | keyed slot entries =>
    rw [Schema.Orderly.places_keyed] at hwrite
    exact keysDistinct_entries id h.2 hwrite
  | patternProperties entries =>
    rw [Schema.Orderly.places_patterns] at hwrite
    exact keysDistinct_entries Pattern.source h hwrite

/-- What is written for a keyword is read as the same keyword. -/
theorem IsPlain.exists_reads (hcompiled : k.Compiled) {R : NodeId → Json → Prop}
    (hR : ∀ id ∈ k.places, R id (write id)) :
    ∃ k', k'.Reads R (k.name, k.toJson write) ∧ k.Alike Leaf.Same Eq k' := by
  have heach : ∀ ids : List NodeId, (∀ id ∈ ids, R id (write id)) →
      List.Forall₂ R ids (ids.map write) := fun ids hids =>
    List.forall₂_map_right_iff.2 (List.forall₂_same.2 hids)
  cases k with
  | leaf l =>
    obtain ⟨l', hsays, hsame⟩ := Leaf.exists_says (Leaf.IsPlain.isReadable h hcompiled)
    have hread : readLeaf [] l.name l.toJson = .ok l' := readLeaf_eq_ok_iff.2 hsays
    exact ⟨.leaf l', .leaf (Leaf.IsPlain.roleOf h) hread, .leaf hsame⟩
  | single slot child =>
    refine ⟨.single slot child, .single (roleOf_slot slot) ?_, .single rfl⟩
    exact hR child (by simp [places, children])
  | listed slot ids =>
    rw [Schema.Orderly.places_listed] at hR
    have role : roleOf slot.name = .listed slot := by cases slot <;> rfl
    exact ⟨.listed slot ids, .listed role (heach ids hR), .listed (List.forall₂_refl ids)⟩
  | keyed slot entries =>
    rw [Schema.Orderly.places_keyed] at hR
    have role : roleOf slot.name = .keyed slot := by cases slot <;> rfl
    refine ⟨.keyed slot entries, ?_, .keyed (List.forall₂_same.2 fun _ _ => ⟨rfl, rfl⟩)⟩
    -- Keys are distinct, so no entry is lost when they are written.
    rw [toJson, Members.ofList_of_nodup]
    · refine .keyed role (List.forall₂_map_right_iff.2 (List.forall₂_same.2 fun e he => ⟨rfl, ?_⟩))
      exact hR e.2 (List.mem_map_of_mem he)
    · rw [Members.keys, List.map_map]
      exact h.2
  | patternProperties entries =>
    rw [Schema.Orderly.places_patterns] at hR
    refine ⟨.patternProperties entries, ?_, .patterns (List.forall₂_same.2 fun _ _ => ⟨rfl, rfl⟩)⟩
    rw [toJson, Members.ofList_of_nodup]
    · refine .patterns rfl (List.forall₂_map_right_iff.2 (List.forall₂_same.2 fun e he => ?_))
      exact ⟨hcompiled e he, hR e.2 (List.mem_map_of_mem he)⟩
    · rw [Members.keys, List.map_map]
      exact h

end Keyword

end JsonSchema
