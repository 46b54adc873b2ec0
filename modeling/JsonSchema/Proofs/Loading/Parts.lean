import JsonSchema.Proofs.Loading.Labels

/-! # Schemas inside documents -/

namespace JsonSchema

open Loader

/-! ## One step down -/

namespace Loader

/-- The schemas that a keyword's value holds. -/
def parts (name : String) (v : Json) : List Json :=
  match roleOf name, v with
  | .single _, v => [v]
  | .listed _, .array items => items
  | .keyed _, .object ms => ms.map (·.2)
  | .patterns, .object ms => ms.map (·.2)
  | _, _ => []

theorem sizeOf_lt_of_mem_parts {name : String} {v d : Json} (h : d ∈ parts name v) :
    sizeOf d ≤ sizeOf v := by
  unfold parts at h
  split at h
  · exact Nat.le_of_eq (by rw [List.mem_singleton.1 h])
  · exact Nat.le_of_lt (sizeOf_lt_of_mem_items h)
  · obtain ⟨m, hm, rfl⟩ := List.mem_map.1 h
    exact Nat.le_of_lt (sizeOf_lt_of_mem_entries hm)
  · obtain ⟨m, hm, rfl⟩ := List.mem_map.1 h
    exact Nat.le_of_lt (sizeOf_lt_of_mem_entries hm)
  · cases h

theorem sizeOf_part_lt {m : String × Json} {ms : Members} {d : Json} (hm : m ∈ ms)
    (hd : d ∈ parts m.1 m.2) : sizeOf d < sizeOf (Json.object ms) :=
  Nat.lt_of_le_of_lt (sizeOf_lt_of_mem_parts hd) (sizeOf_lt_of_mem_entries hm)

theorem keysDistinct_of_mem_parts {name : String} {v d : Json} (hv : v.keysDistinct = true)
    (h : d ∈ parts name v) : d.keysDistinct = true := by
  unfold parts at h
  split at h
  · rw [List.mem_singleton.1 h]; exact hv
  · exact (Json.keysDistinct_array _).1 hv d h
  · obtain ⟨m, hm, rfl⟩ := List.mem_map.1 h
    exact ((Json.keysDistinct_object _).1 hv).2 m hm
  · obtain ⟨m, hm, rfl⟩ := List.mem_map.1 h
    exact ((Json.keysDistinct_object _).1 hv).2 m hm
  · cases h

end Loader

theorem Keyword.Reads.and {R : NodeId → Json → Prop} {Q : Json → Prop} {m : String × Json}
    {k : Keyword} (h : k.Reads R m) (hQ : ∀ d ∈ parts m.1 m.2, Q d) :
    k.Reads (fun id d => R id d ∧ Q d) m := by
  cases h with
  | leaf role read => exact .leaf role read
  | single role held =>
    simp only [parts, role] at hQ
    exact .single role ⟨held, hQ _ List.mem_cons_self⟩
  | listed role held =>
    simp only [parts, role] at hQ
    refine .listed role ((forall₂_and_mem held).imp ?_)
    rintro id d ⟨h, _, hmem⟩
    exact ⟨h, hQ d hmem⟩
  | keyed role held =>
    simp only [parts, role] at hQ
    refine .keyed role ((forall₂_and_mem held).imp ?_)
    rintro e m ⟨⟨hkey, h⟩, _, hmem⟩
    exact ⟨hkey, h, hQ m.2 (List.mem_map_of_mem hmem)⟩
  | patterns role held =>
    simp only [parts, role] at hQ
    refine .patterns role ((forall₂_and_mem held).imp ?_)
    rintro e m ⟨⟨hkey, h⟩, _, hmem⟩
    exact ⟨hkey, h, hQ m.2 (List.mem_map_of_mem hmem)⟩

theorem Keyword.forall₂_reads_and {R : NodeId → Json → Prop} {Q : Json → Prop} {ms : Members}
    {ks : List Keyword} (h : List.Forall₂ (Keyword.Reads R) ms ks)
    (hQ : ∀ m ∈ ms, ∀ d ∈ parts m.1 m.2, Q d) :
    List.Forall₂ (Keyword.Reads fun id d => R id d ∧ Q d) ms ks := by
  refine (forall₂_and_mem h).imp ?_
  rintro m k ⟨hk, hm, _⟩
  exact hk.and (hQ m hm)

/-! ## All the way down -/

namespace Json

/-- What holds of every keyword and its value, in the document and in every schema inside it. -/
inductive EveryKeyword (P : String → Json → Prop) : Json → Prop where
  | bool (accepts : Bool) : EveryKeyword P (.bool accepts)
  | object (ms : Members) (own : ∀ m ∈ ms, P m.1 m.2)
      (inner : ∀ m ∈ ms, ∀ d ∈ parts m.1 m.2, EveryKeyword P d) : EveryKeyword P (.object ms)

end Json

end JsonSchema
