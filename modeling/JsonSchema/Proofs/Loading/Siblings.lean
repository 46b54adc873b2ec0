import JsonSchema.Proofs.Loading.Reading

/-! # Finding keywords by their names -/

namespace JsonSchema

open Loader

variable {R : NodeId → Json → Prop} {ms : Members} {n : Node}

namespace Loader

theorem roleOf_slot (slot : Slot) : roleOf slot.name = .single slot := by cases slot <;> rfl

theorem roleOf_count (which : Count) : roleOf which.name = .leaf := by cases which <;> rfl

theorem readLeaf_count (path : Path) (which : Count) (v : Json) :
    readLeaf path which.name v = (readCount path v).map (.count which) := by
  cases which <;> rfl

theorem countOf?_of_readCount {path : Path} {v : Json} {limit : UInt64}
    (h : readCount path v = .ok limit) : countOf? v = some limit := by
  unfold readCount at h
  cases hv : countOf? v with
  | none => rw [hv] at h; cases h
  | some l => rw [hv] at h; cases h; rfl

end Loader

namespace Node

theorem rel_findSome? {S : α → Json → Prop} {part? : Keyword → Option α} {name : String}
    (hname : ∀ k a, part? k = some a → k.name = name)
    (hpart : ∀ k d, k.Reads R (name, d) → ∃ a, part? k = some a ∧ S a d) {ks : List Keyword}
    (h : List.Forall₂ (Keyword.Reads R) ms ks) :
    Option.Rel S (ks.findSome? part?) (ms.get? name) := by
  induction h with
  | nil => exact .none
  | @cons m k _ _ h _ ih =>
    obtain ⟨key, d⟩ := m
    rw [List.findSome?_cons, Members.get?, List.lookup_cons]
    by_cases hkey : key = name
    · subst hkey
      obtain ⟨a, ha, hS⟩ := hpart k d h
      rw [ha, beq_self_eq_true]
      exact .some hS
    · have hnone : part? k = none := by
        cases hk : part? k with
        | none => rfl
        | some a => exact absurd (h.name_eq.symm.trans (hname k a hk)) hkey
      rw [hnone, beq_false_of_ne (Ne.symm hkey)]
      exact ih

section Lookups

variable (h : List.Forall₂ (Keyword.Reads R) ms n.keywords)
include h

theorem rel_single? (slot : Slot) : Option.Rel R (n.single? slot) (ms.get? slot.name) := by
  refine rel_findSome? ?_ ?_ h
  · intro k a hk
    split at hk
    · next s child =>
      split at hk
      · next hs => rw [Keyword.name, hs]
      · cases hk
    · cases hk
  · intro k d hk
    have hrole := roleOf_slot slot
    cases hk with
    | single role held =>
      rw [hrole] at role
      cases role
      exact ⟨_, if_pos rfl, held⟩
    | leaf role | listed role | keyed role | patterns role => rw [hrole] at role; cases role

theorem get?_eq_none_of_single? {slot : Slot} (hnone : n.single? slot = none) :
    ms.get? slot.name = none := by
  have hrel := rel_single? h slot
  rw [hnone] at hrel
  generalize ms.get? slot.name = d? at hrel ⊢
  cases hrel
  rfl

theorem rel_count? (which : Count) :
    Option.Rel (fun limit d => countOf? d = some limit) (n.count? which) (ms.get? which.name) := by
  refine rel_findSome? ?_ ?_ h
  · intro k a hk
    split at hk
    · next c limit =>
      split at hk
      · next hc => rw [Keyword.name, Leaf.name, hc]
      · cases hk
    · cases hk
  · intro k d hk
    have hrole := roleOf_count which
    cases hk with
    | leaf role read =>
      rw [readLeaf_count] at read
      obtain ⟨limit, hlimit, rfl⟩ := Except.map_eq_ok_iff.1 read
      exact ⟨limit, if_pos rfl, countOf?_of_readCount hlimit⟩
    | single role | listed role | keyed role | patterns role => rw [hrole] at role; cases role

theorem rel_properties :
    Option.Rel (fun entries d => ∃ ds, d = .object ds ∧
        List.Forall₂ (fun (e : String × NodeId) m => e.1 = m.1 ∧ R e.2 m.2) entries ds)
      (n.find? fun
        | .keyed .properties entries => some entries
        | _ => none) (ms.get? "properties") := by
  refine rel_findSome? ?_ ?_ h
  · intro k a hk
    split at hk
    · rfl
    · cases hk
  · intro k d hk
    cases hk with
    | keyed role held =>
      cases role
      exact ⟨_, rfl, _, rfl, held⟩
    | leaf role | single role | listed role | patterns role => cases role

theorem rel_prefixItems :
    Option.Rel (fun ids d => ∃ ds, d = .array ds ∧ List.Forall₂ R ids ds)
      (n.find? fun
        | .listed .prefixItems ids => some ids
        | _ => none) (ms.get? "prefixItems") := by
  refine rel_findSome? ?_ ?_ h
  · intro k a hk
    split at hk
    · rfl
    · cases hk
  · intro k d hk
    cases hk with
    | listed role held =>
      cases role
      exact ⟨_, rfl, _, rfl, held⟩
    | leaf role | single role | keyed role | patterns role => cases role

theorem rel_patterns :
    Option.Rel (fun patterns d => ∃ ds : Members, d = .object ds ∧
        List.Forall₂ (fun p m => Pattern.compile? m.1 = some p) patterns ds)
      (n.find? fun
        | .patternProperties entries => some (entries.map (·.1))
        | _ => none) (ms.get? "patternProperties") := by
  refine rel_findSome? ?_ ?_ h
  · intro k a hk
    split at hk
    · rfl
    · cases hk
  · intro k d hk
    cases hk with
    | patterns role held =>
      exact ⟨_, rfl, _, rfl, List.forall₂_map_left_iff.2 (held.imp fun _ _ h => h.1)⟩
    | leaf role | single role | keyed role | listed role => cases role

end Lookups

/-! ## Keywords that are found -/

theorem mem_keywords_of_single? {slot : Slot} {child : NodeId} (h : n.single? slot = some child) :
    .single slot child ∈ n.keywords := by
  obtain ⟨k, hk, heq⟩ := List.exists_of_findSome?_eq_some h
  split at heq
  · split at heq
    · next hslot =>
      cases heq
      exact hslot ▸ hk
    · cases heq
  · cases heq

theorem mem_keywords_of_properties {e : String × NodeId} (h : e ∈ n.properties) :
    .keyed .properties n.properties ∈ n.keywords := by
  unfold properties at h ⊢
  cases hfind : n.find? _ with
  | none =>
    rw [hfind] at h
    cases h
  | some entries =>
    obtain ⟨k, hk, heq⟩ := List.exists_of_findSome?_eq_some hfind
    split at heq
    · cases heq
      exact hk
    · cases heq

theorem mem_keywords_of_prefixItems {i : Nat} {child : NodeId} (h : n.prefixItems[i]? = some child) :
    .listed .prefixItems n.prefixItems ∈ n.keywords := by
  unfold prefixItems at h ⊢
  cases hfind : n.find? _ with
  | none =>
    rw [hfind] at h
    simp at h
  | some ids =>
    obtain ⟨k, hk, heq⟩ := List.exists_of_findSome?_eq_some hfind
    split at heq
    · cases heq
      exact hk
    · cases heq

end Node

end JsonSchema
