import JsonSchema.Proofs.Comparison.Agreement
import JsonSchema.Proofs.Loading.Steps
import JsonSchema.Proofs.Writing.Sameness

/-! # Keywords that hold related schemas -/

namespace JsonSchema

open Loader

/-- The keywords say the same, about schemas at places that `R` relates. -/
inductive Keyword.Alike (L : Leaf → Leaf → Prop) (R : NodeId → NodeId → Prop) :
    Keyword → Keyword → Prop where
  | leaf {l l' : Leaf} (h : L l l') : Alike L R (.leaf l) (.leaf l')
  | single {slot : Slot} {x y : NodeId} (h : R x y) : Alike L R (.single slot x) (.single slot y)
  | listed {slot : ListSlot} {xs ys : List NodeId} (h : List.Forall₂ R xs ys) :
      Alike L R (.listed slot xs) (.listed slot ys)
  | keyed {slot : KeyedSlot} {es es' : List (String × NodeId)}
      (h : List.Forall₂ (fun e e' => e.1 = e'.1 ∧ R e.2 e'.2) es es') :
      Alike L R (.keyed slot es) (.keyed slot es')
  | patterns {es es' : List (Pattern × NodeId)}
      (h : List.Forall₂ (fun e e' => e.1 = e'.1 ∧ R e.2 e'.2) es es') :
      Alike L R (.patternProperties es) (.patternProperties es')

/-! ## Looking keywords up -/

namespace Node

variable {L : Leaf → Leaf → Prop} {R : NodeId → NodeId → Prop} {n n' : Node}

theorem rel_find? {S : α → β → Prop} {part? : Keyword → Option α} {part?' : Keyword → Option β}
    (hpart : ∀ k k' : Keyword, k.Alike L R k' → Option.Rel S (part? k) (part?' k'))
    (h : List.Forall₂ (Keyword.Alike L R) n.keywords n'.keywords) :
    Option.Rel S (n.find? part?) (n'.find? part?') := by
  unfold find?
  generalize n.keywords = ks at h ⊢
  generalize n'.keywords = ks' at h ⊢
  induction h with
  | nil => exact .none
  | @cons k k' _ _ hk _ ih =>
    have hrel := hpart k k' hk
    rw [List.findSome?_cons, List.findSome?_cons]
    generalize part? k = a? at hrel ⊢
    generalize part?' k' = b? at hrel ⊢
    cases hrel with
    | none => exact ih
    | some hS => exact .some hS

theorem find?_congr {part? : Keyword → Option α} (hother : ∀ k, (∀ l, k ≠ .leaf l) → part? k = none)
    (hleaf : ∀ l l', L l l' → part? (.leaf l) = part? (.leaf l'))
    (h : List.Forall₂ (Keyword.Alike L R) n.keywords n'.keywords) :
    n.find? part? = n'.find? part? := by
  have hrel : Option.Rel Eq (n.find? part?) (n'.find? part?) := by
    refine rel_find? ?_ h
    intro k k' hk
    have heq : part? k = part? k' := by
      cases hk with
      | leaf hl => exact hleaf _ _ hl
      | single | listed | keyed | patterns => rw [hother _ (by simp), hother _ (by simp)]
    rw [heq]
    cases part? k' with
    | none => exact .none
    | some a => exact .some rfl
  generalize n.find? part? = a? at hrel ⊢
  generalize n'.find? part? = b? at hrel ⊢
  cases hrel with
  | none => rfl
  | some h => rw [h]

variable (h : List.Forall₂ (Keyword.Alike L R) n.keywords n'.keywords)
include h

theorem rel_single?_of_alike (slot : Slot) : Option.Rel R (n.single? slot) (n'.single? slot) := by
  refine rel_find? ?_ h
  intro k k' hk
  cases hk with
  | @single s x y hR =>
    dsimp only
    split
    · exact .some hR
    · exact .none
  | leaf | listed | keyed | patterns => exact .none

omit h in
theorem forall₂_getD {S : α → β → Prop} {as? : Option (List α)} {bs? : Option (List β)}
    (hrel : Option.Rel (List.Forall₂ S) as? bs?) :
    List.Forall₂ S (as?.getD []) (bs?.getD []) := by
  cases hrel with
  | none => exact .nil
  | some hS => exact hS

theorem forall₂_properties :
    List.Forall₂ (fun e e' => e.1 = e'.1 ∧ R e.2 e'.2) n.properties n'.properties := by
  unfold properties
  refine forall₂_getD (rel_find? (fun k k' hk => ?_) h)
  cases hk with
  | @keyed slot es es' hes =>
    cases slot with
    | properties => exact .some hes
    | dependentSchemas | defs => exact .none
  | leaf | listed | single | patterns => exact .none

theorem forall₂_prefixItems : List.Forall₂ R n.prefixItems n'.prefixItems := by
  unfold prefixItems
  refine forall₂_getD (rel_find? (fun k k' hk => ?_) h)
  cases hk with
  | @listed slot xs ys hxs =>
    cases slot with
    | prefixItems => exact .some hxs
    | allOf | anyOf | oneOf => exact .none
  | leaf | keyed | single | patterns => exact .none

theorem patterns_eq : n.patterns = n'.patterns := by
  rw [← List.forall₂_eq_eq_eq]
  unfold patterns
  refine forall₂_getD (rel_find? (fun k k' hk => ?_) h)
  cases hk with
  | patterns hes =>
    refine .some (List.forall₂_map_left_iff.2 (List.forall₂_map_right_iff.2 ?_))
    exact hes.imp fun _ _ he => he.1
  | leaf | keyed | single | listed => exact .none

theorem map_fst_properties : n.properties.map (·.1) = n'.properties.map (·.1) := by
  have hes := forall₂_properties h
  generalize n.properties = es at hes ⊢
  generalize n'.properties = es' at hes ⊢
  induction hes with
  | nil => rfl
  | cons he _ ih => rw [List.map_cons, List.map_cons, he.1, ih]

theorem any_properties_eq (key : String) :
    n.properties.any (·.1 == key) = n'.properties.any (·.1 == key) := by
  have hany : ∀ es : List (String × NodeId), es.any (·.1 == key) = (es.map (·.1)).any (· == key) := by
    intro es
    rw [List.any_map]
    rfl
  rw [hany, hany, map_fst_properties h]

theorem isExtra_eq (key : String) : n.isExtra key = n'.isExtra key := by
  rw [isExtra, isExtra, any_properties_eq h, patterns_eq h]

variable (hL : ∀ l l', L l l' → l.Same l')
include hL

theorem names_eq : n.keywords.map (·.name) = n'.keywords.map (·.name) := by
  generalize n.keywords = ks at h ⊢
  generalize n'.keywords = ks' at h ⊢
  induction h with
  | nil => rfl
  | cons hk _ ih =>
    rw [List.map_cons, List.map_cons, ih]
    cases hk with
    | leaf hl => rw [Keyword.name, Keyword.name, (hL _ _ hl).name_eq]
    | single | listed | keyed | patterns => rfl

theorem declares_eq (name : String) : n.declares name = n'.declares name := by
  have hany : ∀ m : Node, m.declares name = (m.keywords.map (·.name)).any (· == name) := by
    intro m
    rw [List.any_map]
    rfl
  rw [hany, hany, names_eq h hL]

theorem count?_eq (which : Count) : n.count? which = n'.count? which := by
  refine find?_congr ?_ ?_ h
  · intro k hk
    cases k with
    | leaf l => exact absurd rfl (hk l)
    | _ => rfl
  · intro l l' hl
    cases hL l l' hl <;> rfl

theorem reference?_eq : n.reference? = n'.reference? := by
  refine find?_congr ?_ ?_ h
  · intro k hk
    cases k with
    | leaf l => exact absurd rfl (hk l)
    | _ => rfl
  · intro l l' hl
    cases hL l l' hl <;> rfl

end Node

end JsonSchema
