import JsonSchema.Proofs.Building.Orderly
import JsonSchema.Proofs.Comparison.Keywords
import JsonSchema.Proofs.Loading.Siblings

/-! # Nodes whose places are renamed -/

namespace JsonSchema

/-! ## One renaming after the other -/

theorem Kind.mapIds_mapIds (f g : NodeId → NodeId) (k : Kind) :
    (k.mapIds f).mapIds g = k.mapIds fun id => g (f id) := by
  cases k <;> rfl

theorem Keyword.mapIds_mapIds (f g : NodeId → NodeId) (k : Keyword) :
    (k.mapIds f).mapIds g = k.mapIds fun id => g (f id) := by
  cases k <;> simp [mapIds]

theorem Keyword.mapIds_congr {f g : NodeId → NodeId} {k : Keyword}
    (h : ∀ id ∈ k.places, f id = g id) : k.mapIds f = k.mapIds g := by
  cases k with
  | leaf l => rfl
  | single slot child => rw [mapIds, mapIds, h child (by simp [places, children])]
  | listed slot ids =>
    rw [Schema.Orderly.places_listed] at h
    rw [mapIds, mapIds, List.map_congr_left h]
  | keyed slot entries =>
    rw [Schema.Orderly.places_keyed] at h
    rw [mapIds, mapIds]
    congr 1
    exact List.map_congr_left fun e he => by rw [h e.2 (List.mem_map_of_mem he)]
  | patternProperties entries =>
    rw [Schema.Orderly.places_patterns] at h
    rw [mapIds, mapIds]
    congr 1
    exact List.map_congr_left fun e he => by rw [h e.2 (List.mem_map_of_mem he)]

namespace Node

theorem mapIds_mapIds (f g : NodeId → NodeId) (n : Node) :
    (n.mapIds f).mapIds g = n.mapIds fun id => g (f id) := by
  simp [mapIds, Kind.mapIds_mapIds, Function.comp_def, Keyword.mapIds_mapIds]

theorem mapIds_id (n : Node) : n.mapIds (fun id => id) = n := by
  have hkind : n.kind.mapIds (fun id => id) = n.kind := by cases n.kind <;> rfl
  simp [mapIds, hkind, Keyword.mapIds_id]

theorem mapIds_congr {f g : NodeId → NodeId} {n : Node} (h : ∀ id ∈ n.places, f id = g id)
    (hlink : ∀ target, n.kind = .link target → f target = g target) : n.mapIds f = n.mapIds g := by
  have hkind : n.kind.mapIds f = n.kind.mapIds g := by
    cases hn : n.kind with
    | link target => rw [Kind.mapIds, Kind.mapIds, hlink target hn]
    | _ => rfl
  have hkeywords : n.keywords.map (·.mapIds f) = n.keywords.map (·.mapIds g) :=
    List.map_congr_left fun k hk => Keyword.mapIds_congr fun id hid =>
      h id (List.mem_flatMap.2 ⟨k, hk, hid⟩)
  rw [mapIds, mapIds, hkind, hkeywords]

theorem kind_mapIds_of_not_link {n : Node} (h : ∀ target, n.kind ≠ .link target)
    (f : NodeId → NodeId) : (n.mapIds f).kind = n.kind := by
  unfold mapIds
  dsimp only
  cases hn : n.kind with
  | link target => exact absurd hn (h target)
  | _ => rfl

theorem kind_mapIds_eq_hole_iff {n : Node} {f : NodeId → NodeId} {token : Nat} :
    (n.mapIds f).kind = .hole token ↔ n.kind = .hole token := by
  unfold mapIds
  dsimp only
  cases n.kind <;> simp [Kind.mapIds]

theorem mapIds_setKeyword (f : NodeId → NodeId) (n : Node) (k : Keyword) :
    (n.setKeyword k).mapIds f = (n.mapIds f).setKeyword (k.mapIds f) := by
  have hreplace : ∀ ks : List Keyword, (setKeyword.replace k ks).map (·.mapIds f) =
      setKeyword.replace (k.mapIds f) (ks.map (·.mapIds f)) := by
    intro ks
    induction ks with
    | nil => rfl
    | cons old ks ih =>
      rw [List.map_cons, setKeyword.replace, setKeyword.replace, Keyword.name_mapIds,
        Keyword.name_mapIds]
      split
      · rfl
      · rw [List.map_cons, ih]
  rw [mapIds, mapIds, setKeyword, setKeyword, hreplace]

theorem mapIds_removeKeyword (f : NodeId → NodeId) (n : Node) (name : String) :
    (n.removeKeyword name).mapIds f = (n.mapIds f).removeKeyword name := by
  have hfilter : (n.keywords.map (·.mapIds f)).filter (·.name != name) =
      (n.keywords.filter (·.name != name)).map (·.mapIds f) := by
    rw [List.filter_map]
    congr 1
    refine List.filter_congr fun k _ => ?_
    rw [Function.comp_apply, Keyword.name_mapIds]
  rw [mapIds, mapIds, removeKeyword, removeKeyword, hfilter]

/-! ## What a renamed node says -/

theorem alike_mapIds {R : NodeId → NodeId → Prop} {f : NodeId → NodeId} {n : Node}
    (h : ∀ id ∈ n.places, R id (f id)) :
    List.Forall₂ (Keyword.Alike Eq R) n.keywords (n.mapIds f).keywords := by
  refine List.forall₂_map_right_iff.2 (List.forall₂_same.2 fun k hk => ?_)
  have hkeyword : ∀ id ∈ k.places, R id (f id) := fun id hid => h id (List.mem_flatMap.2 ⟨k, hk, hid⟩)
  cases k with
  | leaf l => exact .leaf rfl
  | single slot child => exact .single (hkeyword child (by simp [Keyword.places, Keyword.children]))
  | listed slot ids =>
    rw [Schema.Orderly.places_listed] at hkeyword
    exact .listed (List.forall₂_map_right_iff.2 (List.forall₂_same.2 hkeyword))
  | keyed slot entries =>
    rw [Schema.Orderly.places_keyed] at hkeyword
    refine .keyed (List.forall₂_map_right_iff.2 (List.forall₂_same.2 fun e he => ⟨rfl, ?_⟩))
    exact hkeyword e.2 (List.mem_map_of_mem he)
  | patternProperties entries =>
    rw [Schema.Orderly.places_patterns] at hkeyword
    refine .patterns (List.forall₂_map_right_iff.2 (List.forall₂_same.2 fun e he => ⟨rfl, ?_⟩))
    exact hkeyword e.2 (List.mem_map_of_mem he)

theorem renamed_mapIds (f : NodeId → NodeId) (n : Node) :
    List.Forall₂ (Keyword.Alike Eq fun x y => y = f x) n.keywords (n.mapIds f).keywords :=
  alike_mapIds fun _ _ => rfl

theorem single?_mapIds (f : NodeId → NodeId) (n : Node) (slot : Slot) :
    (n.mapIds f).single? slot = (n.single? slot).map f := by
  have hrel := rel_single?_of_alike (renamed_mapIds f n) slot
  generalize n.single? slot = x? at hrel ⊢
  generalize (n.mapIds f).single? slot = y? at hrel ⊢
  cases hrel with
  | none => rfl
  | some h => rw [h, Option.map_some]

theorem properties_mapIds (f : NodeId → NodeId) (n : Node) :
    (n.mapIds f).properties = n.properties.map fun e => (e.1, f e.2) := by
  have hrel := forall₂_properties (renamed_mapIds f n)
  generalize n.properties = es at hrel ⊢
  generalize (n.mapIds f).properties = es' at hrel ⊢
  induction hrel with
  | nil => rfl
  | cons he _ ih => rw [List.map_cons, ih, he.1, ← he.2]

theorem mem_places_of_single? {n : Node} {slot : Slot} {child : NodeId}
    (h : n.single? slot = some child) : child ∈ n.places := by
  refine List.mem_flatMap.2 ⟨_, mem_keywords_of_single? h, ?_⟩
  simp [Keyword.places, Keyword.children]

theorem mem_places_of_properties {n : Node} {e : String × NodeId} (h : e ∈ n.properties) :
    e.2 ∈ n.places := by
  refine List.mem_flatMap.2 ⟨_, mem_keywords_of_properties h, ?_⟩
  rw [Schema.Orderly.places_keyed]
  exact List.mem_map_of_mem h

theorem mem_places_of_prefixItems {n : Node} {child : NodeId} (h : child ∈ n.prefixItems) :
    child ∈ n.places := by
  obtain ⟨i, hi⟩ := List.mem_iff_getElem?.1 h
  refine List.mem_flatMap.2 ⟨_, mem_keywords_of_prefixItems hi, ?_⟩
  rw [Schema.Orderly.places_listed]
  exact h

end Node

end JsonSchema
