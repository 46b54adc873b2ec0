import JsonSchema.Proofs.Comparison.Keywords
import JsonSchema.Proofs.Evaluation.Turn

/-! # Judging by related keywords -/

namespace JsonSchema

open Loader

namespace Comparison

variable {C : Comparison} {R : NodeId → NodeId → Prop} {judge judge' : Judge}
  (hjudge : ∀ x y, R x y → ∀ v, C.values v → ∀ p q, C.locations p q →
    C.Agree C.failures (judge x v p) (judge' y v q))
  {v : Json} {p q : Location} (hat : C.locations p q)
include hjudge hat

theorem agree_accepts (hv : C.values v) {x y : NodeId} (hxy : R x y) :
    C.Agree Eq (Keyword.accepts judge v p x) (Keyword.accepts judge' v q y) := by
  refine (hjudge x y hxy v hv p q hat).map fun found found' hfound => ?_
  rw [Bool.eq_iff_iff, List.isEmpty_iff, List.isEmpty_iff]
  exact C.nil_iff hfound

theorem agree_checkAllOf (hv : C.values v) {xs ys : List NodeId} (h : List.Forall₂ R xs ys) :
    C.Agree C.failures (Keyword.checkAllOf judge xs v p) (Keyword.checkAllOf judge' ys v q) := by
  refine (agree_countAccepted (fun _ _ hxy => agree_accepts hjudge hat hv hxy) h).bind fun n n' hn => ?_
  exact agree_require (by rw [hn, h.length_eq]) hat _ _ v

theorem agree_checkAnyOf (hv : C.values v) {xs ys : List NodeId} (h : List.Forall₂ R xs ys) :
    C.Agree C.failures (Keyword.checkAnyOf judge xs v p) (Keyword.checkAnyOf judge' ys v q) := by
  refine (agree_anyAccepted (fun _ _ hxy => agree_accepts hjudge hat hv hxy) h).bind fun n n' hn => ?_
  exact agree_require hn hat _ _ v

theorem agree_checkOneOf (hv : C.values v) {xs ys : List NodeId} (h : List.Forall₂ R xs ys) :
    C.Agree C.failures (Keyword.checkOneOf judge xs v p) (Keyword.checkOneOf judge' ys v q) := by
  refine (agree_countAccepted (fun _ _ hxy => agree_accepts hjudge hat hv hxy) h).bind fun n n' hn => ?_
  exact agree_require (by rw [hn]) hat _ _ v

theorem agree_checkNegated (hv : C.values v) {x y : NodeId} (hxy : R x y) :
    C.Agree C.failures (Keyword.checkNegated judge x v p) (Keyword.checkNegated judge' y v q) := by
  refine (agree_accepts hjudge (C.descend _ _ hat) hv hxy).bind fun b b' hb => ?_
  exact agree_require (by rw [hb]) hat _ _ v

theorem agree_checkCondition (hv : C.values v) {n n' : Node}
    (hslot : ∀ slot, Option.Rel R (n.single? slot) (n'.single? slot)) {x y : NodeId}
    (hxy : R x y) :
    C.Agree C.failures (Keyword.checkCondition judge n x v p)
      (Keyword.checkCondition judge' n' y v q) := by
  have hnone : ∀ slot, (n.single? slot).isNone = (n'.single? slot).isNone := by
    intro slot
    have hrel := hslot slot
    generalize n.single? slot = a? at hrel ⊢
    generalize n'.single? slot = b? at hrel ⊢
    cases hrel <;> rfl
  unfold Keyword.checkCondition
  rw [hnone, hnone]
  split
  · exact .ok C.nil
  · refine (agree_accepts hjudge hat hv hxy).bind fun accepted _ haccepted => ?_
    subst haccepted
    dsimp only
    have hrel := hslot (if accepted then .consequent else .alternative)
    generalize n.single? _ = a? at hrel ⊢
    generalize n'.single? _ = b? at hrel ⊢
    cases hrel with
    | none => exact agree_pass
    | some hab => exact hjudge _ _ hab v hv _ _ (C.descend _ _ hat)

theorem agree_checkProperties {ms : Members} (hms : ∀ m ∈ ms, C.values m.2 ∧ C.values (.string m.1))
    {es es' : List (String × NodeId)}
    (h : List.Forall₂ (fun e e' => e.1 = e'.1 ∧ R e.2 e'.2) es es') :
    C.Agree C.failures (Keyword.checkProperties judge es ms p)
      (Keyword.checkProperties judge' es' ms q) := by
  refine agree_ofFirst ?_ (forall₂_self hms)
  rintro m _ ⟨rfl, hm⟩
  have hrel := rel_lookup_of_forall₂ h m.1
  generalize es.lookup m.1 = a? at hrel ⊢
  generalize es'.lookup m.1 = b? at hrel ⊢
  cases hrel with
  | none => exact agree_pass
  | some hab => exact hjudge _ _ hab _ hm.1 _ _ (C.descend _ _ hat)

theorem agree_checkPatterns {ms : Members} (hms : ∀ m ∈ ms, C.values m.2 ∧ C.values (.string m.1))
    {es es' : List (Pattern × NodeId)}
    (h : List.Forall₂ (fun e e' => e.1 = e'.1 ∧ R e.2 e'.2) es es') :
    C.Agree C.failures (Keyword.checkPatterns judge es ms p)
      (Keyword.checkPatterns judge' es' ms q) := by
  refine agree_ofFirst ?_ (forall₂_self hms)
  rintro m _ ⟨rfl, hm⟩
  refine agree_ofFirst ?_ (List.rel_filter (fun e e' he => by dsimp only; rw [he.1]) h)
  rintro e e' ⟨hkey, hR⟩
  rw [hkey]
  exact hjudge _ _ hR _ hm.1 _ _ (C.descend _ _ hat)

theorem agree_checkNames {ms : Members} (hms : ∀ m ∈ ms, C.values m.2 ∧ C.values (.string m.1))
    {x y : NodeId} (hxy : R x y) :
    C.Agree C.failures (Keyword.checkNames judge x ms p) (Keyword.checkNames judge' y ms q) := by
  refine agree_ofFirst ?_ (forall₂_self hms)
  rintro m _ ⟨rfl, hm⟩
  exact hjudge _ _ hxy _ hm.2 _ _ (C.descend _ _ hat)

theorem agree_checkDependents {ms : Members} (hms : C.values (.object ms))
    {es es' : List (String × NodeId)}
    (h : List.Forall₂ (fun e e' => e.1 = e'.1 ∧ R e.2 e'.2) es es') :
    C.Agree C.failures (Keyword.checkDependents judge es ms p)
      (Keyword.checkDependents judge' es' ms q) := by
  refine agree_ofFirst ?_ (List.rel_filter (fun e e' he => by dsimp only; rw [he.1]) h)
  rintro e e' ⟨hkey, hR⟩
  rw [hkey]
  exact hjudge _ _ hR _ hms _ _ (C.descend _ _ hat)

theorem agree_checkItems {items : List Json} (hitems : ∀ v ∈ items, C.values v) {n n' : Node}
    (hlength : n.prefixItems.length = n'.prefixItems.length) {x y : NodeId} (hxy : R x y) :
    C.Agree C.failures (Keyword.checkItems judge n x items p)
      (Keyword.checkItems judge' n' y items q) := by
  have hrest : ∀ e ∈ items.zipIdx.drop n'.prefixItems.length, C.values e.1 := by
    intro e he
    have hmem := List.mem_zipIdx_iff_getElem?.1 (List.mem_of_mem_drop he)
    exact hitems e.1 (List.mem_of_getElem? hmem)
  unfold Keyword.checkItems
  rw [hlength]
  refine agree_ofFirst ?_ (forall₂_self hrest)
  rintro e _ ⟨rfl, he⟩
  exact hjudge _ _ hxy _ he _ _ (C.descend _ _ hat)

theorem agree_checkPrefix {items : List Json} (hitems : ∀ v ∈ items, C.values v)
    {xs ys : List NodeId} (h : List.Forall₂ R xs ys) :
    C.Agree C.failures (Keyword.checkPrefix judge xs items p)
      (Keyword.checkPrefix judge' ys items q) := by
  refine agree_ofFirst ?_ (forall₂_and_mem (forall₂_zipIdx (forall₂_zip_right h items) 0))
  rintro ⟨⟨x, v⟩, i⟩ ⟨⟨y, w⟩, j⟩ ⟨⟨⟨hxy, hvw⟩, hij⟩, hmem, _⟩
  dsimp only at hxy hvw hij ⊢
  subst hvw hij
  have hzip := List.mem_of_getElem? (List.mem_zipIdx_iff_getElem?.1 hmem)
  exact hjudge _ _ hxy _ (hitems v (List.of_mem_zip hzip).2) _ _ (C.descend _ _ hat)

theorem agree_checkContains {items : List Json} (hitems : ∀ v ∈ items, C.values v) {n n' : Node}
    (hcount : ∀ which, n.count? which = n'.count? which) {x y : NodeId} (hxy : R x y) :
    C.Agree C.failures (Keyword.checkContains judge n x items p)
      (Keyword.checkContains judge' n' y items q) := by
  have haccepts : ∀ v w, v = w ∧ C.values v →
      C.Agree Eq (Keyword.accepts judge v (p.descend [.key "contains"] []) x)
        (Keyword.accepts judge' w (q.descend [.key "contains"] []) y) := by
    rintro v _ ⟨rfl, hv⟩
    exact agree_accepts hjudge (C.descend _ _ hat) hv hxy
  unfold Keyword.checkContains
  rw [hcount, hcount]
  refine (agree_countAccepted haccepts (forall₂_self hitems)).bind fun found _ hfound => ?_
  subst hfound
  dsimp only
  split
  · exact agree_require rfl hat _ _ _
  · split
    · exact agree_require rfl hat _ _ _
    · exact agree_pass

theorem agree_extra {n n' : Node} {x y : NodeId} (hisExtra : ∀ key, n.isExtra key = n'.isExtra key)
    (hxy : R x y) {ms : Members} (hms : C.values (.object ms)) :
    C.Agree C.failures
      (Outcome.ofFirst (fun m => judge x m.2 (p.descend [.key "additionalProperties"] [.key m.1]))
        (ms.filter (n.isExtra ·.1)))
      (Outcome.ofFirst (fun m => judge' y m.2 (q.descend [.key "additionalProperties"] [.key m.1]))
        (ms.filter (n'.isExtra ·.1))) := by
  have hextra : ∀ m ∈ ms.filter (n'.isExtra ·.1), C.values m.2 :=
    fun m hm => (C.members hms m (List.mem_of_mem_filter hm)).1
  simp only [hisExtra]
  refine agree_ofFirst ?_ (forall₂_self hextra)
  rintro m _ ⟨rfl, hm⟩
  exact hjudge _ _ hxy _ hm _ _ (C.descend _ _ hat)

theorem agree_checkExtra {c c' : Context} {hops hops' : Nat} {n n' : Node} {x y : NodeId}
    (hfollow : C.Agree (fun a b => c.schema.kind? a.2 = c'.schema.kind? b.2)
      (c.schema.follow hops x) (c'.schema.follow hops' y))
    (hisExtra : ∀ key, n.isExtra key = n'.isExtra key) (hxy : R x y) {ms : Members}
    (hms : C.values (.object ms)) :
    C.Agree C.failures (Keyword.checkExtra c judge hops n x ms p)
      (Keyword.checkExtra c' judge' hops' n' y ms q) := by
  unfold Keyword.checkExtra
  simp only [hisExtra]
  split
  · exact .ok C.nil
  · have heach := agree_extra hjudge hat (fun key => Eq.refl (n'.isExtra key)) hxy hms
    refine hfollow.bind fun a b hab => ?_
    rw [hab]
    generalize c'.schema.kind? b.2 = kind?
    cases kind? with
    | none => exact heach
    | some kind =>
      cases kind with
      | constant accepts => exact agree_require rfl hat _ _ _
      | _ => exact heach

omit hjudge hat

/-- How members that are not declared are judged depends on where links lead. -/
theorem agree_check {n n' : Node} {c c' : Context} {hops hops' : Nat} (hv : C.values v)
    (hat : C.locations p q)
    (hjudge : ∀ x y, R x y → ∀ v, C.values v → ∀ p q, C.locations p q →
      C.Agree C.failures (judge x v p) (judge' y v q))
    (hleaf : ∀ l l', C.leaves l l' → ∀ v, C.values v → ∀ p q, C.locations p q →
      C.Agree C.failures (l.check c.formats v p) (l'.check c'.formats v q))
    (hextra : ∀ x y, R x y → ∀ ms, C.values (.object ms) → ∀ p q, C.locations p q →
      C.Agree C.failures (Keyword.checkExtra c judge hops n x ms p)
        (Keyword.checkExtra c' judge' hops' n' y ms q))
    (hL : ∀ l l', C.leaves l l' → l.Same l')
    (h : List.Forall₂ (Keyword.Alike C.leaves R) n.keywords n'.keywords) {k k' : Keyword}
    (hk : k.Alike C.leaves R k') :
    C.Agree C.failures (k.check c judge hops n v p) (k'.check c' judge' hops' n' v q) := by
  cases hk with
  | leaf hl => exact hleaf _ _ hl v hv p q hat
  | @single slot x y hxy =>
    cases slot with
    | negated => exact agree_checkNegated hjudge hat hv hxy
    | condition =>
      exact agree_checkCondition hjudge hat hv (Node.rel_single?_of_alike h) hxy
    | consequent | alternative => exact agree_pass
    | items =>
      cases v with
      | array items =>
        exact agree_checkItems hjudge hat (C.items hv) (Node.forall₂_prefixItems h).length_eq hxy
      | _ => exact agree_pass
    | contains =>
      cases v with
      | array items =>
        exact agree_checkContains hjudge hat (C.items hv) (Node.count?_eq h hL) hxy
      | _ => exact agree_pass
    | additionalProperties =>
      cases v with
      | object ms => exact hextra x y hxy ms hv p q hat
      | _ => exact agree_pass
    | propertyNames =>
      cases v with
      | object ms => exact agree_checkNames hjudge hat (C.members hv) hxy
      | _ => exact agree_pass
  | @listed slot xs ys hxs =>
    cases slot with
    | allOf => exact agree_checkAllOf hjudge hat hv hxs
    | anyOf => exact agree_checkAnyOf hjudge hat hv hxs
    | oneOf => exact agree_checkOneOf hjudge hat hv hxs
    | prefixItems =>
      cases v with
      | array items => exact agree_checkPrefix hjudge hat (C.items hv) hxs
      | _ => exact agree_pass
  | @keyed slot es es' hes =>
    cases slot with
    | properties =>
      cases v with
      | object ms => exact agree_checkProperties hjudge hat (C.members hv) hes
      | _ => exact agree_pass
    | dependentSchemas =>
      cases v with
      | object ms => exact agree_checkDependents hjudge hat hv hes
      | _ => exact agree_pass
    | defs => exact agree_pass
  | @patterns es es' hes =>
    cases v with
    | object ms => exact agree_checkPatterns hjudge hat (C.members hv) hes
    | _ => exact agree_pass

end Comparison

end JsonSchema
