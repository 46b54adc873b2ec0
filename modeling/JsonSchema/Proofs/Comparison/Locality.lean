import JsonSchema.Proofs.Comparison.Nodes
import JsonSchema.Proofs.Recursion.Renaming

/-!
# What a node asks of other nodes

The keywords of a node ask only about the nodes that they hold, and a conversion converts only with
these.
-/

namespace JsonSchema

namespace Comparison

/-- The second run does exactly what the first one does. -/
def exact : Comparison where
  forgiving := fun _ => False
  errors := Eq
  refl := fun _ => rfl
  failures := Eq
  locations := Eq
  leaves := Eq
  values := fun _ => True
  nil := rfl
  nil_iff := by rintro found _ rfl; rfl
  append := by rintro _ _ _ _ rfl rfl; rfl
  failure := by rintro _ _ _ _ _ rfl; rfl
  descend := by rintro _ _ _ _ rfl; rfl
  items := fun _ _ _ => trivial
  members := fun _ _ _ => ⟨trivial, trivial⟩

theorem exact_same (x : Except SchemaError α) : exact.Agree Eq x x := .same (fun _ => rfl) x

theorem exact_of_eq {x y : Except SchemaError α} (h : x = y) : exact.Agree Eq x y := h ▸ exact_same x

theorem cases_of_exact {r : α → β → Prop} {x : Except SchemaError α} {y : Except SchemaError β}
    (h : exact.Agree r x y) :
    (∃ e, x = .error e ∧ y = .error e) ∨ ∃ a b, x = .ok a ∧ y = .ok b ∧ r a b := by
  cases x with
  | error e =>
    rcases h with h | ⟨_, rfl, rfl⟩
    · exact h.elim
    · exact .inl ⟨e, rfl, rfl⟩
  | ok a =>
    obtain ⟨b, rfl, hab⟩ := h
    exact .inr ⟨a, b, rfl, rfl, hab⟩

theorem eq_of_exact {x y : Except SchemaError α} (h : exact.Agree Eq x y) : x = y := by
  rcases cases_of_exact h with ⟨e, rfl, rfl⟩ | ⟨a, _, rfl, rfl, rfl⟩
  · rfl
  · rfl

end Comparison

open Comparison

theorem Node.alike_self (n : Node) :
    List.Forall₂ (Keyword.Alike Eq fun x y => x = y ∧ x ∈ n.places) n.keywords n.keywords := by
  have h := Node.alike_mapIds (R := fun x y => x = y ∧ x ∈ n.places) (f := fun id => id) (n := n)
    fun id hid => ⟨rfl, hid⟩
  rwa [Node.mapIds_id] at h

variable (c c' : Context) {n : Node}

/-- Only answers about the children count, and where links from them lead. -/
theorem Keyword.check_congr (hformats : c.formats = c'.formats) {hops : Nat} {judge judge' : Judge}
    (hjudge : ∀ child ∈ n.places, ∀ v at_, judge child v at_ = judge' child v at_)
    (hfollow : ∀ child ∈ n.places, (c.schema.follow hops child).map (fun r => c.schema.kind? r.2) =
      (c'.schema.follow hops child).map fun r => c'.schema.kind? r.2) {k : Keyword}
    (hk : k ∈ n.keywords) (v : Json) (at_ : Location) :
    k.check c judge hops n v at_ = k.check c' judge' hops n v at_ := by
  have hsame : ∀ x y, x = y ∧ x ∈ n.places → ∀ v, exact.values v → ∀ p q, exact.locations p q →
      exact.Agree exact.failures (judge x v p) (judge' y v q) := by
    rintro x _ ⟨rfl, hx⟩ v _ p _ rfl
    exact exact_of_eq (hjudge x hx v p)
  have halike : List.Forall₂ (Keyword.Alike exact.leaves fun x y => x = y ∧ x ∈ n.places)
      n.keywords n.keywords := n.alike_self
  have hkeyword : k.Alike exact.leaves (fun x y => x = y ∧ x ∈ n.places) k :=
    List.forall₂_same.1 halike k hk
  have hL : ∀ l l', exact.leaves l l' → l.Same l' := by
    rintro l _ rfl
    exact .refl l
  refine eq_of_exact (agree_check (C := exact) trivial rfl hsame ?_ ?_ hL halike hkeyword)
  · rintro l _ rfl w _ p _ rfl
    rw [hformats]
    exact exact_same _
  · rintro x _ ⟨rfl, hx⟩ ms hms p _ rfl
    refine agree_checkExtra hsame rfl ?_ (fun _ => rfl) ⟨rfl, hx⟩ hms
    have hleads := hfollow x hx
    revert hleads
    cases c.schema.follow hops x <;> cases c'.schema.follow hops x <;> intro hleads
    · cases hleads
      exact .error _
    · cases hleads
    · cases hleads
    · exact .ok (Except.ok.inj hleads)

theorem Context.asked_congr (hformats : c.formats = c'.formats) {hops : Nat} {judge judge' : Judge}
    (hjudge : ∀ child ∈ n.places, ∀ v at_, judge child v at_ = judge' child v at_)
    (hfollow : ∀ child ∈ n.places, (c.schema.follow hops child).map (fun r => c.schema.kind? r.2) =
      (c'.schema.follow hops child).map fun r => c'.schema.kind? r.2) (stop : Bool) (v : Json)
    (at_ : Location) :
    Outcome.ofAll stop (fun k => k.check c judge hops n v at_) n.keywords =
      Outcome.ofAll stop (fun k => k.check c' judge' hops n v at_) n.keywords := by
  refine eq_of_exact (agree_ofAll stop (R := fun k k' => k = k' ∧ k ∈ n.keywords) ?_ ?_)
  · rintro k _ ⟨rfl, hk⟩
    exact exact_of_eq (Keyword.check_congr c c' hformats hjudge hfollow hk v at_)
  · exact List.forall₂_same.2 fun k hk => ⟨rfl, hk⟩

theorem Coercion.byKind_congr {options : CoerceOptions} {hops : Nat} {convert convert' : Convert}
    (hconvert : ∀ child ∈ n.places, ∀ v, convert child v = convert' child v)
    (hoptional : ∀ child ∈ n.places, c.schema.isOptional child = c'.schema.isOptional child)
    (hnull : ∀ child ∈ n.places,
      c.check hops child (some .null) .root = c'.check hops child (some .null) .root) (v : Json) :
    byKind c options convert hops n v = byKind c' options convert' hops n v := by
  refine eq_of_exact (agree_byKind (R := fun x y => x = y ∧ x ∈ n.places) ?_ n.alike_self rfl ?_ ?_ v)
  · rintro x _ ⟨rfl, hx⟩ w
    exact exact_of_eq (hconvert x hx w)
  · refine isStrict_eq n.alike_self ?_
    rintro x _ ⟨rfl, hx⟩
    exact hoptional x hx
  · refine agree_admitsExtra (C := exact) n.alike_self ?_
    rintro x _ ⟨rfl, hx⟩
    exact exact_of_eq (hnull x hx)

end JsonSchema
