import JsonSchema.Proofs.Comparison.Locality
import JsonSchema.Proofs.Recursion.Renaming

/-!
# Runs that follow each other

A schema is unrolled where links to the whole are replaced by what they lead to. The unrolled schema
needs fewer hops, and answers whatever the other one answers.
-/

namespace JsonSchema

namespace Schema

/-- The nodes do the same at related places. Only the first schema may have to take a link before. -/
structure Unrolls (t u : Schema) (R : NodeId → NodeId → Prop) : Prop where
  orderly : t.Orderly
  unrolled : u.Orderly
  within : ∀ {x y}, R x y → x < t.size
  step : ∀ {x y n}, R x y → t.node? x = some n →
    (n.kind = .link root ∧ R root y) ∨
      ∃ f optional, u.node? y = some { n.mapIds f with optional := optional } ∧
        (∀ id ∈ n.places, R id (f id)) ∧ ∀ target, n.kind = .link target → R target (f target)
  optional : ∀ {x y}, R x y → x ≠ root → u.isOptional y = t.isOptional x
  direct : ∀ {x n}, t.node? x = some n → n.reference? = none

end Schema

namespace Comparison

/-- The second run answers the same if the first one answers. -/
def forward : Comparison where
  forgiving := fun _ => True
  errors := Eq
  refl := fun _ => rfl
  failures := Eq
  locations := Eq
  leaves := Eq
  values := fun _ => True
  nil := exact.nil
  nil_iff := exact.nil_iff
  append := exact.append
  failure := exact.failure
  descend := exact.descend
  items := exact.items
  members := exact.members

theorem forward_error {r : α → β → Prop} (e : SchemaError) (y : Except SchemaError β) :
    forward.Agree r (.error e) y := .inl trivial

end Comparison

namespace Schema.Unrolls

open Comparison

variable {c c' : Context} {R : NodeId → NodeId → Prop} (h : c.schema.Unrolls c'.schema R)
include h

theorem exists_node {x y : NodeId} (hxy : R x y) : ∃ n, c.schema.node? x = some n :=
  ⟨_, Array.getElem?_eq_getElem (h.within hxy)⟩

theorem alike {x y : NodeId} {n : Node} {f : NodeId → NodeId} {optional : Bool}
    (hn : c.schema.node? x = some n)
    (hn' : c'.schema.node? y = some { n.mapIds f with optional := optional })
    (hchildren : ∀ id ∈ n.places, R id (f id)) (hlink : ∀ target, n.kind ≠ .link target) :
    n.Alike Eq (fun x' y' => R x' y' ∧ c.schema.Below x x' ∧ c'.schema.Below y y')
      { n.mapIds f with optional := optional } where
  kind := (Node.kind_mapIds_of_not_link hlink f).symm
  hooks := rfl
  keywords := by
    refine Node.alike_mapIds fun id hid => ⟨hchildren id hid, h.orderly.below x n hn id hid, ?_⟩
    refine h.unrolled.below y _ hn' (f id) ?_
    have hplaces : (Node.places { n.mapIds f with optional := optional }) = (n.mapIds f).places := rfl
    rw [hplaces, Node.places_mapIds]
    exact List.mem_map_of_mem hid

/-- Runs take a link on the left, a link on both sides, or go on below two nodes that say the same.
The hops that are left decrease or the place comes nearer to the end. -/
theorem induction {motive : Nat → Nat → NodeId → NodeId → Prop}
    (exhausted : ∀ hops hops' x y target, c.schema.kind? x = some (.link target) → ¬hops < maxHops →
      motive hops hops' x y)
    (skip : ∀ hops hops' x y, c.schema.kind? x = some (.link root) → hops < maxHops →
      motive (hops + 1) hops' root y → motive hops hops' x y)
    (link : ∀ hops hops' x y target target', c.schema.kind? x = some (.link target) →
      c'.schema.kind? y = some (.link target') → hops < maxHops → hops' < maxHops →
      motive (hops + 1) (hops' + 1) target target' → motive hops hops' x y)
    (node : ∀ hops hops' x y n n', R x y → hops' ≤ hops → c.schema.node? x = some n →
      c'.schema.node? y = some n' → (∀ target, n.kind ≠ .link target) →
      n.Alike Eq (fun x' y' => R x' y' ∧ c.schema.Below x x' ∧ c'.schema.Below y y') n' →
      (∀ x' y', R x' y' → c.schema.Below x x' → motive hops hops' x' y') → motive hops hops' x y)
    {x y : NodeId} (hxy : R x y) {hops hops' : Nat} (hle : hops' ≤ hops) : motive hops hops' x y := by
  induction hleft : c.schema.remaining hops x using
    (Prod.lex Nat.lt_wfRel Nat.lt_wfRel).wf.induction generalizing x y hops hops' with | h left ih
  subst hleft
  obtain ⟨n, hn⟩ := h.exists_node hxy
  have hkind : c.schema.kind? x = some n.kind := by rw [kind?, hn, Option.map_some]
  -- Only the left side may have a link where the other has none.
  rcases h.step hxy hn with ⟨hlink, hroot⟩ | ⟨f, optional, hn', hchildren, hlinks⟩
  · by_cases hlt : hops < maxHops
    · refine skip hops hops' x y (hlink ▸ hkind) hlt (ih _ (.left _ _ ?_) hroot (by omega) rfl)
      exact Nat.sub_succ_lt_self _ _ hlt
    · exact exhausted hops hops' x y root (hlink ▸ hkind) hlt
  · by_cases hlink : ∃ target, n.kind = .link target
    · obtain ⟨target, hlink⟩ := hlink
      have hkind' : c'.schema.kind? y = some (.link (f target)) := by
        rw [kind?, hn', Option.map_some, Node.mapIds, hlink]
        rfl
      by_cases hlt : hops < maxHops
      · have hlt' := Nat.lt_of_le_of_lt hle hlt
        refine link hops hops' x y target (f target) (hlink ▸ hkind) hkind' hlt hlt'
          (ih _ (.left _ _ ?_) (hlinks target hlink) (by omega) rfl)
        exact Nat.sub_succ_lt_self _ _ hlt
      · exact exhausted hops hops' x y target (hlink ▸ hkind) hlt
    · have hlink : ∀ target, n.kind ≠ .link target := fun target heq => hlink ⟨target, heq⟩
      refine node hops hops' x y n _ hxy hle hn hn' hlink (h.alike hn hn' hchildren hlink) ?_
      intro x' y' hxy' hbelow
      exact ih _ (.right _ hbelow.size_sub_lt) hxy' hle rfl

theorem follow {x y : NodeId} (hxy : R x y) {hops hops' : Nat} (hle : hops' ≤ hops) :
    forward.Agree (fun a b => c.schema.kind? a.2 = c'.schema.kind? b.2) (c.schema.follow hops x)
      (c'.schema.follow hops' y) := by
  refine h.induction (motive := fun hops hops' x y =>
    forward.Agree (fun a b => c.schema.kind? a.2 = c'.schema.kind? b.2) (c.schema.follow hops x)
      (c'.schema.follow hops' y)) ?_ ?_ ?_ ?_ hxy hle
  · intro hops hops' x y target hkind hlt
    rw [Context.follow_link hkind, if_neg hlt]
    exact forward_error _ _
  · intro hops hops' x y hkind hlt ih
    rw [Context.follow_link hkind, if_pos hlt]
    exact ih
  · intro hops hops' x y target target' hkind hkind' hlt hlt' ih
    rw [Context.follow_link hkind, Context.follow_link hkind', if_pos hlt, if_pos hlt']
    exact ih
  · intro hops hops' x y n n' _ _ hn hn' hlink halike _
    have hlink' : ∀ target, n'.kind ≠ .link target := fun target => halike.kind ▸ hlink target
    rw [Schema.follow_of_node hn hlink, Schema.follow_of_node hn' hlink']
    refine .ok ?_
    rw [kind?, kind?, hn, hn', Option.map_some, Option.map_some, halike.kind]

/-! ## Judging -/

section Judging

variable (hstop : c.shortCircuit = c'.shortCircuit)
  (hignore : c.ignoreUnsupported = c'.ignoreUnsupported) (hformats : c.formats = c'.formats)
include hstop hignore hformats

theorem check {x y : NodeId} (hxy : R x y) {hops hops' : Nat} (hle : hops' ≤ hops) (v : Json)
    (at_ : Location) :
    forward.Agree Eq (c.check hops x (some v) at_) (c'.check hops' y (some v) at_) := by
  refine h.induction (motive := fun hops hops' x y => ∀ v at_,
    forward.Agree Eq (c.check hops x (some v) at_) (c'.check hops' y (some v) at_))
    ?_ ?_ ?_ ?_ hxy hle v at_
  · intro hops hops' x y target hkind hlt v at_
    rw [Context.check_link hkind, if_neg hlt]
    exact forward_error _ _
  · intro hops hops' x y hkind hlt ih v at_
    rw [Context.check_link hkind, if_pos hlt]
    exact ih v at_
  · intro hops hops' x y target target' hkind hkind' hlt hlt' ih v at_
    rw [Context.check_link hkind, Context.check_link hkind', if_pos hlt, if_pos hlt']
    exact ih v at_
  · intro hops hops' x y n n' hxy hle hn hn' hlink halike ih v at_
    have hlink' : ∀ target, n'.kind ≠ .link target := fun target => halike.kind ▸ hlink target
    have hchild : ∀ x' y', R x' y' ∧ c.schema.Below x x' ∧ c'.schema.Below y y' → ∀ v,
        forward.values v → ∀ p q, forward.locations p q →
        forward.Agree forward.failures (c.judgeBelow hops x x' v p)
          (c'.judgeBelow hops' y y' v q) := by
      rintro x' y' ⟨hR, hbelow, hbelow'⟩ v _ p _ rfl
      rw [Context.judgeBelow_of_below hbelow, Context.judgeBelow_of_below hbelow']
      exact ih x' y' hR hbelow v p
    have hsame : ∀ l l', forward.leaves l l' → l.Same l' := fun l _ heq => heq ▸ .refl l
    rw [Context.check_of_node hn hlink, Context.check_of_node hn' hlink']
    refine Context.agree_answer halike hsame trivial rfl hstop hignore (halike.rel_rejection? _ _) ?_
      hchild ?_ ?_
    · intro reference href
      rw [h.direct hn] at href
      cases href
    · rintro l _ rfl v _ p _ rfl
      rw [hformats]
      exact .same (fun _ => rfl) _
    · rintro x' y' hR ms hms p q hat
      exact agree_checkExtra hchild hat (h.follow hR.1 hle) (Node.isExtra_eq halike.keywords) hR hms

theorem coerce {x y : NodeId} (hxy : R x y) {hops hops' : Nat} (hle : hops' ≤ hops)
    (options : CoerceOptions) (v : Json) :
    forward.Agree Eq (c.coerce options hops x v) (c'.coerce options hops' y v) := by
  refine h.induction (motive := fun hops hops' x y => ∀ v,
    forward.Agree Eq (c.coerce options hops x v) (c'.coerce options hops' y v))
    ?_ ?_ ?_ ?_ hxy hle v
  · intro hops hops' x y target hkind hlt v
    rw [Context.coerce_link hkind, if_neg hlt]
    exact forward_error _ _
  · intro hops hops' x y hkind hlt ih v
    rw [Context.coerce_link hkind, if_pos hlt]
    exact ih v
  · intro hops hops' x y target target' hkind hkind' hlt hlt' ih v
    rw [Context.coerce_link hkind, Context.coerce_link hkind', if_pos hlt, if_pos hlt']
    exact ih v
  · intro hops hops' x y n n' hxy hle hn hn' hlink halike ih v
    have hlink' : ∀ target, n'.kind ≠ .link target := fun target => halike.kind ▸ hlink target
    have hsame : ∀ l l' : Leaf, l = l' → l.Same l' := fun l _ heq => heq ▸ .refl l
    rw [Context.coerce_of_node hn hlink, Context.coerce_of_node hn' hlink']
    refine Context.agree_converted (C := forward) halike hsame ?_ ?_ ?_ ?_ v
    · intro reference href
      rw [h.direct hn] at href
      cases href
    · rintro x' y' ⟨hR, hbelow, hbelow'⟩ v
      rw [Context.convertBelow_of_below hbelow, Context.convertBelow_of_below hbelow']
      exact ih x' y' hR hbelow v
    · refine Coercion.isStrict_eq halike.keywords ?_
      rintro x' y' ⟨hR, hbelow, _⟩
      exact (h.optional hR (Nat.ne_of_gt (Nat.zero_lt_of_lt hbelow.1))).symm
    · refine Coercion.agree_admitsExtra halike.keywords ?_
      rintro x' y' ⟨hR, _, _⟩
      exact h.check hstop hignore hformats hR hle .null .root

end Judging

end Schema.Unrolls

end JsonSchema
