import JsonSchema.Proofs.Comparison.Locality
import JsonSchema.Proofs.Reloading.Limits

/-!
# Runs in copies of a schema

A coercion has nothing but null judged, and null is asked about neither by limits nor by formats. So copies
of a schema that differ in the sign of a zero, and contexts with other formats, convert every value alike.
-/

namespace JsonSchema

open Comparison

/-! ## Copies -/

theorem Keyword.Same.alike {k k' : Keyword} (h : k.Same k') : k.Alike Leaf.Same Eq k' := by
  cases h with
  | leaf h => exact .leaf h
  | refl k =>
    cases k with
    | leaf l => exact .leaf (.refl l)
    | single slot id => exact .single rfl
    | listed slot ids => exact .listed (List.forall₂_same.2 fun _ _ => rfl)
    | keyed slot entries => exact .keyed (List.forall₂_same.2 fun _ _ => ⟨rfl, rfl⟩)
    | patternProperties entries => exact .patterns (List.forall₂_same.2 fun _ _ => ⟨rfl, rfl⟩)

theorem Node.Same.alike {n n' : Node} (h : n.Same n') : n.Alike Leaf.Same Eq n' :=
  ⟨h.kind, h.hooks, h.keywords.imp fun _ _ hk => hk.alike⟩

theorem Node.Same.refl (n : Node) : n.Same n :=
  ⟨rfl, List.forall₂_same.2 fun k _ => .refl k, rfl, rfl⟩

namespace Schema

variable {s t : Schema}

theorem Same.refl (s : Schema) : s.Same s := ⟨rfl, fun _ n hn => ⟨n, hn, .refl n⟩⟩

namespace Same

variable (h : s.Same t) (id : NodeId)
include h

theorem node?_eq_none (hnone : s.node? id = none) : t.node? id = none := by
  rw [node?, Array.getElem?_eq_none_iff] at hnone ⊢
  exact Nat.le_trans (Nat.le_of_eq h.size.symm) hnone

theorem rel_node? : Option.Rel Node.Same (s.node? id) (t.node? id) := by
  cases hn : s.node? id with
  | some n =>
    obtain ⟨n', hn', hsame⟩ := h.nodes id n hn
    rw [hn']
    exact .some hsame
  | none =>
    rw [h.node?_eq_none id hn]
    exact .none

theorem kind?_eq : s.kind? id = t.kind? id := by
  have hrel := h.rel_node? id
  unfold kind?
  generalize s.node? id = n? at hrel ⊢
  generalize t.node? id = n?' at hrel ⊢
  cases hrel with
  | none => rfl
  | some h => rw [Option.map_some, Option.map_some, h.kind]

theorem isOptional_eq : s.isOptional id = t.isOptional id := by
  have hrel := h.rel_node? id
  unfold isOptional
  generalize s.node? id = n? at hrel ⊢
  generalize t.node? id = n?' at hrel ⊢
  cases hrel with
  | none => rfl
  | some h => rw [Option.map_some, Option.map_some, h.optional]

omit id in
theorem below_iff {parent child : NodeId} : s.Below parent child ↔ t.Below parent child := by
  rw [Below, Below, h.size]

end Same

theorem cases_node? (s : Schema) (id : NodeId) : s.node? id = none ∨
    (∃ target, s.kind? id = some (.link target)) ∨
      ∃ n, s.node? id = some n ∧ ∀ target, n.kind ≠ .link target := by
  cases hn : s.node? id with
  | none => exact .inl rfl
  | some n =>
    by_cases hlink : ∃ target, n.kind = .link target
    · obtain ⟨target, hkind⟩ := hlink
      exact .inr (.inl ⟨target, by rw [kind?, hn, Option.map_some, hkind]⟩)
    · exact .inr (.inr ⟨n, rfl, not_exists.1 hlink⟩)

/-- After a link or a reference some hops are left, and a child lies nearer to the end. -/
theorem run_induction {motive : Nat → NodeId → Prop}
    (step : ∀ hops id, (hops < maxHops → ∀ target, motive (hops + 1) target) →
      (∀ child, s.Below id child → motive hops child) → motive hops id)
    (hops : Nat) (id : NodeId) : motive hops id := by
  induction hleft : s.remaining hops id using
    (Prod.lex Nat.lt_wfRel Nat.lt_wfRel).wf.induction generalizing hops id with | h left ih
  subst hleft
  refine step hops id (fun hlt target => ?_) fun child hbelow => ?_
  · exact ih _ (.left _ _ (Nat.sub_succ_lt_self _ _ hlt)) _ _ rfl
  · exact ih _ (.right _ hbelow.size_sub_lt) _ _ rfl

end Schema

/-! ## Null -/

namespace Comparison

/-- The second run does exactly what the first one does, as long as nothing but null is judged. -/
def onNull : Comparison where
  toTolerance := exact.toTolerance
  failures := Eq
  locations := Eq
  leaves := Leaf.Same
  values := (· = .null)
  nil := exact.nil
  nil_iff := exact.nil_iff
  append := exact.append
  failure := exact.failure
  descend := exact.descend
  items := nullVerdicts.items
  members := nullVerdicts.members

end Comparison

theorem Leaf.Same.check_null {l l' : Leaf} (h : l.Same l') (formats formats' : FormatRegistry)
    (at_ : Location) : l.check formats .null at_ = l'.check formats' .null at_ := by
  cases h with
  | refl l =>
    cases l with
    | uniqueItems unique => cases unique <;> rfl
    | _ => rfl
  | bound | multipleOf => rfl

namespace Context

/-- The contexts differ in formats, and their schemas in the sign of zeros, at most. -/
structure Twin (c c' : Context) : Prop where
  schema : c.schema.Same c'.schema
  index : c.index = c'.index
  shortCircuit : c.shortCircuit = c'.shortCircuit
  ignoreUnsupported : c.ignoreUnsupported = c'.ignoreUnsupported

namespace Twin

variable {c c' : Context} (h : c.Twin c')
include h

theorem refer_eq {hops : Nat} {v : Json} {at_ : Location}
    (hnext : hops < maxHops → ∀ target at_,
      c.check (hops + 1) target (some v) at_ = c'.check (hops + 1) target (some v) at_)
    (reference : String) : c.refer hops reference v at_ = c'.refer hops reference v at_ := by
  unfold refer
  rw [h.index]
  cases c'.index.resolve reference with
  | error e => rfl
  | ok target => exact if_ctx_congr Iff.rfl (fun hlt => hnext hlt target _) fun _ => rfl

theorem check_null (hops : Nat) (id : NodeId) (at_ : Location) :
    c.check hops id (some .null) at_ = c'.check hops id (some .null) at_ := by
  refine Schema.run_induction (s := c.schema) (motive := fun hops id => ∀ at_,
    c.check hops id (some .null) at_ = c'.check hops id (some .null) at_) ?_ hops id at_
  intro hops id hnext hchild at_
  rcases c.schema.cases_node? id with hnone | ⟨target, hlink⟩ | ⟨n, hn, hstands⟩
  · rw [check_of_none hnone, check_of_none (h.schema.node?_eq_none id hnone)]
  · rw [check_link hlink, check_link ((h.schema.kind?_eq id).symm.trans hlink)]
    exact if_ctx_congr Iff.rfl (fun hlt => hnext hlt target at_) fun _ => rfl
  · obtain ⟨n', hn', hsame⟩ := h.schema.nodes id n hn
    rw [check_of_node hn hstands, check_of_node hn' (hsame.kind ▸ hstands)]
    have hbelow : ∀ x y, x = y → ∀ v, onNull.values v → ∀ p q, onNull.locations p q →
        onNull.Agree onNull.failures (c.judgeBelow hops id x v p) (c'.judgeBelow hops id y v q) := by
      rintro x _ rfl _ rfl p _ rfl
      exact exact_of_eq (if_ctx_congr h.schema.below_iff (fun hb => hchild x (h.schema.below_iff.2 hb) p)
        fun _ => rfl)
    refine eq_of_exact (?_ : onNull.Agree onNull.failures _ _)
    refine agree_answer (C := onNull) hsame.alike (fun _ _ hl => hl) rfl rfl h.shortCircuit
      h.ignoreUnsupported (hsame.alike.rel_rejection? _ _) ?_ hbelow ?_ ?_
    · exact fun reference _ => exact_of_eq (h.refer_eq hnext reference)
    · rintro l l' hl _ rfl p _ rfl
      exact exact_of_eq (hl.check_null c.formats c'.formats p)
    · rintro x y hxy ms ⟨⟩

theorem coerce_eq (options : CoerceOptions) (hops : Nat) (id : NodeId) (v : Json) :
    c.coerce options hops id v = c'.coerce options hops id v := by
  refine Schema.run_induction (s := c.schema) (motive := fun hops id => ∀ v,
    c.coerce options hops id v = c'.coerce options hops id v) ?_ hops id v
  intro hops id hnext hchild v
  rcases c.schema.cases_node? id with hnone | ⟨target, hlink⟩ | ⟨n, hn, hstands⟩
  · rw [coerce_of_none hnone, coerce_of_none (h.schema.node?_eq_none id hnone)]
  · rw [coerce_link hlink, coerce_link ((h.schema.kind?_eq id).symm.trans hlink)]
    exact if_ctx_congr Iff.rfl (fun hlt => hnext hlt target v) fun _ => rfl
  · obtain ⟨n', hn', hsame⟩ := h.schema.nodes id n hn
    rw [coerce_of_node hn hstands, coerce_of_node hn' (hsame.kind ▸ hstands)]
    refine eq_of_exact (agree_converted (C := onNull) hsame.alike (fun _ _ hl => hl) ?_ ?_ ?_ ?_ v)
    · intro reference _ v
      refine exact_of_eq ?_
      unfold referCoerce
      rw [h.index]
      cases c'.index.resolve reference with
      | error e => rfl
      | ok target => exact if_ctx_congr Iff.rfl (fun hlt => hnext hlt target v) fun _ => rfl
    · rintro x _ rfl v
      exact exact_of_eq (if_ctx_congr h.schema.below_iff (fun hb => hchild x (h.schema.below_iff.2 hb) v)
        fun _ => rfl)
    · refine Coercion.isStrict_eq hsame.alike.keywords ?_
      rintro x _ rfl
      exact h.schema.isOptional_eq x
    · refine Coercion.agree_admitsExtra (C := onNull) hsame.alike.keywords ?_
      rintro x _ rfl
      exact exact_of_eq (h.check_null hops x .root)

end Twin

end Context

end JsonSchema
