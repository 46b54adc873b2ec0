import JsonSchema.Proofs.Reloading.Running

/-!
# Reloaded schemas agree

A schema and its reloaded schema judge, coerce and fill in alike.
-/

namespace JsonSchema

open Comparison

/-! ## Following links -/

namespace Context

variable {c : Context}

theorem follow_of_any {id : NodeId} {n : Node} (hn : c.schema.node? id = some n)
    (hkind : n.kind = .any) (hops : Nat) :
    ∃ r, c.schema.follow hops id = .ok r ∧ ∀ accepts, c.schema.kind? r.2 ≠ some (.constant accepts) := by
  refine ⟨_, Schema.follow_of_node hn (by simp [hkind]) hops, ?_⟩
  simp [Schema.kind?, hn, hkind]

theorem follow_of_hole {id : NodeId} {n : Node} {token : Nat} (hn : c.schema.node? id = some n)
    (hkind : n.kind = .hole token) (hops : Nat) :
    ∃ r, c.schema.follow hops id = .ok r ∧ ∀ accepts, c.schema.kind? r.2 ≠ some (.constant accepts) := by
  refine ⟨_, Schema.follow_of_node hn (by simp [hkind]) hops, ?_⟩
  simp [Schema.kind?, hn, hkind]

theorem follow_link_cases {id place target : NodeId} (hkind : c.schema.kind? id = some (.link target))
    (hstands : ∃ m, c.schema.node? target = some m ∧ ¬m.kind.IsBare) (hbelow : c.schema.Below place id)
    (hops : Nat) :
    (∃ e, c.schema.follow hops id = .error e ∧
      ∀ v at_, c.judgeBelow hops place id v at_ = .error e) ∨
      ∃ r, c.schema.follow hops id = .ok r ∧ ∀ accepts, c.schema.kind? r.2 ≠ some (.constant accepts) := by
  obtain ⟨m, hm, hbare⟩ := hstands
  by_cases hlt : hops < maxHops
  · have hlink := Kind.ne_link_of_not_bare hbare
    refine .inr ⟨(hops + 1, target), ?_, fun accepts hconstant => hbare ?_⟩
    · rw [follow_link hkind, if_pos hlt, Schema.follow_of_node hm hlink]
    · rw [Schema.kind?, hm, Option.map_some, Option.some.injEq] at hconstant
      simp [hconstant, Kind.IsBare]
  · refine .inl ⟨_, by rw [follow_link hkind, if_neg hlt], fun v at_ => ?_⟩
    rw [judgeBelow_of_below hbelow, check_link hkind, if_neg hlt]

end Context

/-- The second run is that of the reloaded schema. -/
structure Context.Reloads (c c' : Context) (docs : List Json) : Prop where
  schema : c.schema.Reloaded c'.schema docs
  index : c.index = .ofSchema c.schema
  index' : c'.index = .ofSchema c'.schema
  formats : c.formats = c'.formats
  shortCircuit : c.shortCircuit = c'.shortCircuit
  ignoreUnsupported : c.ignoreUnsupported = c'.ignoreUnsupported

namespace Context.Reloads

open Schema

variable {c c' : Context} {docs : List Json} (h : c.Reloads c' docs)
include h

/-! ## Judging -/

section Judging

variable {C : Comparison} (hC : C.Coarse)

theorem agree_refer {hops : Nat} {v : Json}
    (ih : hops < maxHops → ∀ x y, c.schema.Meets docs x y → ∀ p q,
      C.Agree C.failures (c.check (hops + 1) x (some v) p) (c'.check (hops + 1) y (some v) q))
    (reference : String) (p q : Location) :
    C.Agree C.failures (c.refer hops reference v p) (c'.refer hops reference v q) := by
  unfold refer
  rw [h.index, h.index']
  refine (h.schema.agree_resolve reference).bind fun x y hxy => ?_
  by_cases hlt : hops < maxHops
  · rw [if_pos hlt, if_pos hlt]
    exact ih hlt x y hxy.meets _ _
  · rw [if_neg hlt, if_neg hlt]
    exact .error _

theorem agree_link {hops : Nat} {v : Json} {x y target y' : NodeId} {n' : Node}
    (hkind : c.schema.kind? x = some (.link target))
    (hresolve : (Index.ofSchema c'.schema).resolve (c.schema.pointerTo target) = .ok y')
    (hn' : c'.schema.node? y = some n') (hkind' : n'.kind = .any) (hhooks' : n'.hooks = {})
    (hkeywords' : n'.keywords = [.leaf (.ref (c.schema.pointerTo target))])
    (ih : hops < maxHops → ∀ p q,
      C.Agree C.failures (c.check (hops + 1) target (some v) p) (c'.check (hops + 1) y' (some v) q))
    (p q : Location) :
    C.Agree C.failures (c.check hops x (some v) p) (c'.check hops y (some v) q) := by
  rw [check_link hkind, check_reference hn' hkind' hhooks' hkeywords', refer, h.index', hresolve,
    Except.ok_bind]
  by_cases hlt : hops < maxHops
  · rw [if_pos hlt, if_pos hlt]
    exact ih hlt _ _
  · rw [if_neg hlt, if_neg hlt]
    exact .error _

/-- Neither a link nor the reference for it is a truth value, and both fail when no hops are left. -/
theorem agree_checkExtra {hops : Nat} {id id' : NodeId} {n n' : Node} {R : NodeId → NodeId → Prop}
    (halike : n.Alike Leaf.Same R n')
    (hjudge : ∀ x y, c.schema.Meets docs x y ∧ c.schema.Below id x ∧ c'.schema.Below id' y →
      ∀ v, C.values v → ∀ p q, C.locations p q →
      C.Agree C.failures (c.judgeBelow hops id x v p) (c'.judgeBelow hops id' y v q))
    {x y : NodeId} (hxy : c.schema.Meets docs x y ∧ c.schema.Below id x ∧ c'.schema.Below id' y)
    {ms : Members} (hms : C.values (.object ms)) {p q : Location} (hat : C.locations p q) :
    C.Agree C.failures (Keyword.checkExtra c (c.judgeBelow hops id) hops n x ms p)
      (Keyword.checkExtra c' (c'.judgeBelow hops id') hops n' y ms q) := by
  have hextra := Node.isExtra_eq halike.keywords
  have hself : ∀ {m m' : Node}, c.schema.node? x = some m → c'.schema.node? y = some m' →
      m.kind = m'.kind → (∀ target, m.kind ≠ .link target) →
      C.Agree C.failures (Keyword.checkExtra c (c.judgeBelow hops id) hops n x ms p)
        (Keyword.checkExtra c' (c'.judgeBelow hops id') hops n' y ms q) := by
    intro m m' hm hm' hkind hlink
    have hlink' : ∀ target, m'.kind ≠ .link target := hkind ▸ hlink
    refine Comparison.agree_checkExtra hjudge hat ?_ hextra hxy hms
    rw [follow_of_node hm hlink, follow_of_node hm' hlink']
    refine .ok ?_
    rw [kind?, kind?, hm, hm', Option.map_some, Option.map_some, hkind]
  cases h.schema.meeting hxy.1 with
  | same node node' stands alike => exact hself node node' alike.kind (Kind.ne_link_of_not_bare stands)
  | constant node kind hooks inert node' kind' =>
    exact hself node node' (kind.trans kind'.symm) (by simp [kind])
  | link kind stands resolve meets node' kind' =>
    rw [Keyword.checkExtra_eq_ofFirst (follow_link_cases kind stands hxy.2.1 hops),
      Keyword.checkExtra_eq_ofFirst (.inr (follow_of_any node' kind' hops))]
    exact agree_extra hjudge hat hextra hxy hms
  | hole node kind hooks keywords node' kind' =>
    rw [Keyword.checkExtra_eq_ofFirst (.inr (follow_of_hole node kind hops)),
      Keyword.checkExtra_eq_ofFirst (.inr (follow_of_any node' kind' hops))]
    exact agree_extra hjudge hat hextra hxy hms

include hC

theorem agree_check
    (hleaf : ∀ l l' : Leaf, l.Same l' → ∀ v, C.values v → ∀ p q,
      C.Agree C.failures (l.check c.formats v p) (l'.check c'.formats v q))
    {x y : NodeId} (hxy : c.schema.Meets docs x y) (hops : Nat) {v : Json} (hv : C.values v)
    (p q : Location) :
    C.Agree C.failures (c.check hops x (some v) p) (c'.check hops y (some v) q) := by
  refine Reloaded.run_induction (motive := fun hops x y => ∀ v, C.values v → ∀ p q,
    C.Agree C.failures (c.check hops x (some v) p) (c'.check hops y (some v) q)) ?_ hxy hops v hv p q
  intro hops x y hxy hreference hchild v hv p q
  have hrefer := h.agree_refer (v := v) fun hlt x y hxy => hreference hlt x y hxy v hv
  cases h.schema.meeting hxy with
  | link kind stands resolve meets node' kind' hooks' keywords' =>
    exact h.agree_link kind resolve node' kind' hooks' keywords'
      (fun hlt => hreference hlt _ _ meets v hv) p q
  | hole node kind hooks keywords node' kind' hooks' keywords' =>
    rw [check_hole node kind, check_bare node' kind' hooks' keywords']
    exact .ok C.nil
  | @constant _ _ accepts node kind hooks inert node' kind' =>
    rw [check_constant node kind, check_constant node' kind']
    refine .ok ?_
    cases accepts with
    | true => exact C.nil
    | false => exact C.failure _ _ _ (hC.locations p q)
  | @same n n' node node' stands alike =>
    have link := Kind.ne_link_of_not_bare stands
    have link' : ∀ target, n'.kind ≠ .link target := alike.kind ▸ link
    have hbelow : ∀ x' y', c.schema.Meets docs x' y' ∧ c.schema.Below x x' ∧ c'.schema.Below y y' →
        ∀ v, C.values v → ∀ p q, C.locations p q →
        C.Agree C.failures (c.judgeBelow hops x x' v p) (c'.judgeBelow hops y y' v q) := by
      rintro x' y' ⟨hxy', hx', hy'⟩ v hv p q _
      rw [judgeBelow_of_below hx', judgeBelow_of_below hy']
      exact hchild x' y' hxy' hx' v hv p q
    have hsame : ∀ l l', C.leaves l l' → l.Same l' := fun l l' hl => hC.leaves ▸ hl
    rw [check_of_node node link, check_of_node node' link']
    refine agree_answer (hC.leaves ▸ alike) hsame hv (hC.locations p q) h.shortCircuit
      h.ignoreUnsupported ?_ (fun reference _ => hrefer reference p q) hbelow ?_ ?_
    · have hooks := (h.schema.built.plain x n node).hooks
      unfold Node.rejection?
      rw [← alike.hooks, hooks]
      exact .none
    · intro l l' hl v hv p q _
      exact hleaf l l' (hsame l l' hl) v hv p q
    · intro x' y' hxy' ms hms p q hat
      exact h.agree_checkExtra alike hbelow hxy' hms hat

end Judging

/-! ## Converting -/

theorem agree_referCoerce {options : CoerceOptions} {hops : Nat} {v : Json}
    (ih : hops < maxHops → ∀ x y, c.schema.Meets docs x y →
      nullVerdicts.Agree Eq (c.coerce options (hops + 1) x v) (c'.coerce options (hops + 1) y v))
    (reference : String) :
    nullVerdicts.Agree Eq (c.referCoerce options hops reference v)
      (c'.referCoerce options hops reference v) := by
  unfold referCoerce
  rw [h.index, h.index']
  refine (h.schema.agree_resolve reference).bind fun x y hxy => ?_
  by_cases hlt : hops < maxHops
  · rw [if_pos hlt, if_pos hlt]
    exact ih hlt x y hxy.meets
  · rw [if_neg hlt, if_neg hlt]
    exact .error _

theorem agree_null {x y : NodeId} (hxy : c.schema.Meets docs x y) (hops : Nat) :
    nullVerdicts.Agree nullVerdicts.failures (c.check hops x (some .null) .root)
      (c'.check hops y (some .null) .root) := by
  refine h.agree_check coarse_nullVerdicts ?_ hxy hops rfl .root .root
  rintro l l' hl _ rfl p q
  rw [h.formats]
  exact agree_leaf_null c'.formats hl

theorem agree_coerce (options : CoerceOptions) {x y : NodeId} (hxy : c.schema.Meets docs x y)
    (hops : Nat) (v : Json) :
    nullVerdicts.Agree Eq (c.coerce options hops x v) (c'.coerce options hops y v) := by
  refine Reloaded.run_induction (motive := fun hops x y => ∀ v,
    nullVerdicts.Agree Eq (c.coerce options hops x v) (c'.coerce options hops y v)) ?_ hxy hops v
  intro hops x y hxy hreference hchild v
  cases h.schema.meeting hxy with
  | constant node kind hooks inert node' kind' hooks' keywords' =>
    rw [coerce_inert node hooks inert (by simp [kind]) (.inr (by simp [kind, Kind.IsBare])),
      coerce_inert node' hooks' (Node.inert_of_nil keywords') (by simp [kind'])
        (.inr (by simp [kind', Kind.IsBare]))]
    exact .ok rfl
  | hole node kind hooks keywords node' kind' hooks' keywords' =>
    rw [coerce_inert node hooks (Node.inert_of_nil keywords) (by simp [kind])
        (.inr (by simp [kind, Kind.IsBare])),
      coerce_inert node' hooks' (Node.inert_of_nil keywords') (by simp [kind']) (.inl kind')]
    exact .ok rfl
  | link kind stands resolve meets node' kind' hooks' keywords' =>
    rw [coerce_link kind, coerce_reference node' kind' hooks' keywords', referCoerce, h.index', resolve,
      Except.ok_bind]
    -- The link counts a hop, and so does the reference that is written for it.
    by_cases hlt : hops < maxHops
    · rw [if_pos hlt, if_pos hlt]
      exact hreference hlt _ _ meets v
    · rw [if_neg hlt, if_neg hlt]
      exact .error _
  | @same n n' node node' stands alike =>
    have link := Kind.ne_link_of_not_bare stands
    have link' : ∀ target, n'.kind ≠ .link target := alike.kind ▸ link
    rw [coerce_of_node node link, coerce_of_node node' link']
    refine agree_converted (C := nullVerdicts) alike (fun _ _ hl => hl) ?_ ?_ ?_ ?_ v
    · exact fun reference _ v =>
        h.agree_referCoerce (fun hlt x y hxy => hreference hlt x y hxy v) reference
    · rintro x' y' ⟨hxy', hx', hy'⟩ v
      rw [convertBelow_of_below hx', convertBelow_of_below hy']
      exact hchild x' y' hxy' hx' v
    · exact h.schema.isStrict_eq node node' alike
    · exact Coercion.agree_admitsExtra (C := nullVerdicts) alike.keywords
        fun x' y' hxy' => h.agree_null hxy'.1 hops

end Context.Reloads

end JsonSchema
