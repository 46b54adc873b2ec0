import JsonSchema.Proofs.Comparison.Nodes
import JsonSchema.Proofs.Reloading.Limits
import JsonSchema.Proofs.Reloading.References

/-!
# Runs at opposite nodes

A run in a schema and a run in the reloaded schema pass opposite nodes, with the same number of hops. Where
the one takes a link the other one takes a reference.
-/

namespace JsonSchema

/-! ## References and placeholders -/

namespace Context

variable {c : Context} {id : NodeId} {n : Node} (hn : c.schema.node? id = some n)
  (hkind : n.kind = .any) (hhooks : n.hooks = {})
include hn hkind hhooks

theorem check_reference {reference : String} (hkeywords : n.keywords = [.leaf (.ref reference)])
    (hops : Nat) (v : Json) (at_ : Location) :
    c.check hops id (some v) at_ = c.refer hops reference v at_ := by
  have hdefs : n.declares "$defs" = false := by simp [Node.declares, hkeywords, Keyword.name, Leaf.name]
  have href : n.reference? = some reference := by simp [Node.reference?, Node.find?, hkeywords]
  rw [check_of_node hn (by simp [hkind])]
  unfold answer weigh Node.rejection?
  rw [hkind, hhooks, hdefs, href, Bool.and_false]
  rfl

theorem coerce_reference {reference : String} (hkeywords : n.keywords = [.leaf (.ref reference)])
    (options : CoerceOptions) (hops : Nat) (v : Json) :
    c.coerce options hops id v = c.referCoerce options hops reference v := by
  have href : n.reference? = some reference := by simp [Node.reference?, Node.find?, hkeywords]
  rw [coerce_of_node hn (by simp [hkind])]
  unfold converted
  rw [hhooks, href]

theorem check_bare (hkeywords : n.keywords = []) (hops : Nat) (v : Json) (at_ : Location) :
    c.check hops id (some v) at_ = .ok [] := by
  have hdefs : n.declares "$defs" = false := by simp [Node.declares, hkeywords]
  have href : n.reference? = none := by simp [Node.reference?, Node.find?, hkeywords]
  rw [check_of_node hn (by simp [hkind])]
  unfold answer weigh Node.rejection?
  rw [hkind, hhooks, hdefs, href, Bool.and_false, hkeywords]
  rfl

end Context

namespace Context

variable {c : Context} {id : NodeId} {n : Node} (hn : c.schema.node? id = some n)
include hn

theorem check_hole {token : Nat} (hkind : n.kind = .hole token) (hops : Nat) (v : Json) (at_ : Location) :
    c.check hops id (some v) at_ = .ok [] := by
  rw [check_of_node hn (by simp [hkind])]
  unfold answer
  rw [hkind]

theorem check_constant {accepts : Bool} (hkind : n.kind = .constant accepts) (hops : Nat) (v : Json)
    (at_ : Location) :
    c.check hops id (some v) at_ =
      .ok (if accepts then [] else [at_.failure none .alwaysFails (some v)]) := by
  rw [check_eq_turn, turn_of_constant hn hkind]
  cases accepts <;> rfl

theorem coerce_inert (hhooks : n.hooks = {}) (hinert : ∀ k ∈ n.keywords, k.IsInert)
    (hlink : ∀ target, n.kind ≠ .link target) (hkind : n.kind = .any ∨ n.kind.IsBare)
    (options : CoerceOptions) (hops : Nat) (v : Json) : c.coerce options hops id v = .ok v := by
  rw [coerce_of_node hn hlink]
  unfold converted Coercion.byKind
  rw [hhooks, Node.reference?_of_inert hinert]
  dsimp only
  rcases hkind with hkind | hbare
  · rw [hkind]
  · cases hkind : n.kind with
    | constant | hole => rfl
    | link target => exact absurd hkind (hlink target)
    | _ => simp [hkind, Kind.IsBare] at hbare

end Context

theorem Keyword.checkExtra_eq_ofFirst {c : Context} {judge : Judge} {hops : Nat} {id : NodeId}
    (h : (∃ e, c.schema.follow hops id = .error e ∧ ∀ v at_, judge id v at_ = .error e) ∨
      ∃ r, c.schema.follow hops id = .ok r ∧ ∀ accepts, c.schema.kind? r.2 ≠ some (.constant accepts))
    (n : Node) (ms : Members) (at_ : Location) :
    Keyword.checkExtra c judge hops n id ms at_ =
      Outcome.ofFirst (fun m => judge id m.2 (at_.descend [.key "additionalProperties"] [.key m.1]))
        (ms.filter (n.isExtra ·.1)) := by
  unfold Keyword.checkExtra
  cases ms.filter (n.isExtra ·.1) with
  | nil => rfl
  | cons m extra =>
    rcases h with ⟨e, hfollow, hjudge⟩ | ⟨r, hfollow, hkind⟩
    · rw [hfollow, Outcome.ofFirst, hjudge]
      rfl
    · rw [hfollow]
      dsimp only [List.isEmpty_cons]
      rw [if_neg Bool.false_ne_true, Except.ok_bind]
      split
      · next accepts hconstant => exact absurd hconstant (hkind accepts)
      · rfl

/-! ## Required properties -/

theorem Coercion.isStrict_of_marks {s : Schema} {n : Node} (h : s.Marks n) :
    Coercion.isStrict s n = (!(n.properties.map (·.1)).isEmpty &&
      (n.properties.map (·.1)).all fun key => decide (key ∈ n.required?.getD [])) := by
  have hall : n.properties.all (fun e => !s.isOptional e.2) =
      n.properties.all fun e => decide (e.1 ∈ n.required?.getD []) := by
    rw [Bool.eq_iff_iff, List.all_eq_true, List.all_eq_true]
    refine forall₂_congr fun e he => ?_
    rw [Bool.not_eq_true', decide_eq_true_iff, ← Bool.not_eq_true, h e he, not_not]
  rw [Coercion.isStrict, hall, List.isEmpty_map, List.all_map]
  rfl

namespace Node

variable {n n' : Node}

theorem IsPlain.listsRequired (h : n.IsPlain) : n.ListsRequired := by
  intro v hv
  have hnote : (Leaf.note "required" v).IsPlain := h.keywords _ hv
  exact hnote.1 (by simp [Loader.interpreted])

theorem IsPlain.nodup_properties (h : n.IsPlain) : (n.properties.map (·.1)).Nodup := by
  rw [properties_eq]
  cases hfound : n.find? Keyword.properties? with
  | none => exact .nil
  | some entries =>
    obtain ⟨k, hk, hpart⟩ := List.exists_of_findSome?_eq_some hfound
    have hk := h.keywords k hk
    unfold Keyword.properties? at hpart
    split at hpart
    · cases hpart
      exact hk.2
    · cases hpart

variable {R : NodeId → NodeId → Prop}
  (h : List.Forall₂ (Keyword.Alike Leaf.Same R) n.keywords n'.keywords)
include h

theorem ListsRequired.of_alike (hlists : n.ListsRequired) : n'.ListsRequired := by
  intro v hv
  obtain ⟨k, hk, halike⟩ := exists_of_forall₂ h.flip hv
  cases halike with
  | leaf hl =>
    cases hl
    exact hlists v hk

theorem required?_eq_of_alike : n.required? = n'.required? := by
  refine find?_congr ?_ ?_ h
  · intro k hk
    cases k with
    | leaf l => exact absurd rfl (hk l)
    | _ => rfl
  · intro l l' hl
    cases hl <;> rfl

end Node

namespace Schema

/-! ## Opposite runs -/

/-- A node below the root and a node that was loaded from its document. -/
def Meets (s : Schema) (docs : List Json) (x y : NodeId) : Prop :=
  s.Within x root ∧ s.Opposite docs x y

namespace Reloaded

variable {s s' : Schema} {docs : List Json} (h : s.Reloaded s' docs)
include h

theorem meets_root : s.Meets docs Schema.root Schema.root := ⟨.refl, h.opposite_root⟩

omit h in
theorem Paired.meets {x y : NodeId} (hxy : Paired s s' docs x y) : s.Meets docs x y :=
  ⟨hxy.within, hxy.1⟩

omit h in
/-- Some hops are left for a reference, and a child lies nearer to the end. -/
theorem run_induction {motive : Nat → NodeId → NodeId → Prop}
    (step : ∀ hops x y, s.Meets docs x y →
      (hops < maxHops → ∀ x' y', s.Meets docs x' y' → motive (hops + 1) x' y') →
      (∀ x' y', s.Meets docs x' y' → s.Below x x' → motive hops x' y') → motive hops x y)
    {x y : NodeId} (hxy : s.Meets docs x y) (hops : Nat) : motive hops x y := by
  induction hleft : s.remaining hops x using
    (Prod.lex Nat.lt_wfRel Nat.lt_wfRel).wf.induction generalizing x y hops with | h left ih
  subst hleft
  apply step hops x y hxy
  · intro hlt x' y' hxy'
    refine ih _ (.left _ _ ?_) hxy' _ rfl
    exact Nat.sub_succ_lt_self _ _ hlt
  · intro x' y' hxy' hbelow
    exact ih _ (.right _ hbelow.size_sub_lt) hxy' _ rfl

/-- What meets: the same about children that meet, a truth value, a link and a reference, or a placeholder
and nothing. -/
inductive Meeting (s s' : Schema) (docs : List Json) (x y : NodeId) : Prop where
  | same {n n' : Node} (node : s.node? x = some n) (node' : s'.node? y = some n')
      (stands : ¬n.kind.IsBare)
      (alike : n.Alike Leaf.Same
        (fun x' y' => s.Meets docs x' y' ∧ s.Below x x' ∧ s'.Below y y') n')
  | constant {n n' : Node} {accepts : Bool} (node : s.node? x = some n) (kind : n.kind = .constant accepts)
      (hooks : n.hooks = {}) (inert : ∀ k ∈ n.keywords, k.IsInert) (node' : s'.node? y = some n')
      (kind' : n'.kind = .constant accepts) (hooks' : n'.hooks = {}) (keywords' : n'.keywords = [])
  | link {target y' : NodeId} {n' : Node} (kind : s.kind? x = some (.link target))
      (stands : ∃ m, s.node? target = some m ∧ ¬m.kind.IsBare)
      (resolve : (Index.ofSchema s').resolve (s.pointerTo target) = .ok y')
      (meets : s.Meets docs target y')
      (node' : s'.node? y = some n') (kind' : n'.kind = .any) (hooks' : n'.hooks = {})
      (keywords' : n'.keywords = [.leaf (.ref (s.pointerTo target))])
  | hole {n n' : Node} {token : Nat} (node : s.node? x = some n) (kind : n.kind = .hole token)
      (hooks : n.hooks = {}) (keywords : n.keywords = []) (node' : s'.node? y = some n')
      (kind' : n'.kind = .any) (hooks' : n'.hooks = {}) (keywords' : n'.keywords = [])

theorem meeting {x y : NodeId} (hxy : s.Meets docs x y) : Meeting s s' docs x y := by
  obtain ⟨hx, hopposite⟩ := hxy
  have hsize := h.built.orderly.lt_size_of_within hx
  obtain ⟨n, hn⟩ : ∃ n, s.node? x = some n := ⟨_, Array.getElem?_eq_getElem hsize⟩
  obtain ⟨n', hn', hhooks', hback⟩ := h.built.opposite_node h.labels hn hopposite
  have hhooks := (h.built.plain x n hn).hooks
  cases hback with
  | same stands kind keywords =>
    refine .same hn hn' stands ⟨kind, hhooks.trans hhooks'.symm, keywords.imp fun k k' hk => hk.imp ?_⟩
    rintro x' y' ⟨hheld, hbelow', hxy'⟩
    exact ⟨⟨hx.head hheld, hxy'⟩, h.built.orderly.below_of_heldBy hheld, hbelow'⟩
  | constant kind kind' inert keywords' =>
    exact .constant hn kind hhooks inert hn' kind' hhooks' keywords'
  | @link target kind kind' inert keywords' =>
    have hlink : s.kind? x = some (.link target) := by rw [kind?, hn, Option.map_some, kind]
    obtain ⟨htarget, child, m, hm, hchild⟩ := h.built.nested.within_of_link h.built.orderly hlink hx
    obtain ⟨y', hresolve, hmeets⟩ := h.exists_resolve_pointerTo htarget
    refine .link hlink ⟨m, hm, fun hbare => ?_⟩ hresolve ⟨htarget, hmeets⟩ hn' kind' hhooks' keywords'
    rw [← Node.map_snd_children, Node.children_of_inert ((h.built.plain _ m hm).bare hbare)] at hchild
    cases hchild
  | hole kind kind' keywords keywords' =>
    exact .hole hn kind hhooks keywords hn' kind' hhooks' keywords'

/-- The same properties have to be there. -/
theorem isStrict_eq {x y : NodeId} {n n' : Node} {R : NodeId → NodeId → Prop}
    (hn : s.node? x = some n) (hn' : s'.node? y = some n') (halike : n.Alike Leaf.Same R n') :
    Coercion.isStrict s n = Coercion.isStrict s' n' := by
  have hplain := h.built.plain x n hn
  have hkeys := Node.map_fst_properties halike.keywords
  have hnodup := hplain.nodup_properties
  have hlists := hplain.listsRequired
  have hmarks := h.built.synced x n trivial hn hlists hnodup
  have hmarks' := h.marked.synced y n' trivial hn' (hlists.of_alike halike.keywords) (hkeys ▸ hnodup)
  rw [Coercion.isStrict_of_marks hmarks, Coercion.isStrict_of_marks hmarks', hkeys,
    Node.required?_eq_of_alike halike.keywords]

end Reloaded

end Schema

end JsonSchema
