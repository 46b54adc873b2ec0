import JsonSchema.Proofs.Recursion.Substitution
import JsonSchema.Proofs.Recursion.Unrolling

/-!
# Recursive schemas unfold

A recursive schema answers as its body does with the recursive schema itself in the place of the
placeholders.
-/

namespace JsonSchema

namespace Schema

/-! ## Bodies -/

/-- What a recursion may be made of: it is no placeholder itself and has to be there, its
placeholders say no more than that they are optional, and no reference leads out of a node. -/
structure IsBody (b : Schema) : Prop where
  stands : b.kind? root ≠ some (.hole 0)
  present : b.isOptional root = false
  bare : b.Bare
  closed : ∀ id n, b.node? id = some n → ∀ token, n.kind = .hole token → token = 0
  direct : ∀ id n, b.node? id = some n → n.reference? = none

section Bodies

variable {b : Schema} (h : b.IsBody)
include h

theorem IsBody.node?_tie {id : NodeId} {n : Node} (hn : b.node? id = some n) :
    (b.tie 0).node? id = some (if n.kind = .hole 0 then { n with kind := .link root } else n) := by
  rw [Schema.node?_tie, hn, Option.map_some, if_neg h.stands]

theorem IsBody.holeFree_tie : (b.tie 0).HoleFree := by
  intro id n hn token hhole
  obtain ⟨old, hold, _, _, _, ⟨hne, hkind⟩ | ⟨_, _, hkind⟩ | ⟨_, _, hkind⟩⟩ := node?_tie_cases hn
  · rw [hkind] at hhole
    exact hne (h.closed id old hold token hhole ▸ hhole)
  · simp [hkind] at hhole
  · simp [hkind] at hhole

theorem IsBody.direct_tie {id : NodeId} {n : Node} (hn : (b.tie 0).node? id = some n) :
    n.reference? = none := by
  obtain ⟨old, hold, hkeywords, _⟩ := node?_tie_cases hn
  have hold := h.direct id old hold
  unfold Node.reference? Node.find? at hold ⊢
  rwa [hkeywords]

theorem IsBody.top_tie : (b.tie 0).top = b.top := by
  have hkind := h.stands
  rw [kind?_root] at hkind
  rw [Schema.top_tie]
  cases htop : b.top with
  | none => rfl
  | some e =>
    rw [htop, Option.map_some, ne_eq, Option.some.injEq] at hkind
    rw [Option.map_some, if_neg hkind]

end Bodies

/-! ## Unfolded schemas -/

/-- Where a place of the recursive schema comes back: outside of the copies, or in any of them. -/
inductive Unfolds (b : Schema) (place : Nat → Nat) : NodeId → NodeId → Prop where
  | outside {a : Nat} (ha : a < b.size) : Unfolds b place a (place a)
  | inside {a : Nat} {n : Node} (hn : b.node? a = some n) (hhole : n.kind = .hole 0) {j : Nat}
      (hj : j < b.size) : Unfolds b place j (j + place a)

theorem Fills.unrolls {b u : Schema} {place : Nat → Nat} (hbody : b.IsBody) (hb : b.Orderly)
    (hu : u.Orderly) (h : Fills (b.tie 0) b u place) :
    (b.tie 0).Unrolls u (Unfolds b place) where
  orderly := hb.tie 0
  unrolled := hu
  within := by
    intro x y hxy
    rw [size_tie]
    cases hxy with
    | outside ha => exact ha
    | inside _ _ hj => exact hj
  step := by
    intro x y n hxy hn
    have hbelow := (hb.tie 0).below x n hn
    have hlink := fun target => (hb.tie 0).link x n target hn
    unfold Below at hbelow
    rw [size_tie] at hbelow
    cases hxy with
    | outside ha =>
      obtain ⟨old, hold⟩ : ∃ old, b.node? x = some old := ⟨_, Array.getElem?_eq_getElem ha⟩
      rw [hbody.node?_tie hold, Option.some.injEq] at hn
      -- Where the hole was, the one side has a link to the root and the other the root of a copy.
      by_cases hhole : old.kind = .hole 0
      · rw [if_pos hhole] at hn
        subst hn
        have hinside : Unfolds b place Schema.root (0 + place x) := .inside hold hhole hb.nonempty
        rw [Nat.zero_add] at hinside
        exact .inl ⟨rfl, hinside⟩
      · rw [if_neg hhole] at hn
        subst hn
        refine .inr ⟨place, old.optional, h.node x old hold hhole, ?_, ?_⟩
        · exact fun id hid => .outside (hbelow id hid).2
        · exact fun target heq => .outside (Nat.lt_trans (hlink target heq) ha)
    | @inside a hole hhole hkind j hj =>
      have hcopy := h.copy a hole hhole hkind x n hn
      rw [Nat.add_comm] at hcopy
      -- Inside a copy both sides go on as the recursive schema does.
      refine .inr ⟨_, _, hcopy, ?_, ?_⟩
      · exact fun id hid => .inside hhole hkind (hbelow id hid).2
      · exact fun target heq => .inside hhole hkind (Nat.lt_trans (hlink target heq) hj)
  optional := by
    intro x y hxy hx
    cases hxy with
    | outside ha => rw [h.isOptional_eq (hb.tie 0) ha, isOptional_tie]
    | @inside a hole hhole hkind j hj =>
      rw [← size_tie b 0] at hj
      obtain ⟨m, hm⟩ : ∃ m, (b.tie 0).node? x = some m := ⟨_, Array.getElem?_eq_getElem hj⟩
      have hcopy := h.copy a hole hhole hkind x m hm
      rw [Nat.add_comm] at hcopy
      rw [isOptional, hcopy, isOptional, hm, Option.map_some, Option.map_some]
      exact congrArg (·.getD false) (congrArg some (if_neg hx))
  direct := hbody.direct_tie

/-! ## Schemas that nothing satisfies -/

section Rejecting

variable {c c' : Context} (htop : c.schema.top = c'.schema.top)
  (hkind : c.schema.kind? root = some (.constant false))
include htop hkind

theorem exists_rejecting_roots : ∃ n n', c.schema.node? root = some n ∧
    c'.schema.node? root = some n' ∧ n.kind = .constant false ∧ n'.kind = .constant false ∧
    n.hooks = n'.hooks ∧ n.reference? = n'.reference? := by
  obtain ⟨n, hn, hkind⟩ := Option.map_eq_some_iff.1 hkind
  rw [top, top, hn, Option.map_some] at htop
  obtain ⟨n', hn', heq⟩ := Option.map_eq_some_iff.1 htop.symm
  obtain ⟨hkinds, hrest⟩ := Prod.mk.inj heq
  obtain ⟨hhooks, href⟩ := Prod.mk.inj hrest
  exact ⟨n, n', hn, hn', hkind, hkinds.trans hkind, hhooks.symm, href.symm⟩

theorem check_of_rejecting (hops : Nat) (v : Json) (at_ : Location) :
    c.check hops root (some v) at_ = c'.check hops root (some v) at_ := by
  obtain ⟨n, n', hn, hn', hkind, hkind', _, _⟩ := exists_rejecting_roots htop hkind
  rw [Context.check_of_node hn (by simp [hkind]), Context.check_of_node hn' (by simp [hkind'])]
  unfold Context.answer
  rw [hkind, hkind']

theorem coerce_of_rejecting (hdirect : ∀ n, c.schema.node? root = some n → n.reference? = none)
    (options : CoerceOptions) (hops : Nat) (v : Json) :
    c.coerce options hops root v = c'.coerce options hops root v := by
  obtain ⟨n, n', hn, hn', hkind, hkind', hhooks, href⟩ := exists_rejecting_roots htop hkind
  rw [Context.coerce_of_node hn (by simp [hkind]), Context.coerce_of_node hn' (by simp [hkind'])]
  unfold Context.converted Coercion.byKind
  rw [← hhooks, ← href, hdirect n hn, hkind, hkind']

end Rejecting

/-! ## Both at once -/

section Answers

variable {t u : Schema}

theorem agree_validate {shared : FormatRegistry} {v : Json} {options : ValidateOptions}
    (hcoerce : ∀ v, Comparison.forward.Agree Eq (t.coerce shared v) (u.coerce shared v))
    (hcheck : ∀ v at_, Comparison.forward.Agree Eq ((t.context shared options).check 0 root (some v) at_)
      ((u.context shared options).check 0 root (some v) at_)) :
    Comparison.forward.Agree Eq (t.validate shared v options) (u.validate shared v options) := by
  exact agree_validateAt (fun _ _ hfound => congrArg Verdict.ofFailures hfound) hcoerce hcheck v

/-- A body with the placeholders filled answers what the recursive schema answers. -/
theorem Filled.agree {b : Schema} (hbody : b.IsBody) (h : Filled (b.tie 0) b u)
    (c c' : Context) (hc : c.schema = b.tie 0) (hc' : c'.schema = u)
    (hstop : c.shortCircuit = c'.shortCircuit)
    (hignore : c.ignoreUnsupported = c'.ignoreUnsupported) (hformats : c.formats = c'.formats)
    (v : Json) :
    (∀ at_, Comparison.forward.Agree Eq (c.check 0 root (some v) at_)
      (c'.check 0 root (some v) at_)) ∧
    ∀ options, Comparison.forward.Agree Eq (c.coerce options 0 root v)
      (c'.coerce options 0 root v) := by
  subst hc'
  by_cases hkind : (b.tie 0).kind? root = some (.constant false)
  -- A root that rejects everything makes the closed objects differ, but is not looked into.
  · have htop : c.schema.top = c'.schema.top := by rw [hc, hbody.top_tie, h.top hbody.stands]
    rw [← hc] at hkind
    constructor
    · intro at_
      rw [check_of_rejecting htop hkind]
      exact .same (fun _ => rfl) _
    · intro options
      have hdirect : ∀ n, c.schema.node? root = some n → n.reference? = none := by
        rw [hc]
        exact fun n hn => hbody.direct_tie hn
      rw [coerce_of_rejecting htop hkind hdirect]
      exact .same (fun _ => rfl) _
  · obtain ⟨place, hfills⟩ := h.fills hbody.bare hkind
    have hunrolls := hfills.unrolls hbody h.orderly h.filled
    have hroot : Unfolds b place root root := by
      have hroot : Unfolds b place root (place root) := .outside h.orderly.nonempty
      have hplace : place root = root := hfills.root
      rwa [hplace] at hroot
    rw [← hc] at hunrolls
    exact ⟨fun at_ => hunrolls.check hstop hignore hformats hroot (Nat.le_refl 0) v at_,
      fun options => hunrolls.coerce hstop hignore hformats hroot (Nat.le_refl 0) options v⟩

end Answers

/-! ## The theorem -/

/-- A recursive schema and its body with the recursive schema in the place of the placeholders: the
body can be built, judges all values as the recursive schema does if that one judges them at all, and
converts them to the same values if that one converts them at all. -/
theorem recursive_unfolds {name : String} {body : Expr} {b : Schema}
    (hb : body.buildIn [(name, .placeholder 0)] = .ok b) (hbody : b.IsBody) :
    ∃ t u, (Expr.recursive name body).build = .ok t ∧ body.buildIn [(name, t)] = .ok u ∧
      (∀ shared v options verdict, t.validate shared v options = .ok verdict →
        u.validate shared v options = .ok verdict) ∧
      ∀ shared v options w, t.coerce shared v options = .ok w →
        u.coerce shared v options = .ok w := by
  have hhole : (placeholder 0).Orderly :=
    .ofNode rfl (by simp [Node.ofKind]) (by simp [Node.ofKind])
  have hscope : ∀ e ∈ [(name, placeholder 0)], e.2.Orderly := by simpa using hhole
  have horderly := orderly_buildIn hscope hb
  have hpresent : (b.tie 0).isOptional root = false := (isOptional_tie b 0 root).trans hbody.present
  obtain ⟨u, hu, hfilled⟩ := filled_buildIn (horderly.tie 0) hbody.holeFree_tie hpresent hb
  have hcoerce : ∀ shared v options, Comparison.forward.Agree Eq
      ((b.tie 0).coerce shared v options) (u.coerce shared v options) := fun shared v options =>
    (hfilled.agree hbody ((b.tie 0).lenientContext shared) (u.lenientContext shared)
      rfl rfl rfl rfl rfl v).2 options
  have hvalidate : ∀ shared v options, Comparison.forward.Agree Eq
      ((b.tie 0).validate shared v options) (u.validate shared v options) := by
    intro shared v options
    refine agree_validate (fun v => hcoerce shared v {}) fun v at_ => ?_
    exact (hfilled.agree hbody ((b.tie 0).context shared options) (u.context shared options)
      rfl rfl rfl rfl rfl v).1 at_
  refine ⟨b.tie 0, u, Except.bind_eq_ok_iff.2 ⟨b, hb, rfl⟩, hu, ?_, ?_⟩
  · intro shared v options verdict hverdict
    have hagree := hvalidate shared v options
    rw [hverdict] at hagree
    obtain ⟨_, hanswer, rfl⟩ := hagree
    exact hanswer
  · intro shared v options w hw
    have hagree := hcoerce shared v options
    rw [hw] at hagree
    obtain ⟨_, hanswer, rfl⟩ := hagree
    exact hanswer

/-! ### A list -/

/-- Each part of a list may have a next one. -/
def listBody : Expr := .object .plain [("next", .edited (.this "list") [.optional])]

def listSchema : Schema :=
  ⟨#[{ kind := .object, keywords := [.leaf (.types [.object]), .keyed .properties [("next", 1)]] },
    { kind := .hole 0, optional := true }]⟩

theorem buildIn_listBody : listBody.buildIn [("list", .placeholder 0)] = .ok listSchema := by
  with_unfolding_all rfl

theorem isBody_listSchema : listSchema.IsBody := by
  have hnodes : ∀ id n, listSchema.node? id = some n →
      n = { kind := .object, keywords := [.leaf (.types [.object]), .keyed .properties [("next", 1)]] } ∨
      n = { kind := .hole 0, optional := true } := by
    intro id n hn
    have hmem := Array.mem_of_getElem? hn
    simpa [listSchema] using hmem
  refine ⟨by decide, rfl, ?_, ?_, ?_⟩
  · intro id n hn hhole
    rcases hnodes id n hn with rfl | rfl
    · cases hhole
    · exact ⟨rfl, rfl⟩
  · intro id n hn token hhole
    rcases hnodes id n hn with rfl | rfl
    · cases hhole
    · cases hhole
      rfl
  · intro id n hn
    rcases hnodes id n hn with rfl | rfl
    · rfl
    · rfl

theorem recursive_unfolds_list :
    listBody.buildIn [("list", .placeholder 0)] = .ok listSchema ∧ listSchema.IsBody ∧
      ∃ t u, (Expr.recursive "list" listBody).build = .ok t ∧
        listBody.buildIn [("list", t)] = .ok u ∧
        (∀ shared v options verdict, t.validate shared v options = .ok verdict →
          u.validate shared v options = .ok verdict) ∧
        ∀ shared v options w, t.coerce shared v options = .ok w →
          u.coerce shared v options = .ok w :=
  ⟨buildIn_listBody, isBody_listSchema, recursive_unfolds buildIn_listBody isBody_listSchema⟩

end Schema

end JsonSchema
