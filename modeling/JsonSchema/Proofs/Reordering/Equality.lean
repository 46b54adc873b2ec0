import JsonSchema.Proofs.Reordering.Runs

/-!
# Equal values

A schema does not tell values apart that are equal as JSON, since it relates to itself as schemas do whose
keywords stand in another order.
-/

namespace JsonSchema

open Json Outcome

theorem Outcome.ofFirst_eq_pass {f : α → Outcome} {as : List α} (h : ∀ a ∈ as, f a = .ok []) :
    ofFirst f as = .ok [] := by
  induction as with
  | nil => rfl
  | cons a as ih =>
    obtain ⟨ha, has⟩ := List.forall_mem_cons.1 h
    rw [ofFirst, ha, Except.ok_bind]
    exact ih has

/-! ## A schema and itself -/

theorem Node.reordered_self {R : NodeId → NodeId → Prop} (hR : ∀ id, R id id) {n : Node}
    (hook : n.hooks.validate = none) : n.Reordered R n where
  kind := rfl
  hook := hook
  hook' := hook
  keywords := by
    refine .same fun k _ => ?_
    cases k with
    | leaf l => exact .leaf (.refl l)
    | single slot id => exact .single (hR id)
    | listed slot ids => exact .listed (List.forall₂_same.2 fun id _ => hR id)
    | keyed slot entries =>
      refine .keyed (.same fun e _ => ⟨rfl, hR e.2⟩) fun key => ?_
      cases entries.lookup key with
      | none => exact .none
      | some id => exact .some (hR id)
    | patternProperties entries => exact .patterns (.same fun e _ => ⟨rfl, hR e.2⟩)
  single slot := by
    cases n.single? slot with
    | none => exact .none
    | some id => exact .some (hR id)
  count _ := rfl
  prefixLength := rfl
  extra _ := rfl
  reference := rfl
  id := rfl

theorem Schema.reordered_self {s : Schema}
    (hhooks : ∀ id n, s.node? id = some n → n.hooks.validate = none) : Reordered Eq s s where
  nodes := by
    rintro id _ rfl
    cases hn : s.node? id with
    | none => exact .none
    | some n => exact .some (Node.reordered_self (fun _ => ⟨rfl, Iff.rfl⟩) (hhooks id n hn))
  link _ _ := rfl

theorem Context.reordered_self {c : Context}
    (hhooks : ∀ id n, c.schema.node? id = some n → n.hooks.validate = none) : Reordered Eq c c where
  schema := Schema.reordered_self hhooks
  formats := rfl
  unsupported := rfl
  resolve reference := by
    rintro x y hx hy
    exact Except.ok.inj (hx.symm.trans hy)

/-! ## Verdicts -/

namespace Schema

/-- Neither the order of members nor the spelling of integers has a part in a verdict. -/
theorem validateAt_reordering (s : Schema)
    (hhooks : ∀ id n, s.node? id = some n → n.hooks.validate = none) (shared : FormatRegistry)
    (id : NodeId) (options : ValidateOptions) (hcoerce : options.coerce = false) (v w : Json)
    (h : v.Reordering Number.sameValue w) (r r' : Verdict)
    (hr : s.validateAt shared id (some v) options = .ok r)
    (hr' : s.validateAt shared id (some w) options = .ok r') : r.valid = r'.valid :=
  valid_eq_of_reordered hcoerce (Context.reordered_self hhooks) resemblance_reordering rfl h hr hr'

def pointNode : Node := { kind := .object, keywords := [.keyed .properties [("x", 1)]] }

theorem standsAlone_pointNode : pointNode.StandsAlone := ⟨nofun, nofun, nofun, rfl, rfl, rfl⟩

theorem standsAlone_integer : (Node.typed .integer).StandsAlone := ⟨nofun, nofun, nofun, rfl, rfl, rfl⟩

def pointSchema : Schema := ⟨#[pointNode, .typed .integer]⟩

theorem validateAt_pointSchema {ms : Members} (h : ∀ m ∈ ms, m.1 = "x" → m.2.isInteger = true) :
    pointSchema.validateAt .empty root (some (.object ms)) = .ok .success := by
  have hinteger : ∀ v p, v.isInteger = true →
      (pointSchema.context .empty {}).judgeBelow 0 root 1 v p = .ok [] := by
    intro v p hv
    rw [Context.judgeBelow_of_below (by decide), Context.check_of_standsAlone rfl standsAlone_integer]
    simp [Node.typed, ofAll, Outcome.pass, Keyword.check, Leaf.check, Outcome.require,
      InstanceType.accepts, hv]
  have hmembers : ∀ p, Keyword.checkProperties ((pointSchema.context .empty {}).judgeBelow 0 root)
      [("x", 1)] ms p = .ok [] := by
    intro p
    refine ofFirst_eq_pass fun m hm => ?_
    by_cases hkey : m.1 = "x"
    · rw [hkey]
      exact hinteger m.2 _ (h m hm hkey)
    · rw [List.lookup_cons, beq_false_of_ne hkey]
      rfl
  rw [validateAt_eq_judged, judged, if_neg (by decide), Except.ok_bind,
    Context.check_of_standsAlone (n := pointNode) rfl standsAlone_pointNode]
  simp [pointNode, ofAll, Outcome.pass, Keyword.check, hmembers]
  rfl

def point : Json := .object [("x", .number (.int 3 (by decide))), ("y", .null)]

/-- The same point in another spelling. -/
def pointAgain : Json := .object [("y", .null), ("x", .number (.double 3.0 (by decide +kernel)))]

theorem validateAt_reordering_point :
    (∀ id n, pointSchema.node? id = some n → n.hooks.validate = none) ∧
      point.Reordering Number.sameValue pointAgain ∧ ∃ r r',
      pointSchema.validateAt .empty root (some point) = .ok r ∧
      pointSchema.validateAt .empty root (some pointAgain) = .ok r' ∧ r.valid = r'.valid := by
  have hhooks : ∀ id n, pointSchema.node? id = some n → n.hooks.validate = none := by
    intro id n hn
    match id, hn with
    | 0, hn | 1, hn =>
      cases hn
      rfl
  have hreorders : point.Reordering Number.sameValue pointAgain :=
    ⟨by decide, by decide, by decide +kernel⟩
  have hpoint : pointSchema.validateAt .empty root (some point) = .ok .success :=
    validateAt_pointSchema (by decide)
  have hagain : pointSchema.validateAt .empty root (some pointAgain) = .ok .success :=
    validateAt_pointSchema (by decide +kernel)
  exact ⟨hhooks, hreorders, .success, .success, hpoint, hagain,
    validateAt_reordering pointSchema hhooks .empty root {} rfl point pointAgain hreorders _ _ hpoint hagain⟩

end Schema
end JsonSchema
