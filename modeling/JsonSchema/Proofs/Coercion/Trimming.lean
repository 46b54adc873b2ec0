import JsonSchema.Proofs.Coercion.Shedding

/-!
# Coercing valid values

The coercion of a valid value keeps all of it, up to the order of members, but for one kind of
object: one that declares properties and requires them all keeps the others only if they may be null.
-/

namespace JsonSchema

open Loader

namespace Context

/-- The second value is the first as the node at the place leaves it: objects that are closed lose
the members that are not declared, and nothing else is lost. -/
inductive Trims (c : Context) : Nat → NodeId → Json → Json → Prop where
  | same {hops reached : Nat} {id place : NodeId} {n : Node}
    (stage : c.stage hops id = .converted reached place n) (object : n.kind ≠ .object)
    (array : n.kind ≠ .array) (v : Json) : Trims c hops id v v
  | handed {hops reached : Nat} {id target : NodeId} {v w : Json}
    (stage : c.stage hops id = .handed reached target) (inner : Trims c reached target v w) :
    Trims c hops id v w
  | array {hops reached : Nat} {id place : NodeId} {n : Node} {items items' : List Json}
    (stage : c.stage hops id = .converted reached place n) (kind : n.kind = .array)
    (length : items.length = items'.length)
    (inner : ∀ (i : Nat) x y child, items[i]? = some x → items'[i]? = some y → n.slot? i = some child →
      Trims c reached child x y)
    (rest : ∀ i : Nat, n.slot? i = none → items'[i]? = items[i]?) :
    Trims c hops id (.array items) (.array items')
  | object {hops reached : Nat} {id place : NodeId} {n : Node} {ms out : Members}
    (stage : c.stage hops id = .converted reached place n) (kind : n.kind = .object)
    (distinct : out.keys.Nodup)
    (declared : ∀ key ∈ n.declaredKeys, key ∈ out.keys ↔ key ∈ ms.keys)
    (inner : ∀ key child x y, (key, child) ∈ n.properties → ms.get? key = some x →
      out.get? key = some y → Trims c reached child x y)
    (kept : ¬c.Closes reached n → ∀ key ∉ n.declaredKeys, out.get? key = ms.get? key)
    (lost : c.Closes reached n → ∀ key ∉ n.declaredKeys, key ∉ out.keys) :
    Trims c hops id (.object ms) (.object out)

theorem drops_iff_closes {c : Context} {hops : Nat} {n : Node} :
    c.Drops {} hops n ↔ c.Closes hops n := or_iff_right (by decide)

theorem Sheds.trims {c : Context} {hops : Nat} {id : NodeId} {v w : Json}
    (h : c.Sheds {} hops id v w) : c.Trims hops id v w := by
  induction h with
  | same stage object array v => exact .same stage object array v
  | handed stage _ ih => exact .handed stage ih
  | array stage kind length _ rest ih => exact .array stage kind length ih rest
  | object stage kind distinct declared _ kept lost ih =>
    rw [drops_iff_closes] at kept lost
    exact .object stage kind distinct declared ih kept lost

theorem Trims.sheds {c : Context} {hops : Nat} {id : NodeId} {v w : Json}
    (h : c.Trims hops id v w) : c.Sheds {} hops id v w := by
  induction h with
  | same stage object array v => exact .same stage object array v
  | handed stage _ ih => exact .handed stage ih
  | array stage kind length _ rest ih => exact .array stage kind length ih rest
  | object stage kind distinct declared _ kept lost ih =>
    rw [← drops_iff_closes] at kept lost
    exact .object stage kind distinct declared ih kept lost

theorem Trims.reorders {c : Context} (hopen : ∀ hops id n, c.schema.node? id = some n →
      ¬c.Closes hops n) {hops : Nat} {id : NodeId} {v w : Json} (hv : v.keysDistinct = true)
    (h : c.Trims hops id v w) : v.Reorders w := by
  refine h.sheds.reorders hv fun hloses => ?_
  clear h hv
  induction hloses with
  | @here hops reached id place n ms key stage kind drops =>
    exact hopen reached place n (stage_converted stage).2.1 (drops_iff_closes.1 drops)
  | handed _ _ ih => exact ih
  | property _ _ _ _ _ ih => exact ih
  | item _ _ _ _ _ ih => exact ih

/-- The coercion of the value trims it, or a question about null fails. -/
def Prepared (c : Context) (hops : Nat) (id : NodeId) (v : Json) : Prop :=
  (∃ e, c.coerce {} hops id v = .error e ∧ c.ProbeFails e) ∨
    ∃ w, c.coerce {} hops id v = .ok w ∧ c.Trims hops id v w

section Accepted

variable {c cv : Context} {docs : List Json} (hlabels : c.schema.Labels docs) {d : Json}
  (hd : d.keysDistinct = true) (hroot : docs[Schema.root]? = some d)
  (hindex : c.index = .ofSchema c.schema) (hschema : cv.schema = c.schema)
  (hsame : cv.index = c.index)
include hlabels hd hroot hindex hschema hsame

theorem prepared_of_accepted (hops : Nat) (id : NodeId) (here : Json) (hhere : docs[id]? = some here)
    (hkeys : here.keysDistinct = true) (v : Json) (at_ : Location) (hv : v.keysDistinct = true)
    (h : cv.check hops id (some v) at_ = .ok []) : c.Prepared hops id v := by
  refine (curtailed_of_accepted hlabels hd hroot hindex hschema hsame {} hops id here hhere hkeys v at_
    hv h).imp_right ?_
  rintro ⟨w, hw, hsheds⟩
  exact ⟨w, hw, hsheds.trims⟩

end Accepted

end Context

/-! ## Schemas -/

namespace Schema

theorem coerce_of_valid (shared : FormatRegistry) (d : Json) (s : Schema)
    (hd : d.keysDistinct = true) (h : ofJson d = .ok s) (v : Json) (hv : v.keysDistinct = true)
    (r : Verdict) (hr : s.validate shared v = .ok r) (hvalid : r.valid = true) :
    (∃ e, s.coerce shared v = .error e ∧ (s.lenientContext shared).ProbeFails e) ∨
      ∃ w, s.coerce shared v = .ok w ∧ (s.lenientContext shared).Trims 0 root v w ∧
        ((∀ hops id n, s.node? id = some n → ¬(s.lenientContext shared).Closes hops n) →
          v.Reorders w) := by
  obtain ⟨docs, hlabels, hroot⟩ := loads_of_load d [] s hd h
  rw [validate, validateAt_eq_judged] at hr
  obtain ⟨value, hvalue, hr⟩ := Except.bind_eq_ok_iff.1 hr
  obtain ⟨found, hfound, rfl⟩ := Except.map_eq_ok_iff.1 hr
  cases hvalue
  have hnone : found = [] := List.isEmpty_iff.1 hvalid
  subst hnone
  have hschema : (s.context shared {}).schema = (s.lenientContext shared).schema := rfl
  have hprepared := Context.prepared_of_accepted hlabels hd hroot rfl hschema rfl 0 root d hroot hd
    v _ hv hfound
  refine hprepared.imp_right ?_
  rintro ⟨w, hw, htrims⟩
  exact ⟨w, hw, htrims, fun hopen => htrims.reorders hopen hv⟩

/-! ### An object that loses a member -/

def strictDocument : Json :=
  .object [("type", .string "object"), ("properties", .object [("a", .object [])]),
    ("required", .array [.string "a"]),
    ("additionalProperties", .object [("type", .string "number")])]

def strictNode : Node where
  kind := .object
  keywords := [.leaf (.types [.object]), .keyed .properties [("a", 1)], .leaf (.required ["a"]),
    .single .additionalProperties 2]

def numberNode : Node where
  kind := .number
  keywords := [.leaf (.types [.number])]

def strictSchema : Schema := ⟨#[strictNode, { kind := .any }, numberNode]⟩

theorem ofJson_strictDocument : ofJson strictDocument = .ok strictSchema := by
  with_unfolding_all rfl

section Strict

variable {c : Context} (hc : c.schema = strictSchema)
include hc

theorem check_anyNode (v : Json) (at_ : Location) : c.check 0 1 (some v) at_ = .ok [] := by
  have hnode : c.schema.node? 1 = some { kind := .any } := by rw [hc]; rfl
  have hturn := Context.turn_eq_asked hnode (by simp) (by simp) (by simp) rfl
    (by simp [Node.declares]) rfl 0 v at_
  rw [Context.check_eq_turn, hturn]
  rfl

theorem check_numberNode (v : Json) (at_ : Location) :
    c.check 0 2 (some v) at_ =
      .ok (if InstanceType.number.accepts v then []
        else [at_.failure (some "type") (.notOfType [.number]) (some v)]) := by
  have hnode : c.schema.node? 2 = some numberNode := by rw [hc]; rfl
  have hturn := Context.turn_eq_asked hnode (by simp [numberNode]) (by simp [numberNode])
    (by simp [numberNode]) rfl (by decide) rfl 0 v at_
  rw [Context.check_eq_turn, hturn]
  simp only [numberNode, Outcome.ofAll, Outcome.pass, Keyword.check, Leaf.check, Outcome.require,
    List.any_cons, List.any_nil, Bool.or_false]
  cases InstanceType.number.accepts v <;> cases c.shortCircuit <;> rfl

theorem check_strictNode (x y : Number) (at_ : Location) :
    c.check 0 0 (some (.object [("a", .number x), ("b", .number y)])) at_ = .ok [] := by
  have hnode : c.schema.node? 0 = some strictNode := by rw [hc]; rfl
  have hturn := fun v => Context.turn_eq_asked hnode (by simp [strictNode]) (by simp [strictNode])
    (by simp [strictNode]) rfl (by decide) rfl 0 v at_
  have hany : c.schema.Below 0 1 := by rw [hc]; decide
  have hnumber : c.schema.Below 0 2 := by rw [hc]; decide
  have hkind : c.schema.kind? 2 = some .number := by rw [hc]; rfl
  have hfollow : c.schema.follow 0 2 = .ok (0, 2) := follow_eq_self (by simp [hkind]) 0
  rw [Context.check_eq_turn, hturn]
  simp [strictNode, Outcome.ofAll, Outcome.ofFirst, Outcome.pass, Outcome.require, Keyword.check,
    Leaf.check, Keyword.checkProperties, Keyword.checkExtra, InstanceType.accepts, Members.hasKey,
    List.lookup_cons, Node.isExtra, Node.properties, Node.patterns, Node.find?,
    Context.judgeBelow_of_below hany, Context.judgeBelow_of_below hnumber, check_anyNode hc,
    check_numberNode hc, hfollow, hkind]

theorem coerce_strictNode (x y : Number) :
    c.coerce {} 0 0 (.object [("a", .number x), ("b", .number y)]) =
      .ok (.object [("a", .number x)]) := by
  have hnode : c.schema.node? 0 = some strictNode := by rw [hc]; rfl
  have hany : c.schema.node? 1 = some { kind := .any } := by rw [hc]; rfl
  have hbelow : c.schema.Below 0 1 := by rw [hc]; decide
  have hstage : c.stage 0 0 = .converted 0 0 strictNode :=
    Context.stage_of_node hnode (by simp [strictNode]) 0
  have hproperty : c.coerce {} 0 1 (.number x) = .ok (.number x) := by
    rw [Context.coerce_eq_stage, Context.stage_of_node hany (by simp)]
    rfl
  have hstrict : Coercion.isStrict c.schema strictNode = true := by rw [hc]; rfl
  have hadmits : Coercion.admitsExtra c 0 (some 2) = .ok false := by
    rw [Coercion.admitsExtra, check_numberNode hc]
    rfl
  rw [Context.coerce_eq_stage, hstage]
  dsimp only
  rw [Coercion.byKind_object rfl, Coercion.coerceMembers, Coercion.keep, hstrict]
  simp [strictNode, Node.properties, Node.find?, Node.single?, Coercion.convertEntries, Members.get?,
    Context.convertBelow_of_below hbelow, hproperty, hadmits]
  rfl

end Strict

def one : Number := .int 1 (by decide)

theorem validate_strict :
    strictSchema.validate .empty (.object [("a", .number one), ("b", .number one)]) =
      .ok .success := by
  rw [validate, validateAt_eq_judged, judged, if_neg (by decide), Except.ok_bind, root,
    check_strictNode rfl]
  rfl

theorem coerce_of_valid_strict :
    let v : Json := .object [("a", .number one), ("b", .number one)]
    let c := strictSchema.lenientContext .empty
    strictDocument.keysDistinct = true ∧ ofJson strictDocument = .ok strictSchema ∧
      v.keysDistinct = true ∧ strictSchema.validate .empty v = .ok .success ∧
      ((∃ e, strictSchema.coerce .empty v = .error e ∧ c.ProbeFails e) ∨
        ∃ w, strictSchema.coerce .empty v = .ok w ∧ c.Trims 0 root v w ∧
          ((∀ hops id n, strictSchema.node? id = some n → ¬c.Closes hops n) → v.Reorders w)) := by
  intro v c
  have hd : strictDocument.keysDistinct = true := by decide
  have hv : v.keysDistinct = true := by decide
  exact ⟨hd, ofJson_strictDocument, hv, validate_strict,
    coerce_of_valid .empty _ _ hd ofJson_strictDocument v hv _ validate_strict rfl⟩

/-- The member `b` is valid, and lost. -/
theorem coerce_loses_member :
    ∃ d s v r w, d.keysDistinct = true ∧ ofJson d = .ok s ∧ v.keysDistinct = true ∧
      s.validate .empty v = .ok r ∧ r.valid = true ∧ s.coerce .empty v = .ok w ∧ ¬v.Reorders w := by
  refine ⟨strictDocument, strictSchema, .object [("a", .number one), ("b", .number one)], .success,
    .object [("a", .number one)], by decide, ofJson_strictDocument, by decide, validate_strict, rfl,
    coerce_strictNode rfl one one, ?_⟩
  intro h
  cases h with
  | object keys inner => exact absurd keys.length_eq (by decide)

end Schema

end JsonSchema
