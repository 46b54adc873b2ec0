import JsonSchema.Proofs.Building.Confinement

/-!
# The calls of a judgement and of a coercion

Judgements and coercions go on with pairs of hops and a place. Each pair leaves less to do than the
one before, first in hops and then in places: the recursion ends, though nothing guards it.
-/

namespace JsonSchema

open Schema

namespace Context

variable {c : Context}

/-- The hops and the place with which a run at a place goes on: where a link leads, where a reference
leads, and at what the node holds. -/
inductive Calls (c : Context) : Nat × NodeId → Nat × NodeId → Prop where
  | followed {hops : Nat} {id target : NodeId} (kind : c.schema.kind? id = some (.link target))
      (lt : hops < maxHops) : Calls c (hops, id) (hops + 1, target)
  | handed {hops reached : Nat} {id place target : NodeId} {n : Node} {reference : String}
      (follow : c.schema.follow hops id = .ok (reached, place))
      (node : c.schema.node? place = some n) (isReference : n.reference? = some reference)
      (resolve : c.index.resolve reference = .ok target) (lt : reached < maxHops) :
      Calls c (hops, id) (reached + 1, target)
  | held {hops reached : Nat} {id place child : NodeId} {n : Node}
      (follow : c.schema.follow hops id = .ok (reached, place))
      (node : c.schema.node? place = some n) (holds : child ∈ n.places) :
      Calls c (hops, id) (reached, child)

/-- What is left to do at a place after some hops. -/
def left (c : Context) (a : Nat × NodeId) : Nat × Nat := c.schema.remaining a.1 a.2

theorem Calls.decreases (h : c.schema.Orderly) {a b : Nat × NodeId} (hcall : c.Calls a b) :
    Prod.Lex (· < ·) (· < ·) (c.left b) (c.left a) := by
  cases hcall with
  | followed kind lt => exact .left _ _ (Nat.sub_succ_lt_self _ _ lt)
  | handed follow node isReference resolve lt => exact remaining_reference follow lt
  | held follow node holds => exact remaining_child follow (h.below _ _ node _ holds)

theorem induction_on_calls (h : c.schema.Orderly) {P : Nat × NodeId → Prop}
    (step : ∀ a, (∀ b, c.Calls a b → P b) → P a) (a : Nat × NodeId) : P a := by
  induction hleft : c.left a using
    (Prod.lex Nat.lt_wfRel Nat.lt_wfRel).wf.induction generalizing a with | h left ih
  subst hleft
  exact step a fun b hcall => ih _ (hcall.decreases h) b rfl

/-! ## Judging -/

/-- A judgement without guards, where something else is done in place of each call. -/
def judging (c : Context) (recurse : Nat → NodeId → Option Json → Location → Outcome) (hops : Nat)
    (id : NodeId) (value : Option Json) (at_ : Location) : Outcome :=
  match c.turn hops id value at_ with
  | .settled outcome => outcome
  | .handed reached target v => recurse reached target (some v) (at_.descend [.key "$ref"] [])
  | .asked reached _ n v =>
    Outcome.ofAll c.shortCircuit
      (fun k => k.check c (fun child w p => recurse reached child (some w) p) reached n v at_) n.keywords

theorem judging_congr {f g : Nat → NodeId → Option Json → Location → Outcome} {hops : Nat} {id : NodeId}
    (hfg : ∀ b, c.Calls (hops, id) b → ∀ value at_, f b.1 b.2 value at_ = g b.1 b.2 value at_)
    (value : Option Json) (at_ : Location) :
    c.judging f hops id value at_ = c.judging g hops id value at_ := by
  unfold judging
  cases hturn : c.turn hops id value at_ with
  | settled outcome => rfl
  | handed reached target v =>
    obtain ⟨_, _, _, _, _, hfollow, hn, href, hresolve, hlt, rfl⟩ := turn_handed hturn
    exact hfg _ (.handed hfollow hn href hresolve hlt) _ _
  | asked reached place n v =>
    obtain ⟨_, hfollow, hn, _⟩ := turn_asked hturn
    exact asked_congr c c rfl (fun child hchild w p => hfg _ (.held hfollow hn hchild) (some w) p)
      (fun _ _ => rfl) c.shortCircuit v at_

theorem check_eq_judging (h : c.schema.Orderly) (hops : Nat) (id : NodeId) (value : Option Json)
    (at_ : Location) : c.check hops id value at_ = c.judging c.check hops id value at_ := by
  rw [check_eq_turn]
  unfold judging
  cases hturn : c.turn hops id value at_ with
  | settled outcome => rfl
  | handed reached target v => rfl
  | asked reached place n v =>
    obtain ⟨_, _, hn, _⟩ := turn_asked hturn
    exact asked_congr c c rfl
      (fun child hchild w p => judgeBelow_of_below (h.below place n hn child hchild) reached w p)
      (fun _ _ => rfl) c.shortCircuit v at_

/-- The recursion without guards determines all judgements. -/
theorem eq_check_of_judging (h : c.schema.Orderly)
    {f : Nat → NodeId → Option Json → Location → Outcome}
    (hf : ∀ hops id value at_, f hops id value at_ = c.judging f hops id value at_) : f = c.check := by
  have hsame : ∀ a : Nat × NodeId, ∀ value at_, f a.1 a.2 value at_ = c.check a.1 a.2 value at_ := by
    refine induction_on_calls h fun a ih value at_ => ?_
    rw [hf, check_eq_judging h]
    exact judging_congr ih value at_
  funext hops id value at_
  exact hsame (hops, id) value at_

/-! ## Coercing -/

/-- A coercion without guards, where something else is done in place of each call. -/
def coercing (c : Context) (options : CoerceOptions)
    (recurse : Nat → NodeId → Json → Except SchemaError Json) (hops : Nat) (id : NodeId) (v : Json) :
    Except SchemaError Json :=
  match c.stage hops id with
  | .failed e => .error e
  | .kept => .ok v
  | .hooked hook => .ok (hook options v)
  | .handed reached target => recurse reached target v
  | .converted reached _ n => Coercion.byKind c options (recurse reached) reached n v

theorem coercing_congr {c' : Context} (hschema : c'.schema = c.schema) (hindex : c'.index = c.index)
    {f g : Nat → NodeId → Json → Except SchemaError Json} {hops : Nat} {id : NodeId}
    (hnull : ∀ b, c.Calls (hops, id) b →
      c.check b.1 b.2 (some .null) .root = c'.check b.1 b.2 (some .null) .root)
    (hfg : ∀ b, c.Calls (hops, id) b → ∀ v, f b.1 b.2 v = g b.1 b.2 v) (options : CoerceOptions)
    (v : Json) : c.coercing options f hops id v = c'.coercing options g hops id v := by
  have hstage : c'.stage hops id = c.stage hops id := by
    unfold stage
    rw [hschema, hindex]
  unfold coercing
  rw [hstage]
  cases hs : c.stage hops id with
  | failed e | kept | hooked hook => rfl
  | handed reached target =>
    obtain ⟨_, _, _, _, hfollow, hn, href, hresolve, hlt, rfl⟩ := stage_handed hs
    exact hfg _ (.handed hfollow hn href hresolve hlt) v
  | converted reached place n =>
    obtain ⟨hfollow, hn, _⟩ := stage_converted hs
    exact Coercion.byKind_congr c c' (fun child hchild w => hfg _ (.held hfollow hn hchild) w)
      (fun _ _ => by rw [hschema]) (fun child hchild => hnull _ (.held hfollow hn hchild)) v

theorem coerce_eq_coercing (h : c.schema.Orderly) (options : CoerceOptions) (hops : Nat) (id : NodeId)
    (v : Json) : c.coerce options hops id v = c.coercing options (c.coerce options) hops id v := by
  rw [coerce_eq_stage]
  unfold coercing
  cases hs : c.stage hops id with
  | failed e | kept | hooked hook | handed reached target => rfl
  | converted reached place n =>
    obtain ⟨_, hn, _⟩ := stage_converted hs
    exact Coercion.byKind_congr c c
      (fun child hchild w => convertBelow_of_below (h.below place n hn child hchild) options reached w)
      (fun _ _ => rfl) (fun _ _ => rfl) v

/-- The recursion without guards determines all coercions. -/
theorem eq_coerce_of_coercing (h : c.schema.Orderly) {options : CoerceOptions}
    {f : Nat → NodeId → Json → Except SchemaError Json}
    (hf : ∀ hops id v, f hops id v = c.coercing options f hops id v) : f = c.coerce options := by
  have hsame : ∀ a : Nat × NodeId, ∀ v, f a.1 a.2 v = c.coerce options a.1 a.2 v := by
    refine induction_on_calls h fun a ih v => ?_
    rw [hf, coerce_eq_coercing h]
    exact coercing_congr rfl rfl (fun _ _ => rfl) ih options v
  funext hops id v
  exact hsame (hops, id) v

end Context

end JsonSchema
