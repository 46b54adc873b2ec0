import JsonSchema.Proofs.Evaluation.Turn
import JsonSchema.Proofs.Except

/-!
# One stage of a coercion

Which stage comes at a node does not depend on the value: the value is kept, replaced by a hook,
handed on by a reference, or converted by the kind of the node.
-/

namespace JsonSchema

inductive Stage where
  | failed (error : SchemaError)
  | kept
  | hooked (hook : CoerceOptions → Json → Json)
  /-- A reference hands the value on. -/
  | handed (hops : Nat) (target : NodeId)
  | converted (hops : Nat) (place : NodeId) (node : Node)

namespace Coercion

/-- How the kind of a node converts a value. -/
def byKind (c : Context) (options : CoerceOptions) (convert : Convert) (hops : Nat) (n : Node)
    (v : Json) : Except SchemaError Json :=
  match n.kind with
  | .string => .ok v.coerceToString
  | .number | .integer => .ok v.coerceToNumber
  | .boolean => .ok v.coerceToBoolean
  | .object => coerceObject c options convert hops n v
  | .array => coerceArray convert n v
  | _ => .ok v

end Coercion

namespace Context

def stage (c : Context) (hops : Nat) (id : NodeId) : Stage :=
  match c.schema.follow hops id with
  | .error e => .failed e
  | .ok (reached, place) =>
    match c.schema.node? place with
    | none => .kept
    | some node =>
      match node.hooks.coerce with
      | some hook => .hooked hook
      | none =>
        match node.reference? with
        | some reference =>
          match c.index.resolve reference with
          | .error e => .failed e
          | .ok target =>
            if reached < maxHops then .handed (reached + 1) target
            else .failed (.recursionLimit maxHops)
        | none => .converted reached place node

theorem stage_of_node {c : Context} {id : NodeId} {n : Node} (hn : c.schema.node? id = some n)
    (hlink : ∀ target, n.kind ≠ .link target) (hops : Nat) :
    c.stage hops id =
      match n.hooks.coerce with
      | some hook => .hooked hook
      | none =>
        match n.reference? with
        | some reference =>
          match c.index.resolve reference with
          | .error e => .failed e
          | .ok target =>
            if hops < maxHops then .handed (hops + 1) target else .failed (.recursionLimit maxHops)
        | none => .converted hops id n := by
  have hfollow := Schema.follow_of_node hn hlink hops
  unfold stage
  rw [hfollow]
  dsimp only
  rw [hn]

/-- How a node has its children converted. -/
def convertBelow (c : Context) (options : CoerceOptions) (hops : Nat) (place : NodeId) : Convert :=
  fun child v => if c.schema.Below place child then c.coerce options hops child v else .ok v

theorem convertBelow_of_below {c : Context} {place child : NodeId}
    (h : c.schema.Below place child) (options : CoerceOptions) (hops : Nat) (v : Json) :
    c.convertBelow options hops place child v = c.coerce options hops child v := if_pos h

theorem convertBelow_of_not_below {c : Context} {place child : NodeId}
    (h : ¬c.schema.Below place child) (options : CoerceOptions) (hops : Nat) (v : Json) :
    c.convertBelow options hops place child v = .ok v := if_neg h

theorem coerce_eq_stage (c : Context) (options : CoerceOptions) (hops : Nat) (id : NodeId)
    (v : Json) :
    c.coerce options hops id v =
      match c.stage hops id with
      | .failed e => .error e
      | .kept => .ok v
      | .hooked hook => .ok (hook options v)
      | .handed hops target => c.coerce options hops target v
      | .converted hops place node =>
        Coercion.byKind c options (c.convertBelow options hops place) hops node v := by
  fun_cases Context.coerce c options hops id v
  all_goals simp only [stage, Coercion.byKind, *, if_true, if_false]
  all_goals rfl

theorem handed_of_coerce {c : Context} {id : NodeId} {n : Node} (hn : c.schema.node? id = some n)
    (hlink : ∀ target, n.kind ≠ .link target) (hhooks : n.hooks = {}) {reference : String}
    (href : n.reference? = some reference) {options : CoerceOptions} {hops : Nat} {v w : Json}
    (hw : c.coerce options hops id v = .ok w) :
    ∃ target, c.index.resolve reference = .ok target ∧ hops < maxHops ∧
      c.coerce options (hops + 1) target v = .ok w := by
  have hhook : n.hooks.coerce = none := by rw [hhooks]
  rw [coerce_eq_stage, stage_of_node hn hlink, hhook, href] at hw
  dsimp only at hw
  cases hresolve : c.index.resolve reference with
  | error e =>
    rw [hresolve] at hw
    cases hw
  | ok target =>
    rw [hresolve] at hw
    dsimp only at hw
    by_cases hleft : hops < maxHops
    · rw [if_pos hleft] at hw
      exact ⟨target, rfl, hleft, hw⟩
    · rw [if_neg hleft] at hw
      cases hw

theorem stage_hooked {c : Context} {hops : Nat} {id : NodeId}
    {hook : CoerceOptions → Json → Json} (h : c.stage hops id = .hooked hook) :
    ∃ place node, c.schema.node? place = some node ∧ node.hooks.coerce = some hook := by
  unfold stage at h
  repeat' split at h
  all_goals cases h
  exact ⟨_, _, ‹_›, ‹_›⟩

theorem stage_handed {c : Context} {hops reached : Nat} {id target : NodeId}
    (h : c.stage hops id = .handed reached target) :
    ∃ before place node reference, c.schema.follow hops id = .ok (before, place) ∧
      c.schema.node? place = some node ∧ node.reference? = some reference ∧
      c.index.resolve reference = .ok target ∧ before < maxHops ∧ reached = before + 1 := by
  unfold stage at h
  repeat' split at h
  all_goals cases h
  exact ⟨_, _, _, _, ‹_›, ‹_›, ‹_›, ‹_›, ‹_›, rfl⟩

theorem stage_converted {c : Context} {hops reached : Nat} {id place : NodeId} {node : Node}
    (h : c.stage hops id = .converted reached place node) :
    c.schema.follow hops id = .ok (reached, place) ∧ c.schema.node? place = some node ∧
      node.hooks.coerce = none ∧ node.reference? = none := by
  unfold stage at h
  repeat' split at h
  all_goals cases h
  exact ⟨‹_›, ‹_›, ‹_›, ‹_›⟩

/-- The children of a node that is converted lie below it, and a value that is handed on has made
a hop. -/
theorem stage_induction {c : Context} {P : Nat → NodeId → Prop}
    (failed : ∀ hops id e, c.stage hops id = .failed e → P hops id)
    (kept : ∀ hops id, c.stage hops id = .kept → P hops id)
    (hooked : ∀ hops id hook, c.stage hops id = .hooked hook → P hops id)
    (handed : ∀ hops id reached target,
      c.stage hops id = .handed reached target → P reached target → P hops id)
    (converted : ∀ hops id reached place node, c.stage hops id = .converted reached place node →
      (∀ child, c.schema.Below place child → P reached child) → P hops id)
    (hops : Nat) (id : NodeId) : P hops id := by
  cases h : c.stage hops id with
  | failed e => exact failed hops id e h
  | kept => exact kept hops id h
  | hooked hook => exact hooked hops id hook h
  | handed reached target =>
    have smaller : Prod.Lex (· < ·) (· < ·) (c.schema.remaining reached target)
        (c.schema.remaining hops id) := by
      obtain ⟨before, place, _, _, hfollow, _, _, _, hlt, rfl⟩ := stage_handed h
      exact Schema.remaining_reference hfollow hlt
    exact handed hops id reached target h
      (stage_induction failed kept hooked handed converted reached target)
  | converted reached place node =>
    refine converted hops id reached place node h fun child hbelow => ?_
    have smaller : Prod.Lex (· < ·) (· < ·) (c.schema.remaining reached child)
        (c.schema.remaining hops id) := Schema.remaining_child (stage_converted h).1 hbelow
    exact stage_induction failed kept hooked handed converted reached child
termination_by c.schema.remaining hops id
decreasing_by all_goals exact smaller

end Context

end JsonSchema
