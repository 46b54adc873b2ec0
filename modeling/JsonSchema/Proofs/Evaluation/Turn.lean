import JsonSchema.Proofs.Loading.Labels
import JsonSchema.Schema.Validation

/-!
# One turn of a judgement

A turn is what a node does with a value before any other node is asked. A judgement is a turn and
the judgements that it asks for.
-/

namespace JsonSchema

/-- What is left to do at a node. -/
inductive Turn where
  | settled (outcome : Outcome)
  /-- A reference hands the value on. -/
  | handed (hops : Nat) (target : NodeId) (v : Json)
  | asked (hops : Nat) (place : NodeId) (node : Node) (v : Json)

/-- Nothing but its keywords decides for the node. -/
structure Node.StandsAlone (n : Node) : Prop where
  constant : ∀ accepts, n.kind ≠ .constant accepts
  link : ∀ target, n.kind ≠ .link target
  hole : ∀ token, n.kind ≠ .hole token
  hooks : n.hooks = {}
  defs : n.declares "$defs" = false
  reference : n.reference? = none

namespace Context

def turn (c : Context) (hops : Nat) (id : NodeId) (value : Option Json) (at_ : Location) : Turn :=
  match c.schema.follow hops id with
  | .error e => .settled (.error e)
  | .ok (reached, place) =>
    match c.schema.node? place with
    | none => .settled .pass
    | some node =>
      match node.kind with
      | .constant true | .hole _ => .settled .pass
      | .constant false => .settled (.ok [at_.failure none .alwaysFails value])
      | _ =>
        match node.rejection? value at_ with
        | some failures => .settled (.ok failures)
        | none =>
          if !c.ignoreUnsupported && node.declares "$defs" then
            .settled (.error (.unsupported "$defs"))
          else
            match value with
            | none => .settled .pass
            | some v =>
              match node.reference? with
              | some reference =>
                match c.index.resolve reference with
                | .error e => .settled (.error e)
                | .ok target =>
                  if reached < maxHops then .handed (reached + 1) target v
                  else .settled (.error (.recursionLimit maxHops))
              | none => .asked reached place node v

/-- How a node has its children judged. -/
def judgeBelow (c : Context) (hops : Nat) (place : NodeId) : Judge := fun child v at_ =>
  if c.schema.Below place child then c.check hops child (some v) at_ else .pass

theorem judgeBelow_of_below {c : Context} {place child : NodeId} (h : c.schema.Below place child)
    (hops : Nat) (v : Json) (at_ : Location) :
    c.judgeBelow hops place child v at_ = c.check hops child (some v) at_ := if_pos h

theorem judgeBelow_of_not_below {c : Context} {place child : NodeId}
    (h : ¬c.schema.Below place child) (hops : Nat) (v : Json) (at_ : Location) :
    c.judgeBelow hops place child v at_ = .pass := if_neg h

theorem check_eq_turn (c : Context) (hops : Nat) (id : NodeId) (value : Option Json)
    (at_ : Location) :
    c.check hops id value at_ =
      match c.turn hops id value at_ with
      | .settled outcome => outcome
      | .handed hops target v => c.check hops target (some v) (at_.descend [.key "$ref"] [])
      | .asked hops place node v =>
        Outcome.ofAll c.shortCircuit
          (fun k => k.check c (c.judgeBelow hops place) hops node v at_) node.keywords := by
  fun_cases Context.check c hops id value at_
  all_goals simp only [turn, *, if_true, if_false, Bool.false_eq_true]
  rfl

theorem turn_handed {c : Context} {hops reached : Nat} {id target : NodeId} {value : Option Json}
    {at_ : Location} {v : Json} (h : c.turn hops id value at_ = .handed reached target v) :
    value = some v ∧ ∃ before place node reference, c.schema.follow hops id = .ok (before, place) ∧
      c.schema.node? place = some node ∧ node.reference? = some reference ∧
      c.index.resolve reference = .ok target ∧ before < maxHops ∧ reached = before + 1 := by
  unfold turn at h
  repeat' split at h
  all_goals cases h
  exact ⟨rfl, _, _, _, _, ‹_›, ‹_›, ‹_›, ‹_›, ‹_›, rfl⟩

theorem turn_asked {c : Context} {hops reached : Nat} {id place : NodeId} {value : Option Json}
    {at_ : Location} {node : Node} {v : Json}
    (h : c.turn hops id value at_ = .asked reached place node v) :
    value = some v ∧ c.schema.follow hops id = .ok (reached, place) ∧
      c.schema.node? place = some node ∧ node.reference? = none := by
  unfold turn at h
  repeat' split at h
  all_goals cases h
  exact ⟨rfl, ‹_›, ‹_›, ‹_›⟩

/-- The children of a node that is asked lie below it, and a value that is handed on has made a hop. -/
theorem check_induction {c : Context} {P : Nat → NodeId → Option Json → Location → Prop}
    (settled : ∀ hops id value at_ outcome,
      c.turn hops id value at_ = .settled outcome → P hops id value at_)
    (handed : ∀ hops id value at_ reached target v,
      c.turn hops id value at_ = .handed reached target v →
      P reached target (some v) (at_.descend [.key "$ref"] []) → P hops id value at_)
    (asked : ∀ hops id value at_ reached place node v,
      c.turn hops id value at_ = .asked reached place node v →
      (∀ child w at_, c.schema.Below place child → P reached child (some w) at_) →
      P hops id value at_)
    (hops : Nat) (id : NodeId) (value : Option Json) (at_ : Location) : P hops id value at_ := by
  fun_induction Context.check c hops id value at_ with
  | case10 hops id at_ reached place follow node found _ v reference isRef target resolved lt _ _ _ _ ih =>
    refine handed _ _ _ _ _ _ _ ?_ ih
    simp [turn, *]
  | case12 hops id at_ reached place _ node _ _ v =>
    refine asked hops id (some v) at_ reached place node v ?_ ‹_›
    simp [turn, *]
  | _ => exact settled _ _ _ _ _ (by simp [turn, *]; rfl)

/-- The turn of a node without hooks that stands for itself. -/
theorem turn_of_node {c : Context} {id : NodeId} {n : Node} (hn : c.schema.node? id = some n)
    (hconstant : ∀ accepts, n.kind ≠ .constant accepts) (hlink : ∀ target, n.kind ≠ .link target)
    (hhole : ∀ token, n.kind ≠ .hole token) (hhooks : n.hooks = {}) (hops : Nat) (v : Json)
    (at_ : Location) :
    c.turn hops id (some v) at_ =
      if !c.ignoreUnsupported && n.declares "$defs" then .settled (.error (.unsupported "$defs"))
      else
        match n.reference? with
        | some reference =>
          match c.index.resolve reference with
          | .error e => .settled (.error e)
          | .ok target =>
            if hops < maxHops then .handed (hops + 1) target v
            else .settled (.error (.recursionLimit maxHops))
        | none => .asked hops id n v := by
  have hfollow := Schema.follow_of_node hn hlink hops
  have hrejection : n.rejection? (some v) at_ = none := by
    simp only [Node.rejection?, hhooks]
  unfold turn
  rw [hfollow]
  dsimp only
  rw [hn]
  dsimp only
  rw [hrejection]
  split
  · next h => exact absurd h (hconstant true)
  · next token h => exact absurd h (hhole token)
  · next h => exact absurd h (hconstant false)
  · rfl

theorem turn_of_constant {c : Context} {id : NodeId} {n : Node} (hn : c.schema.node? id = some n)
    {accepts : Bool} (hkind : n.kind = .constant accepts) (hops : Nat) (v : Json) (at_ : Location) :
    c.turn hops id (some v) at_ =
      .settled (if accepts then .pass else .ok [at_.failure none .alwaysFails (some v)]) := by
  rw [turn, Schema.follow_of_node hn (by simp [hkind])]
  dsimp only
  rw [hn]
  dsimp only
  rw [hkind]
  cases accepts <;> rfl

theorem turn_eq_asked {c : Context} {id : NodeId} {n : Node} (hn : c.schema.node? id = some n)
    (hconstant : ∀ accepts, n.kind ≠ .constant accepts) (hlink : ∀ target, n.kind ≠ .link target)
    (hhole : ∀ token, n.kind ≠ .hole token) (hhooks : n.hooks = {})
    (hdefs : n.declares "$defs" = false) (href : n.reference? = none) (hops : Nat) (v : Json)
    (at_ : Location) : c.turn hops id (some v) at_ = .asked hops id n v := by
  rw [turn_of_node hn hconstant hlink hhole hhooks, hdefs, Bool.and_false, if_neg Bool.false_ne_true, href]

theorem check_of_standsAlone {c : Context} {id : NodeId} {n : Node} (hn : c.schema.node? id = some n)
    (h : n.StandsAlone) (hops : Nat) (v : Json) (at_ : Location) :
    c.check hops id (some v) at_ =
      Outcome.ofAll c.shortCircuit (fun k => k.check c (c.judgeBelow hops id) hops n v at_) n.keywords := by
  rw [check_eq_turn, turn_eq_asked hn h.constant h.link h.hole h.hooks h.defs h.reference]

end Context

/-! ## Verdicts -/

namespace Schema

/-- The value that is judged. -/
def judged (s : Schema) (shared : FormatRegistry) (id : NodeId) (options : ValidateOptions)
    (value : Option Json) : Except SchemaError (Option Json) :=
  match value with
  | some v => if options.coerce then (s.coerceAt shared id v).map some else .ok (some v)
  | none => .ok none

theorem validateAt_eq_judged (s : Schema) (shared : FormatRegistry) (id : NodeId)
    (value : Option Json) (options : ValidateOptions) :
    s.validateAt shared id value options =
      s.judged shared id options value >>= fun value =>
        ((s.context shared options).check 0 id value
          ⟨options.keywordPath, options.instancePath⟩).map .ofFailures := by
  unfold validateAt judged
  cases value with
  | none => rfl
  | some v =>
    cases options.coerce with
    | false => rfl
    | true =>
      dsimp only
      cases s.coerceAt shared id v <;> rfl

end Schema

end JsonSchema
