import JsonSchema.Proofs.Evaluation.Calls

/-!
# Chains of links and references

A value is handed on by links and references until a node stands for itself. After `maxHops` hops that
node is asked just as at first, and one hop more is an error.
-/

namespace JsonSchema

open Schema

/-! ## Chains -/

namespace Schema

/-- One hop, with its part of the way to a keyword: from a link to its target, or from a node with
nothing to say before its reference to what that means. -/
inductive Hop (s : Schema) : NodeId → Path → NodeId → Prop where
  | link {id target : NodeId} (kind : s.kind? id = some (.link target)) : Hop s id [] target
  | reference {id target : NodeId} {n : Node} {reference : String} (node : s.node? id = some n)
      (link : ∀ target, n.kind ≠ .link target) (constant : ∀ accepts, n.kind ≠ .constant accepts)
      (hooks : n.hooks = {}) (defs : n.declares "$defs" = false)
      (isReference : n.reference? = some reference)
      (resolve : (Index.ofSchema s).resolve reference = .ok target) : Hop s id [.key "$ref"] target

/-- So many hops, one after the other. -/
inductive Chain (s : Schema) : Nat → NodeId → Path → NodeId → Prop where
  | here {id : NodeId} : Chain s 0 id [] id
  | hop {k : Nat} {id next last : NodeId} {way rest : Path} (first : s.Hop id way next)
      (more : Chain s k next rest last) : Chain s (k + 1) id (way ++ rest) last

end Schema

theorem Location.descend_nil (l : Location) : l.descend [] [] = l := by
  simp [Location.descend]

theorem Location.descend_descend (l : Location) (p q : Path) :
    (l.descend p []).descend q [] = l.descend (p ++ q) [] := by
  simp [Location.descend]

/-! ## Runs along a chain -/

namespace Context

variable {c : Context} (hindex : c.index = .ofSchema c.schema) {id next last : NodeId} {way : Path}
  {k : Nat}
include hindex

theorem check_hop (hholes : c.schema.HoleFree) (h : c.schema.Hop id way next) (hops : Nat) (v : Json)
    (at_ : Location) :
    c.check hops id (some v) at_ =
      if hops < maxHops then c.check (hops + 1) next (some v) (at_.descend way [])
      else .error (.recursionLimit maxHops) := by
  cases h with
  | link kind => rw [check_link kind, Location.descend_nil]
  | @reference _ n _ node link constant hooks defs isReference resolve =>
    have hrejection : n.rejection? (some v) at_ = none := by simp only [Node.rejection?, hooks]
    have hhole := hholes id n node
    rw [check_of_node node link]
    unfold answer weigh refer
    rw [hrejection, defs, isReference, hindex]
    cases hkind : n.kind with
    | constant accepts => exact absurd hkind (constant accepts)
    | hole token => exact absurd hkind (hhole token)
    | _ => simp [resolve]

theorem coerce_of_reference {n : Node} {reference : String} (hn : c.schema.node? id = some n)
    (hlink : ∀ target, n.kind ≠ .link target) (hhooks : n.hooks = {})
    (href : n.reference? = some reference)
    (hresolve : (Index.ofSchema c.schema).resolve reference = .ok next) (options : CoerceOptions)
    (hops : Nat) (v : Json) :
    c.coerce options hops id v =
      if hops < maxHops then c.coerce options (hops + 1) next v
      else .error (.recursionLimit maxHops) := by
  rw [coerce_of_node hn hlink]
  simp [converted, referCoerce, hhooks, href, hindex, hresolve]

theorem coerce_hop (h : c.schema.Hop id way next) (options : CoerceOptions) (hops : Nat) (v : Json) :
    c.coerce options hops id v =
      if hops < maxHops then c.coerce options (hops + 1) next v
      else .error (.recursionLimit maxHops) := by
  cases h with
  | link kind => exact coerce_link kind options hops v
  | reference node link constant hooks defs isReference resolve =>
    exact coerce_of_reference hindex node link hooks isReference resolve options hops v

theorem check_chain (hholes : c.schema.HoleFree) (h : c.schema.Chain k id way last) (v : Json)
    {hops : Nat} (hle : hops + k ≤ maxHops) (at_ : Location) :
    c.check hops id (some v) at_ = c.check (hops + k) last (some v) (at_.descend way []) := by
  induction h generalizing hops at_ with
  | here => rw [Location.descend_nil, Nat.add_zero]
  | @hop k id next last way rest first _ ih =>
    have hlt : hops < maxHops := by omega
    rw [check_hop hindex hholes first, if_pos hlt, ih (by omega), Location.descend_descend]
    congr 1
    omega

theorem coerce_chain (h : c.schema.Chain k id way last) (options : CoerceOptions) (v : Json)
    {hops : Nat} (hle : hops + k ≤ maxHops) :
    c.coerce options hops id v = c.coerce options (hops + k) last v := by
  induction h generalizing hops with
  | here => rfl
  | @hop k id next last way rest first _ ih =>
    have hlt : hops < maxHops := by omega
    rw [coerce_hop hindex first, if_pos hlt, ih (by omega)]
    congr 1
    omega

theorem check_chain_error (hholes : c.schema.HoleFree) (h : c.schema.Chain k id way last) (v : Json)
    {hops : Nat} (hstart : hops ≤ maxHops) (hlt : maxHops < hops + k) (at_ : Location) :
    c.check hops id (some v) at_ = .error (.recursionLimit maxHops) := by
  induction h generalizing hops at_ with
  | here => omega
  | @hop k id next last way rest first _ ih =>
    rw [check_hop hindex hholes first]
    split
    · exact ih (by omega) (by omega) _
    · rfl

theorem coerce_chain_error (h : c.schema.Chain k id way last) (options : CoerceOptions) (v : Json)
    {hops : Nat} (hstart : hops ≤ maxHops) (hlt : maxHops < hops + k) :
    c.coerce options hops id v = .error (.recursionLimit maxHops) := by
  induction h generalizing hops with
  | here => omega
  | @hop k id next last way rest first _ ih =>
    rw [coerce_hop hindex first]
    split
    · exact ih (by omega) (by omega)
    · rfl

end Context

/-! ## Whole answers -/

/-- The node is neither a link nor a reference. -/
structure Node.StandsForItself (n : Node) : Prop where
  link : ∀ target, n.kind ≠ .link target
  reference : n.reference? = none

/-- The recursions of judgements and coercions end: no guard is needed, each call leaves less to do,
and the calls alone determine what comes out. -/
structure Context.Terminates (c : Context) : Prop where
  decreases : ∀ a b, c.Calls a b → Prod.Lex (· < ·) (· < ·) (c.left b) (c.left a)
  check_calls : ∀ f g hops id value at_,
    (∀ b, c.Calls (hops, id) b → ∀ value at_, f b.1 b.2 value at_ = g b.1 b.2 value at_) →
    c.judging f hops id value at_ = c.judging g hops id value at_
  check : ∀ f, (∀ hops id value at_, f hops id value at_ = c.judging f hops id value at_) ↔ f = c.check
  coerce_calls : ∀ c' : Context, c'.schema = c.schema → c'.index = c.index → ∀ options f g hops id v,
    (∀ b, c.Calls (hops, id) b → c.check b.1 b.2 (some .null) .root = c'.check b.1 b.2 (some .null) .root) →
    (∀ b, c.Calls (hops, id) b → ∀ v, f b.1 b.2 v = g b.1 b.2 v) →
    c.coercing options f hops id v = c'.coercing options g hops id v
  coerce : ∀ options f,
    (∀ hops id v, f hops id v = c.coercing options f hops id v) ↔ f = c.coerce options

namespace Schema

theorem Orderly.terminates {c : Context} (h : c.schema.Orderly) : c.Terminates where
  decreases := fun _ _ hcall => hcall.decreases h
  check_calls := fun _ _ _ _ value at_ hfg => Context.judging_congr hfg value at_
  check := by
    refine fun f => ⟨Context.eq_check_of_judging h, ?_⟩
    rintro rfl hops id value at_
    exact Context.check_eq_judging h hops id value at_
  coerce_calls := fun _ hschema hindex options _ _ _ _ v hnull hfg =>
    Context.coercing_congr hschema hindex hnull hfg options v
  coerce := by
    refine fun options f => ⟨Context.eq_coerce_of_coercing h, ?_⟩
    rintro rfl hops id v
    exact Context.coerce_eq_coercing h options hops id v

/-- What is done with the value at the node, after so many hops and so much of the way to a keyword. -/
def validateNode (s : Schema) (shared : FormatRegistry) (hops : Nat) (way : Path) (id : NodeId)
    (n : Node) (v : Json) (options : ValidateOptions) : Except SchemaError Verdict :=
  (if options.coerce then (s.lenientContext shared).converted {} hops id n v else .ok v) >>= fun w =>
    ((s.context shared options).answer hops id n w
      ⟨options.keywordPath ++ way, options.instancePath⟩).map .ofFailures

section Chains

variable {s : Schema} (h : s.Constructed) {id last : NodeId} {way : Path} {k : Nat}
  (hchain : s.Chain k id way last)
include h hchain

omit h in
theorem coerceAt_chain {n : Node} (hn : s.node? last = some n) (hself : n.StandsForItself)
    (hle : k ≤ maxHops) (shared : FormatRegistry) (v : Json) (options : CoerceOptions) :
    s.coerceAt shared id v options = (s.lenientContext shared).converted options k last n v := by
  have hhops : 0 + k ≤ maxHops := by omega
  have hreached := Context.coerce_chain (c := s.lenientContext shared) rfl hchain options v hhops
  rw [Nat.zero_add] at hreached
  rw [coerceAt, hreached]
  exact Context.coerce_of_node hn hself.link options k v

theorem validateAt_chain {n : Node} (hn : s.node? last = some n) (hself : n.StandsForItself)
    (hle : k ≤ maxHops) (shared : FormatRegistry) (v : Json) (options : ValidateOptions) :
    s.validateAt shared id (some v) options = s.validateNode shared k way last n v options := by
  have hhops : 0 + k ≤ maxHops := by omega
  have hcheck : ∀ w, (s.context shared options).check 0 id (some w)
      ⟨options.keywordPath, options.instancePath⟩ =
        (s.context shared options).answer k last n w ⟨options.keywordPath ++ way, options.instancePath⟩ := by
    intro w
    have hreached := Context.check_chain (c := s.context shared options) rfl h.holeFree hchain w hhops
      ⟨options.keywordPath, options.instancePath⟩
    rw [Nat.zero_add] at hreached
    rw [hreached, Context.check_of_node hn hself.link]
    simp [Location.descend]
  rw [validateAt_eq_judged]
  unfold judged validateNode
  dsimp only
  cases options.coerce with
  | false => simp [hcheck]
  | true =>
    rw [if_pos rfl, if_pos rfl, coerceAt_chain hchain hn hself hle]
    cases (s.lenientContext shared).converted {} k last n v with
    | error e => rfl
    | ok w => exact congrArg (Except.map Verdict.ofFailures) (hcheck w)

theorem validateAt_chain_error (hlt : maxHops < k) (shared : FormatRegistry) (v : Json)
    (options : ValidateOptions) :
    s.validateAt shared id (some v) options = .error (.recursionLimit maxHops) := by
  have hhops : maxHops < 0 + k := by omega
  have hcheck := Context.check_chain_error (c := s.context shared options) rfl h.holeFree hchain v
    (Nat.zero_le _) hhops ⟨options.keywordPath, options.instancePath⟩
  rw [validateAt_eq_judged]
  unfold judged
  dsimp only
  cases options.coerce with
  | false => rw [if_neg Bool.false_ne_true, Except.ok_bind, hcheck]; rfl
  | true =>
    rw [if_pos rfl, coerceAt, Context.coerce_chain_error rfl hchain {} v (Nat.zero_le _) hhops]
    rfl

omit h in
theorem coerceAt_chain_error (hlt : maxHops < k) (shared : FormatRegistry) (v : Json)
    (options : CoerceOptions) :
    s.coerceAt shared id v options = .error (.recursionLimit maxHops) :=
  Context.coerce_chain_error rfl hchain options v (Nat.zero_le _) (by omega)

end Chains

/-- Judging and coercing at the place fail at the limit for hops, whatever the value. -/
def CutOff (s : Schema) (id : NodeId) : Prop :=
  (∀ shared v options, s.validateAt shared id (some v) options = .error (.recursionLimit maxHops)) ∧
    ∀ shared v options, s.coerceAt shared id v options = .error (.recursionLimit maxHops)

theorem cutOff_of_chain {s : Schema} (h : s.Constructed) {id last : NodeId} {way : Path} {k : Nat}
    (hchain : s.Chain k id way last) (hlt : maxHops < k) : s.CutOff id :=
  ⟨validateAt_chain_error h hchain hlt, coerceAt_chain_error hchain hlt⟩

/-- Judgements and coercions end. Where a chain of links and references leads to a node that stands for
itself, that node is asked if no more than `maxHops` hops lead there; longer chains, and those that
never end, are cut off. -/
theorem Constructed.ends {s : Schema} (h : s.Constructed) :
    (∀ c : Context, c.schema = s → c.Terminates) ∧
    (∀ k id way last n, s.Chain k id way last → s.node? last = some n → n.StandsForItself →
      (k ≤ maxHops →
        (∀ shared v options, s.validateAt shared id (some v) options =
          s.validateNode shared k way last n v options) ∧
        ∀ shared v options, s.coerceAt shared id v options =
          (s.lenientContext shared).converted options k last n v) ∧
      (maxHops < k → s.CutOff id)) ∧
    ∀ id, (∀ k, ∃ way last, s.Chain k id way last) → s.CutOff id := by
  refine ⟨?_, ?_, ?_⟩
  · rintro c rfl
    exact h.orderly.terminates
  · intro k id way last n hchain hn hself
    refine ⟨fun hle => ⟨?_, ?_⟩, cutOff_of_chain h hchain⟩
    · exact validateAt_chain h hchain hn hself hle
    · exact coerceAt_chain hchain hn hself hle
  · intro id hnever
    obtain ⟨way, last, hchain⟩ := hnever (maxHops + 1)
    exact cutOff_of_chain h hchain (Nat.lt_succ_self _)

/-! ### A loop and a text -/

/-- The whole refers to itself, its items to what it contains. -/
def loopExpr : Expr :=
  .edited (.reference "#") [.single .items (.reference "text"),
    .single .contains (.edited (.typed .string) [.id "text"])]

def loopSchema : Schema :=
  ⟨#[{ kind := .any, keywords := [.leaf (.ref "#"), .single .items 1, .single .contains 2] },
    { kind := .any, keywords := [.leaf (.ref "text")] },
    { kind := .string, keywords := [.leaf (.types [.string]), .leaf (.id "text")] }]⟩

theorem build_loopExpr : loopExpr.build = .ok loopSchema := by with_unfolding_all rfl

theorem constructed_loopSchema : loopSchema.Constructed := by
  have hscope : ∀ entry ∈ ([] : List (String × Schema)), entry.2.Constructed := by simp
  have hclosed : loopExpr.ClosedIn [] := by
    simp [loopExpr, Expr.ClosedIn, Expr.ClosedEdits, Expr.ClosedEdit]
  exact .built hscope hclosed build_loopExpr

theorem chain_loop (k : Nat) : ∃ way, loopSchema.Chain k root way root := by
  have hresolve : (Index.ofSchema loopSchema).resolve "#" = .ok root := by with_unfolding_all rfl
  have hnode : loopSchema.node? root = some { kind := .any, keywords :=
    [.leaf (.ref "#"), .single .items 1, .single .contains 2] } := rfl
  induction k with
  | zero => exact ⟨[], .here⟩
  | succ k ih =>
    obtain ⟨way, hchain⟩ := ih
    exact ⟨_, .hop (.reference hnode (by simp) (by simp) rfl (by decide) rfl hresolve) hchain⟩

theorem chain_text : loopSchema.Chain 1 1 [.key "$ref"] 2 := by
  have hresolve : (Index.ofSchema loopSchema).resolve "text" = .ok 2 := by with_unfolding_all rfl
  have hnode : loopSchema.node? 1 = some { kind := .any, keywords := [.leaf (.ref "text")] } := rfl
  exact .hop (.reference hnode (by simp) (by simp) rfl (by decide) rfl hresolve) .here

theorem ends_loop : loopSchema.Constructed ∧ loopSchema.CutOff root ∧
    ∀ shared v options, loopSchema.coerceAt shared 1 v options = .ok v.coerceToString := by
  obtain ⟨_, hchains, hloops⟩ := Constructed.ends constructed_loopSchema
  refine ⟨constructed_loopSchema, hloops root fun k => ?_, fun shared v options => ?_⟩
  · obtain ⟨way, hchain⟩ := chain_loop k
    exact ⟨way, root, hchain⟩
  · obtain ⟨hreached, _⟩ := hchains 1 1 _ 2 _ chain_text rfl ⟨nofun, rfl⟩
    exact (hreached (by decide)).2 shared v options

/-! ### A constant that refers to itself -/

def constantLoop : Schema := ⟨#[{ kind := .constant true, keywords := [.leaf (.ref "#")] }]⟩

theorem coerce_constantLoop (shared : FormatRegistry) (v : Json) :
    constantLoop.coerce shared v = .error (.recursionLimit maxHops) := by
  have hresolve : (Index.ofSchema constantLoop).resolve "#" = .ok root := by with_unfolding_all rfl
  have hnode : (constantLoop.lenientContext shared).schema.node? root =
      some { kind := .constant true, keywords := [.leaf (.ref "#")] } := rfl
  have hstep := Context.coerce_of_reference rfl hnode (by simp) rfl rfl hresolve {}
  have hloop : ∀ left hops, hops + left = maxHops →
      (constantLoop.lenientContext shared).coerce {} hops root v = .error (.recursionLimit maxHops) := by
    intro left
    induction left with
    | zero =>
      intro hops hmax
      rw [hstep, if_neg (by omega)]
    | succ left ih =>
      intro hops hmax
      rw [hstep, if_pos (by omega), ih (hops + 1) (by omega)]
  exact hloop maxHops 0 (Nat.zero_add _)

/-- A node without hooks and `$defs` whose reference leads back to it: its constant decides before the
reference is looked at, though a coercion follows the reference to the limit. -/
theorem constant_reference_judged :
    (Expr.edited (.constant true) [.ref "#"]).build = .ok constantLoop ∧
      (∃ n, constantLoop.node? root = some n ∧ n.hooks = {} ∧ n.declares "$defs" = false ∧
        n.reference? = some "#") ∧
      (Index.ofSchema constantLoop).resolve "#" = .ok root ∧
      constantLoop.validate .empty (.number .zero) = .ok .success ∧
      constantLoop.coerce .empty (.number .zero) = .error (.recursionLimit maxHops) := by
  refine ⟨by with_unfolding_all rfl, ⟨_, rfl, rfl, by decide, rfl⟩, by with_unfolding_all rfl, ?_,
    coerce_constantLoop .empty _⟩
  have hcheck : ∀ at_, (constantLoop.context .empty {}).check 0 root (some (.number .zero)) at_ = .ok [] := by
    intro at_
    have hnode : (constantLoop.context .empty {}).schema.node? root =
        some { kind := .constant true, keywords := [.leaf (.ref "#")] } := rfl
    rw [Context.check_of_node hnode (by simp)]
    rfl
  rw [validate, validateAt_eq_judged]
  unfold judged
  simp only [Bool.false_eq_true, if_false, Except.ok_bind, hcheck]
  rfl

end Schema

end JsonSchema
