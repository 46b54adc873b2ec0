import JsonSchema.Proofs.Coercion.Members
import JsonSchema.Proofs.Comparison.Judging

/-!
# Related nodes

What a node does with a value, once links have been followed, and when two nodes do the same.
-/

namespace JsonSchema

/-! ## Converting by related nodes -/

namespace Coercion

variable {T : Tolerance} {R : NodeId → NodeId → Prop} {convert convert' : Convert}
  (hconvert : ∀ x y, R x y → ∀ v, T.Agree Eq (convert x v) (convert' y v))
include hconvert

theorem agree_convertBy {x? y? : Option NodeId} (h : Option.Rel R x? y?) (v : Json) :
    T.Agree Eq (convertBy convert x? v) (convertBy convert' y? v) := by
  cases h with
  | none => exact .ok rfl
  | some hxy => exact hconvert _ _ hxy v

theorem agree_convertEntries (input out : Members) {es es' : List (String × NodeId)}
    (h : List.Forall₂ (fun e e' => e.1 = e'.1 ∧ R e.2 e'.2) es es') :
    T.Agree Eq (convertEntries convert input es out) (convertEntries convert' input es' out) := by
  induction h generalizing out with
  | nil => exact .ok rfl
  | @cons e e' _ _ he _ ih =>
    obtain ⟨key, x⟩ := e
    obtain ⟨key', y⟩ := e'
    obtain ⟨rfl, hxy⟩ := he
    unfold convertEntries
    cases input.get? key with
    | none => exact ih out
    | some v =>
      refine (hconvert x y hxy v).bind fun w w' hw => ?_
      rw [hw]
      exact ih _

theorem agree_convertExtra {x? y? : Option NodeId} (h : Option.Rel R x? y?) (ms out : Members) :
    T.Agree Eq (convertExtra convert x? ms out) (convertExtra convert' y? ms out) := by
  induction ms generalizing out with
  | nil => exact .ok rfl
  | cons m ms ih =>
    rw [convertExtra_cons, convertExtra_cons]
    refine (agree_convertBy hconvert h m.2).bind fun w w' hw => ?_
    rw [hw]
    exact ih _

variable {L : Leaf → Leaf → Prop} {n n' : Node}
  (h : List.Forall₂ (Keyword.Alike L R) n.keywords n'.keywords)
include h

omit hconvert in
theorem rel_slot? (i : Nat) : Option.Rel R (n.slot? i) (n'.slot? i) := by
  have hitems := Node.rel_single?_of_alike h .items
  have hlength := (Node.forall₂_prefixItems h).length_eq
  unfold Node.slot?
  cases hx : n.prefixItems[i]? with
  | some x =>
    obtain ⟨y, hy, hxy⟩ := getElem?_of_forall₂ (Node.forall₂_prefixItems h) hx
    rw [hy]
    exact .some hxy
  | none =>
    have hy : n'.prefixItems[i]? = none := by
      rw [List.getElem?_eq_none_iff] at hx ⊢
      omega
    rw [hy]
    exact hitems

omit hconvert in
/-- The same properties have to be there if related ones may be absent together. -/
theorem isStrict_eq {s s' : Schema} (hoptional : ∀ x y, R x y → s.isOptional x = s'.isOptional y) :
    isStrict s n = isStrict s' n' := by
  have hes := Node.forall₂_properties h
  unfold isStrict
  generalize n.properties = es at hes ⊢
  generalize n'.properties = es' at hes ⊢
  have hall : es.all (fun e => !s.isOptional e.2) = es'.all fun e => !s'.isOptional e.2 := by
    induction hes with
    | nil => rfl
    | cons he _ ih => rw [List.all_cons, List.all_cons, ih, hoptional _ _ he.2]
  rw [hall]
  cases hes <;> rfl

omit hconvert in
theorem agree_admitsExtra {C : Comparison} {c c' : Context} {hops hops' : Nat}
    (hnull : ∀ x y, R x y → C.Agree C.failures (c.check hops x (some .null) .root)
      (c'.check hops' y (some .null) .root)) :
    C.Agree Eq (admitsExtra c hops (n.single? .additionalProperties))
      (admitsExtra c' hops' (n'.single? .additionalProperties)) := by
  have hextra := Node.rel_single?_of_alike h .additionalProperties
  generalize n.single? .additionalProperties = x? at hextra ⊢
  generalize n'.single? .additionalProperties = y? at hextra ⊢
  cases hextra with
  | none => exact .ok rfl
  | some hxy =>
    refine (hnull _ _ hxy).map fun found found' hfound => ?_
    rw [Bool.eq_iff_iff, List.isEmpty_iff, List.isEmpty_iff]
    exact C.nil_iff hfound

theorem agree_coerceArray (v : Json) :
    T.Agree Eq (coerceArray convert n v) (coerceArray convert' n' v) := by
  cases v with
  | array items =>
    rw [coerceArray_eq, coerceArray_eq]
    have heach : ∀ e e' : Json × Nat, e = e' →
        T.Agree Eq (convertBy convert (n.slot? e.2) e.1) (convertBy convert' (n'.slot? e'.2) e'.1) := by
      rintro e _ rfl
      exact agree_convertBy hconvert (rel_slot? h e.2) e.1
    refine (Tolerance.Agree.mapM heach (List.forall₂_same.2 fun _ _ => rfl)).map ?_
    intro xs ys hxs
    rw [List.forall₂_eq_eq_eq] at hxs
    rw [hxs]
  | _ => exact .ok rfl

/-- The same members are kept if the same properties have to be there. -/
theorem agree_coerceMembers {c c' : Context} {options : CoerceOptions} {hops hops' : Nat}
    (hstrict : isStrict c.schema n = isStrict c'.schema n')
    (hadmits : T.Agree Eq (admitsExtra c hops (n.single? .additionalProperties))
      (admitsExtra c' hops' (n'.single? .additionalProperties))) (input : Members) :
    T.Agree Eq (coerceMembers c options convert hops n input)
      (coerceMembers c' options convert' hops' n' input) := by
  have hextra := Node.rel_single?_of_alike h .additionalProperties
  -- Of the properties only the keys count for which members are declared.
  have hdeclared : declaredMembers n input = declaredMembers n' input := by
    have hmap : ∀ es : List (String × NodeId),
        es.filterMap (fun e => (input.get? e.1).map (e.1, ·)) =
          (es.map (·.1)).filterMap fun key => (input.get? key).map (key, ·) := by
      intro es
      rw [List.filterMap_map]
      rfl
    rw [declaredMembers, declaredMembers, hmap, hmap, Node.map_fst_properties h]
  have hkeep : keep c options n input = keep c' options n' input := by
    rw [keep, keep, hstrict, hdeclared]
  have hundeclared : undeclared n input = undeclared n' input := by
    simp only [undeclared, Node.any_properties_eq h]
  unfold coerceMembers
  rw [hkeep, hundeclared]
  refine (agree_convertEntries hconvert input _ (Node.forall₂_properties h)).bind fun out _ hout => ?_
  subst hout
  split
  · exact .ok rfl
  · refine hadmits.bind fun admits _ hadmits => ?_
    subst hadmits
    cases admits with
    | true => exact agree_convertExtra hconvert hextra _ _
    | false => exact .ok rfl

theorem agree_byKind {c c' : Context} {options : CoerceOptions} {hops hops' : Nat}
    (hkind : n.kind = n'.kind) (hstrict : isStrict c.schema n = isStrict c'.schema n')
    (hadmits : T.Agree Eq (admitsExtra c hops (n.single? .additionalProperties))
      (admitsExtra c' hops' (n'.single? .additionalProperties))) (v : Json) :
    T.Agree Eq (byKind c options convert hops n v) (byKind c' options convert' hops' n' v) := by
  unfold byKind
  rw [hkind]
  cases n'.kind with
  | object =>
    dsimp only
    rw [coerceObject_eq, coerceObject_eq]
    cases openText v with
    | object input =>
      refine (agree_coerceMembers hconvert h hstrict hadmits input).map ?_
      rintro out _ rfl
      rfl
    | _ => exact .ok rfl
  | array => exact agree_coerceArray hconvert h v
  | _ => exact .ok rfl

end Coercion

/-! ## Links -/

namespace Context

variable {c : Context} {id target : NodeId}

theorem follow_link (h : c.schema.kind? id = some (.link target)) (hops : Nat) :
    c.schema.follow hops id =
      if hops < maxHops then c.schema.follow (hops + 1) target
      else .error (.recursionLimit maxHops) := by
  rw [Schema.follow, h]

theorem check_link (h : c.schema.kind? id = some (.link target)) (hops : Nat) (value : Option Json)
    (at_ : Location) :
    c.check hops id value at_ =
      if hops < maxHops then c.check (hops + 1) target value at_
      else .error (.recursionLimit maxHops) := by
  have hturn : c.turn hops id value at_ =
      if hops < maxHops then c.turn (hops + 1) target value at_
      else .settled (.error (.recursionLimit maxHops)) := by
    unfold turn
    rw [follow_link h]
    by_cases hlt : hops < maxHops
    · rw [if_pos hlt, if_pos hlt]
    · rw [if_neg hlt, if_neg hlt]
  rw [check_eq_turn, hturn]
  by_cases hlt : hops < maxHops
  · rw [if_pos hlt, if_pos hlt, check_eq_turn]
  · rw [if_neg hlt, if_neg hlt]

theorem coerce_link (h : c.schema.kind? id = some (.link target)) (options : CoerceOptions)
    (hops : Nat) (v : Json) :
    c.coerce options hops id v =
      if hops < maxHops then c.coerce options (hops + 1) target v
      else .error (.recursionLimit maxHops) := by
  have hstage : c.stage hops id =
      if hops < maxHops then c.stage (hops + 1) target else .failed (.recursionLimit maxHops) := by
    unfold stage
    rw [follow_link h]
    by_cases hlt : hops < maxHops
    · rw [if_pos hlt, if_pos hlt]
    · rw [if_neg hlt, if_neg hlt]
  rw [coerce_eq_stage, hstage]
  by_cases hlt : hops < maxHops
  · rw [if_pos hlt, if_pos hlt, coerce_eq_stage]
  · rw [if_neg hlt, if_neg hlt]

/-! ## Nodes that stand for themselves -/

/-- A reference hands the value on. -/
def refer (c : Context) (hops : Nat) (reference : String) (v : Json) (at_ : Location) : Outcome :=
  c.index.resolve reference >>= fun target =>
    if hops < maxHops then c.check (hops + 1) target (some v) (at_.descend [.key "$ref"] [])
    else .error (.recursionLimit maxHops)

/-- The hook is asked first, then the reference or the keywords. -/
def weigh (c : Context) (hops : Nat) (id : NodeId) (n : Node) (v : Json) (at_ : Location) :
    Outcome :=
  match n.rejection? (some v) at_ with
  | some failures => .ok failures
  | none =>
    if !c.ignoreUnsupported && n.declares "$defs" then .error (.unsupported "$defs")
    else
      match n.reference? with
      | some reference => c.refer hops reference v at_
      | none =>
        Outcome.ofAll c.shortCircuit
          (fun k => k.check c (c.judgeBelow hops id) hops n v at_) n.keywords

def answer (c : Context) (hops : Nat) (id : NodeId) (n : Node) (v : Json) (at_ : Location) :
    Outcome :=
  match n.kind with
  | .constant true | .hole _ => .ok []
  | .constant false => .ok [at_.failure none .alwaysFails (some v)]
  | _ => c.weigh hops id n v at_

/-- A reference hands the value on to be converted. -/
def referCoerce (c : Context) (options : CoerceOptions) (hops : Nat) (reference : String)
    (v : Json) : Except SchemaError Json :=
  c.index.resolve reference >>= fun target =>
    if hops < maxHops then c.coerce options (hops + 1) target v
    else .error (.recursionLimit maxHops)

def converted (c : Context) (options : CoerceOptions) (hops : Nat) (id : NodeId) (n : Node)
    (v : Json) : Except SchemaError Json :=
  match n.hooks.coerce with
  | some hook => .ok (hook options v)
  | none =>
    match n.reference? with
    | some reference => c.referCoerce options hops reference v
    | none => Coercion.byKind c options (c.convertBelow options hops id) hops n v

theorem check_of_none (hnone : c.schema.node? id = none) (hops : Nat) (value : Option Json)
    (at_ : Location) : c.check hops id value at_ = .pass := by
  rw [check_eq_turn, turn, Schema.follow_of_none hnone]
  dsimp only
  rw [hnone]

theorem coerce_of_none (hnone : c.schema.node? id = none) (options : CoerceOptions) (hops : Nat)
    (v : Json) : c.coerce options hops id v = .ok v := by
  rw [coerce_eq_stage, stage, Schema.follow_of_none hnone]
  dsimp only
  rw [hnone]

section Node

variable {n : Node} (hn : c.schema.node? id = some n) (hlink : ∀ target, n.kind ≠ .link target)
include hn hlink

theorem check_of_node (hops : Nat) (v : Json) (at_ : Location) :
    c.check hops id (some v) at_ = c.answer hops id n v at_ := by
  rw [check_eq_turn, turn, Schema.follow_of_node hn hlink]
  dsimp only
  rw [hn]
  dsimp only
  unfold answer weigh refer
  cases n.kind with
  | constant accepts => cases accepts <;> rfl
  | hole token => rfl
  | _ =>
    dsimp only
    cases n.rejection? (some v) at_ with
    | some failures => rfl
    | none =>
      dsimp only
      cases !c.ignoreUnsupported && n.declares "$defs" with
      | true => rfl
      | false =>
        cases n.reference? with
        | none => rfl
        | some reference =>
          dsimp only
          cases c.index.resolve reference with
          | error e => rfl
          | ok target =>
            by_cases hlt : hops < maxHops
            · simp only [Bool.false_eq_true, if_false, if_pos hlt, Except.ok_bind]
            · simp only [Bool.false_eq_true, if_false, if_neg hlt, Except.ok_bind]

theorem coerce_of_node (options : CoerceOptions) (hops : Nat) (v : Json) :
    c.coerce options hops id v = c.converted options hops id n v := by
  rw [coerce_eq_stage, stage_of_node hn hlink]
  unfold converted referCoerce
  cases n.hooks.coerce with
  | some hook => rfl
  | none =>
    cases n.reference? with
    | none => rfl
    | some reference =>
      dsimp only
      cases c.index.resolve reference with
      | error e => rfl
      | ok target =>
        by_cases hlt : hops < maxHops
        · simp only [if_pos hlt, Except.ok_bind]
        · simp only [if_neg hlt, Except.ok_bind]

end Node

end Context

/-! ## Two nodes -/

/-- The nodes do the same with every value if their children and references do. -/
structure Node.Alike (L : Leaf → Leaf → Prop) (R : NodeId → NodeId → Prop) (n n' : Node) : Prop where
  kind : n.kind = n'.kind
  hooks : n.hooks = n'.hooks
  keywords : List.Forall₂ (Keyword.Alike L R) n.keywords n'.keywords

theorem Node.Alike.rel_rejection? {L : Leaf → Leaf → Prop} {R : NodeId → NodeId → Prop} {n n' : Node}
    (h : n.Alike L R n') (value : Option Json) (at_ : Location) :
    Option.Rel Eq (n.rejection? value at_) (n'.rejection? value at_) := by
  have heq : n.rejection? value at_ = n'.rejection? value at_ := by simp only [Node.rejection?, h.hooks]
  rw [heq]
  cases n'.rejection? value at_ with
  | none => exact .none
  | some failures => exact .some rfl

namespace Context

variable {C : Comparison} {R : NodeId → NodeId → Prop} {c c' : Context} {hops hops' : Nat}
  {id id' : NodeId} {n n' : Node} (h : n.Alike C.leaves R n') (hL : ∀ l l', C.leaves l l' → l.Same l')
include h hL

theorem agree_answer {v : Json} (hv : C.values v) {p q : Location} (hat : C.locations p q)
    (hstop : c.shortCircuit = c'.shortCircuit) (hignore : c.ignoreUnsupported = c'.ignoreUnsupported)
    (hrejection : Option.Rel C.failures (n.rejection? (some v) p) (n'.rejection? (some v) q))
    (hrefer : ∀ reference, n.reference? = some reference →
      C.Agree C.failures (c.refer hops reference v p) (c'.refer hops' reference v q))
    (hchild : ∀ x y, R x y → ∀ v, C.values v → ∀ p q, C.locations p q →
      C.Agree C.failures (c.judgeBelow hops id x v p) (c'.judgeBelow hops' id' y v q))
    (hleaf : ∀ l l', C.leaves l l' → ∀ v, C.values v → ∀ p q, C.locations p q →
      C.Agree C.failures (l.check c.formats v p) (l'.check c'.formats v q))
    (hextra : ∀ x y, R x y → ∀ ms, C.values (.object ms) → ∀ p q, C.locations p q →
      C.Agree C.failures (Keyword.checkExtra c (c.judgeBelow hops id) hops n x ms p)
        (Keyword.checkExtra c' (c'.judgeBelow hops' id') hops' n' y ms q)) :
    C.Agree C.failures (c.answer hops id n v p) (c'.answer hops' id' n' v q) := by
  have hweigh : C.Agree C.failures (c.weigh hops id n v p) (c'.weigh hops' id' n' v q) := by
    unfold weigh
    rw [← hstop, ← hignore, ← Node.declares_eq h.keywords hL, ← Node.reference?_eq h.keywords hL]
    generalize n.rejection? (some v) p = a? at hrejection ⊢
    generalize n'.rejection? (some v) q = b? at hrejection ⊢
    cases hrejection with
    | some hfound => exact .ok hfound
    | none =>
      dsimp only
      split
      · exact .error _
      · cases href : n.reference? with
        | some reference => exact hrefer reference href
        | none =>
          exact Comparison.agree_ofAll _ (fun k k' hk =>
            Comparison.agree_check hv hat hchild hleaf hextra hL h.keywords hk) h.keywords
  unfold answer
  rw [← h.kind]
  cases n.kind with
  | constant accepts =>
    cases accepts with
    | true => exact .ok C.nil
    | false => exact .ok (C.failure _ _ _ hat)
  | hole token => exact .ok C.nil
  | _ => exact hweigh

theorem agree_converted {T : Tolerance} {options : CoerceOptions}
    (hrefer : ∀ reference, n.reference? = some reference → ∀ v,
      T.Agree Eq (c.referCoerce options hops reference v) (c'.referCoerce options hops' reference v))
    (hchild : ∀ x y, R x y → ∀ v,
      T.Agree Eq (c.convertBelow options hops id x v) (c'.convertBelow options hops' id' y v))
    (hstrict : Coercion.isStrict c.schema n = Coercion.isStrict c'.schema n')
    (hadmits : T.Agree Eq (Coercion.admitsExtra c hops (n.single? .additionalProperties))
      (Coercion.admitsExtra c' hops' (n'.single? .additionalProperties))) (v : Json) :
    T.Agree Eq (c.converted options hops id n v) (c'.converted options hops' id' n' v) := by
  unfold converted
  rw [← h.hooks, ← Node.reference?_eq h.keywords hL]
  cases n.hooks.coerce with
  | some hook => exact .ok rfl
  | none =>
    cases href : n.reference? with
    | some reference => exact hrefer reference href v
    | none => exact Coercion.agree_byKind hchild h.keywords h.kind hstrict hadmits v

end Context

/-! ## Two schemas -/

theorem Schema.agree_validateAt {T : Tolerance} {r : List Failure → List Failure → Prop}
    {r' : Verdict → Verdict → Prop}
    (hr : ∀ found found', r found found' → r' (.ofFailures found) (.ofFailures found'))
    {s s' : Schema} {shared : FormatRegistry} {id id' : NodeId} {options : ValidateOptions}
    (hcoerce : ∀ v, T.Agree Eq (s.coerceAt shared id v) (s'.coerceAt shared id' v))
    (hcheck : ∀ v at_, T.Agree r ((s.context shared options).check 0 id (some v) at_)
      ((s'.context shared options).check 0 id' (some v) at_)) (v : Json) :
    T.Agree r' (s.validateAt shared id (some v) options) (s'.validateAt shared id' (some v) options) := by
  rw [validateAt_eq_judged, validateAt_eq_judged]
  have hvalue : T.Agree (fun a b => a = b ∧ ∃ w, a = some w) (s.judged shared id options (some v))
      (s'.judged shared id' options (some v)) := by
    unfold judged
    dsimp only
    split
    · exact (hcoerce v).map fun w _ hw => ⟨congrArg some hw, w, rfl⟩
    · exact .ok ⟨rfl, v, rfl⟩
  refine hvalue.bind ?_
  rintro _ _ ⟨rfl, w, rfl⟩
  exact (hcheck w _).map hr

end JsonSchema
