import JsonSchema.Proofs.Comparison.Judging
import JsonSchema.Proofs.Evaluation.Leaves
import JsonSchema.Proofs.Reordering.Values

/-!
# Keywords and reordered values

Constants, enumerations and `uniqueItems` compare canonical texts, limits compare doubles, and the other
keywords without schemas ask which keys an object has or how many parts a value has. A keyword with schemas
judges parts of a value by them. If both stand in another order and each schema judges related values alike,
the keyword does so too.
-/

namespace JsonSchema

open Json Outcome

/-! ## What is asked about a value -/

theorem Members.hasKey_eq_of_perm {ms ms' : Members} (h : ms.keys.Perm ms'.keys) (key : String) :
    ms.hasKey key = ms'.hasKey key := by
  rw [Bool.eq_iff_iff, hasKey_iff, hasKey_iff]
  exact h.mem_iff

theorem Members.length_eq_of_perm {ms ms' : Members} (h : ms.keys.Perm ms'.keys) :
    ms.length = ms'.length := by
  simpa [keys] using h.length_eq

variable {V : Json → Json → Prop} {v w : Json}

theorem InstanceType.accepts_eq_of_shaped (h : Shaped Number.sameValue V v w) (t : InstanceType) :
    t.accepts v = t.accepts w := by
  cases h with
  | null | bool | string => rfl
  | number hn =>
    cases t with
    | integer => exact Number.isInteger_of_sameValue hn
    | _ => rfl
  | array | object => cases t <;> rfl

namespace Leaf

/-- The keywords ask the same. -/
inductive Reordered : Leaf → Leaf → Prop where
  | refl (l : Leaf) : Reordered l l
  | const {v w : Json} (h : v.canonical = w.canonical) : Reordered (.const v) (.const w)
  | enum {vs ws : List Json} (h : vs.map canonical = ws.map canonical) :
      Reordered (.enum vs) (.enum ws)
  | dependentRequired {entries entries' : List (String × List String)}
      (h : Corresponds Eq entries entries') :
      Reordered (.dependentRequired entries) (.dependentRequired entries')
  | default (v w : Json) : Reordered (.default v) (.default w)
  | note (name : String) (v w : Json) : Reordered (.note name v) (.note name w)

theorem Reordered.name_eq {l l' : Leaf} (h : l.Reordered l') : l.name = l'.name := by
  cases h <;> rfl

theorem any_same (vs : List Json) (v : Json) :
    vs.any (·.same v) = (vs.map canonical).any (· == v.canonical) := by
  rw [List.any_map]
  rfl

theorem missingDependent?_eq_none_congr {ms ms' : Members} (hkeys : ms.keys.Perm ms'.keys)
    {entries entries' : List (String × List String)} (h : Corresponds Eq entries entries') :
    missingDependent? ms entries = none ↔ missingDependent? ms' entries' = none := by
  have hmem : ∀ e, e ∈ entries ↔ e ∈ entries' := by
    intro e
    constructor
    · intro he
      obtain ⟨_, he', rfl⟩ := h.left e he
      exact he'
    · intro he
      obtain ⟨_, he', rfl⟩ := h.right e he
      exact he'
  simp only [missingDependent?_eq_none_iff, Members.hasKey_eq_of_perm hkeys, hmem]

theorem areDistinct_congr {vs ws : List Json} (h : vs.map canonical = ws.map canonical) :
    areDistinct vs = areDistinct ws := by
  unfold areDistinct
  rw [h]

/-! ## Single keywords -/

section Check

variable (p q : Location)

theorem sameVerdict_checkCount (h : Shaped Number.sameValue V v w) (which : Count) (limit : UInt64) :
    SameVerdict (checkCount which limit v p) (checkCount which limit w q) := by
  unfold checkCount
  cases h with
  | null | bool | number => cases which <;> exact sameVerdict_pass
  | string s =>
    cases which <;> first | exact sameVerdict_pass | exact sameVerdict_require rfl _ _ _ _ _ _ _ _
  | array h =>
    have hlength := h.length_eq
    cases which <;>
      first | exact sameVerdict_pass | exact sameVerdict_require (by rw [hlength]) _ _ _ _ _ _ _ _
  | object perm =>
    have hlength := Members.length_eq_of_perm perm
    cases which <;>
      first | exact sameVerdict_pass | exact sameVerdict_require (by rw [hlength]) _ _ _ _ _ _ _ _

theorem sameVerdict_checkMultiple (h : Shaped Number.sameValue V v w) (divisor : Float) :
    SameVerdict (checkMultiple divisor v p) (checkMultiple divisor w q) := by
  unfold checkMultiple
  cases h with
  | null | bool | string | array | object => exact sameVerdict_pass
  | @number n n' hn =>
    dsimp only [asFloat?]
    rw [n.isFinite_toFloat, n'.isFinite_toFloat, Bool.and_true]
    split
    · next hdivisor =>
      have hpos := ((Bool.and_eq_true_iff).1 hdivisor).1
      have hmultiple := Double.isMultiple_of_beq (Number.toFloat_of_sameValue hn) hpos
      exact sameVerdict_require hmultiple _ _ _ _ _ _ _ _
    · exact .error_left _ _

theorem sameVerdict_dependents {ms ms' : Members} (hkeys : ms.keys.Perm ms'.keys)
    {entries entries' : List (String × List String)} (h : Corresponds Eq entries entries')
    (formats : FormatRegistry) :
    SameVerdict ((Leaf.dependentRequired entries).check formats (.object ms) p)
      ((Leaf.dependentRequired entries').check formats (.object ms') q) := by
  have hnone := missingDependent?_eq_none_congr hkeys h
  unfold check
  dsimp only
  cases hmissing : missingDependent? ms entries with
  | none =>
    rw [hnone.1 hmissing]
    exact sameVerdict_pass
  | some key =>
    cases hmissing' : missingDependent? ms' entries' with
    | none =>
      rw [hnone.2 hmissing'] at hmissing
      cases hmissing
    | some key' => exact sameVerdict_require rfl _ _ _ _ _ _ _ _

end Check

/-! ## All keywords -/

variable (hV : Resemblance V) (hvw : V v w) (formats : FormatRegistry) (p q : Location)
include hV hvw

theorem sameVerdict_check_same (l : Leaf) :
    SameVerdict (l.check formats v p) (l.check formats w q) := by
  have hshape := hV.shape hvw
  have hcanonical := hV.canonical hvw
  cases l with
  | types ts =>
    refine sameVerdict_require ?_ _ _ _ _ _ _ _ _
    simp only [InstanceType.accepts_eq_of_shaped hshape]
  | const expected =>
    refine sameVerdict_require ?_ _ _ _ _ _ _ _ _
    rw [same, same, hcanonical]
  | enum options =>
    refine sameVerdict_require ?_ _ _ _ _ _ _ _ _
    rw [any_same, any_same, hcanonical]
  | count which limit => exact sameVerdict_checkCount p q hshape which limit
  | bound which limit =>
    cases hshape with
    | number hn =>
      refine sameVerdict_require ?_ _ _ _ _ _ _ _ _
      exact Double.admits_value_of_beq (Number.toFloat_of_sameValue hn) which limit
    | _ => exact sameVerdict_pass
  | multipleOf divisor => exact sameVerdict_checkMultiple p q hshape divisor
  | pattern | format =>
    cases hshape with
    | string s => exact sameVerdict_require rfl _ _ _ _ _ _ _ _
    | _ => exact sameVerdict_pass
  | uniqueItems unique =>
    cases unique with
    | false => cases hshape <;> exact sameVerdict_pass
    | true =>
      cases hshape with
      | array hitems =>
        refine sameVerdict_require (areDistinct_congr ?_) _ _ _ _ _ _ _ _
        refine List.forall₂_eq_eq_eq ▸ List.forall₂_map_left_iff.2 (List.forall₂_map_right_iff.2 ?_)
        exact hitems.imp fun _ _ => hV.canonical
      | _ => exact sameVerdict_pass
  | required keys =>
    cases hshape with
    | object perm =>
      refine sameVerdict_require ?_ _ _ _ _ _ _ _ _
      rw [funext (Members.hasKey_eq_of_perm perm)]
    | _ => exact sameVerdict_pass
  | dependentRequired entries =>
    cases hshape with
    | object perm => exact sameVerdict_dependents p q perm (.same fun _ _ => rfl) formats
    | _ => exact sameVerdict_pass
  | default | ref | id | note => exact sameVerdict_pass

theorem sameVerdict_check {l l' : Leaf} (h : l.Reordered l') :
    SameVerdict (l.check formats v p) (l'.check formats w q) := by
  cases h with
  | refl l => exact sameVerdict_check_same hV hvw formats p q l
  | const h =>
    refine sameVerdict_require ?_ _ _ _ _ _ _ _ _
    rw [same, same, hV.canonical hvw, h]
  | enum h =>
    refine sameVerdict_require ?_ _ _ _ _ _ _ _ _
    rw [any_same, any_same, hV.canonical hvw, h]
  | dependentRequired h =>
    cases hV.shape hvw with
    | object perm => exact sameVerdict_dependents p q perm h formats
    | _ => exact sameVerdict_pass
  | default | note => exact sameVerdict_pass

end Leaf

/-! ## Lists -/

theorem corresponds_of_forall₂ {R : α → β → Prop} {as : List α} {bs : List β}
    (h : List.Forall₂ R as bs) : Corresponds R as bs :=
  ⟨fun _ ha => exists_of_forall₂ h ha, fun _ hb => exists_of_forall₂ h.flip hb⟩

/-! ## What nodes and their keywords say -/

/-- The keywords say the same about schemas at related places. -/
inductive Keyword.Reordered (R : NodeId → NodeId → Prop) : Keyword → Keyword → Prop where
  | leaf {l l' : Leaf} (h : l.Reordered l') : Reordered R (.leaf l) (.leaf l')
  | single {slot : Slot} {x y : NodeId} (h : R x y) : Reordered R (.single slot x) (.single slot y)
  | listed {slot : ListSlot} {xs ys : List NodeId} (h : List.Forall₂ R xs ys) :
      Reordered R (.listed slot xs) (.listed slot ys)
  | keyed {slot : KeyedSlot} {es es' : List (String × NodeId)}
      (h : Corresponds (fun e e' => e.1 = e'.1 ∧ R e.2 e'.2) es es')
      (lookup : ∀ key, Option.Rel R (es.lookup key) (es'.lookup key)) :
      Reordered R (.keyed slot es) (.keyed slot es')
  | patterns {es es' : List (Pattern × NodeId)}
      (h : Corresponds (fun e e' => e.1 = e'.1 ∧ R e.2 e'.2) es es') :
      Reordered R (.patternProperties es) (.patternProperties es')

theorem Keyword.Reordered.name_eq {R : NodeId → NodeId → Prop} {k k' : Keyword}
    (h : k.Reordered R k') : k.name = k'.name := by
  cases h with
  | leaf h => exact h.name_eq
  | single | listed | keyed | patterns => rfl

/-- The nodes have no hook to judge with and say the same, in another order. -/
structure Node.Reordered (R : NodeId → NodeId → Prop) (n n' : Node) : Prop where
  kind : n.kind = n'.kind
  hook : n.hooks.validate = none
  hook' : n'.hooks.validate = none
  keywords : Corresponds (Keyword.Reordered R) n.keywords n'.keywords
  single : ∀ slot, Option.Rel R (n.single? slot) (n'.single? slot)
  count : ∀ which, n.count? which = n'.count? which
  prefixLength : n.prefixItems.length = n'.prefixItems.length
  extra : ∀ key, n.isExtra key = n'.isExtra key
  reference : n.reference? = n'.reference?
  id : n.id? = n'.id?

theorem Node.Reordered.declares_eq {R : NodeId → NodeId → Prop} {n n' : Node} (h : n.Reordered R n')
    (name : String) : n.declares name = n'.declares name :=
  h.keywords.any_eq fun _ _ hk => by rw [hk.name_eq]

/-! ## Keywords -/

namespace Keyword

variable {V : Json → Json → Prop} {R : NodeId → NodeId → Prop} {judge judge' : Judge}
  (hjudge : ∀ x y, R x y → ∀ v w, V v w → ∀ p q, SameVerdict (judge x v p) (judge' y w q))
  (p q : Location)
include hjudge

theorem consistent_accepts_of_forall₂ {v w : Json} (hvw : V v w) (x y : NodeId) (hxy : R x y) :
    Consistent Eq (accepts judge v p x) (accepts judge' w q y) :=
  consistent_accepts (hjudge x y hxy v w hvw p q)

section Any

variable {v w : Json} (hvw : V v w)
include hvw

theorem sameVerdict_checkAllOf {xs ys : List NodeId} (h : List.Forall₂ R xs ys) :
    SameVerdict (checkAllOf judge xs v p) (checkAllOf judge' ys w q) := by
  have haccepts := consistent_accepts_of_forall₂ hjudge p q hvw
  refine (consistent_countAccepted haccepts h).bind fun n n' hn => ?_
  exact sameVerdict_require (by rw [hn, h.length_eq]) _ _ _ _ _ _ _ _

theorem sameVerdict_checkAnyOf {xs ys : List NodeId} (h : List.Forall₂ R xs ys) :
    SameVerdict (checkAnyOf judge xs v p) (checkAnyOf judge' ys w q) := by
  have haccepts := consistent_accepts_of_forall₂ hjudge p q hvw
  refine (consistent_anyAccepted haccepts h).bind fun found found' hfound => ?_
  exact sameVerdict_require hfound _ _ _ _ _ _ _ _

theorem sameVerdict_checkOneOf {xs ys : List NodeId} (h : List.Forall₂ R xs ys) :
    SameVerdict (checkOneOf judge xs v p) (checkOneOf judge' ys w q) := by
  have haccepts := consistent_accepts_of_forall₂ hjudge p q hvw
  refine (consistent_countAccepted haccepts h).bind fun n n' hn => ?_
  exact sameVerdict_require (by rw [hn]) _ _ _ _ _ _ _ _

theorem sameVerdict_checkNegated {x y : NodeId} (hxy : R x y) :
    SameVerdict (checkNegated judge x v p) (checkNegated judge' y w q) := by
  refine (consistent_accepts_of_forall₂ hjudge _ _ hvw x y hxy).bind fun b b' hb => ?_
  exact sameVerdict_require (by rw [hb]) _ _ _ _ _ _ _ _

theorem sameVerdict_optional {x? y? : Option NodeId} : Option.Rel R x? y? →
    SameVerdict
      (match x? with
        | some x => judge x v p
        | none => pass)
      (match y? with
        | some y => judge' y w q
        | none => pass) := by
  intro h
  cases h with
  | none => exact sameVerdict_pass
  | some hxy => exact hjudge _ _ hxy v w hvw p q

theorem sameVerdict_checkCondition {n n' : Node}
    (hslot : ∀ slot, Option.Rel R (n.single? slot) (n'.single? slot)) {x y : NodeId} (hxy : R x y) :
    SameVerdict (checkCondition judge n x v p) (checkCondition judge' n' y w q) := by
  have hnone : ∀ slot, (n.single? slot).isNone = (n'.single? slot).isNone := by
    intro slot
    have hrel := hslot slot
    generalize n.single? slot = x? at hrel ⊢
    generalize n'.single? slot = y? at hrel ⊢
    cases hrel <;> rfl
  unfold checkCondition
  rw [hnone, hnone]
  split
  · exact sameVerdict_pass
  · refine (consistent_accepts_of_forall₂ hjudge p q hvw x y hxy).bind fun accepted _ haccepted => ?_
    subst haccepted
    exact sameVerdict_optional hjudge _ _ hvw (hslot (if accepted then .consequent else .alternative))

end Any

/-! ### Objects -/

section Objects

variable {ms ms' : Members} (hms : Corresponds (fun m m' => m.1 = m'.1 ∧ V m.2 m'.2) ms ms')

include hms in
theorem sameVerdict_checkProperties {es es' : List (String × NodeId)}
    (lookup : ∀ key, Option.Rel R (es.lookup key) (es'.lookup key)) :
    SameVerdict (checkProperties judge es ms p) (checkProperties judge' es' ms' q) := by
  refine sameVerdict_ofFirst hms ?_
  rintro m m' ⟨hkey, hv⟩
  have hrel := lookup m.1
  rw [hkey] at hrel ⊢
  exact sameVerdict_optional hjudge _ _ hv hrel

include hms in
theorem sameVerdict_checkPatterns {es es' : List (Pattern × NodeId)}
    (h : Corresponds (fun e e' => e.1 = e'.1 ∧ R e.2 e'.2) es es') :
    SameVerdict (checkPatterns judge es ms p) (checkPatterns judge' es' ms' q) := by
  refine sameVerdict_ofFirst hms ?_
  rintro m m' ⟨hkey, hv⟩
  refine sameVerdict_ofFirst (h.filter fun e e' he => by rw [he.1, hkey]) ?_
  rintro e e' ⟨_, he⟩
  exact hjudge _ _ he _ _ hv _ _

include hms in
theorem sameVerdict_checkNames (text : ∀ s, V (.string s) (.string s)) {x y : NodeId} (hxy : R x y) :
    SameVerdict (checkNames judge x ms p) (checkNames judge' y ms' q) := by
  refine sameVerdict_ofFirst hms ?_
  rintro m m' ⟨hkey, _⟩
  exact hjudge _ _ hxy _ _ (hkey ▸ text m.1) _ _

theorem sameVerdict_checkDependents (hkeys : ms.keys.Perm ms'.keys)
    (hvw : V (.object ms) (.object ms')) {es es' : List (String × NodeId)}
    (h : Corresponds (fun e e' => e.1 = e'.1 ∧ R e.2 e'.2) es es') :
    SameVerdict (checkDependents judge es ms p) (checkDependents judge' es' ms' q) := by
  refine sameVerdict_ofFirst (h.filter fun e e' he => ?_) ?_
  · rw [he.1, Members.hasKey_eq_of_perm hkeys]
  · rintro e e' ⟨_, he⟩
    exact hjudge _ _ he _ _ hvw _ _

include hms in
/-- Where links lead decides how the members that are not declared are judged. -/
theorem sameVerdict_checkExtra {c c' : Context} {hops hops' : Nat} {n n' : Node}
    (hextra : ∀ key, n.isExtra key = n'.isExtra key) {x y : NodeId} (hxy : R x y)
    (hfollow : Consistent (fun a b => c.schema.kind? a.2 = c'.schema.kind? b.2)
      (c.schema.follow hops x) (c'.schema.follow hops' y)) :
    SameVerdict (checkExtra c judge hops n x ms p) (checkExtra c' judge' hops' n' y ms' q) := by
  have hrest := hms.filter (p := (n.isExtra ·.1)) (q := (n'.isExtra ·.1)) fun m m' hm => by
    rw [hextra, hm.1]
  have heach : SameVerdict
      (ofFirst (fun m => judge x m.2 (p.descend [.key "additionalProperties"] [.key m.1]))
        (ms.filter (n.isExtra ·.1)))
      (ofFirst (fun m => judge' y m.2 (q.descend [.key "additionalProperties"] [.key m.1]))
        (ms'.filter (n'.isExtra ·.1))) := by
    refine sameVerdict_ofFirst hrest ?_
    rintro m m' ⟨_, hv⟩
    exact hjudge _ _ hxy _ _ hv _ _
  unfold checkExtra
  dsimp only
  rw [hrest.isEmpty_eq]
  split
  · exact sameVerdict_pass
  · refine hfollow.bind fun a b hab => ?_
    rw [hab]
    generalize c'.schema.kind? b.2 = kind?
    cases kind? with
    | none => exact heach
    | some kind =>
      cases kind with
      | constant accepts => exact sameVerdict_require rfl _ _ _ _ _ _ _ _
      | _ => exact heach

end Objects

/-! ### Arrays -/

section Arrays

variable {vs ws : List Json} (hvs : List.Forall₂ V vs ws)
include hvs

theorem sameVerdict_checkItems {n n' : Node} (hlength : n.prefixItems.length = n'.prefixItems.length)
    {x y : NodeId} (hxy : R x y) :
    SameVerdict (checkItems judge n x vs p) (checkItems judge' n' y ws q) := by
  unfold checkItems
  rw [hlength]
  refine sameVerdict_ofFirst (corresponds_of_forall₂ (List.forall₂_drop _ (forall₂_zipIdx hvs 0))) ?_
  rintro e e' ⟨hv, _⟩
  exact hjudge _ _ hxy _ _ hv _ _

theorem sameVerdict_checkPrefix {xs ys : List NodeId} (h : List.Forall₂ R xs ys) :
    SameVerdict (checkPrefix judge xs vs p) (checkPrefix judge' ys ws q) := by
  refine sameVerdict_ofFirst (corresponds_of_forall₂ (forall₂_zipIdx (forall₂_zip h hvs) 0)) ?_
  rintro e e' ⟨⟨hxy, hv⟩, _⟩
  exact hjudge _ _ hxy _ _ hv _ _

theorem sameVerdict_checkContains {n n' : Node} (hcount : ∀ which, n.count? which = n'.count? which)
    {x y : NodeId} (hxy : R x y) :
    SameVerdict (checkContains judge n x vs p) (checkContains judge' n' y ws q) := by
  unfold checkContains
  rw [hcount, hcount]
  have haccepts := fun v w (hvw : V v w) => consistent_accepts_of_forall₂ hjudge
    (p.descend [.key "contains"] []) (q.descend [.key "contains"] []) hvw x y hxy
  refine (consistent_countAccepted haccepts hvs).bind fun found _ hfound => ?_
  subst hfound
  dsimp only
  split
  · exact sameVerdict_require rfl _ _ _ _ _ _ _ _
  · split
    · exact sameVerdict_require rfl _ _ _ _ _ _ _ _
    · exact sameVerdict_pass

end Arrays

/-! ### All keywords -/

theorem sameVerdict_check (hV : Resemblance V) {c c' : Context} (hformats : c.formats = c'.formats)
    {hops hops' : Nat} {n n' : Node} (hn : n.Reordered R n')
    (hfollow : ∀ x y, R x y → Consistent (fun a b => c.schema.kind? a.2 = c'.schema.kind? b.2)
      (c.schema.follow hops x) (c'.schema.follow hops' y))
    {k k' : Keyword} (hk : k.Reordered R k') {v w : Json} (hvw : V v w) :
    SameVerdict (k.check c judge hops n v p) (k'.check c' judge' hops' n' w q) := by
  have hshape := hV.shape hvw
  cases hk with
  | leaf hl =>
    have hleaf := Leaf.sameVerdict_check hV hvw c.formats p q hl
    rw [hformats] at hleaf
    unfold check
    rw [hformats]
    exact hleaf
  | @single slot x y hxy =>
    cases slot with
    | negated => exact sameVerdict_checkNegated hjudge p q hvw hxy
    | condition => exact sameVerdict_checkCondition hjudge p q hvw hn.single hxy
    | consequent | alternative => exact sameVerdict_pass
    | items =>
      cases hshape with
      | array hvs => exact sameVerdict_checkItems hjudge p q hvs hn.prefixLength hxy
      | _ => exact sameVerdict_pass
    | contains =>
      cases hshape with
      | array hvs => exact sameVerdict_checkContains hjudge p q hvs hn.count hxy
      | _ => exact sameVerdict_pass
    | additionalProperties =>
      cases hshape with
      | object _ hms =>
        exact sameVerdict_checkExtra hjudge p q hms hn.extra hxy (hfollow x y hxy)
      | _ => exact sameVerdict_pass
    | propertyNames =>
      cases hshape with
      | object _ hms => exact sameVerdict_checkNames hjudge p q hms hV.text hxy
      | _ => exact sameVerdict_pass
  | @listed slot xs ys hxs =>
    cases slot with
    | allOf => exact sameVerdict_checkAllOf hjudge p q hvw hxs
    | anyOf => exact sameVerdict_checkAnyOf hjudge p q hvw hxs
    | oneOf => exact sameVerdict_checkOneOf hjudge p q hvw hxs
    | prefixItems =>
      cases hshape with
      | array hvs => exact sameVerdict_checkPrefix hjudge p q hvs hxs
      | _ => exact sameVerdict_pass
  | @keyed slot es es' hes lookup =>
    cases slot with
    | properties =>
      cases hshape with
      | object _ hms => exact sameVerdict_checkProperties hjudge p q hms lookup
      | _ => exact sameVerdict_pass
    | dependentSchemas =>
      cases hshape with
      | object perm _ => exact sameVerdict_checkDependents hjudge p q perm hvw hes
      | _ => exact sameVerdict_pass
    | defs => exact sameVerdict_pass
  | patterns hes =>
    cases hshape with
    | object _ hms => exact sameVerdict_checkPatterns hjudge p q hms hes
    | _ => exact sameVerdict_pass

end Keyword

end JsonSchema
