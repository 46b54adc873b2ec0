import JsonSchema.Proofs.Evaluation.Rules
import JsonSchema.Proofs.Evaluation.Turn

/-! # Verdicts on values and what documents ask of them -/

namespace JsonSchema

open Loader Json

/-! ## Documents -/

/-- The divisor that the keyword sets is positive. -/
def PositiveDivisor (name : String) (d : Json) : Prop :=
  name = "multipleOf" → ∀ n, d = .number n → 0.0 < n.toFloat

/-- No schema in the document refers to another, sets schemas aside or divides by anything that is
not positive. -/
def Json.SelfContained (d : Json) : Prop :=
  d.EveryKeyword fun name v => name ≠ "$ref" ∧ name ≠ "$defs" ∧ PositiveDivisor name v

/-! ## Keywords -/

namespace Keyword

theorem rule_leaf {limits : LimitReading} {formats : FormatRegistry} {holds : Json → Json → Prop}
    {ms : Members} {name : String} (role : roleOf name = .leaf) (d v : Json) :
    Rule limits formats holds ms name d v ↔ LeafRule limits formats name d v := by
  unfold Rule
  split
  case h_14 => exact Iff.rfl
  all_goals cases role

variable {R : NodeId → Json → Prop} {holds : Json → Json → Prop} {judge : Judge} {c : Context}
  {hops : Nat} {n : Node} {ms : Members}

section Judged

variable (hjudge : ∀ id d, R id d → ∀ v at_, Answers (judge id v at_) (holds d v))
include hjudge

theorem answers_single (hreads : List.Forall₂ (Keyword.Reads R) ms n.keywords) {slot : Slot}
    {id : NodeId} {d : Json} (held : R id d)
    (hfollow : c.schema.follow hops id = .ok (hops, id))
    (hconstant : ∀ b, c.schema.kind? id = some (.constant b) → ∀ w, holds d w ↔ b = true)
    (v : Json) (at_ : Location) :
    Answers ((single slot id).check c judge hops n v at_)
      (Rule .nearest c.formats holds ms slot.name d v) := by
  cases slot with
  | negated => exact answers_checkNegated hjudge held v at_
  | condition => exact answers_checkCondition hjudge hreads held v at_
  | consequent => exact Outcome.answers_pass trivial
  | alternative => exact Outcome.answers_pass trivial
  | items =>
    cases v with
    | array items =>
      refine (answers_checkItems hjudge hreads held items at_).congr ?_
      exact ⟨fun h items' hv => Json.array.inj hv ▸ h, fun h => h items rfl⟩
    | _ =>
      refine Outcome.answers_pass ?_
      intro _ hv
      cases hv
  | contains =>
    cases v with
    | array items =>
      refine (answers_checkContains hjudge hreads held items at_).congr ?_
      exact ⟨fun h items' hv => Json.array.inj hv ▸ h, fun h => h items rfl⟩
    | _ =>
      refine Outcome.answers_pass ?_
      intro _ hv
      cases hv
  | additionalProperties =>
    cases v with
    | object vs =>
      refine (answers_checkExtra hjudge hreads held hfollow hconstant vs at_).congr ?_
      exact ⟨fun h vs' hv => Json.object.inj hv ▸ h, fun h => h vs rfl⟩
    | _ =>
      refine Outcome.answers_pass ?_
      intro _ hv
      cases hv
  | propertyNames =>
    cases v with
    | object vs =>
      refine (answers_checkNames hjudge held vs at_).congr ?_
      exact ⟨fun h vs' hv => Json.object.inj hv ▸ h, fun h => h vs rfl⟩
    | _ =>
      refine Outcome.answers_pass ?_
      intro _ hv
      cases hv

theorem answers_listed {slot : ListSlot} {ids : List NodeId} {ds : List Json}
    (held : List.Forall₂ R ids ds) (v : Json) (at_ : Location) :
    Answers ((listed slot ids).check c judge hops n v at_)
      (Rule .nearest c.formats holds ms slot.name (.array ds) v) := by
  cases slot with
  | allOf =>
    refine (answers_checkAllOf hjudge held v at_).congr ?_
    exact ⟨fun h ds' hd => Json.array.inj hd ▸ h, fun h => h ds rfl⟩
  | anyOf =>
    refine (answers_checkAnyOf hjudge held v at_).congr ?_
    exact ⟨fun h ds' hd => Json.array.inj hd ▸ h, fun h => h ds rfl⟩
  | oneOf =>
    refine (answers_checkOneOf hjudge held v at_).congr ?_
    exact ⟨fun h ds' hd => Json.array.inj hd ▸ h, fun h => h ds rfl⟩
  | prefixItems =>
    cases v with
    | array items =>
      refine (answers_checkPrefix hjudge held items at_).congr ?_
      constructor
      · intro h ds' items' hd hv; cases hd; cases hv; exact h
      · intro h; exact h ds items rfl rfl
    | _ =>
      refine Outcome.answers_pass ?_
      intro _ _ _ hv
      cases hv

theorem answers_keyed {slot : KeyedSlot} {entries : List (String × NodeId)} {ds : Members}
    (held : List.Forall₂ (fun e m => e.1 = m.1 ∧ R e.2 m.2) entries ds) (hnodup : ds.keys.Nodup)
    (v : Json) (at_ : Location) :
    Answers ((keyed slot entries).check c judge hops n v at_)
      (Rule .nearest c.formats holds ms slot.name (.object ds) v) := by
  cases slot with
  | properties =>
    cases v with
    | object vs =>
      refine (answers_checkProperties hjudge held hnodup vs at_).congr ?_
      constructor
      · intro h ds' vs' hd hv; cases hd; cases hv; exact h
      · intro h; exact h ds vs rfl rfl
    | _ =>
      refine Outcome.answers_pass ?_
      intro _ _ _ hv
      cases hv
  | dependentSchemas =>
    cases v with
    | object vs =>
      refine (answers_checkDependents hjudge held vs at_).congr ?_
      constructor
      · intro h ds' vs' hd hv; cases hd; cases hv; exact h
      · intro h; exact h ds vs rfl rfl
    | _ =>
      refine Outcome.answers_pass ?_
      intro _ _ _ hv
      cases hv
  | defs => exact Outcome.answers_pass trivial

theorem answers_patterns {entries : List (Pattern × NodeId)} {ds : Members}
    (held : List.Forall₂ (fun e m => Pattern.compile? m.1 = some e.1 ∧ R e.2 m.2) entries ds)
    (v : Json) (at_ : Location) :
    Answers ((patternProperties entries).check c judge hops n v at_)
      (Rule .nearest c.formats holds ms "patternProperties" (.object ds) v) := by
  cases v with
  | object vs =>
    refine (answers_checkPatterns hjudge held vs at_).congr ?_
    constructor
    · intro h ds' vs' hd hv; cases hd; cases hv; exact h
    · intro h; exact h ds vs rfl rfl
  | _ =>
    refine Outcome.answers_pass ?_
    intro _ _ _ hv
    cases hv

theorem answers_check
    (hfollow : ∀ id d, R id d → c.schema.follow hops id = .ok (hops, id))
    (hconstant : ∀ id d, R id d → ∀ b, c.schema.kind? id = some (.constant b) →
      ∀ w, holds d w ↔ b = true)
    (hreads : List.Forall₂ (Keyword.Reads R) ms n.keywords) {m : String × Json} {k : Keyword}
    (hk : k.Reads R m) (hkeys : m.2.keysDistinct = true) (hpos : PositiveDivisor m.1 m.2)
    (v : Json) (at_ : Location) :
    Answers (k.check c judge hops n v at_) (Rule .nearest c.formats holds ms m.1 m.2 v) := by
  cases hk with
  | @leaf name d path l role read =>
    refine Answers.congr ?_ (rule_leaf role d v).symm
    have hsays := readLeaf_eq_ok_iff.1 read
    refine Leaf.answers_check c.formats v at_ hsays fun f hf => ?_
    subst hf
    cases hsays with
    | multipleOf n => exact hpos rfl n rfl
  | single role held =>
    obtain rfl := name_of_roleOf_single role
    exact answers_single hjudge hreads held (hfollow _ _ held) (hconstant _ _ held) v at_
  | listed role held =>
    obtain rfl := name_of_roleOf_listed role
    exact answers_listed hjudge held v at_
  | keyed role held =>
    obtain rfl := name_of_roleOf_keyed role
    exact answers_keyed hjudge held ((Json.keysDistinct_object _).1 hkeys).1 v at_
  | patterns role held =>
    obtain rfl := name_of_roleOf_patterns role
    exact answers_patterns hjudge held v at_

end Judged

end Keyword

/-! ## Nodes -/

namespace Context

variable {c : Context} {docs : List Json} (hlabels : c.schema.Labels docs)
include hlabels

/-- The induction goes down the array of nodes: children stand behind the nodes that hold them. -/
theorem answers_check {id : NodeId} {d : Json} (hd : docs[id]? = some d) (hself : d.SelfContained)
    (hkeys : d.keysDistinct = true) (hops : Nat) (v : Json) (at_ : Location) :
    Answers (c.check hops id (some v) at_) (Satisfies .nearest c.formats d v) := by
  induction hsize : c.schema.size - id using Nat.strongRecOn generalizing id d v at_ with
  | ind size ih
  subst hsize
  obtain ⟨n, hn, hreads⟩ := hlabels.exists_reads hd
  rw [check_eq_turn]
  cases hreads with
  | @constant accepts _ kind keywords hooks =>
    rw [turn_of_constant hn kind]
    refine Answers.congr ?_ (satisfies_bool .nearest c.formats accepts v).symm
    cases accepts with
    | true => exact Outcome.answers_pass rfl
    | false => exact ⟨_, rfl, by simp⟩
  | @object ms _ kind keywords hooks =>
    obtain ⟨hconstant, hlink, hhole⟩ := ne_of_kindOf kind
    obtain ⟨hnodup, hvalues⟩ := (keysDistinct_object ms).1 hkeys
    cases hself with
    | object _ own inner =>
      have hnames : ∀ name ∈ Members.keys ms, name ≠ "$ref" ∧ name ≠ "$defs" := by
        intro name hname
        obtain ⟨m, hm, rfl⟩ := List.mem_map.1 hname
        exact ⟨(own m hm).1, (own m hm).2.1⟩
      have href := Node.reference?_eq_none keywords fun hmem => (hnames _ hmem).1 rfl
      have hdefs : n.declares "$defs" = false := by
        rw [← Bool.not_eq_true, Node.declares_iff keywords]
        exact fun hmem => (hnames _ hmem).2 rfl
      rw [turn_eq_asked hn hconstant hlink hhole hooks hdefs href]
      refine Answers.congr ?_ (satisfies_object .nearest c.formats ms v).symm
      have hparts : List.Forall₂ (Keyword.Reads fun child e => c.schema.Held docs id child e ∧
          e.SelfContained ∧ e.keysDistinct = true) ms n.keywords := by
        refine Keyword.forall₂_reads_and keywords fun m hm e he => ?_
        exact ⟨inner m hm e he, keysDistinct_of_mem_parts (hvalues m hm) he⟩
      have hjudge : ∀ child e, (c.schema.Held docs id child e ∧ e.SelfContained ∧
          e.keysDistinct = true) → ∀ w at_, Answers (c.judgeBelow hops id child w at_)
            (Satisfies .nearest c.formats e w) := by
        rintro child e ⟨⟨hbelow, he⟩, hself, hkeys⟩ w at_
        rw [judgeBelow_of_below hbelow]
        exact ih _ hbelow.size_sub_lt he hself hkeys w at_ rfl
      refine Outcome.answers_ofAll c.shortCircuit (List.Forall₂.flip ?_)
      refine (forall₂_and_mem hparts).imp ?_
      rintro m k ⟨hk, hm, _⟩
      refine Keyword.answers_check hjudge ?_ ?_ hparts hk (hvalues m hm) (own m hm).2.2 v at_
      · rintro child e ⟨⟨_, he⟩, _⟩
        exact hlabels.follow_eq he hops
      · rintro child e ⟨⟨_, he⟩, _⟩ accepts hkind w
        rw [(hlabels.kind?_eq_constant_iff he accepts).1 hkind]
        exact satisfies_bool .nearest c.formats accepts w

end Context

/-! ## Verdicts -/

namespace Schema

theorem answers_validate (shared : FormatRegistry) (d : Json) (s : Schema)
    (hkeys : d.keysDistinct = true) (hself : d.SelfContained) (h : Schema.ofJson d = .ok s)
    (v : Json) :
    ∃ found, s.validate shared v = .ok (.ofFailures found) ∧
      (found = [] ↔ d.Satisfies .nearest shared v) := by
  obtain ⟨docs, hlabels, hd⟩ := loads_of_load d [] s hkeys h
  let c := s.context shared {}
  obtain ⟨found, hcheck, hfound⟩ := c.answers_check hlabels hd hself hkeys 0 v ⟨[], []⟩
  refine ⟨found, ?_, hfound⟩
  rw [validate, validateAt_eq_judged]
  exact Except.map_eq_ok_iff.2 ⟨found, hcheck, rfl⟩

/-- Limits on numbers compare doubles, and divisors are judged up to rounding. -/
theorem validate_iff_satisfies (shared : FormatRegistry) (d : Json) (s : Schema)
    (hkeys : d.keysDistinct = true) (hself : d.SelfContained) (h : Schema.ofJson d = .ok s)
    (v : Json) :
    ∃ r, s.validate shared v = .ok r ∧ (r.valid = true ↔ d.Satisfies .nearest shared v) := by
  obtain ⟨found, hvalidate, hfound⟩ := answers_validate shared d s hkeys hself h v
  exact ⟨.ofFailures found, hvalidate, List.isEmpty_iff.trans hfound⟩

theorem validate_iff_satisfies_property :
    let d : Json := .object [("properties", .object [("name", .object [("type", .string "string")])])]
    let v : Json := .object [("name", .null)]
    d.keysDistinct = true ∧ d.SelfContained ∧ ∃ s, Schema.ofJson d = .ok s ∧
      ∃ r, s.validate .builtin v = .ok r ∧ (r.valid = true ↔ d.Satisfies .nearest .builtin v) := by
  intro d v
  have hinner : Json.SelfContained (.object [("type", .string "string")]) := by
    refine .object _ ?_ ?_
    · simp [PositiveDivisor]
    · intro m hm e he
      cases List.mem_singleton.1 hm
      cases he
  have hself : d.SelfContained := by
    refine .object _ ?_ ?_
    · simp [PositiveDivisor]
    · intro m hm e he
      cases List.mem_singleton.1 hm
      cases List.mem_singleton.1 he
      exact hinner
  have hkeys : d.keysDistinct = true := by decide
  exact ⟨hkeys, hself, _, rfl, validate_iff_satisfies .builtin d _ hkeys hself rfl v⟩

/-- `2 ^ 53`, above which not every integer is a double. -/
def lastExact : Number := .int 9007199254740992 (by decide)

def firstInexact : Number := .int 9007199254740993 (by decide)

theorem selfContained_maximum (limit : Number) :
    Json.SelfContained (.object [("maximum", .number limit)]) := by
  refine .object _ ?_ ?_
  · intro m hm
    cases List.mem_singleton.1 hm
    refine ⟨(by decide : "maximum" ≠ "$ref"), (by decide : "maximum" ≠ "$defs"), fun hname => ?_⟩
    exact absurd hname (by decide : "maximum" ≠ "multipleOf")
  · intro m hm e he
    cases List.mem_singleton.1 hm
    cases he

/-- A limit lets a greater number pass that has the same nearest double. -/
theorem validate_not_exact :
    ∃ d s v, d.keysDistinct = true ∧ d.SelfContained ∧ Schema.ofJson d = .ok s ∧
      (∃ r, s.validate .builtin v = .ok r ∧ r.valid = true) ∧ ¬d.Satisfies .exact .builtin v := by
  let d : Json := .object [("maximum", .number lastExact)]
  have hself : d.SelfContained := selfContained_maximum lastExact
  refine ⟨d, _, .number firstInexact, rfl, hself, rfl, ?_, ?_⟩
  · obtain ⟨found, hvalidate, hfound⟩ :=
      answers_validate .builtin d _ rfl hself rfl (.number firstInexact)
    refine ⟨_, hvalidate, List.isEmpty_iff.2 (hfound.2 ?_)⟩
    rw [satisfies_object]
    intro m hm
    cases List.mem_singleton.1 hm
    intro limit x hlimit hx
    cases hlimit
    cases hx
    exact (Leaf.admits_iff_nearest .maximum lastExact firstInexact).1 (by decide +kernel)
  · rw [satisfies_object]
    intro h
    have hle := h _ List.mem_cons_self lastExact firstInexact rfl rfl
    revert hle
    show ¬firstInexact.units ≤ lastExact.units
    decide +kernel

end Schema

end JsonSchema
