import JsonSchema.Proofs.Building.Construction
import JsonSchema.Proofs.Coercion.Acceptance
import JsonSchema.Proofs.Comparison.Nodes

/-!
# Rejections by hooks

Where a node's own hook rejects a value, its keywords are not asked any more. A node that has children
judged directly, and not only counts which of them accept, does not pass unless they do, so a
rejection that is explained by a failure comes up to the root.
-/

namespace JsonSchema

open Loader

namespace Context

/-! ## What is judged along with a value -/

/-- A node has a child judged whose failures become its own. The children under `allOf`, `anyOf`,
`oneOf`, `not`, `if` and `contains` are only asked whether they accept. -/
inductive Asks (c : Context) (hops : Nat) (place : NodeId) (n : Node) :
    Json → Location → NodeId → Json → Location → Prop where
  | property {entries : List (String × NodeId)} {ms : Members} {m : String × Json} {at_ : Location}
      {child : NodeId} (keyword : .keyed .properties entries ∈ n.keywords) (member : m ∈ ms)
      (entry : entries.lookup m.1 = some child) :
      Asks c hops place n (.object ms) at_ child m.2
        (at_.descend [.key "properties", .key m.1] [.key m.1])
  | pattern {entries : List (Pattern × NodeId)} {ms : Members} {m : String × Json}
      {e : Pattern × NodeId} {at_ : Location} (keyword : .patternProperties entries ∈ n.keywords)
      (member : m ∈ ms) (entry : e ∈ entries) (occurs : e.1.occursIn m.1 = true) :
      Asks c hops place n (.object ms) at_ e.2 m.2
        (at_.descend [.key "patternProperties", .key e.1.source] [.key m.1])
  | extra {ms : Members} {m : String × Json} {at_ : Location} {child : NodeId}
      (keyword : .single .additionalProperties child ∈ n.keywords) (member : m ∈ ms)
      (isExtra : n.isExtra m.1 = true) :
      Asks c hops place n (.object ms) at_ child m.2
        (at_.descend [.key "additionalProperties"] [.key m.1])
  | name {ms : Members} {m : String × Json} {at_ : Location} {child : NodeId}
      (keyword : .single .propertyNames child ∈ n.keywords) (member : m ∈ ms) :
      Asks c hops place n (.object ms) at_ child (.string m.1)
        (at_.descend [.key "propertyNames"] [.key m.1])
  | dependent {entries : List (String × NodeId)} {ms : Members} {e : String × NodeId}
      {at_ : Location} (keyword : .keyed .dependentSchemas entries ∈ n.keywords) (entry : e ∈ entries)
      (present : ms.hasKey e.1 = true) :
      Asks c hops place n (.object ms) at_ e.2 (.object ms)
        (at_.descend [.key "dependentSchemas", .key e.1] [])
  | item {items : List Json} {i : Nat} {w : Json} {at_ : Location} {child : NodeId}
      (keyword : .single .items child ∈ n.keywords) (item : items[i]? = some w)
      (rest : n.prefixItems.length ≤ i) :
      Asks c hops place n (.array items) at_ child w (at_.descend [.key "items"] [.ofPosition i])
  | slot {ids : List NodeId} {items : List Json} {i : Nat} {w : Json} {at_ : Location}
      {child : NodeId} (keyword : .listed .prefixItems ids ∈ n.keywords) (node : ids[i]? = some child)
      (item : items[i]? = some w) :
      Asks c hops place n (.array items) at_ child w
        (at_.descend [.key "prefixItems", .ofPosition i] [.ofPosition i])
  | branch {v : Json} {condition child : NodeId} {met : Bool} {slot : Slot} {at_ : Location}
      (keyword : .single .condition condition ∈ n.keywords)
      (decided : Keyword.accepts (c.judgeBelow hops place) v at_ condition = .ok met)
      (chosen : slot = if met then .consequent else .alternative)
      (node : n.single? slot = some child) :
      Asks c hops place n v at_ child v (at_.descend [.key slot.name] [])

/-- A hook rejects a value that the judgement comes to through links, references and children whose
failures count. -/
inductive Rejects (c : Context) : Nat → NodeId → Option Json → Location → List Failure → Prop where
  | here {hops reached : Nat} {id place : NodeId} {n : Node} {value : Option Json} {at_ : Location}
      {failures : List Failure} (follow : c.schema.follow hops id = .ok (reached, place))
      (node : c.schema.node? place = some n) (constant : ∀ accepts, n.kind ≠ .constant accepts)
      (hole : ∀ token, n.kind ≠ .hole token) (rejects : n.rejection? value at_ = some failures) :
      Rejects c hops id value at_ failures
  | handed {hops reached : Nat} {id target : NodeId} {value : Option Json} {v : Json} {at_ : Location}
      {failures : List Failure} (turn : c.turn hops id value at_ = .handed reached target v)
      (rest : Rejects c reached target (some v) (at_.descend [.key "$ref"] []) failures) :
      Rejects c hops id value at_ failures
  | asked {hops reached : Nat} {id place child : NodeId} {n : Node} {value : Option Json}
      {v w : Json} {at_ inner : Location} {failures : List Failure}
      (turn : c.turn hops id value at_ = .asked reached place n v)
      (asks : c.Asks reached place n v at_ child w inner)
      (rest : Rejects c reached child (some w) inner failures) :
      Rejects c hops id value at_ failures

variable {c : Context} {hops : Nat} {place child : NodeId} {n : Node} {v w : Json}
  {at_ inner : Location}

theorem Asks.mem_places (h : c.Asks hops place n v at_ child w inner) : child ∈ n.places := by
  cases h with
  | @property entries ms m at_ child keyword _ entry =>
    refine List.mem_flatMap.2 ⟨_, keyword, ?_⟩
    rw [Schema.Orderly.places_keyed]
    exact List.mem_map_of_mem (mem_of_lookup entry)
  | pattern keyword _ entry =>
    refine List.mem_flatMap.2 ⟨_, keyword, ?_⟩
    rw [Schema.Orderly.places_patterns]
    exact List.mem_map_of_mem entry
  | extra keyword | name keyword | item keyword =>
    refine List.mem_flatMap.2 ⟨_, keyword, ?_⟩
    simp [Keyword.places, Keyword.children]
  | dependent keyword entry =>
    refine List.mem_flatMap.2 ⟨_, keyword, ?_⟩
    rw [Schema.Orderly.places_keyed]
    exact List.mem_map_of_mem entry
  | slot keyword node =>
    refine List.mem_flatMap.2 ⟨_, keyword, ?_⟩
    rw [Schema.Orderly.places_listed]
    exact List.mem_of_getElem? node
  | branch _ _ _ node => exact Node.mem_places_of_single? node

/-! ## Passing -/

theorem check_of_leads {reached : Nat} {id target : NodeId}
    (hfollow : c.schema.follow hops id = .ok (reached, target))
    (hkind : c.schema.kind? target = some (.constant true)) (value : Option Json) (at_ : Location) :
    c.check hops id value at_ = .ok [] := by
  obtain ⟨n, hn, hn'⟩ := Option.map_eq_some_iff.1 hkind
  have hturn : c.turn hops id value at_ = .settled .pass := by
    unfold turn
    rw [hfollow]
    dsimp only
    rw [hn]
    dsimp only
    rw [hn']
  rw [check_eq_turn, hturn]
  rfl

theorem judged_of_extra {id : NodeId} {ms : Members} {m : String × Json} (hm : m ∈ ms)
    (hextra : n.isExtra m.1 = true)
    (h : Keyword.checkExtra c (c.judgeBelow hops place) hops n id ms at_ = .ok []) :
    c.judgeBelow hops place id m.2 (at_.descend [.key "additionalProperties"] [.key m.1]) =
      .ok [] := by
  have hmem : m ∈ ms.filter (n.isExtra ·.1) := List.mem_filter.2 ⟨hm, hextra⟩
  have hsome : (ms.filter (n.isExtra ·.1)).isEmpty ≠ true := by
    intro hnone
    rw [List.isEmpty_iff.1 hnone] at hmem
    exact List.not_mem_nil hmem
  unfold Keyword.checkExtra at h
  simp only [if_neg hsome] at h
  obtain ⟨⟨reached, target⟩, hfollow, h⟩ := Except.bind_eq_ok_iff.1 h
  dsimp only at h
  split at h
  · next accepts hkind =>
    have haccepts := Outcome.eq_true_of_require h
    subst haccepts
    by_cases hbelow : c.schema.Below place id
    · rw [judgeBelow_of_below hbelow]
      exact check_of_leads hfollow hkind _ _
    · exact judgeBelow_of_not_below hbelow _ _ _
  · exact Outcome.eq_pass_of_ofFirst h m hmem

/-- If all keywords of a node pass, so does what the node has judged along. -/
theorem Asks.judged_of_pass (h : c.Asks hops place n v at_ child w inner)
    (hpass : ∀ k ∈ n.keywords, k.check c (c.judgeBelow hops place) hops n v at_ = .ok []) :
    c.judgeBelow hops place child w inner = .ok [] := by
  cases h with
  | @property entries ms m at_ child keyword member entry =>
    have hmember := Outcome.eq_pass_of_ofFirst (hpass _ keyword) m member
    rwa [entry] at hmember
  | @pattern entries ms m e at_ keyword member entry occurs =>
    have hmember := Outcome.eq_pass_of_ofFirst (hpass _ keyword) m member
    exact Outcome.eq_pass_of_ofFirst hmember e (List.mem_filter.2 ⟨entry, occurs⟩)
  | @extra ms m at_ child keyword member isExtra =>
    exact judged_of_extra member isExtra (hpass _ keyword)
  | @name ms m at_ child keyword member =>
    exact Outcome.eq_pass_of_ofFirst (hpass _ keyword) m member
  | @dependent entries ms e at_ keyword entry present =>
    exact Outcome.eq_pass_of_ofFirst (hpass _ keyword) e (List.mem_filter.2 ⟨entry, present⟩)
  | @item items i w at_ child keyword item rest =>
    have hmem : (w, i) ∈ items.zipIdx.drop n.prefixItems.length := by
      refine List.mem_of_getElem? (i := i - n.prefixItems.length) ?_
      rw [List.getElem?_drop, Nat.add_sub_cancel' rest, List.getElem?_zipIdx, item]
      simp
    exact Outcome.eq_pass_of_ofFirst (hpass _ keyword) (w, i) hmem
  | @slot ids items i w at_ child keyword node item =>
    have hmem : ((child, w), i) ∈ (ids.zip items).zipIdx := by
      refine List.mem_zipIdx_iff_getElem?.2 ?_
      rw [List.getElem?_zip_eq_some]
      exact ⟨node, item⟩
    exact Outcome.eq_pass_of_ofFirst (hpass _ keyword) ((child, w), i) hmem
  | @branch v condition child met slot at_ keyword decided chosen node =>
    have hcondition : Keyword.checkCondition (c.judgeBelow hops place) n condition v at_ = .ok [] :=
      hpass _ keyword
    unfold Keyword.checkCondition at hcondition
    have hneeded : ((n.single? .consequent).isNone && (n.single? .alternative).isNone) = false := by
      rw [chosen] at node
      cases met <;> simp_all
    rw [hneeded, decided] at hcondition
    subst chosen
    simpa [node] using hcondition

/-- A judgement that passes has met no rejection but such as name no failure. -/
theorem Rejects.eq_nil_of_pass (hs : c.schema.Orderly) {id : NodeId} {value : Option Json}
    {failures : List Failure} (h : c.Rejects hops id value at_ failures)
    (hpass : c.check hops id value at_ = .ok []) : failures = [] := by
  induction h with
  | @here hops reached id place n value at_ failures follow node constant hole rejects =>
    have hturn : c.turn hops id value at_ = .settled (.ok failures) := by
      unfold turn
      rw [follow]
      dsimp only
      rw [node]
      dsimp only
      rw [rejects]
      split
      · next h => exact absurd h (constant true)
      · next token h => exact absurd h (hole token)
      · next h => exact absurd h (constant false)
      · rfl
    rw [check_eq_turn, hturn] at hpass
    exact Except.ok.inj hpass
  | handed turn _ ih =>
    rw [check_eq_turn, turn] at hpass
    exact ih hpass
  | @asked hops reached id place child n value v w at_ inner failures turn asks _ ih =>
    rw [check_eq_turn, turn] at hpass
    have hjudged := asks.judged_of_pass (Outcome.eq_pass_of_ofAll hpass)
    have hbelow := hs.below place n (turn_asked turn).2.2.1 child asks.mem_places
    rw [judgeBelow_of_below hbelow] at hjudged
    exact ih hjudged

end Context

namespace Schema

/-! ## A hook on a property -/

/-- A text whose hook rejects every value with the same failures. -/
def guardedNode (failures : List Failure) : Node :=
  { Node.typed .string with hooks := { validate := some fun _ _ => ⟨false, failures⟩ } }

def guardingNode : Node where
  kind := .object
  keywords := [.leaf (.types [.object]), .keyed .properties [("a", 1)], .leaf (.required ["a"])]

def guarded (failures : List Failure) : Schema := ⟨#[guardingNode, guardedNode failures]⟩

theorem build_guarded (failures : List Failure) :
    (Expr.object .plain [("a", .edited (.typed .string)
      [.validateHook fun _ _ => ⟨false, failures⟩])]).build = .ok (guarded failures) := by
  with_unfolding_all rfl

theorem orderly_guarded (failures : List Failure) : (guarded failures).Orderly :=
  orderly_buildIn (List.forall_mem_nil _) (build_guarded failures)

section Guarded

variable {c : Context} {failures : List Failure} (hc : c.schema = guarded failures)
include hc

theorem turn_guarding (hops : Nat) (v : Json) (at_ : Location) :
    c.turn hops root (some v) at_ = .asked hops root guardingNode v := by
  have hnode : c.schema.node? root = some guardingNode := by rw [hc]; rfl
  exact Context.turn_eq_asked hnode nofun nofun nofun rfl rfl rfl hops v at_

theorem rejects_guarded (hops : Nat) (v : Json) (at_ : Location) :
    c.Rejects hops root (some (.object [("a", v)])) at_ failures := by
  have hnode : c.schema.node? 1 = some (guardedNode failures) := by rw [hc]; rfl
  refine .asked (turn_guarding hc hops _ at_) (.property (List.mem_cons_of_mem _ (List.mem_cons_self ..))
    (List.mem_cons_self ..) rfl) ?_
  exact .here (Schema.follow_of_node hnode nofun hops) hnode nofun nofun rfl

theorem check_guarded (hops : Nat) (v : Json) (at_ : Location) :
    c.check hops root (some (.object [("a", v)])) at_ = .ok failures := by
  have hnode : c.schema.node? 1 = some (guardedNode failures) := by rw [hc]; rfl
  have hbelow : c.schema.Below root 1 := by rw [hc]; exact ⟨Nat.zero_lt_one, Nat.one_lt_two⟩
  have hjudge : ∀ at_, c.judgeBelow hops root 1 v at_ = .ok failures := by
    intro at_
    rw [Context.judgeBelow_of_below hbelow, Context.check_of_node hnode nofun]
    rfl
  rw [Context.check_eq_turn, turn_guarding hc]
  have htypes : Leaf.check c.formats (.types [.object]) (.object [("a", v)]) at_ = .ok [] := rfl
  have hrequired : Leaf.check c.formats (.required ["a"]) (.object [("a", v)]) at_ = .ok [] := rfl
  have hproperties : Keyword.checkProperties (c.judgeBelow hops root) [("a", 1)] [("a", v)] at_ =
      .ok failures := by
    have hlookup : [("a", (1 : NodeId))].lookup "a" = some 1 := rfl
    simp only [Keyword.checkProperties, Outcome.ofFirst, hlookup, hjudge, Except.ok_bind]
    cases failures <;> rfl
  simp only [guardingNode, Outcome.ofAll, Keyword.check, htypes, hproperties, hrequired,
    Except.ok_bind]
  cases failures <;> cases c.shortCircuit <;> simp [Outcome.pass]

end Guarded

theorem validate_guarded (shared : FormatRegistry) (failures : List Failure) (v : Json) :
    (guarded failures).validate shared (.object [("a", v)]) = .ok (.ofFailures failures) := by
  unfold validate
  rw [validateAt_eq_judged]
  change ((context _ shared {}).check 0 root _ _).map _ = _
  rw [check_guarded rfl]
  rfl

/-! ## Rejections are kept -/

/-- A rejection that is explained by a failure is never lost: where a run comes to it, however deep and
whatever else the nodes on the way ask for, the verdict is not valid. -/
theorem rejection_kept {s : Schema} (hs : s.Orderly) (shared : FormatRegistry) (id : NodeId)
    (value : Option Json) (options : ValidateOptions) (judged : Option Json)
    (hjudged : s.judged shared id options value = .ok judged) (failures : List Failure)
    (hrejects : (s.context shared options).Rejects 0 id judged
      ⟨options.keywordPath, options.instancePath⟩ failures)
    (hfailures : failures ≠ []) (r : Verdict) (hr : s.validateAt shared id value options = .ok r) :
    r.valid = false := by
  rw [validateAt_eq_judged, hjudged, Except.ok_bind] at hr
  obtain ⟨found, hfound, rfl⟩ := Except.map_eq_ok_iff.1 hr
  cases found with
  | nil => exact absurd (hrejects.eq_nil_of_pass hs hfound) hfailures
  | cons failure found => rfl

theorem rejection_kept_property :
    let failures : List Failure := [⟨[.key "x"], [.key "a"], .custom "Expected no x", none⟩]
    (guarded failures).Orderly ∧
      (guarded failures).judged .empty root {} (some (.object [("a", .string "x")])) =
        .ok (some (.object [("a", .string "x")])) ∧
      ((guarded failures).context .empty {}).Rejects 0 root (some (.object [("a", .string "x")]))
        ⟨[], []⟩ failures ∧
      failures ≠ [] ∧
      (guarded failures).validateAt .empty root (some (.object [("a", .string "x")])) =
        .ok (.ofFailures failures) ∧
      (Verdict.ofFailures failures).valid = false := by
  intro failures
  have hrejects := rejects_guarded (c := (guarded failures).context .empty {}) rfl 0 (.string "x")
    ⟨[], []⟩
  have hvalidate := validate_guarded .empty failures (.string "x")
  exact ⟨orderly_guarded failures, rfl, hrejects, List.cons_ne_nil _ _, hvalidate,
    rejection_kept (orderly_guarded failures) .empty root _ {} _ rfl failures hrejects
      (List.cons_ne_nil _ _) _ hvalidate⟩

/-- A rejection that names no failure is lost. -/
theorem silent_rejection_lost :
    ∃ (s : Schema) (v : Json) (r : Verdict), s.Orderly ∧
      (s.context .empty {}).Rejects 0 root (some v) ⟨[], []⟩ [] ∧
      s.validate .empty v = .ok r ∧ r.valid = true :=
  ⟨guarded [], .object [("a", .string "x")], .success, orderly_guarded [],
    rejects_guarded rfl 0 (.string "x") ⟨[], []⟩, validate_guarded .empty [] (.string "x"), rfl⟩

end Schema

end JsonSchema
