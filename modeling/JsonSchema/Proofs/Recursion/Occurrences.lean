import JsonSchema.Proofs.Evaluation.Rejections
import JsonSchema.Proofs.Recursion.Sooner

/-!
# Where a recursive schema stands inside itself

A placeholder becomes a link to the whole, and a link is followed before anything else of its node is looked
at. So the whole is what a value is judged by there, and what was set on the placeholder is not asked.
-/

namespace JsonSchema

/-! ## Children that accept -/

namespace Keyword

theorem judged_of_accepts {judge : Judge} {v : Json} {at_ : Location} {id : NodeId}
    (h : accepts judge v at_ id = .ok true) : judge id v at_ = .ok [] := by
  obtain ⟨found, hfound, hempty⟩ := Except.map_eq_ok_iff.1 h
  rw [hfound, List.isEmpty_iff.1 hempty]

theorem accepted_of_count {f : α → Except SchemaError Bool} {as : List α} {count : Nat}
    (h : countAccepted f as = .ok count) :
    count ≤ as.length ∧ (count = as.length → ∀ a ∈ as, f a = .ok true) := by
  induction as generalizing count with
  | nil =>
    cases h
    exact ⟨Nat.le_refl 0, fun _ => nofun⟩
  | cons a as ih =>
    obtain ⟨accepted, ha, h⟩ := Except.bind_eq_ok_iff.1 h
    obtain ⟨rest, hrest, h⟩ := Except.bind_eq_ok_iff.1 h
    cases h
    obtain ⟨hle, hall⟩ := ih hrest
    cases accepted with
    | true => exact ⟨Nat.succ_le_succ hle, fun heq => List.forall_mem_cons.2 ⟨ha, hall (Nat.succ.inj heq)⟩⟩
    | false =>
      have hlt : rest < (a :: as).length := Nat.lt_succ_of_le hle
      exact ⟨Nat.le_of_lt hlt, fun heq => absurd heq (Nat.ne_of_lt hlt)⟩

theorem judged_of_checkAllOf {judge : Judge} {ids : List NodeId} {v : Json} {at_ : Location}
    (h : checkAllOf judge ids v at_ = .ok []) : ∀ id ∈ ids, judge id v at_ = .ok [] := by
  obtain ⟨count, hcount, h⟩ := Except.bind_eq_ok_iff.1 h
  have hall := eq_of_beq (Outcome.eq_true_of_require h)
  exact fun id hid => judged_of_accepts ((accepted_of_count hcount).2 hall id hid)

end Keyword

namespace Context

/-- A child that accepts if its node does: it is judged along with the value, or it is a part whose acceptance
the node counts and which accepts. What a negation holds is no such child. -/
inductive Needs (c : Context) (hops : Nat) (place : NodeId) (n : Node) :
    Json → Location → NodeId → Json → Location → Prop where
  | along {v w : Json} {at_ inner : Location} {child : NodeId}
      (asks : c.Asks hops place n v at_ child w inner) : Needs c hops place n v at_ child w inner
  | every {ids : List NodeId} {v : Json} {at_ : Location} {child : NodeId}
      (keyword : .listed .allOf ids ∈ n.keywords) (part : child ∈ ids) : Needs c hops place n v at_ child v at_
  | some {slot : ListSlot} {ids : List NodeId} {v : Json} {at_ : Location} {child : NodeId}
      (keyword : .listed slot ids ∈ n.keywords) (slot_eq : slot = .anyOf ∨ slot = .oneOf) (part : child ∈ ids)
      (accepts : Keyword.accepts (c.judgeBelow hops place) v at_ child = .ok true) :
      Needs c hops place n v at_ child v at_
  | condition {v : Json} {at_ : Location} {child : NodeId} (keyword : .single .condition child ∈ n.keywords)
      (accepts : Keyword.accepts (c.judgeBelow hops place) v at_ child = .ok true) :
      Needs c hops place n v at_ child v at_
  | contained {items : List Json} {w : Json} {at_ : Location} {child : NodeId}
      (keyword : .single .contains child ∈ n.keywords) (item : w ∈ items)
      (accepts : Keyword.accepts (c.judgeBelow hops place) w (at_.descend [.key "contains"] []) child = .ok true) :
      Needs c hops place n (.array items) at_ child w (at_.descend [.key "contains"] [])

/-- The judgement of a value at a node comes to another value at another node, through links, references and
children that accept if the node does. -/
inductive ComesTo (c : Context) :
    Nat → NodeId → Option Json → Location → Nat → NodeId → Json → Location → Prop where
  | here {hops : Nat} {id : NodeId} {v : Json} {at_ : Location} : ComesTo c hops id (some v) at_ hops id v at_
  | handed {hops reached hops' : Nat} {id target id' : NodeId} {value : Option Json} {v w : Json}
      {at_ inner : Location} (turn : c.turn hops id value at_ = .handed reached target v)
      (rest : ComesTo c reached target (some v) (at_.descend [.key "$ref"] []) hops' id' w inner) :
      ComesTo c hops id value at_ hops' id' w inner
  | asked {hops reached hops' : Nat} {id place child id' : NodeId} {n : Node} {value : Option Json}
      {v u w : Json} {at_ between inner : Location}
      (turn : c.turn hops id value at_ = .asked reached place n v)
      (needs : c.Needs reached place n v at_ child u between)
      (rest : ComesTo c reached child (some u) between hops' id' w inner) :
      ComesTo c hops id value at_ hops' id' w inner

variable {c : Context} {hops : Nat} {place child : NodeId} {n : Node} {v w : Json} {at_ inner : Location}

theorem Needs.mem_places (h : c.Needs hops place n v at_ child w inner) : child ∈ n.places := by
  cases h with
  | along asks => exact asks.mem_places
  | every keyword part | some keyword _ part =>
    refine List.mem_flatMap.2 ⟨_, keyword, ?_⟩
    rwa [Schema.Orderly.places_listed]
  | condition keyword | contained keyword =>
    refine List.mem_flatMap.2 ⟨_, keyword, ?_⟩
    simp [Keyword.places, Keyword.children]

theorem Needs.judged_of_pass (h : c.Needs hops place n v at_ child w inner)
    (hpass : ∀ k ∈ n.keywords, k.check c (c.judgeBelow hops place) hops n v at_ = .ok []) :
    c.judgeBelow hops place child w inner = .ok [] := by
  cases h with
  | along asks => exact asks.judged_of_pass hpass
  | every keyword part => exact Keyword.judged_of_checkAllOf (hpass _ keyword) child part
  | some _ _ _ accepts | condition _ accepts | contained _ _ accepts =>
    exact Keyword.judged_of_accepts accepts

theorem ComesTo.pass (hs : c.schema.Orderly) {hops' : Nat} {id id' : NodeId} {value : Option Json}
    (h : c.ComesTo hops id value at_ hops' id' w inner) (hpass : c.check hops id value at_ = .ok []) :
    c.check hops' id' (some w) inner = .ok [] := by
  induction h with
  | here => exact hpass
  | handed turn _ ih =>
    rw [check_eq_turn, turn] at hpass
    exact ih hpass
  | @asked hops reached hops' id place child id' n value v u w at_ between inner turn needs _ ih =>
    rw [check_eq_turn, turn] at hpass
    have hjudged := needs.judged_of_pass (Outcome.eq_pass_of_ofAll hpass)
    have hbelow := hs.below place n (turn_asked turn).2.2.1 child needs.mem_places
    rw [judgeBelow_of_below hbelow] at hjudged
    exact ih hjudged

theorem keywords_of_weigh {id : NodeId} (hpass : c.weigh hops id n v at_ = .ok [])
    (hrejection : n.rejection? (some v) at_ = none) (href : n.reference? = none) :
    ∀ k ∈ n.keywords, k.check c (c.judgeBelow hops id) hops n v at_ = .ok [] := by
  rw [weigh, hrejection, href] at hpass
  dsimp only at hpass
  split at hpass
  · cases hpass
  · exact Outcome.eq_pass_of_ofAll hpass

end Context

/-! ## Occurrences of the placeholder -/

/-- The value is judged as it is, at the location. -/
def ValidateOptions.within (options : ValidateOptions) (at_ : Location) : ValidateOptions :=
  { options with coerce := false, keywordPath := at_.keywordPath, instancePath := at_.instancePath }

namespace Schema

theorem validate_of_check {s : Schema} {shared : FormatRegistry} {options : ValidateOptions} {v : Json}
    (hcoerce : options.coerce = false)
    (h : (s.context shared options).check 0 root (some v) ⟨options.keywordPath, options.instancePath⟩ = .ok []) :
    s.validate shared v options = .ok .success := by
  have hjudged : s.judged shared root options (some v) = .ok (some v) := by
    rw [judged, hcoerce]
    rfl
  rw [validate, validateAt_eq_judged, hjudged, Except.ok_bind, h]
  rfl

/-- The value is accepted, and its judgement comes to another value at the node. -/
structure AcceptsThrough (s : Schema) (shared : FormatRegistry) (options : ValidateOptions) (v : Json) (hops : Nat)
    (id : NodeId) (w : Json) (inner : Location) : Prop where
  accepted : ∃ verdict, s.validate shared v options = .ok verdict ∧ verdict.valid = true
  comes : ∃ judged, s.judged shared root options (some v) = .ok judged ∧
    (s.context shared options).ComesTo 0 root judged ⟨options.keywordPath, options.instancePath⟩ hops id w inner

theorem AcceptsThrough.pass {s : Schema} (hs : s.Orderly) {shared : FormatRegistry} {options : ValidateOptions}
    {v w : Json} {hops : Nat} {id : NodeId} {inner : Location}
    (h : s.AcceptsThrough shared options v hops id w inner) :
    (s.context shared options).check hops id (some w) inner = .ok [] := by
  obtain ⟨⟨verdict, hverdict, hvalid⟩, judged, hjudged, hcomes⟩ := h
  rw [validate, validateAt_eq_judged, hjudged, Except.ok_bind] at hverdict
  obtain ⟨found, hfound, rfl⟩ := Except.map_eq_ok_iff.1 hverdict
  rw [List.isEmpty_iff.1 hvalid] at hfound
  exact hcomes.pass hs hfound

/-- What a placeholder stands for that became a link: the whole, whatever else its node says. -/
structure Recurs (s : Schema) (id : NodeId) : Prop where
  judged : ∀ c : Context, c.schema = s → ∀ hops value at_, c.check hops id value at_ =
    if hops < maxHops then c.check (hops + 1) root value at_ else .error (.recursionLimit maxHops)
  accepted : ∀ shared options v hops w inner, s.AcceptsThrough shared options v hops id w inner →
    s.validate shared w (options.within inner) = .ok .success

/-- What a placeholder stands for that says nothing by itself: what was set on it. -/
structure Remains (s : Schema) (id : NodeId) (n : Node) : Prop where
  node : s.node? id = some { n with kind := .any }
  accepted : ∀ shared options v hops w inner, s.AcceptsThrough shared options v hops id w inner →
    n.rejection? (some w) inner = none → n.reference? = none →
      ∀ k ∈ n.keywords, k.check (s.context shared options)
        ((s.context shared options).judgeBelow hops id) hops { n with kind := .any } w inner = .ok []

section Occurrences

variable {s : Schema} (hs : s.Orderly) {id : NodeId}
include hs

theorem recurs_of_link (hlink : s.kind? id = some (.link root)) : s.Recurs id := by
  have hjudged : ∀ c : Context, c.schema = s → ∀ hops value at_, c.check hops id value at_ =
      if hops < maxHops then c.check (hops + 1) root value at_ else .error (.recursionLimit maxHops) := by
    rintro c rfl
    exact Context.check_link hlink
  refine ⟨hjudged, fun shared options v hops w inner h => ?_⟩
  have hpass := h.pass hs
  rw [hjudged _ rfl] at hpass
  split at hpass
  -- The link is one hop, and with no hop before it the whole says the same.
  · exact validate_of_check rfl (Context.check_eq_of_sooner (Nat.zero_le _) hpass)
  · cases hpass

theorem remains_of_node {n : Node} (hn : s.node? id = some { n with kind := .any }) : s.Remains id n := by
  refine ⟨hn, fun shared options v hops w inner h hrejection href => ?_⟩
  have hlink : ∀ target, ({ n with kind := .any } : Node).kind ≠ .link target := fun _ => Kind.noConfusion
  have hpass := h.pass hs
  rw [Context.check_of_node hn hlink] at hpass
  exact Context.keywords_of_weigh hpass hrejection href

end Occurrences

/-- A value that is accepted is accepted by the whole wherever its judgement comes to an occurrence of the
placeholder, however deep. If the whole is itself an occurrence, the others are judged by what was set on them. -/
theorem recursive_occurrence {scope : List (String × Schema)} (hscope : ∀ entry ∈ scope, entry.2.Orderly)
    {name : String} {body : Expr} {b t : Schema}
    (hb : body.buildIn ((name, .placeholder scope.length) :: scope) = .ok b)
    (ht : (Expr.recursive name body).buildIn scope = .ok t) {id : NodeId} {n : Node}
    (hn : b.node? id = some n) (hhole : n.kind = .hole scope.length) :
    (b.kind? root ≠ some (.hole scope.length) → t.Recurs id) ∧
      (b.kind? root = some (.hole scope.length) → t.Remains id n) := by
  have hs : t.Orderly := orderly_buildIn hscope ht
  obtain ⟨_, hb', ht⟩ := Except.bind_eq_ok_iff.1 ht
  rw [hb] at hb'
  cases hb'
  cases ht
  have hnode := node?_tie b scope.length id
  rw [hn, Option.map_some, if_pos hhole] at hnode
  constructor
  · intro hroot
    rw [if_neg hroot] at hnode
    refine recurs_of_link hs ?_
    rw [kind?, hnode]
    rfl
  · intro hroot
    rw [if_pos hroot] at hnode
    exact remains_of_node hs hnode

/-! ### Lists of lists, of which the inner ones are asked for an item -/

/-- The placeholder with a keyword set on it. -/
def crowdedHole : Node := { kind := .hole 0, keywords := [.leaf (.count .minItems 1)] }

def crowdedBody : Expr := .array (.edited (.this "list") [.count .minItems 1])

def crowdedNode : Node := { kind := .array, keywords := [.leaf (.types [.array]), .single .items 1] }

def crowdedOpen : Schema := ⟨#[crowdedNode, crowdedHole]⟩

def crowded : Schema := ⟨#[crowdedNode, { crowdedHole with kind := .link root }]⟩

/-- The whole is the placeholder, which has the items set on it. -/
def looseBody : Expr := .edited (.this "list") [.single .items (.edited (.this "list") [.count .minItems 1])]

def looseNode : Node := { kind := .any, keywords := [.single .items 1] }

def looseOpen : Schema := ⟨#[{ looseNode with kind := .hole 0 }, crowdedHole]⟩

def loose : Schema := ⟨#[looseNode, { crowdedHole with kind := .any }]⟩

theorem build_crowdedBody : crowdedBody.buildIn [("list", .placeholder 0)] = .ok crowdedOpen := by
  with_unfolding_all rfl

theorem build_crowded : (Expr.recursive "list" crowdedBody).buildIn [] = .ok crowded := by
  with_unfolding_all rfl

theorem build_looseBody : looseBody.buildIn [("list", .placeholder 0)] = .ok looseOpen := by
  with_unfolding_all rfl

theorem build_loose : (Expr.recursive "list" looseBody).buildIn [] = .ok loose := by
  with_unfolding_all rfl

theorem orderly_loose : loose.Orderly := orderly_buildIn (List.forall_mem_nil _) build_loose

theorem standsAlone_crowdedNode : crowdedNode.StandsAlone := ⟨nofun, nofun, nofun, rfl, rfl, rfl⟩

theorem standsAlone_looseNode : looseNode.StandsAlone := ⟨nofun, nofun, nofun, rfl, rfl, rfl⟩

theorem standsAlone_crowdedAny : ({ crowdedHole with kind := .any } : Node).StandsAlone :=
  ⟨nofun, nofun, nofun, rfl, rfl, rfl⟩

/-- Where the only item of a list is judged. -/
def onlyItem (at_ : Location) : Location := at_.descend [.key "items"] [.ofPosition 0]

theorem checkItems_only {judge : Judge} {n : Node} {id : NodeId} {w : Json} {at_ : Location}
    (hfirst : n.prefixItems = []) (hitem : judge id w (onlyItem at_) = .ok []) :
    Keyword.checkItems judge n id [w] at_ = .ok [] := by
  rw [Keyword.checkItems, hfirst]
  exact (Outcome.ofFirst_singleton _ _).trans hitem

theorem comesTo_onlyItem {c : Context} {n : Node} (hn : c.schema.node? root = some n) (halone : n.StandsAlone)
    (hitems : .single .items 1 ∈ n.keywords) (hfirst : n.prefixItems = []) (w : Json) (at_ : Location) :
    c.ComesTo 0 root (some (.array [w])) at_ 0 1 w (onlyItem at_) := by
  have hturn := Context.turn_eq_asked hn halone.constant halone.link halone.hole halone.hooks halone.defs
    halone.reference 0 (.array [w]) at_
  have hrest : n.prefixItems.length ≤ 0 := by rw [hfirst]; exact Nat.le_refl 0
  exact .asked hturn (.along (.item hitems rfl hrest)) .here

section Crowded

variable {c : Context} (hc : c.schema = crowded)
include hc

theorem check_crowded_nil (hops : Nat) (at_ : Location) : c.check hops root (some (.array [])) at_ = .ok [] := by
  have hn : c.schema.node? root = some crowdedNode := by rw [hc]; rfl
  refine Context.check_eq_pass hn standsAlone_crowdedNode ?_
  exact List.forall_mem_cons.2 ⟨rfl, List.forall_mem_singleton.2 rfl⟩

theorem check_crowded (at_ : Location) : c.check 0 root (some (.array [.array []])) at_ = .ok [] := by
  have hn : c.schema.node? root = some crowdedNode := by rw [hc]; rfl
  have hbelow : c.schema.Below root 1 := by rw [hc]; exact ⟨Nat.zero_lt_one, Nat.one_lt_two⟩
  have hlink : c.schema.kind? 1 = some (.link root) := by rw [hc]; rfl
  refine Context.check_eq_pass hn standsAlone_crowdedNode ?_
  refine List.forall_mem_cons.2 ⟨rfl, List.forall_mem_singleton.2 (checkItems_only rfl ?_)⟩
  rw [Context.judgeBelow_of_below hbelow, Context.check_link hlink]
  exact check_crowded_nil hc 1 _

end Crowded

theorem check_loose {c : Context} (hc : c.schema = loose) (v : Json) (at_ : Location) :
    c.check 0 root (some (.array [.array [v]])) at_ = .ok [] := by
  have hn : c.schema.node? root = some looseNode := by rw [hc]; rfl
  have hinner : c.schema.node? 1 = some { crowdedHole with kind := .any } := by rw [hc]; rfl
  have hbelow : c.schema.Below root 1 := by rw [hc]; exact ⟨Nat.zero_lt_one, Nat.one_lt_two⟩
  refine Context.check_eq_pass hn standsAlone_looseNode ?_
  refine List.forall_mem_singleton.2 (checkItems_only rfl ?_)
  rw [Context.judgeBelow_of_below hbelow]
  exact Context.check_eq_pass hinner standsAlone_crowdedAny (List.forall_mem_singleton.2 rfl)

theorem through_crowded :
    crowded.AcceptsThrough .empty {} (.array [.array []]) 0 1 (.array []) (onlyItem ⟨[], []⟩) where
  accepted := ⟨.success, validate_of_check rfl (check_crowded rfl _), rfl⟩
  comes := by
    have hitems : .single .items 1 ∈ crowdedNode.keywords := List.mem_cons_of_mem _ List.mem_cons_self
    exact ⟨_, rfl, comesTo_onlyItem rfl standsAlone_crowdedNode hitems rfl _ _⟩

theorem through_loose (v : Json) :
    loose.AcceptsThrough .empty {} (.array [.array [v]]) 0 1 (.array [v]) (onlyItem ⟨[], []⟩) where
  accepted := ⟨.success, validate_of_check rfl (check_loose rfl v _), rfl⟩
  comes := ⟨_, rfl, comesTo_onlyItem rfl standsAlone_looseNode List.mem_cons_self rfl _ _⟩

theorem recursive_occurrence_lists :
    (crowdedBody.buildIn [("list", .placeholder 0)] = .ok crowdedOpen ∧
      (Expr.recursive "list" crowdedBody).buildIn [] = .ok crowded ∧
      crowdedOpen.node? 1 = some crowdedHole ∧ crowdedOpen.kind? root ≠ some (.hole 0) ∧
      crowded.AcceptsThrough .empty {} (.array [.array []]) 0 1 (.array []) (onlyItem ⟨[], []⟩) ∧
      crowded.validate .empty (.array []) (ValidateOptions.within {} (onlyItem ⟨[], []⟩)) = .ok .success) ∧
    looseBody.buildIn [("list", .placeholder 0)] = .ok looseOpen ∧
      (Expr.recursive "list" looseBody).buildIn [] = .ok loose ∧
      looseOpen.node? 1 = some crowdedHole ∧ looseOpen.kind? root = some (.hole 0) ∧
      loose.AcceptsThrough .empty {} (.array [.array [.null]]) 0 1 (.array [.null]) (onlyItem ⟨[], []⟩) ∧
      (Leaf.count .minItems 1).check .empty (.array [.null]) (onlyItem ⟨[], []⟩) = .ok [] := by
  have hnone : ∀ entry ∈ ([] : List (String × Schema)), entry.2.Orderly := List.forall_mem_nil _
  have hroot : crowdedOpen.kind? root ≠ some (.hole 0) := nofun
  have hopen : crowdedOpen.node? 1 = some crowdedHole := rfl
  have hopen' : looseOpen.node? 1 = some crowdedHole := rfl
  have hcrowded := (recursive_occurrence hnone build_crowdedBody build_crowded hopen rfl).1 hroot
  have hloose := (recursive_occurrence hnone build_looseBody build_loose hopen' rfl).2 rfl
  refine ⟨⟨build_crowdedBody, build_crowded, rfl, hroot, through_crowded, ?_⟩, build_looseBody, build_loose,
    rfl, rfl, through_loose .null, ?_⟩
  · exact hcrowded.accepted _ _ _ _ _ _ through_crowded
  · exact hloose.accepted _ _ _ _ _ _ (through_loose .null) rfl rfl _ (List.mem_singleton.2 rfl)

/-- The keyword is not asked where the placeholder became a link, and the whole is not asked where it did not. -/
theorem occurrence_not_enforced :
    ((Expr.recursive "list" crowdedBody).buildIn [] = .ok crowded ∧
      crowded.AcceptsThrough .empty {} (.array [.array []]) 0 1 (.array []) (onlyItem ⟨[], []⟩) ∧
      .leaf (.count .minItems 1) ∈ crowdedHole.keywords ∧
      (Leaf.count .minItems 1).check .empty (.array []) (onlyItem ⟨[], []⟩) ≠ .ok []) ∧
    (Expr.recursive "list" looseBody).buildIn [] = .ok loose ∧
      loose.AcceptsThrough .empty {} (.array [.array [.array []]]) 0 1 (.array [.array []]) (onlyItem ⟨[], []⟩) ∧
      loose.validate .empty (.array [.array []]) (ValidateOptions.within {} (onlyItem ⟨[], []⟩)) ≠
        .ok .success := by
  refine ⟨⟨build_crowded, through_crowded, List.mem_singleton.2 rfl, nofun⟩, build_loose,
    through_loose (.array []), fun h => ?_⟩
  have hthrough : loose.AcceptsThrough .empty (ValidateOptions.within {} (onlyItem ⟨[], []⟩))
      (.array [.array []]) 0 1 (.array []) (onlyItem (onlyItem ⟨[], []⟩)) :=
    ⟨⟨_, h, rfl⟩, _, rfl, comesTo_onlyItem rfl standsAlone_looseNode List.mem_cons_self rfl _ _⟩
  have hpass := hthrough.pass orderly_loose
  rw [Context.check_of_standsAlone rfl standsAlone_crowdedAny] at hpass
  cases hpass

end Schema

end JsonSchema
