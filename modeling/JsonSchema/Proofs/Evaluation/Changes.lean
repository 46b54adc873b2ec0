import JsonSchema.Proofs.Building.Candid
import JsonSchema.Proofs.Building.Confinement
import JsonSchema.Proofs.Building.Marks
import JsonSchema.Proofs.Coercion.Acceptance

/-!
# Judgements after a change at the root

When only the root of a schema changes, and only some of its keywords, then all nodes below it and all other
keywords judge as before, as long as nothing below the root leads back to it.
-/

namespace JsonSchema

open Schema

/-! ## Nodes that only their keywords decide for -/

/-- There is no hook, no reference and no link. -/
structure Node.IsDirect (n : Node) : Prop where
  hooks : n.hooks = {}
  reference : n.reference? = none
  link : ∀ target, n.kind ≠ .link target

namespace Schema

/-- The root and all nodes below it are direct. -/
def IsDirect (s : Schema) : Prop := ∀ id n, s.Within id root → s.node? id = some n → n.IsDirect

/-- Validation ends without an error and finds the value valid. -/
def Accepts (s : Schema) (shared : FormatRegistry) (options : ValidateOptions) (v : Json) : Prop :=
  ∃ verdict, s.validate shared v options = .ok verdict ∧ verdict.valid = true

section Accepts

variable {s : Schema} {shared : FormatRegistry} {options : ValidateOptions} {v : Json}
  (hcoerce : options.coerce = false)
include hcoerce

theorem accepts_iff_check :
    s.Accepts shared options v ↔ (s.context shared options).check 0 root (some v)
      ⟨options.keywordPath, options.instancePath⟩ = .ok [] := by
  have hjudged : s.judged shared root options (some v) = .ok (some v) := by
    unfold judged
    dsimp only
    rw [hcoerce, if_neg Bool.false_ne_true]
  unfold Accepts validate
  rw [validateAt_eq_judged, hjudged, Except.ok_bind]
  constructor
  · rintro ⟨verdict, hverdict, hvalid⟩
    obtain ⟨found, hfound, rfl⟩ := Except.map_eq_ok_iff.1 hverdict
    rw [hfound, List.isEmpty_iff.1 hvalid]
  · intro hcheck
    exact ⟨_, Except.map_eq_ok_iff.2 ⟨[], hcheck, rfl⟩, rfl⟩

theorem accepts_iff_keywords {n : Node} (hn : s.node? root = some n) (hdirect : n.IsDirect)
    (hkind : n.kind = .object) :
    s.Accepts shared options v ↔ (!options.ignoreUnsupported && n.declares "$defs") = false ∧
      ∀ k ∈ n.keywords, k.check (s.context shared options)
        ((s.context shared options).judgeBelow 0 root) 0 n v
        ⟨options.keywordPath, options.instancePath⟩ = .ok [] := by
  have hrejection : ∀ at_, n.rejection? (some v) at_ = none := by
    intro at_
    simp only [Node.rejection?, hdirect.hooks]
  have hignore : (s.context shared options).ignoreUnsupported = options.ignoreUnsupported := rfl
  rw [accepts_iff_check hcoerce, Context.check_of_node hn hdirect.link, Context.answer, hkind]
  dsimp only
  rw [Context.weigh, hrejection, hignore, hdirect.reference]
  dsimp only
  cases !options.ignoreUnsupported && n.declares "$defs" with
  | true => simp
  | false =>
    rw [if_neg Bool.false_ne_true]
    exact ⟨fun h => ⟨rfl, Outcome.eq_pass_of_ofAll h⟩, fun h => Outcome.ofAll_eq_pass h.2⟩

end Accepts

/-! ## What is below the root -/

/-- Below its root the second schema has the nodes of the first one. -/
structure SharesBelow (s t : Schema) : Prop where
  size_le : s.size ≤ t.size
  node?_eq : ∀ id, id ≠ root → id < s.size → t.node? id = s.node? id

namespace SharesBelow

variable {s t u : Schema}

theorem trans (h : s.SharesBelow t) (h' : t.SharesBelow u) : s.SharesBelow u where
  size_le := Nat.le_trans h.size_le h'.size_le
  node?_eq := fun id hroot hid =>
    (h'.node?_eq id hroot (Nat.lt_of_lt_of_le hid h.size_le)).trans (h.node?_eq id hroot hid)

theorem modifyRoot (s : Schema) (f : Node → Node) : s.SharesBelow (s.modifyRoot f) where
  size_le := Nat.le_of_eq (size_modify s root f).symm
  node?_eq := by
    intro id hroot _
    unfold Schema.modifyRoot
    rw [node?_modify, if_neg (Ne.symm hroot)]

theorem adopt (s child : Schema) : s.SharesBelow (s.adopt child).1 where
  size_le := by
    rw [size_adopt]
    exact Nat.le_add_right _ _
  node?_eq := fun _ _ hid => node?_adopt_left s child hid

theorem syncRequired (s : Schema) : s.SharesBelow (s.syncRequired root) := by
  unfold Schema.syncRequired
  cases s.node? root with
  | none => exact ⟨Nat.le_refl _, fun _ _ _ => rfl⟩
  | some n => exact modifyRoot s _

theorem close (s : Schema) : s.SharesBelow s.close := by
  unfold Schema.close
  dsimp only
  split
  · exact syncRequired s
  · exact ((syncRequired s).trans (adopt _ _)).trans (modifyRoot _ _)

end SharesBelow

end Schema

namespace Context

/-- The contexts differ at most in the schema. -/
structure SameSettings (c c' : Context) : Prop where
  formats : c'.formats = c.formats
  shortCircuit : c'.shortCircuit = c.shortCircuit
  ignoreUnsupported : c'.ignoreUnsupported = c.ignoreUnsupported

section Below

variable {c c' : Context} (hset : c.SameSettings c') (ho : c.schema.Orderly)
  (hshares : c.schema.SharesBelow c'.schema)

include ho in
theorem ne_root_of_heldBy {parent child : NodeId} (hheld : c.schema.HeldBy child parent) : child ≠ root :=
  Nat.ne_of_gt (Nat.zero_lt_of_lt (ho.below_of_heldBy hheld).1)

include ho hshares in
theorem below_of_sharesBelow {parent child : NodeId} (hheld : c.schema.HeldBy child parent) :
    c'.schema.Below parent child := by
  have hbelow := ho.below_of_heldBy hheld
  exact ⟨hbelow.1, Nat.lt_of_lt_of_le hbelow.2 hshares.size_le⟩

variable (hdirect : c.schema.IsDirect)
include ho hshares hdirect

/-- No child is a link, and both schemas have the same node there. -/
theorem follow_of_sharesBelow {id child : NodeId} (hwithin : c.schema.Within id root)
    (hheld : c.schema.HeldBy child id) (hops : Nat) :
    (c'.schema.follow hops child).map (fun r => c'.schema.kind? r.2) =
      (c.schema.follow hops child).map fun r => c.schema.kind? r.2 := by
  have hchild := (ho.below_of_heldBy hheld).2
  obtain ⟨n, hn⟩ : ∃ n, c.schema.node? child = some n := ⟨_, Array.getElem?_eq_getElem hchild⟩
  have hn' := hshares.node?_eq child (ne_root_of_heldBy ho hheld) hchild
  have hlink := (hdirect child _ (hwithin.head hheld) hn).link
  rw [follow_of_node hn hlink, follow_of_node (hn'.trans hn) hlink, Except.map, Except.map, kind?, hn', kind?]

include hset

/-- By what is below: a node is looked at after all nodes that it holds. -/
theorem check_of_sharesBelow {id : NodeId} (hwithin : c.schema.Within id root) (hroot : id ≠ root)
    (hops : Nat) (v : Json) (at_ : Location) :
    c'.check hops id (some v) at_ = c.check hops id (some v) at_ := by
  induction hleft : c.schema.size - id using Nat.strongRecOn generalizing id v at_ with | ind left ih
  subst hleft
  have hid := ho.lt_size_of_within hwithin
  obtain ⟨n, hn⟩ : ∃ n, c.schema.node? id = some n := ⟨_, Array.getElem?_eq_getElem hid⟩
  have hn' : c'.schema.node? id = some n := by rw [hshares.node?_eq id hroot hid, hn]
  have hnode := hdirect id n hwithin hn
  have hasked : Outcome.ofAll c.shortCircuit
      (fun k => k.check c' (c'.judgeBelow hops id) hops n v at_) n.keywords =
        Outcome.ofAll c.shortCircuit (fun k => k.check c (c.judgeBelow hops id) hops n v at_) n.keywords := by
    refine asked_congr c' c hset.formats (fun child hchild w p => ?_) (fun child hchild => ?_) _ v at_
    · have hheld : c.schema.HeldBy child id := ⟨n, hn, hchild⟩
      have hbelow := ho.below_of_heldBy hheld
      rw [judgeBelow_of_below hbelow, judgeBelow_of_below (below_of_sharesBelow ho hshares hheld)]
      exact ih _ hbelow.size_sub_lt (hwithin.head hheld) (ne_root_of_heldBy ho hheld) w p rfl
    · exact follow_of_sharesBelow ho hshares hdirect hwithin ⟨n, hn, hchild⟩ hops
  rw [check_of_node hn hnode.link, check_of_node hn' hnode.link]
  unfold answer weigh
  rw [hnode.reference, hset.ignoreUnsupported, hset.shortCircuit]
  dsimp only
  rw [hasked]

theorem check_root_of_sharesBelow {n : Node} (hn : c.schema.node? root = some n) {k : Keyword}
    (hk : k ∈ n.keywords) (v : Json) (at_ : Location) :
    k.check c' (c'.judgeBelow 0 root) 0 n v at_ = k.check c (c.judgeBelow 0 root) 0 n v at_ := by
  refine Keyword.check_congr c' c hset.formats (fun child hchild w p => ?_) (fun child hchild => ?_) hk v at_
  · have hheld : c.schema.HeldBy child root := ⟨n, hn, hchild⟩
    rw [judgeBelow_of_below (ho.below_of_heldBy hheld),
      judgeBelow_of_below (below_of_sharesBelow ho hshares hheld)]
    exact check_of_sharesBelow hset ho hshares hdirect (.single hheld) (ne_root_of_heldBy ho hheld) 0 w p
  · exact follow_of_sharesBelow ho hshares hdirect .refl ⟨n, hn, hchild⟩ 0

end Below

end Context

/-! ## Nodes that differ in a few keywords -/

/-- The nodes differ at most in keywords of these names. -/
structure Node.AgreesBut (names : List String) (n n' : Node) : Prop where
  kind : n'.kind = n.kind
  hooks : n'.hooks = n.hooks
  mem_iff : ∀ k : Keyword, k.name ∉ names → (k ∈ n'.keywords ↔ k ∈ n.keywords)
  find?_eq : ∀ {α : Type} {name : String} {part? : Keyword → Option α}, PartOf name part? →
    name ∉ names → n'.find? part? = n.find? part?

namespace Node

variable {names : List String} {n n' n'' : Node}

theorem AgreesBut.trans (h : n.AgreesBut names n') (h' : n'.AgreesBut names n'') :
    n.AgreesBut names n'' where
  kind := h'.kind.trans h.kind
  hooks := h'.hooks.trans h.hooks
  mem_iff := fun k hk => (h'.mem_iff k hk).trans (h.mem_iff k hk)
  find?_eq := fun hpart hname => (h'.find?_eq hpart hname).trans (h.find?_eq hpart hname)

theorem agreesBut_setKeyword (hn : (n.keywords.map (·.name)).Nodup) {k : Keyword} (hk : k.name ∈ names) :
    n.AgreesBut names (n.setKeyword k) where
  kind := rfl
  hooks := rfl
  mem_iff := by
    intro k' hk'
    have hne : k'.name ≠ k.name := fun heq => hk' (heq ▸ hk)
    have hother : k' ≠ k := fun heq => hne (heq ▸ rfl)
    simp [mem_setKeyword_iff hn, hne, hother]
  find?_eq := fun hpart hname => find?_setKeyword_of_ne hpart fun heq => hname (heq ▸ hk)

theorem agreesBut_removeKeyword {removed : String} (hremoved : removed ∈ names) :
    n.AgreesBut names (n.removeKeyword removed) where
  kind := rfl
  hooks := rfl
  mem_iff := by
    intro k hk
    have hne : k.name ≠ removed := fun heq => hk (heq ▸ hremoved)
    simp [removeKeyword, hne]
  find?_eq := fun hpart hname => find?_removeKeyword_of_ne hpart fun heq => hname (heq ▸ hremoved)

namespace AgreesBut

variable (h : n.AgreesBut names n')
include h

theorem single?_eq {slot : Slot} (hslot : slot.name ∉ names) : n'.single? slot = n.single? slot :=
  h.find?_eq (partOf_single? slot) hslot

theorem properties_eq (hname : "properties" ∉ names) : n'.properties = n.properties := by
  rw [Node.properties_eq, h.find?_eq partOf_properties? hname, Node.properties_eq]

theorem patterns_eq (hname : "patternProperties" ∉ names) : n'.patterns = n.patterns := by
  unfold patterns
  rw [h.find?_eq (fun k entries hk => ?_) hname]
  split at hk
  · rfl
  · cases hk

theorem prefixItems_eq (hname : "prefixItems" ∉ names) : n'.prefixItems = n.prefixItems := by
  unfold prefixItems
  rw [h.find?_eq (fun k ids hk => ?_) hname]
  split at hk
  · rfl
  · cases hk

theorem count?_eq {which : Count} (hname : which.name ∉ names) : n'.count? which = n.count? which := by
  refine h.find?_eq (fun k limit hk => ?_) hname
  split at hk
  · split at hk
    · next heq =>
      rw [← heq]
      rfl
    · cases hk
  · cases hk

theorem declares_eq {name : String} (hname : name ∉ names) : n'.declares name = n.declares name := by
  rw [Bool.eq_iff_iff, declares, declares, List.any_eq_true, List.any_eq_true]
  simp only [beq_iff_eq]
  constructor
  all_goals
    rintro ⟨k, hk, rfl⟩
    exact ⟨k, by simpa only [h.mem_iff k hname] using hk, rfl⟩

theorem isDirect (hname : "$ref" ∉ names) (hn : n.IsDirect) : n'.IsDirect where
  hooks := h.hooks.trans hn.hooks
  reference := (h.find?_eq partOf_reference? hname).trans hn.reference
  link := fun target => h.kind ▸ hn.link target

end AgreesBut

end Node

/-! ## Keywords beside others -/

/-- Of the other keywords of its node a keyword sees the branches, the prefix and the limits on contained
items; only the keyword for extra members sees the properties and patterns. -/
theorem Keyword.check_of_agreesBut {names : List String} {n n' : Node} (h : n.AgreesBut names n')
    (hconsequent : "then" ∉ names) (halternative : "else" ∉ names) (hpositional : "prefixItems" ∉ names)
    (hleast : "minContains" ∉ names) (hmost : "maxContains" ∉ names) {k : Keyword}
    (hk : k.name ≠ "additionalProperties") (c : Context) (judge : Judge) (hops : Nat) (v : Json)
    (at_ : Location) : k.check c judge hops n' v at_ = k.check c judge hops n v at_ := by
  cases k with
  | single slot id =>
    cases slot with
    | additionalProperties => exact absurd rfl hk
    | condition =>
      show checkCondition judge n' id v at_ = checkCondition judge n id v at_
      have hslot : ∀ slot : Slot, slot = .consequent ∨ slot = .alternative → n'.single? slot = n.single? slot := by
        rintro slot (rfl | rfl)
        · exact h.single?_eq hconsequent
        · exact h.single?_eq halternative
      unfold checkCondition
      rw [hslot .consequent (.inl rfl), hslot .alternative (.inr rfl)]
      split
      · rfl
      · congr 1
        funext accepted
        cases accepted with
        | true => simp only [if_true, hslot .consequent (.inl rfl)]
        | false => simp only [Bool.false_eq_true, if_false, hslot .alternative (.inr rfl)]
    | items =>
      cases v with
      | array items =>
        show checkItems judge n' id items at_ = checkItems judge n id items at_
        rw [checkItems, h.prefixItems_eq hpositional, checkItems]
      | _ => rfl
    | contains =>
      cases v with
      | array items =>
        show checkContains judge n' id items at_ = checkContains judge n id items at_
        have hleast : n'.count? .minContains = n.count? .minContains := h.count?_eq hleast
        have hmost : n'.count? .maxContains = n.count? .maxContains := h.count?_eq hmost
        rw [checkContains, hleast, hmost, checkContains]
      | _ => rfl
    | _ => cases v <;> rfl
  | leaf l => rfl
  | listed slot ids => cases slot <;> cases v <;> rfl
  | keyed slot entries => cases slot <;> cases v <;> rfl
  | patternProperties entries => cases v <;> rfl

end JsonSchema
