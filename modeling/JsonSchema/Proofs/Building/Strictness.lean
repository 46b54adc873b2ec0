import JsonSchema.Proofs.Evaluation.Changes

/-!
# Strict objects

A strict object requires its properties anew and admits no members but those that it knows. Nothing else
changes: if the object required just these properties before, only the unknown members make a difference.
-/

namespace JsonSchema

open Schema

/-! ## What a strict object asks for -/

/-- All members are declared as properties or have keys that a pattern matches. -/
def Node.Knows (n : Node) (v : Json) : Prop :=
  ∀ ms : Members, v = .object ms → ∀ key ∈ ms.keys,
    (∃ e ∈ n.properties, e.1 = key) ∨ ∃ p ∈ n.patterns, p.occursIn key = true

namespace Schema

/-- The keywords that a strict object says anew. -/
def renewed : List String := ["required", "additionalProperties"]

end Schema

/-- All keys are there if the value is an object. -/
def Json.HasKeys (v : Json) (keys : List String) : Prop :=
  ∀ ms : Members, v = .object ms → ∀ key ∈ keys, ms.hasKey key = true

/-- The node requires the properties that may not be absent, and nothing else. -/
def Schema.RequiresMandatory (s : Schema) (n : Node) : Prop :=
  ∀ key, key ∈ n.required?.getD [] ↔ key ∈ s.mandatory n

/-! ## The renewed keywords -/

namespace Keyword

variable {k : Keyword} {c : Context} {judge : Judge} {hops : Nat} {n : Node} {v : Json} {at_ : Location}

theorem cases_required (h : k.name = "required") :
    (∃ keys, k = .leaf (.required keys)) ∨ ∃ v, k = .leaf (.note "required" v) := by
  cases k with
  | leaf l =>
    cases l with
    | required keys => exact .inl ⟨keys, rfl⟩
    | note name v => exact .inr ⟨v, by rw [← h]; rfl⟩
    | count which => cases which <;> simp [name, Leaf.name, Count.name] at h
    | bound which => cases which <;> simp [name, Leaf.name, Bound.name] at h
    | _ => simp [name, Leaf.name] at h
  | single slot => cases slot <;> simp [name, Slot.name] at h
  | listed slot => cases slot <;> simp [name, ListSlot.name] at h
  | keyed slot => cases slot <;> simp [name, KeyedSlot.name] at h
  | patternProperties => simp [name] at h

theorem cases_extra (h : k.name = "additionalProperties") :
    (∃ id, k = .single .additionalProperties id) ∨ ∃ v, k = .leaf (.note "additionalProperties" v) := by
  cases k with
  | leaf l =>
    cases l with
    | note name v => exact .inr ⟨v, by rw [← h]; rfl⟩
    | count which => cases which <;> simp [name, Leaf.name, Count.name] at h
    | bound which => cases which <;> simp [name, Leaf.name, Bound.name] at h
    | _ => simp [name, Leaf.name] at h
  | single slot id =>
    cases slot with
    | additionalProperties => exact .inl ⟨id, rfl⟩
    | _ => simp [name, Slot.name] at h
  | listed slot => cases slot <;> simp [name, ListSlot.name] at h
  | keyed slot => cases slot <;> simp [name, KeyedSlot.name] at h
  | patternProperties => simp [name] at h

theorem check_required_iff {keys : List String} :
    (leaf (.required keys)).check c judge hops n v at_ = .ok [] ↔ v.HasKeys keys := by
  show Leaf.check c.formats (.required keys) v at_ = .ok [] ↔ _
  unfold Leaf.check Json.HasKeys
  cases v with
  | object ms =>
    dsimp only
    constructor
    · rintro hcheck _ ⟨⟩
      exact List.all_eq_true.1 (Outcome.eq_true_of_require hcheck)
    · intro hkeys
      rw [Outcome.require, if_pos (List.all_eq_true.2 (hkeys ms rfl))]
  | _ => exact iff_of_true rfl (by simp)

theorem filter_isExtra_eq_nil_iff {ms : Members} :
    ms.filter (n.isExtra ·.1) = [] ↔ n.Knows (.object ms) := by
  rw [List.filter_eq_nil_iff]
  have hextra : ∀ key, ¬(n.isExtra key = true) ↔
      (∃ e ∈ n.properties, e.1 = key) ∨ ∃ p ∈ n.patterns, p.occursIn key = true := by
    intro key
    simp only [Node.isExtra, Bool.and_eq_true, Bool.not_eq_true', not_and_or, Bool.not_eq_false,
      List.any_eq_true, beq_iff_eq]
  constructor
  · rintro hnone _ ⟨⟩ key hkey
    obtain ⟨m, hm, rfl⟩ := List.mem_map.1 hkey
    exact (hextra m.1).1 (hnone m hm)
  · intro hknows m hm
    exact (hextra m.1).2 (hknows ms rfl m.1 (List.mem_map_of_mem hm))

theorem check_extra_of_knows (hk : k.name = "additionalProperties") (hknows : n.Knows v) :
    k.check c judge hops n v at_ = .ok [] := by
  rcases cases_extra hk with ⟨id, rfl⟩ | ⟨w, rfl⟩
  · cases v with
    | object ms =>
      show checkExtra c judge hops n id ms at_ = .ok []
      rw [checkExtra, filter_isExtra_eq_nil_iff.2 hknows]
      rfl
    | _ => rfl
  · rfl

theorem knows_of_check_extra {id : NodeId} (hid : c.schema.kind? id = some (.constant false))
    (hcheck : (single .additionalProperties id).check c judge hops n v at_ = .ok []) : n.Knows v := by
  cases v with
  | object ms =>
    refine filter_isExtra_eq_nil_iff.1 ?_
    have hfollow : c.schema.follow hops id = .ok (hops, id) := by
      refine follow_eq_self (fun target hlink => ?_) hops
      rw [hid] at hlink
      cases hlink
    have hcheck : checkExtra c judge hops n id ms at_ = .ok [] := hcheck
    unfold checkExtra at hcheck
    dsimp only at hcheck
    rw [hfollow, Except.ok_bind, hid] at hcheck
    split at hcheck
    · next hempty => exact List.isEmpty_iff.1 hempty
    · cases Outcome.eq_true_of_require hcheck
  | _ => rintro ms ⟨⟩

end Keyword

/-! ## The root of a strict object -/

/-- The second node requires these keys and admits nothing by itself; for the rest it is the first one. -/
structure Node.MadeStrict (n n' : Node) (keys : List String) (never : NodeId) : Prop where
  others : n.AgreesBut renewed n'
  required : ∀ k ∈ n'.keywords, k.name = "required" → k = .leaf (.required keys)
  requires : keys ≠ [] → .leaf (.required keys) ∈ n'.keywords
  extra : .single .additionalProperties never ∈ n'.keywords

theorem Node.agreesBut_requiring {n : Node} (hn : (n.keywords.map (·.name)).Nodup) {names : List String}
    (hrequired : "required" ∈ names) (keys : List String) : n.AgreesBut names (n.requiring keys) := by
  unfold requiring
  split
  · exact agreesBut_removeKeyword hrequired
  · exact agreesBut_setKeyword hn hrequired

theorem Node.mem_requiring {n : Node} (hn : (n.keywords.map (·.name)).Nodup) {keys : List String} {k : Keyword}
    (hk : k.name = "required") :
    k ∈ (n.requiring keys).keywords ↔ keys ≠ [] ∧ k = .leaf (.required keys) := by
  unfold requiring
  split
  · next hempty =>
    rw [List.isEmpty_iff] at hempty
    simp [removeKeyword, hk, hempty]
  · next hempty =>
    rw [List.isEmpty_iff] at hempty
    have hname : k.name = (Keyword.leaf (.required keys)).name := hk
    rw [mem_setKeyword_iff hn]
    simp [hempty, hname]

namespace Schema

variable {s : Schema} {n : Node}

theorem node?_setSingle_root (hn : s.node? root = some n) (slot : Slot) (c : Schema) :
    (s.setSingle slot c).node? root = some (n.setKeyword (.single slot s.size)) := by
  have hroot := node?_adopt_left s c (lt_size_of_node? hn)
  exact (node?_modifyRoot (hroot.trans hn) _ root).trans (if_pos rfl)

theorem kind?_setSingle_constant (s : Schema) (slot : Slot) (accepts : Bool) :
    (s.setSingle slot (ofNode (.ofKind (.constant accepts)))).kind? s.size = some (.constant accepts) := by
  have hright := node?_adopt_right s (ofNode (.ofKind (.constant accepts))) 0
  unfold setSingle
  dsimp only
  rw [kind?_setKeyword]
  exact congrArg (Option.map (·.kind)) hright

theorem madeStrict_setExtra {m : Node} (hnames : (m.keywords.map (·.name)).Nodup) {keys : List String}
    (hothers : n.AgreesBut renewed m)
    (hrequired : ∀ k : Keyword, k.name = "required" →
      (k ∈ m.keywords ↔ keys ≠ [] ∧ k = .leaf (.required keys))) (never : NodeId) :
    n.MadeStrict (m.setKeyword (.single .additionalProperties never)) keys never := by
  have hmem : ∀ k : Keyword, k.name = "required" →
      (k ∈ (m.setKeyword (.single .additionalProperties never)).keywords ↔ k ∈ m.keywords) := by
    intro k hname
    have hne : k.name ≠ (Keyword.single .additionalProperties never).name := by
      rw [hname]
      simp [Keyword.name, Slot.name]
    rw [Node.mem_setKeyword_iff hnames]
    exact ⟨fun h => (h.resolve_left fun heq => hne (heq ▸ rfl)).1, fun h => .inr ⟨h, hne⟩⟩
  have hlast : m.AgreesBut renewed (m.setKeyword (.single .additionalProperties never)) :=
    Node.agreesBut_setKeyword hnames (List.mem_cons_of_mem _ List.mem_cons_self)
  refine ⟨hothers.trans hlast, fun k hk hname => ?_, fun hkeys => ?_, Node.mem_setKeyword_self _ _⟩
  · exact ((hrequired k hname).1 ((hmem k hname).1 hk)).2
  · exact (hmem (.leaf (.required _)) rfl).2 ((hrequired (.leaf (.required _)) rfl).2 ⟨hkeys, rfl⟩)

theorem exists_madeStrict (ho : s.Orderly) (hn : s.node? root = some n) :
    ∃ n' never, s.close.node? root = some n' ∧ s.close.kind? never = some (.constant false) ∧
      n.MadeStrict n' (s.mandatory n) never := by
  have hnames := ho.names root n hn
  have hsync := node?_syncRequired_root hn
  have hnames' := ho.syncRequired.names root _ hsync
  have hsynced : n.AgreesBut renewed _ := n.agreesBut_requiring hnames List.mem_cons_self (s.mandatory n)
  have hrequired : ∀ k : Keyword, k.name = "required" → _ := fun k =>
    @n.mem_requiring hnames (s.mandatory n) k
  generalize n.requiring (s.mandatory n) = m at *
  unfold Schema.close
  dsimp only
  split
  -- The object was closed already, so nothing is set besides the required keys.
  · next hclosed =>
    rw [hsync] at hclosed
    obtain ⟨never, hnever, hkind⟩ := Option.bind_eq_some_iff.1 hclosed
    refine ⟨m, never, hsync, hkind, hsynced, fun k hk hname => ((hrequired k hname).1 hk).2, fun hkeys => ?_,
      Node.mem_keywords_of_single? hnever⟩
    exact (hrequired (.leaf (.required _)) rfl).2 ⟨hkeys, rfl⟩
  · exact ⟨_, _, node?_setSingle_root hsync _ _, kind?_setSingle_constant _ _ _,
      madeStrict_setExtra hnames' hsynced hrequired _⟩

/-! ## Which values pass -/

section Accepts

variable (ho : s.Orderly) (hdirect : s.IsDirect) (hn : s.node? root = some n) (hkind : n.kind = .object)
  (shared : FormatRegistry) {options : ValidateOptions} (hcoerce : options.coerce = false)

/-- What the keywords of the root ask for that a strict object leaves alone. -/
def OthersPass (s : Schema) (n : Node) (shared : FormatRegistry) (options : ValidateOptions) (v : Json) : Prop :=
  (!options.ignoreUnsupported && n.declares "$defs") = false ∧
    ∀ k ∈ n.keywords, k.name ∉ renewed → k.check (s.context shared options)
      ((s.context shared options).judgeBelow 0 root) 0 n v ⟨options.keywordPath, options.instancePath⟩ = .ok []

include ho hdirect hn hkind hcoerce

/-- A schema that differs from the first one in the renewed keywords of its root asks for nothing else
besides. -/
theorem accepts_iff_of_agreesBut {t : Schema} {n' : Node} (hshares : s.SharesBelow t)
    (hn' : t.node? root = some n') (hagrees : n.AgreesBut renewed n') (v : Json) :
    t.Accepts shared options v ↔ s.OthersPass n shared options v ∧
      ∀ k ∈ n'.keywords, k.name ∈ renewed → k.check (t.context shared options)
        ((t.context shared options).judgeBelow 0 root) 0 n' v
        ⟨options.keywordPath, options.instancePath⟩ = .ok [] := by
  have hsame : ∀ k ∈ n.keywords, k.name ∉ renewed →
      k.check (t.context shared options) ((t.context shared options).judgeBelow 0 root) 0 n' v
        ⟨options.keywordPath, options.instancePath⟩ =
      k.check (s.context shared options) ((s.context shared options).judgeBelow 0 root) 0 n v
        ⟨options.keywordPath, options.instancePath⟩ := by
    intro k hk hname
    have hextra : k.name ≠ "additionalProperties" := fun heq =>
      hname (heq ▸ List.mem_cons_of_mem _ List.mem_cons_self)
    rw [Keyword.check_of_agreesBut hagrees (by decide) (by decide) (by decide) (by decide) (by decide) hextra]
    have hset : (s.context shared options).SameSettings (t.context shared options) := ⟨rfl, rfl, rfl⟩
    exact Context.check_root_of_sharesBelow hset ho hshares hdirect hn hk v _
  have hroot := hdirect root n .refl hn
  rw [accepts_iff_keywords hcoerce hn' (hagrees.isDirect (by decide) hroot) (hagrees.kind.trans hkind),
    hagrees.declares_eq (by decide), OthersPass, and_assoc]
  refine and_congr_right fun _ => ⟨fun h => ⟨fun k hk hname => ?_, fun k hk _ => h k hk⟩, ?_⟩
  · rw [← hsame k hk hname]
    exact h k ((hagrees.mem_iff k hname).2 hk)
  · rintro ⟨hothers, hrenewed⟩ k hk
    by_cases hname : k.name ∈ renewed
    · exact hrenewed k hk hname
    · have hk := (hagrees.mem_iff k hname).1 hk
      rw [hsame k hk hname]
      exact hothers k hk hname

omit ho hdirect hn hkind hcoerce in
theorem required?_eq_some_iff (hnames : (n.keywords.map (·.name)).Nodup) {keys : List String} :
    n.required? = some keys ↔ .leaf (.required keys) ∈ n.keywords := by
  have hmem : ∀ keys, n.required? = some keys → .leaf (.required keys) ∈ n.keywords := by
    intro keys hfound
    obtain ⟨k, hk, hpart⟩ := List.exists_of_findSome?_eq_some hfound
    split at hpart
    · cases hpart
      exact hk
    · cases hpart
  refine ⟨hmem keys, fun hk => ?_⟩
  cases hfound : n.required? with
  | none => simpa using List.findSome?_eq_none_iff.1 hfound _ hk
  | some keys' =>
    have heq := List.inj_on_of_nodup_map hnames (hmem keys' hfound) hk rfl
    cases heq
    rfl

omit ho hdirect hn hkind hcoerce in
theorem pass_required_iff (hnames : (n.keywords.map (·.name)).Nodup) {c : Context} {judge : Judge}
    {hops : Nat} {at_ : Location} {v : Json} :
    (∀ k ∈ n.keywords, k.name = "required" → k.check c judge hops n v at_ = .ok []) ↔
      v.HasKeys (n.required?.getD []) := by
  constructor
  · intro h
    cases hkeys : n.required? with
    | none => exact fun _ _ key hkey => absurd hkey List.not_mem_nil
    | some keys => exact Keyword.check_required_iff.1 (h _ ((required?_eq_some_iff hnames).1 hkeys) rfl)
  · intro h k hk hname
    rcases Keyword.cases_required hname with ⟨keys, rfl⟩ | ⟨w, rfl⟩
    · rw [(required?_eq_some_iff hnames).2 hk] at h
      exact Keyword.check_required_iff.2 h
    · rfl

theorem accepts_strict_iff (v : Json) :
    s.close.Accepts shared options v ↔
      s.OthersPass n shared options v ∧ v.HasKeys (s.mandatory n) ∧ n.Knows v := by
  obtain ⟨n', never, hn', hnever, hmade⟩ := exists_madeStrict ho hn
  have hknows : n'.Knows v ↔ n.Knows v := by
    unfold Node.Knows
    rw [hmade.others.properties_eq (by decide), hmade.others.patterns_eq (by decide)]
  rw [accepts_iff_of_agreesBut ho hdirect hn hkind shared hcoerce (.close s) hn' hmade.others, ← hknows]
  refine and_congr_right fun _ => ⟨fun h => ⟨?_, ?_⟩, ?_⟩
  · by_cases hkeys : s.mandatory n = []
    · rw [hkeys]
      exact fun _ _ key hkey => absurd hkey List.not_mem_nil
    · exact Keyword.check_required_iff.1 (h _ (hmade.requires hkeys) List.mem_cons_self)
  · have hcheck := h _ hmade.extra (List.mem_cons_of_mem _ List.mem_cons_self)
    exact Keyword.knows_of_check_extra hnever hcheck
  · rintro ⟨hkeys, hknows⟩ k hk hname
    by_cases hrequired : k.name = "required"
    · rw [hmade.required k hk hrequired]
      exact Keyword.check_required_iff.2 hkeys
    · have hextra : k.name = "additionalProperties" :=
        List.mem_singleton.1 ((List.mem_cons.1 hname).resolve_left hrequired)
      exact Keyword.check_extra_of_knows hextra hknows

/-- As long as all members are known. -/
theorem accepts_iff_of_knows {v : Json} (hknows : n.Knows v) :
    s.Accepts shared options v ↔ s.OthersPass n shared options v ∧ v.HasKeys (n.required?.getD []) := by
  have hself : n.AgreesBut renewed n := ⟨rfl, rfl, fun _ _ => Iff.rfl, fun _ _ => rfl⟩
  have hshares : s.SharesBelow s := ⟨Nat.le_refl _, fun _ _ _ => rfl⟩
  rw [accepts_iff_of_agreesBut ho hdirect hn hkind shared hcoerce hshares hn hself,
    ← pass_required_iff (ho.names root n hn)]
  refine and_congr_right fun _ => ⟨fun h k hk hname => h k hk (hname ▸ List.mem_cons_self), ?_⟩
  intro hrequired k hk hname
  rcases List.mem_cons.1 hname with hname | hname
  · exact hrequired k hk hname
  · exact Keyword.check_extra_of_knows (List.mem_singleton.1 hname) hknows

theorem accepts_without_required_iff {v : Json} (hknows : n.Knows v) :
    (s.modifyRoot (·.removeKeyword "required")).Accepts shared options v ↔
      s.OthersPass n shared options v := by
  have hagrees : n.AgreesBut renewed (n.removeKeyword "required") :=
    Node.agreesBut_removeKeyword List.mem_cons_self
  have hn' : (s.modifyRoot (·.removeKeyword "required")).node? root = some (n.removeKeyword "required") :=
    (node?_modifyRoot hn _ root).trans (if_pos rfl)
  rw [accepts_iff_of_agreesBut ho hdirect hn hkind shared hcoerce (.modifyRoot s _) hn' hagrees]
  refine and_iff_left ?_
  intro k hk hname
  obtain ⟨_, hne⟩ := List.mem_filter.1 hk
  have hextra : k.name = "additionalProperties" :=
    List.mem_singleton.1 ((List.mem_cons.1 hname).resolve_left (by simpa using hne))
  have hknows' : (n.removeKeyword "required").Knows v := by
    unfold Node.Knows
    rw [hagrees.properties_eq (by decide), hagrees.patterns_eq (by decide)]
    exact hknows
  exact Keyword.check_extra_of_knows hextra hknows'

end Accepts

/-! ## Strict objects -/

/-- What a strict object accepts: the required keys are those of the properties that may not be absent,
and all members are known. Where just these keys were required before, nothing else has changed. -/
theorem Assembled.strict_accepts (h : s.Assembled) (hdirect : s.IsDirect) (hn : s.node? root = some n)
    (hkind : n.kind = .object) (shared : FormatRegistry) {options : ValidateOptions}
    (hcoerce : options.coerce = false) :
    ∃ t, s.strict = .ok t ∧ ∀ v,
      (t.Accepts shared options v ↔
        (s.modifyRoot (·.removeKeyword "required")).Accepts shared options v ∧
          v.HasKeys (s.mandatory n) ∧ n.Knows v) ∧
      (s.RequiresMandatory n → (t.Accepts shared options v ↔ s.Accepts shared options v ∧ n.Knows v)) := by
  have ho := h.orderly
  have hstrict : s.strict = .ok s.close := by
    rw [strict, ifObject, if_pos]
    rw [kind?, hn, Option.map_some, hkind]
  have hclose := accepts_strict_iff ho hdirect hn hkind shared hcoerce
  refine ⟨s.close, hstrict, fun v => ⟨?_, fun hsame => ?_⟩⟩
  · rw [hclose v, ← and_assoc, ← and_assoc, and_congr_left_iff]
    intro hknows
    rw [accepts_without_required_iff ho hdirect hn hkind shared hcoerce hknows]
  · have hkeys : v.HasKeys (s.mandatory n) ↔ v.HasKeys (n.required?.getD []) := by
      unfold Json.HasKeys
      simp only [hsame _]
    rw [hclose v, ← and_assoc, and_congr_left_iff]
    intro hknows
    rw [accepts_iff_of_knows ho hdirect hn hkind shared hcoerce hknows, hkeys]

theorem IsDirect.of_everywhere (h : s.Everywhere Node.IsDirect) : s.IsDirect := fun id n _ hn => h id n hn

/-- The root of an object with one property, which it requires. -/
def ownerNode : Node where
  kind := .object
  keywords := [.leaf (.types [.object]), .keyed .properties [("a", 1)], .leaf (.required ["a"])]

theorem isDirect_owner : (⟨#[ownerNode, .ofKind .any]⟩ : Schema).IsDirect := by
  refine .of_everywhere fun id n hn => ?_
  match id, hn with
  | 0, hn =>
    cases hn
    exact ⟨rfl, rfl, by simp [ownerNode]⟩
  | 1, hn =>
    cases hn
    exact ⟨rfl, rfl, by simp [Node.ofKind]⟩
  | id + 2, hn => simp [node?] at hn

/-- Only unknown members make a difference to an object that requires its one property. -/
theorem strict_accepts_owner : ∃ s n t, (Expr.object .plain [("a", .any)]).build = .ok s ∧
    s.node? root = some n ∧ s.strict = .ok t ∧ s.RequiresMandatory n ∧
    ∀ v, t.Accepts .builtin {} v ↔ s.Accepts .builtin {} v ∧ n.Knows v := by
  have hbuild : (Expr.object .plain [("a", .any)]).build = .ok ⟨#[ownerNode, .ofKind .any]⟩ := by
    with_unfolding_all rfl
  have hscope : ∀ entry ∈ ([] : List (String × Schema)), entry.2.Assembled := by simp
  have hcoerce : ({} : ValidateOptions).coerce = false := rfl
  obtain ⟨t, ht, haccepts⟩ :=
    (Assembled.built hscope hbuild).strict_accepts isDirect_owner rfl rfl .builtin hcoerce
  have hsame : (⟨#[ownerNode, .ofKind .any]⟩ : Schema).RequiresMandatory ownerNode := fun _ => Iff.rfl
  exact ⟨_, _, t, hbuild, rfl, ht, hsame, fun v => (haccepts v).2 hsame⟩

/-- The root of an object that requires a key without declaring it. -/
def askingNode : Node where
  kind := .object
  keywords := [.leaf (.types [.object]), .leaf (.required ["a"])]

/-- A key that is required but not declared is no longer required of a strict object. -/
theorem strict_forgets_required : ∃ s n t,
    ofJson (.object [("type", .string "object"), ("required", .array [.string "a"])]) = .ok s ∧
      s.IsDirect ∧ s.node? root = some n ∧ n.kind = .object ∧ s.strict = .ok t ∧
      n.Knows (.object []) ∧ t.Accepts .builtin {} (.object []) ∧ ¬s.Accepts .builtin {} (.object []) := by
  have hload : ofJson (.object [("type", .string "object"), ("required", .array [.string "a"])]) =
      .ok (ofNode askingNode) := by with_unfolding_all rfl
  have ho : (ofNode askingNode).Orderly := orderly_ofJson hload
  have hdirect : (ofNode askingNode).IsDirect :=
    .of_everywhere (everywhere_ofNode ⟨rfl, rfl, by simp [askingNode]⟩)
  have hcoerce : ({} : ValidateOptions).coerce = false := rfl
  have hknows : askingNode.Knows (.object []) := by
    rintro _ ⟨⟩ key hkey
    cases hkey
  have hothers : (ofNode askingNode).OthersPass askingNode .builtin {} (.object []) := by
    refine ⟨by decide, fun k hk hname => ?_⟩
    rcases List.mem_cons.1 hk with rfl | hk
    · rfl
    · rw [List.mem_singleton.1 hk] at hname
      exact absurd List.mem_cons_self hname
  have hkeys : (Json.object []).HasKeys ((ofNode askingNode).mandatory askingNode) := by
    rintro _ _ key hkey
    cases hkey
  refine ⟨_, askingNode, (ofNode askingNode).close, hload, hdirect, rfl, rfl, rfl, hknows, ?_, ?_⟩
  · exact (accepts_strict_iff ho hdirect rfl rfl .builtin hcoerce _).2 ⟨hothers, hkeys, hknows⟩
  · rw [accepts_iff_of_knows ho hdirect rfl rfl .builtin hcoerce hknows]
    rintro ⟨_, hmissing⟩
    exact Bool.false_ne_true (hmissing [] rfl "a" (List.mem_singleton.2 rfl))

end Schema

end JsonSchema
