import JsonSchema.Proofs.Building.Strictness

/-!
# Strict and partial objects

Both ways to change an object renew the list of the required keys from the marks of the properties. Doing the
same twice is doing it once, and the order of the two makes no difference: not to the nodes, not to their number,
and not to the order of the keywords.
-/

namespace JsonSchema

open Schema

/-! ## The list of the required keys -/

namespace Node

variable {n : Node} {k : Keyword} {keys : List String}

/-- The list of the required keys is this one, or there is none if there are no keys. -/
def Requires (n : Node) (keys : List String) : Prop :=
  ∀ k : Keyword, k.name = "required" → (k ∈ n.keywords ↔ keys ≠ [] ∧ k = .leaf (.required keys))

theorem removeKeyword_of_not_mem {name : String} (h : ∀ k ∈ n.keywords, k.name ≠ name) :
    n.removeKeyword name = n := by
  have hkeywords : n.keywords.filter (·.name != name) = n.keywords :=
    List.filter_eq_self.2 fun k hk => bne_iff_ne.2 (h k hk)
  rw [removeKeyword, hkeywords]

theorem removeKeyword_removeKeyword (n : Node) (name : String) :
    (n.removeKeyword name).removeKeyword name = n.removeKeyword name := by
  apply removeKeyword_of_not_mem
  intro k hk
  exact bne_iff_ne.1 (List.mem_filter.1 hk).2

theorem removeKeyword_setKeyword_of_ne {name : String} (hne : k.name ≠ name) :
    (n.setKeyword k).removeKeyword name = (n.removeKeyword name).setKeyword k := by
  unfold removeKeyword setKeyword
  dsimp only
  congr 1
  have hk : (k.name != name) = true := bne_iff_ne.2 hne
  induction n.keywords with
  | nil => exact List.filter_cons_of_pos hk
  | cons old ks ih =>
    rw [setKeyword.replace, List.filter_cons]
    by_cases hsame : old.name = k.name
    · have hold : (old.name != name) = true := hsame ▸ hk
      rw [if_pos hsame, if_pos hold, setKeyword.replace, if_pos hsame, List.filter_cons, if_pos hk]
    · rw [if_neg hsame, List.filter_cons, ih]
      split
      · rw [setKeyword.replace, if_neg hsame]
      · rfl

theorem removeKeyword_setKeyword_self (n : Node) (k : Keyword) :
    (n.setKeyword k).removeKeyword k.name = n.removeKeyword k.name := by
  unfold removeKeyword setKeyword
  dsimp only
  congr 1
  induction n.keywords with
  | nil => simp [setKeyword.replace]
  | cons old ks ih =>
    rw [setKeyword.replace]
    by_cases hsame : old.name = k.name
    · simp [hsame]
    · rw [if_neg hsame, List.filter_cons, List.filter_cons, ih]

theorem setKeyword_of_mem (hn : (n.keywords.map (·.name)).Nodup) (h : k ∈ n.keywords) : n.setKeyword k = n := by
  have hkeywords : setKeyword.replace k n.keywords = n.keywords := by
    generalize n.keywords = ks at hn h ⊢
    induction ks with
    | nil => cases h
    | cons old ks ih =>
      obtain ⟨hold, hks⟩ := List.nodup_cons.1 hn
      rw [setKeyword.replace]
      rcases List.mem_cons.1 h with rfl | h
      · rw [if_pos rfl]
      · have hne : old.name ≠ k.name := fun heq => hold (List.mem_map.2 ⟨k, h, heq.symm⟩)
        rw [if_neg hne, ih hks h]
  rw [setKeyword, hkeywords]

theorem requires_requiring (hn : (n.keywords.map (·.name)).Nodup) (keys : List String) :
    (n.requiring keys).Requires keys := fun _ hk => mem_requiring hn hk

theorem Requires.requiring_eq (hn : (n.keywords.map (·.name)).Nodup) (h : n.Requires keys) :
    n.requiring keys = n := by
  unfold requiring
  split
  · next hempty =>
    apply removeKeyword_of_not_mem
    intro k hk hname
    exact ((h k hname).1 hk).1 (List.isEmpty_iff.1 hempty)
  · next hempty =>
    rw [List.isEmpty_iff] at hempty
    exact setKeyword_of_mem hn ((h (.leaf (.required keys)) rfl).2 ⟨hempty, rfl⟩)

theorem Requires.setKeyword (hn : (n.keywords.map (·.name)).Nodup) (h : n.Requires keys)
    (hk : k.name ≠ "required") : (n.setKeyword k).Requires keys := by
  intro k' hname
  have hne : k'.name ≠ k.name := fun heq => hk (heq ▸ hname)
  rw [← h k' hname, mem_setKeyword_iff hn]
  exact ⟨fun hmem => (hmem.resolve_left fun heq => hne (heq ▸ rfl)).1, fun hmem => .inr ⟨hmem, hne⟩⟩

theorem removeRequired_requiring (n : Node) (keys : List String) :
    (n.requiring keys).removeKeyword "required" = n.removeKeyword "required" := by
  unfold requiring
  split
  · exact removeKeyword_removeKeyword n "required"
  · exact removeKeyword_setKeyword_self n (.leaf (.required keys))

theorem agreesBut_required (hn : (n.keywords.map (·.name)).Nodup) (keys : List String) :
    n.AgreesBut ["required"] (n.requiring keys) := n.agreesBut_requiring hn List.mem_cons_self keys

theorem single?_setSingle (hn : (n.keywords.map (·.name)).Nodup) (slot : Slot) (child : NodeId) :
    (n.setKeyword (.single slot child)).single? slot = some child := by
  have hfound := find?_setKeyword (k := .single slot child) (partOf_single? slot) hn rfl
  exact hfound.trans (if_pos rfl)

end Node

/-! ## What becomes of each node -/

namespace Schema

variable {s t : Schema} {n : Node}

theorem ext_node? (h : ∀ id, s.node? id = t.node? id) : s = t := by
  have hnodes : s.nodes = t.nodes := Array.ext_getElem? h
  cases s
  cases t
  exact congrArg Schema.mk hnodes

theorem syncRequired_eq_self (ho : s.Orderly) (hn : s.node? root = some n) (h : n.Requires (s.mandatory n)) :
    s.syncRequired root = s := by
  refine ext_node? fun id => ?_
  rw [syncRequired_eq hn, node?_modifyRoot hn, h.requiring_eq (ho.names root n hn)]
  split
  · next hroot => rw [hroot, hn]
  · rfl

theorem mandatory_eq_nil (h : ∀ e ∈ n.properties, s.isOptional e.2 = true) : s.mandatory n = [] := by
  unfold mandatory
  rw [List.map_eq_nil_iff, List.filter_eq_nil_iff]
  intro e he
  simp [h e he]

theorem Orderly.root_not_mem_properties (ho : s.Orderly) {id : NodeId} (hn : s.node? id = some n) :
    root ∉ n.properties.map (·.2) := by
  intro hmem
  obtain ⟨e, he, heq⟩ := List.mem_map.1 hmem
  have hbelow := ho.below id n hn e.2 (Node.mem_places_of_properties he)
  exact absurd hbelow.1 (heq ▸ Nat.not_lt_zero id)

theorem node?_loosen (ho : s.Orderly) (hn : s.node? root = some n) (id : NodeId) :
    s.loosen.node? id =
      if id = root then some (n.removeKeyword "required")
      else if id ∈ n.properties.map (·.2) then (s.node? id).map fun n => { n with optional := true }
      else s.node? id := by
  unfold loosen
  rw [hn]
  dsimp only [Option.map_some, Option.getD_some]
  have hmarked := s.node?_foldl_optional n.properties
  have hroot := hmarked root
  rw [if_neg (ho.root_not_mem_properties hn), hn] at hroot
  have hoptional : ∀ e ∈ n.properties, isOptional
      (n.properties.foldl (fun s e => s.modify e.2 fun n => { n with optional := true }) s) e.2 = true := by
    intro e he
    have hbelow := ho.below root n hn e.2 (Node.mem_places_of_properties he)
    exact (isOptional_foldl_optional hbelow.2).2 (.inl (List.mem_map_of_mem he))
  rw [syncRequired_eq hroot, node?_modifyRoot hroot, mandatory_eq_nil hoptional, hmarked]
  rfl

theorem size_syncRequired (s : Schema) (id : NodeId) : (s.syncRequired id).size = s.size := by
  unfold syncRequired
  split
  · rfl
  · exact size_modify ..

theorem size_loosen (s : Schema) : s.loosen.size = s.size := by
  unfold loosen
  rw [size_syncRequired]
  induction ((s.node? root).map (·.properties)).getD [] generalizing s with
  | nil => rfl
  | cons e entries ih => rw [List.foldl_cons, ih, size_modify]

/-! ## Objects that are closed -/

/-- Members that the root does not declare are rejected by the schema that accepts nothing. -/
def IsClosed (s : Schema) : Prop :=
  ((s.node? root).bind (·.single? .additionalProperties)).bind s.kind? = some (.constant false)

theorem isClosed_iff (hn : s.node? root = some n) :
    s.IsClosed ↔ (n.single? .additionalProperties).bind s.kind? = some (.constant false) := by
  rw [IsClosed, hn, Option.bind_some]

theorem isClosed_syncRequired (ho : s.Orderly) (hn : s.node? root = some n) :
    (s.syncRequired root).IsClosed ↔ s.IsClosed := by
  have hsync := node?_syncRequired_root hn
  have hagrees := n.agreesBut_required (ho.names root n hn) (s.mandatory n)
  have hkind : (s.syncRequired root).kind? = s.kind? := funext (s.kind?_syncRequired root)
  rw [isClosed_iff hsync, isClosed_iff hn, hagrees.single?_eq (by decide), hkind]

theorem isClosed_loosen (ho : s.Orderly) (hn : s.node? root = some n) : s.loosen.IsClosed ↔ s.IsClosed := by
  have hroot := node?_loosen ho hn root
  rw [if_pos rfl] at hroot
  have hagrees := n.agreesBut_required (ho.names root n hn) []
  have hsingle : (n.removeKeyword "required").single? .additionalProperties =
    n.single? .additionalProperties := hagrees.single?_eq (by decide)
  have hkind : s.loosen.kind? = s.kind? := by
    funext id
    unfold loosen
    rw [kind?_syncRequired, kind?_foldl_optional]
  rw [isClosed_iff hroot, isClosed_iff hn, hsingle, hkind]

theorem close_of_isClosed (ho : s.Orderly) (h : s.IsClosed) : s.close = s.syncRequired root := by
  obtain ⟨n, hn⟩ := ho.exists_root
  exact if_pos ((isClosed_syncRequired ho hn).2 h)

theorem close_of_not_isClosed (ho : s.Orderly) (h : ¬s.IsClosed) :
    s.close = (s.syncRequired root).setSingle .additionalProperties (ofNode (.ofKind (.constant false))) := by
  obtain ⟨n, hn⟩ := ho.exists_root
  exact if_neg fun hclosed => h ((isClosed_syncRequired ho hn).1 hclosed)

theorem node?_setSingle_constant (hn : s.node? root = some n) (slot : Slot) (accepts : Bool) (id : NodeId) :
    (s.setSingle slot (ofNode (.ofKind (.constant accepts)))).node? id =
      if id = root then some (n.setKeyword (.single slot s.size))
      else if id = s.size then some (.ofKind (.constant accepts)) else s.node? id := by
  have hroot := node?_adopt_left s (ofNode (.ofKind (.constant accepts))) (lt_size_of_node? hn)
  unfold setSingle setKeyword
  dsimp only
  rw [node?_modifyRoot (hroot.trans hn)]
  congr 1
  rcases Nat.lt_trichotomy id s.size with hlt | rfl | hgt
  · rw [if_neg (Nat.ne_of_lt hlt), node?_adopt_left s _ hlt]
  · rw [if_pos rfl]
    exact node?_adopt_right s _ 0
  · obtain ⟨more, rfl⟩ := Nat.exists_eq_add_of_lt hgt
    rw [if_neg (Nat.ne_of_gt hgt), Nat.add_assoc, node?_adopt_right]
    exact (Array.getElem?_eq_none (Nat.le_of_lt hgt)).symm

/-! ## Twice is once -/

section Root

variable (ho : s.Orderly) (hn : s.node? root = some n)
include ho hn

theorem mandatory_close {n' : Node} (hproperties : n'.properties = n.properties) :
    s.close.mandatory n' = s.mandatory n := by
  have hoptional : ∀ e ∈ n.properties, s.close.isOptional e.2 = s.isOptional e.2 := by
    intro e he
    have hbelow := ho.below root n hn e.2 (Node.mem_places_of_properties he)
    have hroot : e.2 ≠ root := Nat.ne_of_gt hbelow.1
    have hnode := (SharesBelow.close s).node?_eq e.2 hroot hbelow.2
    rw [isOptional, hnode, isOptional]
  unfold mandatory
  rw [hproperties, List.filter_congr fun e he => by rw [hoptional e he]]

theorem exists_closed : ∃ n', s.close.node? root = some n' ∧ n'.Requires (s.mandatory n) ∧
    n'.kind = n.kind ∧ n'.properties = n.properties ∧ s.close.IsClosed := by
  have hnames := ho.names root n hn
  have hsync := node?_syncRequired_root hn
  have hnames' := ho.syncRequired.names root _ hsync
  have hrequires := n.requires_requiring hnames (s.mandatory n)
  have hagrees := n.agreesBut_required hnames (s.mandatory n)
  have hproperties := hagrees.properties_eq (by decide)
  -- It was closed before, or the keyword is set now; either leaves the list of required keys
  -- alone.
  by_cases hclosed : s.IsClosed
  · rw [close_of_isClosed ho hclosed]
    exact ⟨_, hsync, hrequires, hagrees.kind, hproperties, (isClosed_syncRequired ho hn).2 hclosed⟩
  · rw [close_of_not_isClosed ho hclosed]
    have hroot := node?_setSingle_root hsync .additionalProperties (ofNode (.ofKind (.constant false)))
    refine ⟨_, hroot, hrequires.setKeyword hnames' (by simp [Keyword.name, Slot.name]), hagrees.kind, ?_, ?_⟩
    · rw [Node.properties_setKeyword_of_ne (by simp [Keyword.name, Slot.name]), hproperties]
    · rw [isClosed_iff hroot, Node.single?_setSingle hnames', Option.bind_some]
      exact kind?_setSingle_constant _ _ _

theorem close_close : s.close.close = s.close := by
  obtain ⟨n', hn', hrequires, _, hproperties, hclosed⟩ := exists_closed ho hn
  rw [close_of_isClosed ho.close hclosed]
  apply syncRequired_eq_self ho.close hn'
  rwa [mandatory_close ho hn hproperties]

theorem root_loosen : s.loosen.node? root = some (n.removeKeyword "required") := by
  rw [node?_loosen ho hn, if_pos rfl]

theorem mandatory_loosen : s.loosen.mandatory (n.removeKeyword "required") = [] := by
  apply mandatory_eq_nil
  intro e he
  rw [Node.properties_removeRequired] at he
  have hmem : e.2 ∈ n.properties.map (·.2) := List.mem_map_of_mem he
  have hbelow := ho.below root n hn e.2 (Node.mem_places_of_properties he)
  have hroot : e.2 ≠ root := Nat.ne_of_gt hbelow.1
  obtain ⟨m, hm⟩ : ∃ m, s.node? e.2 = some m := ⟨_, Array.getElem?_eq_getElem hbelow.2⟩
  rw [isOptional, node?_loosen ho hn, if_neg hroot, if_pos hmem, hm]
  rfl

theorem requires_loosen :
    (n.removeKeyword "required").Requires (s.loosen.mandatory (n.removeKeyword "required")) := by
  rw [mandatory_loosen ho hn]
  exact n.requires_requiring (ho.names root n hn) []

theorem loosen_loosen : s.loosen.loosen = s.loosen := by
  refine ext_node? fun id => ?_
  rw [node?_loosen ho.loosen (root_loosen ho hn), Node.removeKeyword_removeKeyword,
    Node.properties_removeRequired, node?_loosen ho hn]
  by_cases hroot : id = root
  · rw [if_pos hroot, if_pos hroot]
  · rw [if_neg hroot, if_neg hroot]
    split
    · rw [Option.map_map]
      rfl
    · rfl

/-! ## The order of the two -/

theorem close_loosen_of_isClosed (hclosed : s.IsClosed) : s.loosen.close = s.close.loosen := by
  have hkept := syncRequired_eq_self ho.loosen (root_loosen ho hn) (requires_loosen ho hn)
  have hsync := node?_modifyRoot hn (·.requiring (s.mandatory n))
  rw [← syncRequired_eq hn] at hsync
  have hroot := (hsync root).trans (if_pos rfl)
  have hproperties := (n.agreesBut_required (ho.names root n hn) (s.mandatory n)).properties_eq (by decide)
  rw [close_of_isClosed ho.loosen ((isClosed_loosen ho hn).2 hclosed), hkept, close_of_isClosed ho hclosed]
  -- Both lists of required keys are gone in the end, and the marks are those of all properties.
  refine ext_node? fun id => ?_
  rw [node?_loosen ho.syncRequired hroot, Node.removeRequired_requiring, hproperties, hsync,
    node?_loosen ho hn]
  split <;> rfl

/-- The node that the closed object takes in besides is none of the properties that are marked. -/
theorem close_loosen_of_not_isClosed (hclosed : ¬s.IsClosed) : s.loosen.close = s.close.loosen := by
  have hkept := syncRequired_eq_self ho.loosen (root_loosen ho hn) (requires_loosen ho hn)
  have hnames := ho.names root n hn
  have hsync := node?_modifyRoot hn (·.requiring (s.mandatory n))
  rw [← syncRequired_eq hn] at hsync
  have hsyncroot := (hsync root).trans (if_pos rfl)
  have hclose := node?_setSingle_constant hsyncroot .additionalProperties false
  have hroot := (hclose root).trans (if_pos rfl)
  have hproperties : ((n.requiring (s.mandatory n)).setKeyword
      (.single .additionalProperties (s.syncRequired root).size)).properties = n.properties := by
    rw [Node.properties_setKeyword_of_ne (by simp [Keyword.name, Slot.name]),
      (n.agreesBut_required hnames (s.mandatory n)).properties_eq (by decide)]
  have ho' := ho.close
  rw [close_of_not_isClosed ho hclosed] at ho' ⊢
  rw [close_of_not_isClosed ho.loosen (mt (isClosed_loosen ho hn).1 hclosed), hkept]
  refine ext_node? fun id => ?_
  rw [node?_setSingle_constant (root_loosen ho hn), node?_loosen ho' hroot, hproperties,
    Node.removeKeyword_setKeyword_of_ne (by simp [Keyword.name, Slot.name]), Node.removeRequired_requiring,
    hclose, size_syncRequired, size_loosen, node?_loosen ho hn]
  by_cases hid : id = root
  · rw [if_pos hid, if_pos hid]
  · simp only [if_neg hid]
    by_cases hnew : id = s.size
    · have hfresh : id ∉ n.properties.map (·.2) := by
        intro hmem
        obtain ⟨e, he, heq⟩ := List.mem_map.1 hmem
        have hbelow := ho.below root n hn e.2 (Node.mem_places_of_properties he)
        exact Nat.ne_of_lt hbelow.2 (heq.trans hnew)
      rw [if_pos hnew, if_neg hfresh, if_pos hnew]
    · simp only [if_neg hnew, hsync, if_neg hid]

theorem close_loosen : s.loosen.close = s.close.loosen := by
  by_cases hclosed : s.IsClosed
  · exact close_loosen_of_isClosed ho hn hclosed
  · exact close_loosen_of_not_isClosed ho hn hclosed

theorem kind?_close_root : s.close.kind? root = s.kind? root := by
  obtain ⟨n', hn', _, hkind, _⟩ := exists_closed ho hn
  rw [kind?, kind?, hn', hn, Option.map_some, Option.map_some, hkind]

theorem kind?_loosen_root : s.loosen.kind? root = s.kind? root := by
  rw [kind?, kind?, root_loosen ho hn, hn]
  rfl

end Root

/-- However an object came about, to make it strict twice is to make it strict once, to make it partial twice is
to make it partial once, and either can be done first: the schemas are the same, node by node. Every other schema
refuses both and stays as it is. -/
theorem Assembled.strict_partialObject (h : s.Assembled) :
    (s.kind? root = some .object → ∃ t p u, s.strict = .ok t ∧ t.strict = .ok t ∧
      s.partialObject = .ok p ∧ p.partialObject = .ok p ∧ p.strict = .ok u ∧ t.partialObject = .ok u) ∧
    (s.kind? root ≠ some .object →
      s.strict = .error (.notAnObject "strict") ∧ s.attempt .strict = s ∧
      s.partialObject = .error (.notAnObject "partial") ∧ s.attempt .partialObject = s) := by
  have ho := h.orderly
  obtain ⟨n, hn⟩ := ho.exists_root
  constructor
  · intro hkind
    have hclose := (kind?_close_root ho hn).trans hkind
    have hloosen := (kind?_loosen_root ho hn).trans hkind
    have htwice : s.close.strict = .ok s.close.close := if_pos hclose
    have hagain : s.loosen.partialObject = .ok s.loosen.loosen := if_pos hloosen
    have hthen : s.loosen.strict = .ok s.loosen.close := if_pos hloosen
    rw [close_close ho hn] at htwice
    rw [loosen_loosen ho hn] at hagain
    rw [close_loosen ho hn] at hthen
    exact ⟨s.close, s.loosen, s.close.loosen, if_pos hkind, htwice, if_pos hkind, hagain, hthen, if_pos hclose⟩
  · intro hkind
    have hstrict : s.strict = .error (.notAnObject "strict") := if_neg hkind
    have hpartial : s.partialObject = .error (.notAnObject "partial") := if_neg hkind
    refine ⟨hstrict, ?_, hpartial, ?_⟩
    · rw [attempt, apply, hstrict]
    · rw [attempt, apply, hpartial]

/-- The root of an object that requires a key without declaring it, declares another one and lets more in. -/
def lenientNode : Node where
  kind := .object
  keywords := [.leaf (.types [.object]), .single .additionalProperties 1, .leaf (.required ["b"]),
    .keyed .properties [("a", 2)]]

theorem strict_partialObject_loaded :
    (∃ s t p u, ofJson (.object [("type", .string "object"), ("additionalProperties", .bool true),
        ("required", .array [.string "b"]), ("properties", .object [("a", .object [])])]) = .ok s ∧
      s.strict = .ok t ∧ t.strict = .ok t ∧ s.partialObject = .ok p ∧ p.partialObject = .ok p ∧
      p.strict = .ok u ∧ t.partialObject = .ok u) ∧
    ∃ s, ofJson (.object []) = .ok s ∧ s.strict = .error (.notAnObject "strict") ∧ s.attempt .strict = s := by
  have hload : ofJson (.object [("type", .string "object"), ("additionalProperties", .bool true),
      ("required", .array [.string "b"]), ("properties", .object [("a", .object [])])]) =
      .ok ⟨#[lenientNode, .ofKind (.constant true), { kind := .any, optional := true }]⟩ := by
    with_unfolding_all rfl
  have hany : ofJson (.object []) = .ok (ofNode (.ofKind .any)) := by with_unfolding_all rfl
  obtain ⟨t, p, u, hresults⟩ := (Assembled.strict_partialObject (.loaded hload)).1 rfl
  obtain ⟨hstrict, hsame, _⟩ := (Assembled.strict_partialObject (.loaded hany)).2 (by decide)
  exact ⟨⟨_, t, p, u, hload, hresults⟩, _, hany, hstrict, hsame⟩

end Schema

end JsonSchema
