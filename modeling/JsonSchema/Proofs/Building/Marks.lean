import JsonSchema.Proofs.Building.Induction
import JsonSchema.Proofs.Building.Lookup
import JsonSchema.Proofs.Recursion.Renaming

/-!
# Marks that agree with what is required

Which properties may be absent is said twice: by the marks of the properties' nodes and by the list of
required keys beside them. All ways of putting a schema together keep the two in agreement, as long as
no note takes the place of the list.
-/

namespace JsonSchema

/-! ## What a node says about its properties -/

def Keyword.properties? : Keyword → Option (List (String × NodeId))
  | .keyed .properties entries => some entries
  | _ => none

def Keyword.required? : Keyword → Option (List String)
  | .leaf (.required keys) => some keys
  | _ => none

def Keyword.single? (slot : Slot) : Keyword → Option NodeId
  | .single s child => if s = slot then some child else none
  | _ => none

namespace Node

variable {n : Node} {k : Keyword}

/-- The node with a list of just these keys, or with no list at all if there are none. -/
def requiring (n : Node) (keys : List String) : Node :=
  if keys.isEmpty then n.removeKeyword "required" else n.setKeyword (.leaf (.required keys))

/-- No note stands in the place of the required keys. -/
def ListsRequired (n : Node) : Prop := ∀ v, .leaf (.note "required" v) ∉ n.keywords

theorem partOf_properties? : PartOf "properties" Keyword.properties? := by
  intro k entries h
  unfold Keyword.properties? at h
  split at h
  · rfl
  · cases h

theorem partOf_required? : PartOf "required" Keyword.required? := by
  intro k keys h
  unfold Keyword.required? at h
  split at h
  · rfl
  · cases h

theorem partOf_single? (slot : Slot) : PartOf slot.name (Keyword.single? slot) := by
  intro k child hk
  unfold Keyword.single? at hk
  split at hk
  · split at hk
    · next heq =>
      rw [← heq]
      rfl
    · cases hk
  · cases hk

theorem properties_eq (n : Node) : n.properties = (n.find? Keyword.properties?).getD [] := rfl

theorem required?_eq (n : Node) : n.required? = n.find? Keyword.required? := rfl

theorem properties_setKeyword_of_ne (hk : k.name ≠ "properties") :
    (n.setKeyword k).properties = n.properties := by
  rw [properties_eq, properties_eq, find?_setKeyword_of_ne partOf_properties? hk]

theorem properties_setLeaf (hn : (n.keywords.map (·.name)).Nodup) {l : Leaf}
    (hl : l.name = "properties") : (n.setKeyword (.leaf l)).properties = [] := by
  have hfound := find?_setKeyword (k := .leaf l) partOf_properties? hn hl
  rw [properties_eq, hfound]
  rfl

theorem properties_removeRequired : (n.removeKeyword "required").properties = n.properties := by
  rw [properties_eq, properties_eq, find?_removeKeyword_of_ne partOf_properties? (by simp)]

theorem required?_setKeyword_of_ne (hk : k.name ≠ "required") :
    (n.setKeyword k).required? = n.required? := by
  rw [required?_eq, required?_eq, find?_setKeyword_of_ne partOf_required? hk]

theorem required?_setRequired (hn : (n.keywords.map (·.name)).Nodup) (keys : List String) :
    (n.setKeyword (.leaf (.required keys))).required? = some keys := by
  rw [required?_eq, find?_setKeyword partOf_required? hn rfl]
  rfl

theorem required?_removeRequired (n : Node) : (n.removeKeyword "required").required? = none := by
  rw [required?_eq, find?_removeKeyword partOf_required?]

theorem optional_requiring (n : Node) (keys : List String) : (n.requiring keys).optional = n.optional := by
  unfold requiring
  split <;> rfl

theorem required?_mapIds (f : NodeId → NodeId) (n : Node) : (n.mapIds f).required? = n.required? := by
  refine (find?_congr ?_ ?_ (renamed_mapIds f n)).symm
  · intro k hk
    cases k with
    | leaf l => exact absurd rfl (hk l)
    | _ => rfl
  · rintro l _ rfl
    rfl

theorem ListsRequired.of_setKeyword (h : (n.setKeyword k).ListsRequired) (hk : k.name ≠ "required") :
    n.ListsRequired := by
  intro v hv
  exact h v (mem_setKeyword_of_mem hv (Ne.symm hk))

theorem ListsRequired.of_mapIds {f : NodeId → NodeId} (h : (n.mapIds f).ListsRequired) :
    n.ListsRequired := fun v hv => h v (List.mem_map.2 ⟨_, hv, rfl⟩)

end Node

theorem Leaf.HasEdit.eq_note {l : Leaf} (h : l.HasEdit) (hname : l.name = "required") :
    ∃ v, l = .note "required" v := by
  cases l with
  | note name v => exact ⟨v, by rw [← hname]; rfl⟩
  | types | required => cases h
  | count which => cases which <;> simp [Leaf.name, Count.name] at hname
  | bound which => cases which <;> simp [Leaf.name, Bound.name] at hname
  | _ => simp [Leaf.name] at hname

namespace Schema

/-- The keys of the properties that may not be absent. -/
def mandatory (s : Schema) (n : Node) : List String :=
  (n.properties.filter fun e => !s.isOptional e.2).map (·.1)

/-- A property may be absent exactly if its key is not required. -/
def Marks (s : Schema) (n : Node) : Prop :=
  ∀ e ∈ n.properties, s.isOptional e.2 = true ↔ e.1 ∉ n.required?.getD []

/-- The node's properties are marked as it says, if it says so at all and once for each key. -/
def Synced (s : Schema) (n : Node) : Prop :=
  n.ListsRequired → (n.properties.map (·.1)).Nodup → s.Marks n

def SyncedOn (P : NodeId → Prop) (s : Schema) : Prop :=
  ∀ id n, P id → s.node? id = some n → s.Synced n

theorem synced_of_nil {s : Schema} {n : Node} (h : n.properties = []) : s.Synced n := by
  intro _ _ e he
  rw [h] at he
  cases he

theorem Synced.congr {s t : Schema} {n : Node} (h : s.Synced n)
    (hmarks : ∀ e ∈ n.properties, t.isOptional e.2 = s.isOptional e.2) : t.Synced n := by
  intro hlists hnodup e he
  rw [hmarks e he]
  exact h hlists hnodup e he

/-! ## The root after a change -/

section Root

variable {s : Schema} {n : Node}

theorem node?_modifyRoot (hn : s.node? root = some n) (f : Node → Node) (id : NodeId) :
    (s.modifyRoot f).node? id = if id = root then some (f n) else s.node? id := by
  unfold modifyRoot
  rw [node?_modify]
  by_cases hroot : id = root
  · rw [if_pos hroot.symm, if_pos hroot, hroot, hn, Option.map_some]
  · rw [if_neg (Ne.symm hroot), if_neg hroot]

theorem syncRequired_eq (hn : s.node? root = some n) :
    s.syncRequired root = s.modifyRoot (·.requiring (s.mandatory n)) := by
  unfold syncRequired
  rw [hn]
  rfl

theorem node?_syncRequired_root (hn : s.node? root = some n) :
    (s.syncRequired root).node? root = some (n.requiring (s.mandatory n)) := by
  rw [syncRequired_eq hn, node?_modifyRoot hn, if_pos rfl]

end Root

/-! ## Marks after a change -/

theorem isOptional_modify (s : Schema) (id place : NodeId) {f : Node → Node}
    (hf : ∀ n, (f n).optional = n.optional) : (s.modify id f).isOptional place = s.isOptional place := by
  unfold isOptional
  rw [node?_modify]
  split
  · rw [Option.map_map]
    congr 2
    exact funext hf
  · rfl

theorem isOptional_modify_of_ne (s : Schema) {id place : NodeId} (h : id ≠ place) (f : Node → Node) :
    (s.modify id f).isOptional place = s.isOptional place := by
  rw [isOptional, node?_modify, if_neg h, isOptional]

theorem isOptional_setKeyword (s : Schema) (k : Keyword) (id : NodeId) :
    (s.setKeyword k).isOptional id = s.isOptional id := by
  unfold setKeyword modifyRoot
  apply isOptional_modify
  intro n
  rfl

theorem isOptional_adopt_left (s c : Schema) {id : NodeId} (h : id < s.size) :
    (s.adopt c).1.isOptional id = s.isOptional id := by
  rw [isOptional, node?_adopt_left s c h, isOptional]

theorem isOptional_adopt_right (s c : Schema) (id : NodeId) :
    (s.adopt c).1.isOptional (s.size + id) = c.isOptional id := by
  rw [isOptional, node?_adopt_right, Option.map_map, isOptional]
  rfl

theorem node?_foldl_optional (s : Schema) (entries : List (String × NodeId)) (id : NodeId) :
    (entries.foldl (fun s e => s.modify e.2 fun n => { n with optional := true }) s).node? id =
      if id ∈ entries.map (·.2) then (s.node? id).map fun n => { n with optional := true }
      else s.node? id := by
  induction entries generalizing s with
  | nil => rfl
  | cons e entries ih =>
    rw [List.foldl_cons, ih, node?_modify, List.map_cons]
    by_cases hself : e.2 = id
    · subst hself
      rw [if_pos rfl, if_pos List.mem_cons_self]
      split
      · rw [Option.map_map]
        rfl
      · rfl
    · rw [if_neg hself]
      have hmem : id ∈ e.2 :: entries.map (·.2) ↔ id ∈ entries.map (·.2) := by
        rw [List.mem_cons, or_iff_right (Ne.symm hself)]
      simp only [hmem]

theorem isOptional_foldl_optional {s : Schema} {entries : List (String × NodeId)} {id : NodeId}
    (hid : id < s.size) :
    (entries.foldl (fun s e => s.modify e.2 fun n => { n with optional := true }) s).isOptional id =
      true ↔ id ∈ entries.map (·.2) ∨ s.isOptional id = true := by
  obtain ⟨n, hn⟩ : ∃ n, s.node? id = some n := ⟨_, Array.getElem?_eq_getElem hid⟩
  unfold isOptional
  rw [node?_foldl_optional, hn]
  split
  · next hmem => exact iff_of_true rfl (.inl hmem)
  · next hmem => exact (or_iff_right hmem).symm

/-! ## Taking in schemas -/

section Steps

variable {P : NodeId → Prop} {s c : Schema}

theorem SyncedOn.ofNode {n : Node} (h : n.properties = []) : SyncedOn P (Schema.ofNode n) := by
  intro id m _ hm
  obtain ⟨_, rfl⟩ := Orderly.eq_of_node?_ofNode hm
  exact synced_of_nil h

theorem SyncedOn.adopt (ho : s.Orderly) (hs : s.SyncedOn P) (hc : c.SyncedOn fun _ => True) :
    (s.adopt c).1.SyncedOn P := by
  intro id n hP hn
  rcases Orderly.node?_adopt_cases hn with ⟨_, hn⟩ | ⟨place, m, rfl, hm, rfl⟩
  -- What the schema holds itself does not see the new nodes.
  · refine (hs id n hP hn).congr fun e he => ?_
    exact isOptional_adopt_left s c (ho.below id n hn _ (Node.mem_places_of_properties he)).2
  · intro hlists hnodup e he
    rw [Node.properties_mapIds] at hnodup he
    rw [List.map_map] at hnodup
    obtain ⟨old, hold, rfl⟩ := List.mem_map.1 he
    have hmarks := hc place m trivial hm hlists.of_mapIds hnodup old hold
    rw [Node.required?_mapIds]
    dsimp only
    rwa [Nat.add_comm, isOptional_adopt_right]

theorem SyncedOn.modify (h : s.SyncedOn P) (id : NodeId) {f : Node → Node}
    (hoptional : ∀ n, (f n).optional = n.optional)
    (hf : P id → ∀ n, s.node? id = some n → s.Synced n → s.Synced (f n)) :
    (s.modify id f).SyncedOn P := by
  intro place n hP hn
  rw [node?_modify] at hn
  split at hn
  · next heq =>
    subst heq
    obtain ⟨old, hold, rfl⟩ := Option.map_eq_some_iff.1 hn
    exact (hf hP old hold (h id old hP hold)).congr fun e _ => isOptional_modify s id e.2 hoptional
  · exact (h place n hP hn).congr fun e _ => isOptional_modify s id e.2 hoptional

theorem SyncedOn.imp {Q : NodeId → Prop} (h : s.SyncedOn P) (hQ : ∀ id, Q id → P id) :
    s.SyncedOn Q := fun id n hid hn => h id n (hQ id hid) hn

theorem SyncedOn.adoptAll (ho : s.Orderly) (hs : s.SyncedOn P) {cs : List Schema}
    (hcs : ∀ c ∈ cs, c.Orderly ∧ c.SyncedOn fun _ => True) : (s.adoptAll cs).1.SyncedOn P := by
  induction cs generalizing s with
  | nil => exact hs
  | cons c cs ih =>
    rw [Orderly.adoptAll_cons]
    obtain ⟨⟨hco, hcs'⟩, hrest⟩ := List.forall_mem_cons.1 hcs
    exact ih (ho.adopt hco) (SyncedOn.adopt ho hs hcs') hrest

theorem Synced.setKeyword {n : Node} (h : s.Synced n) {k : Keyword} (hrequired : k.name ≠ "required")
    (hproperties : k.name ≠ "properties") : s.Synced (n.setKeyword k) := by
  intro hlists hnodup e he
  rw [Node.properties_setKeyword_of_ne hproperties] at hnodup he
  rw [Node.required?_setKeyword_of_ne hrequired]
  exact h (hlists.of_setKeyword hrequired) hnodup e he

theorem SyncedOn.setChildren (ho : s.Orderly) (hs : s.SyncedOn P) {cs : List Schema}
    (hcs : ∀ c ∈ cs, c.Orderly ∧ c.SyncedOn fun _ => True) {k : Keyword}
    (hrequired : k.name ≠ "required") (hproperties : k.name ≠ "properties") :
    ((s.adoptAll cs).1.setKeyword k).SyncedOn P :=
  (SyncedOn.adoptAll ho hs hcs).modify root (fun _ => rfl)
    fun _ _ _ hn => hn.setKeyword hrequired hproperties

theorem SyncedOn.setSingle (ho : s.Orderly) (hs : s.SyncedOn P) (hco : c.Orderly)
    (hc : c.SyncedOn fun _ => True) (slot : Slot) : (s.setSingle slot c).SyncedOn P := by
  have hchildren : ∀ c' ∈ [c], c'.Orderly ∧ c'.SyncedOn fun _ => True := by simpa using ⟨hco, hc⟩
  have hnames : slot.name ≠ "required" ∧ slot.name ≠ "properties" := by
    cases slot <;> simp [Slot.name]
  exact SyncedOn.setChildren (k := .single slot s.size) ho hs hchildren hnames.1 hnames.2

theorem SyncedOn.setLeaf (ho : s.Orderly) (h : s.SyncedOn P) {l : Leaf} (hl : l.HasEdit) :
    (s.setLeaf l).SyncedOn P := by
  refine h.modify root (fun _ => rfl) fun _ n hn hsynced => ?_
  have hnames := ho.names root n hn
  by_cases hrequired : l.name = "required"
  · obtain ⟨v, rfl⟩ := hl.eq_note hrequired
    exact fun hlists => absurd (n.mem_setKeyword_self _) (hlists v)
  · by_cases hproperties : l.name = "properties"
    · exact synced_of_nil (Node.properties_setLeaf hnames hproperties)
    · exact hsynced.setKeyword hrequired hproperties

/-! ## Objects -/

theorem synced_requiring {n : Node} (hnames : (n.keywords.map (·.name)).Nodup) :
    s.Synced (n.requiring (s.mandatory n)) := by
  have hmarks : (n.properties.map (·.1)).Nodup → ∀ e ∈ n.properties,
      s.isOptional e.2 = true ↔ e.1 ∉ s.mandatory n := by
    intro hnodup e he
    rw [mandatory, List.mem_map]
    constructor
    · rintro hoptional ⟨e', he', hkey⟩
      obtain ⟨hmem, hnot⟩ := List.mem_filter.1 he'
      -- Keys are distinct, so the key has one entry, and it is not optional.
      have heq := List.inj_on_of_nodup_map hnodup hmem he hkey
      rw [heq, hoptional] at hnot
      cases hnot
    · intro hnot
      by_contra hmandatory
      refine hnot ⟨e, List.mem_filter.2 ⟨he, ?_⟩, rfl⟩
      simpa using hmandatory
  unfold Node.requiring
  split
  · next hempty =>
    intro _ hnodup e he
    rw [Node.properties_removeRequired] at hnodup he
    rw [Node.required?_removeRequired, Option.getD_none, ← List.isEmpty_iff.1 hempty]
    exact hmarks hnodup e he
  · intro _ hnodup e he
    rw [Node.properties_setKeyword_of_ne (by simp [Keyword.name, Leaf.name])] at hnodup he
    rw [Node.required?_setRequired hnames, Option.getD_some]
    exact hmarks hnodup e he

theorem Orderly.nodup_properties (ho : s.Orderly) {id : NodeId} {n : Node} (hn : s.node? id = some n) :
    (n.properties.map (·.2)).Nodup := by
  cases hproperties : n.properties with
  | nil => exact List.nodup_nil
  | cons e entries =>
    have hmem : e ∈ n.properties := by
      rw [hproperties]
      exact List.mem_cons_self
    have hkeyword := (List.nodup_flatMap.1 (ho.nodup_places hn)).1 _ (Node.mem_keywords_of_properties hmem)
    rwa [Orderly.places_keyed, hproperties] at hkeyword

theorem SyncedOn.syncRequired (ho : s.Orderly) (h : s.SyncedOn (· ≠ root)) :
    (s.syncRequired root).SyncedOn fun _ => True := by
  obtain ⟨n, hn⟩ := ho.exists_root
  have hmarks : ∀ place, (s.modifyRoot (·.requiring (s.mandatory n))).isOptional place = s.isOptional place :=
    fun place => isOptional_modify s root place fun n => n.optional_requiring _
  rw [syncRequired_eq hn]
  intro id m _ hm
  rw [node?_modifyRoot hn] at hm
  split at hm
  · cases hm
    exact (synced_requiring (ho.names root n hn)).congr fun e _ => hmarks e.2
  · next hne => exact (h id m hne hm).congr fun e _ => hmarks e.2

/-- No other node holds the properties that are marked. -/
theorem SyncedOn.foldl_optional (ho : s.Orderly) (h : s.SyncedOn (· ≠ root)) {n : Node}
    (hn : s.node? root = some n) {entries : List (String × NodeId)} (hentries : ∀ e ∈ entries, e ∈ n.properties) :
    (entries.foldl (fun s e => s.modify e.2 fun n => { n with optional := true }) s).SyncedOn
      (· ≠ root) := by
  intro id m hne hm
  have hold : ∃ old, s.node? id = some old ∧ m.keywords = old.keywords := by
    rw [node?_foldl_optional] at hm
    split at hm
    · obtain ⟨old, hold, rfl⟩ := Option.map_eq_some_iff.1 hm
      exact ⟨old, hold, rfl⟩
    · exact ⟨m, hm, rfl⟩
  obtain ⟨old, hold, hkeywords⟩ := hold
  have hproperties : m.properties = old.properties := by
    unfold Node.properties Node.find?
    rw [hkeywords]
  have hsynced : s.Synced m := by
    have := h id old hne hold
    unfold Synced Marks Node.ListsRequired Node.required? Node.find? at this ⊢
    rw [hproperties, hkeywords]
    exact this
  refine hsynced.congr fun e he => ?_
  rw [hproperties] at he
  have hheld := Node.mem_places_of_properties he
  rw [Bool.eq_iff_iff, isOptional_foldl_optional (ho.below id old hold _ hheld).2]
  -- A place that is marked is held by the root, so by no other node.
  refine or_iff_right fun hmem => hne ?_
  obtain ⟨e', he', heq⟩ := List.mem_map.1 hmem
  have hheld' := Node.mem_places_of_properties (hentries e' he')
  rw [heq] at hheld'
  exact ho.owner hold hheld hn hheld'

theorem SyncedOn.loosen (ho : s.Orderly) (h : s.SyncedOn fun _ => True) :
    s.loosen.SyncedOn fun _ => True := by
  obtain ⟨n, hn⟩ := ho.exists_root
  have hbelow := h.imp (Q := (· ≠ root)) fun _ _ => trivial
  unfold Schema.loosen
  rw [hn]
  exact SyncedOn.syncRequired (ho.foldl_optional _) (hbelow.foldl_optional ho hn fun _ he => he)

theorem SyncedOn.close (ho : s.Orderly) (h : s.SyncedOn fun _ => True) :
    s.close.SyncedOn fun _ => True := by
  have hsynced := SyncedOn.syncRequired ho (h.imp fun _ _ => trivial)
  unfold Schema.close
  dsimp only
  split
  · exact hsynced
  · have hconstant : (Schema.ofNode (.ofKind (.constant false))).Orderly :=
      .ofNode rfl (by simp [Node.ofKind]) (by simp [Node.ofKind])
    exact hsynced.setSingle ho.syncRequired hconstant (.ofNode rfl) _

theorem SyncedOn.tie (h : s.SyncedOn fun _ => True) (token : Nat) :
    (s.tie token).SyncedOn fun _ => True := by
  intro id n _ hn
  obtain ⟨old, hold, hkeywords, _⟩ := node?_tie_cases hn
  have hsynced := h id old trivial hold
  unfold Synced Marks Node.ListsRequired Node.properties Node.required? Node.find? at hsynced ⊢
  simpa only [hkeywords, isOptional_tie] using hsynced

end Steps

/-! ## Loading -/

/-- The properties of the root are not marked yet. -/
structure Unmarked (s : Schema) : Prop where
  orderly : s.Orderly
  below : s.SyncedOn (· ≠ root)
  present : s.isOptional root = false
  properties : ∀ n, s.node? root = some n → ∀ e ∈ n.properties, s.isOptional e.2 = false

/-- All properties are marked, and the schema itself has to be there. -/
structure Marked (s : Schema) : Prop where
  orderly : s.Orderly
  synced : s.SyncedOn fun _ => True
  present : s.isOptional root = false

theorem isOptional_adoptAll_left (s : Schema) (cs : List Schema) {id : NodeId} (h : id < s.size) :
    (s.adoptAll cs).1.isOptional id = s.isOptional id := by
  induction cs generalizing s with
  | nil => rfl
  | cons c cs ih =>
    have hlt : id < (s.adopt c).1.size := by
      rw [size_adopt]
      exact Nat.lt_add_right _ h
    rw [Orderly.adoptAll_cons]
    exact (ih _ hlt).trans (isOptional_adopt_left s c h)

theorem isOptional_adoptAll_right {s : Schema} {cs : List Schema}
    (hcs : ∀ c ∈ cs, c.Orderly ∧ c.isOptional root = false) {id : NodeId}
    (h : id ∈ (s.adoptAll cs).2) : (s.adoptAll cs).1.isOptional id = false := by
  induction cs generalizing s with
  | nil => cases h
  | cons c cs ih =>
    obtain ⟨⟨ho, hc⟩, hrest⟩ := List.forall_mem_cons.1 hcs
    rw [Orderly.adoptAll_cons] at h ⊢
    rcases List.mem_cons.1 h with rfl | h
    · have hlt : s.size < (s.adopt c).1.size := by
        rw [size_adopt]
        exact Nat.lt_add_of_pos_right ho.nonempty
      exact (isOptional_adoptAll_left _ cs hlt).trans ((isOptional_adopt_right s c root).trans hc)
    · exact ih hrest h

theorem mem_properties_setKeyword {n : Node} (hn : (n.keywords.map (·.name)).Nodup) {k : Keyword}
    {e : String × NodeId} (h : e ∈ (n.setKeyword k).properties) :
    e ∈ n.properties ∨ e.2 ∈ k.places := by
  by_cases hk : k.name = "properties"
  · rw [Node.properties_eq, Node.find?_setKeyword Node.partOf_properties? hn hk] at h
    unfold Keyword.properties? at h
    split at h
    · rw [Orderly.places_keyed]
      exact .inr (List.mem_map_of_mem h)
    · cases h
  · rw [Node.properties_setKeyword_of_ne hk] at h
    exact .inl h

namespace Unmarked

variable {s : Schema} (h : s.Unmarked)
include h

theorem setKeyword {k : Keyword} (ho : (s.setKeyword k).Orderly)
    (hk : ∀ id ∈ k.places, s.isOptional id = false) : (s.setKeyword k).Unmarked where
  orderly := ho
  below := h.below.modify root (fun _ => rfl) fun hroot => absurd rfl hroot
  present := (isOptional_setKeyword s k root).trans h.present
  properties := by
    intro n hn e he
    rw [isOptional_setKeyword]
    unfold Schema.setKeyword modifyRoot at hn
    rw [node?_modify, if_pos rfl] at hn
    obtain ⟨old, hold, rfl⟩ := Option.map_eq_some_iff.1 hn
    rcases mem_properties_setKeyword (h.orderly.names root old hold) he with he | he
    · exact h.properties old hold e he
    · exact hk e.2 he

theorem setLeaf (l : Leaf) : (s.setLeaf l).Unmarked :=
  h.setKeyword (h.orderly.setLeaf l) (by simp [Keyword.places, Keyword.children])

theorem adoptAll {cs : List Schema} (hcs : ∀ c ∈ cs, c.Marked) : (s.adoptAll cs).1.Unmarked where
  orderly := (h.orderly.adoptAll fun c hc => (hcs c hc).orderly).1
  below := h.below.adoptAll h.orderly fun c hc => ⟨(hcs c hc).orderly, (hcs c hc).synced⟩
  present := (isOptional_adoptAll_left s cs h.orderly.nonempty).trans h.present
  properties := by
    intro n hn e he
    have hroot : root < s.size := h.orderly.nonempty
    rw [node?_adoptAll s cs hroot] at hn
    have hbelow := h.orderly.below root n hn e.2 (Node.mem_places_of_properties he)
    rw [isOptional_adoptAll_left s cs hbelow.2]
    exact h.properties n hn e he

theorem setChildren {cs : List Schema} (hcs : ∀ c ∈ cs, c.Marked) {k : Keyword}
    (hk : k.places.Sublist (s.adoptAll cs).2) : ((s.adoptAll cs).1.setKeyword k).Unmarked := by
  apply (h.adoptAll hcs).setKeyword
  · exact h.orderly.setChildren (fun c hc => (hcs c hc).orderly) hk
  · intro id hid
    exact isOptional_adoptAll_right (fun c hc => ⟨(hcs c hc).orderly, (hcs c hc).present⟩)
      (hk.subset hid)

theorem markOptional : (Loader.markOptional s).Marked := by
  obtain ⟨n, hn⟩ := h.orderly.exists_root
  have horderly := h.orderly.markOptional
  unfold Loader.markOptional at horderly ⊢
  rw [hn] at horderly ⊢
  dsimp only at horderly ⊢
  generalize hentries : (n.properties.filter fun e => !(n.required?.getD []).contains e.1) = entries
    at horderly ⊢
  have hmem : ∀ e, e ∈ entries ↔ e ∈ n.properties ∧ e.1 ∉ n.required?.getD [] := by
    intro e
    simp [← hentries]
  have hbelow : ∀ e ∈ n.properties, s.Below root e.2 := fun e he =>
    h.orderly.below root n hn e.2 (Node.mem_places_of_properties he)
  have hothers := h.below.foldl_optional h.orderly hn fun e he => ((hmem e).1 he).1
  refine ⟨horderly, ?_, ?_⟩
  · intro id m _ hm
    by_cases hroot : id = root
    · subst hroot
      have hkeywords : m.keywords = n.keywords := by
        rw [node?_foldl_optional, hn] at hm
        split at hm <;> cases hm <;> rfl
      have hproperties : m.properties = n.properties := by
        unfold Node.properties Node.find?
        rw [hkeywords]
      have hrequired : m.required? = n.required? := by
        unfold Node.required? Node.find?
        rw [hkeywords]
      intro _ _ e he
      rw [hproperties] at he
      rw [isOptional_foldl_optional (hbelow e he).2, hrequired, h.properties n hn e he]
      constructor
      · rintro (hmarked | hfalse)
        · obtain ⟨e', he', heq⟩ := List.mem_map.1 hmarked
          obtain ⟨hmem', hnot⟩ := (hmem e').1 he'
          -- A place belongs to one key only, so the mark is its own.
          have hnodup := h.orderly.nodup_properties hn
          rwa [List.inj_on_of_nodup_map hnodup hmem' he heq] at hnot
        · cases hfalse
      · exact fun hnot => .inl (List.mem_map_of_mem ((hmem e).2 ⟨he, hnot⟩))
    · exact hothers id m hroot hm
  · have hroot : root < s.size := h.orderly.nonempty
    rw [← Bool.not_eq_true, isOptional_foldl_optional hroot, h.present]
    rintro (hmarked | hfalse)
    · obtain ⟨e, he, heq⟩ := List.mem_map.1 hmarked
      have hlt := (hbelow e ((hmem e).1 he).1).1
      rw [heq] at hlt
      exact Nat.lt_irrefl _ hlt
    · cases hfalse

end Unmarked

theorem unmarked_ofNode {n : Node} (ho : (Schema.ofNode n).Orderly) (hproperties : n.properties = [])
    (hpresent : n.optional = false) : (Schema.ofNode n).Unmarked where
  orderly := ho
  below := .ofNode hproperties
  present := hpresent
  properties := by
    intro m hm e he
    obtain ⟨_, rfl⟩ := Orderly.eq_of_node?_ofNode hm
    rw [hproperties] at he
    cases he

theorem closed_marked : Loader.Closed Unmarked Marked where
  constant := fun _ => ⟨.ofNode rfl (by simp [Node.ofKind]) (by simp [Node.ofKind]), .ofNode rfl, rfl⟩
  start := fun _ hlink _ => unmarked_ofNode (.ofNode rfl hlink (by simp [Node.ofKind])) rfl rfl
  leaf := Unmarked.setLeaf
  single := by
    intro s child h hc slot
    have hchildren : ∀ c ∈ [child], c.Marked := by simpa using hc
    exact h.setChildren (k := .single slot s.size) hchildren (List.Sublist.refl _)
  listed := by
    intro s cs h hcs slot
    apply h.setChildren hcs
    rw [Orderly.places_listed]
  keyed := by
    intro s es h hes slot
    have hchildren : ∀ c ∈ es.map (·.2), c.Marked := by simpa using fun c key he => hes (key, c) he
    apply h.setChildren hchildren
    rw [Orderly.places_keyed]
    exact Orderly.map_snd_zip_sublist _ _
  patterns := by
    intro s es t h hes ht
    obtain ⟨patterns, _, ht⟩ := Except.bind_eq_ok_iff.1 ht
    cases ht
    have hchildren : ∀ c ∈ es.map (·.2), c.Marked := by simpa using fun c key he => hes (key, c) he
    apply h.setChildren hchildren
    rw [Orderly.places_patterns]
    exact Orderly.map_snd_zip_sublist _ _
  mark := Unmarked.markOptional

theorem marked_ofJson {d : Json} {s : Schema} (h : ofJson d = .ok s) : s.Marked :=
  closed_marked.load d [] s h

/-! ## Building -/

theorem preserved_synced {P : Json → Prop} :
    Preserved P Leaf.HasEdit fun s => s.Orderly ∧ s.SyncedOn fun _ => True where
  any := ⟨preserved_orderly.any, .ofNode rfl⟩
  constant := fun accepts => ⟨preserved_orderly.constant accepts, .ofNode rfl⟩
  typed := fun t => ⟨preserved_orderly.typed t, .ofNode rfl⟩
  placeholder := fun token => ⟨preserved_orderly.placeholder token, .ofNode rfl⟩
  document := fun _ h => ⟨(marked_ofJson h).orderly, (marked_ofJson h).synced⟩
  hasEdit := id
  leaf := by
    rintro s ⟨ho, h⟩ l hl
    exact ⟨ho.setLeaf l, h.setLeaf ho hl⟩
  single := by
    rintro s c ⟨ho, h⟩ hc slot
    exact ⟨ho.setSingle hc.1 slot, h.setSingle ho hc.1 hc.2 slot⟩
  listed := by
    rintro s cs ⟨ho, h⟩ hcs slot _ _
    refine ⟨ho.setListed (fun c hc => (hcs c hc).1) slot, ?_⟩
    apply h.setChildren ho hcs
    · cases slot <;> simp [Keyword.name, ListSlot.name]
    · cases slot <;> simp [Keyword.name, ListSlot.name]
  union := by
    intro cs hcs slot _
    have ho : (ofKind .union).Orderly := .ofNode rfl (by simp [Node.ofKind]) (by simp [Node.ofKind])
    refine ⟨ho.setListed (fun c hc => (hcs c hc).1) slot, ?_⟩
    apply SyncedOn.setChildren ho (.ofNode rfl) hcs
    · cases slot <;> simp [Keyword.name, ListSlot.name]
    · cases slot <;> simp [Keyword.name, ListSlot.name]
  object := by
    intro es hes
    have ho := preserved_orderly.typed .object
    have hkeyed := ho.setKeyed (fun e he => (hes e he).1) .properties
    refine ⟨hkeyed.syncRequired, SyncedOn.syncRequired hkeyed ?_⟩
    have hchildren : ∀ c ∈ es.map (·.2), c.Orderly ∧ c.SyncedOn fun _ => True := by
      simpa using fun c key he => hes (key, c) he
    have hbelow : (typed .object).SyncedOn (· ≠ root) := .ofNode rfl
    exact (hbelow.adoptAll ho hchildren).modify root (fun _ => rfl) fun hroot => absurd rfl hroot
  dependents := by
    rintro s es ⟨ho, h⟩ hes
    refine ⟨ho.setKeyed (fun e he => (hes e he).1) _, ?_⟩
    apply h.setChildren ho
    · simpa using fun c key he => hes (key, c) he
    · simp [Keyword.name, KeyedSlot.name]
    · simp [Keyword.name, KeyedSlot.name]
  patterns := by
    rintro s es t ⟨ho, h⟩ hes ht
    refine ⟨ho.setPatterns (fun e he => (hes e he).1) ht, ?_⟩
    obtain ⟨patterns, _, ht⟩ := Except.bind_eq_ok_iff.1 ht
    cases ht
    apply h.setChildren ho
    · simpa using fun c key he => hes (key, c) he
    · simp [Keyword.name]
    · simp [Keyword.name]
  hooks := by
    rintro s ⟨ho, h⟩ f
    exact ⟨ho.modify_same root (fun _ => rfl) fun _ => rfl,
      h.modify root (fun _ => rfl) fun _ _ _ hn => hn⟩
  optional := by
    rintro s ⟨ho, h⟩
    have ho' : (s.modifyRoot fun n => { n with optional := true }).Orderly :=
      ho.modify_same root (fun _ => rfl) fun _ => rfl
    refine ⟨ho', fun id n _ hn => ?_⟩
    have hsynced : s.Synced n := by
      unfold modifyRoot at hn
      rw [node?_modify] at hn
      split at hn
      · obtain ⟨old, hold, rfl⟩ := Option.map_eq_some_iff.1 hn
        exact h id old trivial hold
      · exact h id n trivial hn
    refine hsynced.congr fun e he => ?_
    have hbelow := ho'.below id n hn e.2 (Node.mem_places_of_properties he)
    exact isOptional_modify_of_ne s (Nat.ne_of_lt (Nat.zero_lt_of_lt hbelow.1)) _
  close := by
    rintro s ⟨ho, h⟩ _
    exact ⟨ho.close, h.close ho⟩
  loosen := by
    rintro s ⟨ho, h⟩ _
    exact ⟨ho.loosen, h.loosen ho⟩
  tie := by
    rintro s ⟨ho, h⟩ token
    exact ⟨ho.tie token, h.tie token⟩

end Schema

end JsonSchema
