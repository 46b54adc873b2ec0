import JsonSchema.Proofs.Building.Everywhere

/-!
# Links that lead upwards

A link never leaves the nodes between it and the node that it stands for. So the node that it stands
for is above it in the tree of places.
-/

namespace JsonSchema

namespace Schema

variable {s c : Schema}

/-- No link goes from behind the place to before it. -/
def Uncrossed (s : Schema) (place : NodeId) : Prop :=
  ∀ id target, s.kind? id = some (.link target) → place ≤ id → place ≤ target

/-- A link that goes to before a place goes no further than to the owner of the place, or further up. -/
def Nested (s : Schema) : Prop :=
  ∀ owner n place, s.node? owner = some n → place ∈ n.places →
    ∀ id target, s.kind? id = some (.link target) → place ≤ id → target < place → target ≤ owner

theorem nested_of_not_link (h : ∀ id target, s.kind? id ≠ some (.link target)) : s.Nested :=
  fun _ _ _ _ _ id target hlink => absurd hlink (h id target)

theorem nested_ofNode {n : Node} (h : ∀ target, n.kind ≠ .link target) : (ofNode n).Nested := by
  apply nested_of_not_link
  intro id target hlink
  obtain ⟨m, hm, hkind⟩ := Option.map_eq_some_iff.1 hlink
  obtain ⟨_, rfl⟩ := Orderly.eq_of_node?_ofNode hm
  exact h target hkind

/-! ## Taking in schemas -/

theorem link_adopt_cases {id target : NodeId}
    (h : (s.adopt c).1.kind? id = some (.link target)) :
    (id < s.size ∧ s.kind? id = some (.link target)) ∨
      ∃ id' target', id = s.size + id' ∧ target = s.size + target' ∧
        c.kind? id' = some (.link target') := by
  obtain ⟨n, hn, hkind⟩ := Option.map_eq_some_iff.1 h
  rcases Orderly.node?_adopt_cases hn with ⟨hlt, hn⟩ | ⟨id', m, rfl, hm, rfl⟩
  · exact .inl ⟨hlt, by rw [kind?, hn, Option.map_some, hkind]⟩
  · cases hold : m.kind with
    | link target' =>
      simp only [Node.mapIds, hold, Kind.mapIds, Kind.link.injEq] at hkind
      refine .inr ⟨id', target', rfl, ?_, by rw [kind?, hm, Option.map_some, hold]⟩
      rw [← hkind, Nat.add_comm]
    | _ => simp [Node.mapIds, hold, Kind.mapIds] at hkind

theorem Uncrossed.adopt {place : NodeId} (hplace : place ≤ s.size) (h : s.Uncrossed place) :
    (s.adopt c).1.Uncrossed place := by
  intro id target hlink hle
  rcases link_adopt_cases hlink with ⟨_, hlink⟩ | ⟨id', target', rfl, rfl, _⟩
  · exact h id target hlink hle
  · exact Nat.le_add_right_of_le hplace

theorem uncrossed_size (s : Schema) : s.Uncrossed s.size := by
  intro id target hlink hle
  obtain ⟨n, hn, _⟩ := Option.map_eq_some_iff.1 hlink
  exact absurd (lt_size_of_node? hn) (Nat.not_lt.2 hle)

theorem Uncrossed.adoptAll {place : NodeId} (hplace : place ≤ s.size) (h : s.Uncrossed place)
    (cs : List Schema) : (s.adoptAll cs).1.Uncrossed place := by
  induction cs generalizing s with
  | nil => exact h
  | cons c cs ih =>
    rw [Orderly.adoptAll_cons]
    apply ih _ (h.adopt hplace)
    rw [size_adopt]
    exact Nat.le_add_right_of_le hplace

theorem uncrossed_of_mem_adoptAll {cs : List Schema} {place : NodeId}
    (h : place ∈ (s.adoptAll cs).2) : (s.adoptAll cs).1.Uncrossed place := by
  induction cs generalizing s with
  | nil => cases h
  | cons c cs ih =>
    rw [Orderly.adoptAll_cons] at h ⊢
    rcases List.mem_cons.1 h with rfl | h
    · have hsize : s.size ≤ (s.adopt c).1.size := by
        rw [size_adopt]
        exact Nat.le_add_right _ _
      exact (s.uncrossed_size.adopt (Nat.le_refl _)).adoptAll hsize cs
    · exact ih h

theorem Nested.adopt (ho : s.Orderly) (hs : s.Nested) (hc : c.Nested) :
    (s.adopt c).1.Nested := by
  intro owner n place hn hplace id target hlink hle hlt
  rcases Orderly.node?_adopt_cases hn with ⟨_, hn⟩ | ⟨owner', m, rfl, hm, rfl⟩
  -- The link and what holds the place are on the same side, or the place is before all moved ones.
  · have hbelow : owner < place ∧ place < s.size := ho.below owner n hn place hplace
    rcases link_adopt_cases hlink with ⟨_, hlink⟩ | ⟨id', target', rfl, rfl, _⟩
    · exact hs owner n place hn hplace id target hlink hle hlt
    · dsimp only [NodeId] at *
      omega
  · rw [Node.places_mapIds] at hplace
    obtain ⟨place', hplace', rfl⟩ := List.mem_map.1 hplace
    rcases link_adopt_cases hlink with ⟨hid, _⟩ | ⟨id', target', rfl, rfl, hinner⟩
    · dsimp only [NodeId] at *
      omega
    · have hnested := hc owner' m place' hm hplace' id' target' hinner
      dsimp only [NodeId] at *
      omega

theorem Nested.adoptAll (ho : s.Orderly) (hs : s.Nested) {cs : List Schema}
    (hcs : ∀ c ∈ cs, c.Orderly ∧ c.Nested) : (s.adoptAll cs).1.Nested := by
  induction cs generalizing s with
  | nil => exact hs
  | cons c cs ih =>
    rw [Orderly.adoptAll_cons]
    obtain ⟨⟨hco, hc⟩, hrest⟩ := List.forall_mem_cons.1 hcs
    exact ih (ho.adopt hco) (hs.adopt ho hc) hrest

/-! ## Changes to a node -/

theorem Nested.modify (h : s.Nested) (id : NodeId) {f : Node → Node} (hkind : ∀ n, (f n).kind = n.kind)
    (hplaces : ∀ n place, place ∈ (f n).places → place ∈ n.places ∨ s.Uncrossed place) :
    (s.modify id f).Nested := by
  intro owner n place hn hplace link target hlink hle hlt
  rw [kind?_modify s id link hkind] at hlink
  rw [node?_modify] at hn
  split at hn
  · obtain ⟨old, hold, rfl⟩ := Option.map_eq_some_iff.1 hn
    rcases hplaces old place hplace with hplace | huncrossed
    · exact h owner old place hold hplace link target hlink hle hlt
    · exact absurd (huncrossed link target hlink hle) (Nat.not_le.2 hlt)
  · exact h owner n place hn hplace link target hlink hle hlt

theorem Nested.modify_same (h : s.Nested) (id : NodeId) {f : Node → Node}
    (hkind : ∀ n, (f n).kind = n.kind) (hkeywords : ∀ n, (f n).keywords = n.keywords) :
    (s.modify id f).Nested := by
  apply h.modify id hkind
  intro n place hplace
  rw [Node.places, hkeywords] at hplace
  exact .inl hplace

theorem Nested.setKeyword (h : s.Nested) {k : Keyword} (hk : ∀ place ∈ k.places, s.Uncrossed place) :
    (s.setKeyword k).Nested := by
  refine h.modify root (fun _ => rfl) ?_
  intro n place hplace
  exact (Node.mem_places_setKeyword hplace).symm.imp id (hk place)

theorem Nested.setLeaf (h : s.Nested) (l : Leaf) : (s.setLeaf l).Nested :=
  h.setKeyword (by simp [Keyword.places, Keyword.children])

theorem Nested.setChildren (ho : s.Orderly) (h : s.Nested) {cs : List Schema}
    (hcs : ∀ c ∈ cs, c.Orderly ∧ c.Nested) {k : Keyword} (hk : k.places.Sublist (s.adoptAll cs).2) :
    ((s.adoptAll cs).1.setKeyword k).Nested := by
  apply (h.adoptAll ho hcs).setKeyword
  intro place hplace
  exact uncrossed_of_mem_adoptAll (hk.subset hplace)

theorem Nested.syncRequired (h : s.Nested) : (s.syncRequired root).Nested := by
  unfold Schema.syncRequired
  cases s.node? root with
  | none => exact h
  | some node =>
    dsimp only
    split
    · refine h.modify root (fun _ => rfl) ?_
      intro n place hplace
      have hle := n.count_places_removeKeyword_le "required" place
      have hpos := List.count_pos_iff.2 hplace
      exact .inl (List.count_pos_iff.1 (by omega))
    · exact h.setLeaf _

theorem Nested.foldl_optional (entries : List (String × NodeId)) (h : s.Nested) :
    (entries.foldl (fun s e => s.modify e.2 fun n => { n with optional := true }) s).Nested := by
  induction entries generalizing s with
  | nil => exact h
  | cons e entries ih => exact ih (h.modify_same e.2 (fun _ => rfl) fun _ => rfl)

theorem Nested.setSingle (ho : s.Orderly) (h : s.Nested) (hco : c.Orderly) (hc : c.Nested)
    (slot : Slot) : (s.setSingle slot c).Nested := by
  have hchildren : ∀ c' ∈ [c], c'.Orderly ∧ c'.Nested := by simpa using ⟨hco, hc⟩
  exact h.setChildren (k := .single slot s.size) ho hchildren (List.Sublist.refl _)

theorem Nested.setKeyed (ho : s.Orderly) (h : s.Nested) {es : List (String × Schema)}
    (hes : ∀ e ∈ es, e.2.Orderly ∧ e.2.Nested) (slot : KeyedSlot) : (s.setKeyed slot es).Nested := by
  have hchildren : ∀ c ∈ es.map (·.2), c.Orderly ∧ c.Nested := by
    simpa using fun c key he => hes (key, c) he
  apply h.setChildren ho hchildren
  rw [Orderly.places_keyed]
  exact Orderly.map_snd_zip_sublist _ _

theorem Nested.close (ho : s.Orderly) (h : s.Nested) : s.close.Nested := by
  unfold Schema.close
  dsimp only
  split
  · exact h.syncRequired
  · have hnested : (ofNode (.ofKind (.constant false))).Nested := nested_ofNode (by simp [Node.ofKind])
    exact h.syncRequired.setSingle ho.syncRequired (preserved_orderly.constant false) hnested _

theorem Nested.tie (h : s.Nested) (token : Nat) : (s.tie token).Nested := by
  intro owner n place hn hplace id target hlink hle hlt
  obtain ⟨old, hold, hkeywords, _⟩ := node?_tie_cases hn
  rw [Node.places, hkeywords] at hplace
  obtain ⟨link, hnode, hkind⟩ := Option.map_eq_some_iff.1 hlink
  obtain ⟨before, hbefore, _, _, _, hcases⟩ := node?_tie_cases hnode
  rcases hcases with ⟨_, hsame⟩ | ⟨_, _, hany⟩ | ⟨_, _, hroot⟩
  · refine h owner old place hold hplace id target ?_ hle hlt
    rw [kind?, hbefore, Option.map_some, ← hsame, hkind]
  · rw [hany] at hkind
    cases hkind
  · rw [hroot] at hkind
    cases hkind
    exact Nat.zero_le owner

/-! ## Building -/

theorem closed_linkFree : Loader.Closed (Everywhere fun n => ∀ target, n.kind ≠ .link target)
    (Everywhere fun n => ∀ target, n.kind ≠ .link target) := by
  refine closed_everywhere (by simp [Node.ofKind]) (fun _ hlink _ => hlink) ?_ (fun _ _ hn => hn)
    fun _ hn => hn
  intro n f hn target
  unfold Node.mapIds
  dsimp only
  cases hkind : n.kind with
  | link old => exact absurd hkind (hn old)
  | _ => simp [Kind.mapIds]

theorem nested_ofJson {d : Json} (h : ofJson d = .ok s) : s.Nested := by
  apply nested_of_not_link
  intro id target hlink
  obtain ⟨n, hn, hkind⟩ := Option.map_eq_some_iff.1 hlink
  exact closed_linkFree.load d [] s h id n hn target hkind

theorem preserved_nested : Preserved (fun _ => True) (fun _ => True) fun s => s.Orderly ∧ s.Nested where
  any := ⟨preserved_orderly.any, nested_ofNode (by simp [Node.ofKind])⟩
  constant := fun accepts => ⟨preserved_orderly.constant accepts, nested_ofNode (by simp [Node.ofKind])⟩
  typed := fun t => ⟨preserved_orderly.typed t,
    nested_ofNode (by cases t <;> simp [Node.typed, Kind.ofType])⟩
  placeholder := fun token => ⟨preserved_orderly.placeholder token, nested_ofNode (by simp [Node.ofKind])⟩
  document := fun _ h => ⟨orderly_ofJson h, nested_ofJson h⟩
  hasEdit := fun _ => trivial
  leaf := fun h l _ => ⟨h.1.setLeaf l, h.2.setLeaf l⟩
  single := fun h hc slot => ⟨h.1.setSingle hc.1 slot, h.2.setSingle h.1 hc.1 hc.2 slot⟩
  listed := by
    rintro s cs ⟨ho, h⟩ hcs slot _ _
    refine ⟨ho.setListed (fun c hc => (hcs c hc).1) slot, h.setChildren ho hcs ?_⟩
    rw [Orderly.places_listed]
  union := by
    intro cs hcs slot _
    have ho : (ofKind .union).Orderly := .ofNode rfl (by simp [Node.ofKind]) (by simp [Node.ofKind])
    have h : (ofKind .union).Nested := nested_ofNode (by simp [Node.ofKind])
    refine ⟨ho.setListed (fun c hc => (hcs c hc).1) slot, h.setChildren ho hcs ?_⟩
    rw [Orderly.places_listed]
  object := by
    intro es hes
    have ho := preserved_orderly.typed .object
    have h : (typed .object).Nested := nested_ofNode (by simp [Node.typed, Kind.ofType])
    refine ⟨(ho.setKeyed (fun e he => (hes e he).1) .properties).syncRequired, ?_⟩
    exact (h.setKeyed ho hes .properties).syncRequired
  dependents := fun h hes => ⟨h.1.setKeyed (fun e he => (hes e he).1) _, h.2.setKeyed h.1 hes _⟩
  patterns := by
    rintro s es t ⟨ho, h⟩ hes ht
    refine ⟨ho.setPatterns (fun e he => (hes e he).1) ht, ?_⟩
    obtain ⟨patterns, _, ht⟩ := Except.bind_eq_ok_iff.1 ht
    cases ht
    apply h.setChildren ho
    · simpa using fun c key he => hes (key, c) he
    · rw [Orderly.places_patterns]
      exact Orderly.map_snd_zip_sublist _ _
  hooks := fun h _ => ⟨h.1.modify_same root (fun _ => rfl) fun _ => rfl,
    h.2.modify_same root (fun _ => rfl) fun _ => rfl⟩
  optional := fun h => ⟨h.1.modify_same root (fun _ => rfl) fun _ => rfl,
    h.2.modify_same root (fun _ => rfl) fun _ => rfl⟩
  close := fun h _ => ⟨h.1.close, h.2.close h.1⟩
  loosen := fun h _ => ⟨h.1.loosen, (h.2.foldl_optional _).syncRequired⟩
  tie := fun h token => ⟨h.1.tie token, h.2.tie token⟩

end Schema

end JsonSchema
