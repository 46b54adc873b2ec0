import JsonSchema.Proofs.Loading.Labels
import JsonSchema.Schema.Builder
import Mathlib.Algebra.GroupWithZero.Nat
import Mathlib.Data.List.Count
import Mathlib.Data.List.Nodup

/-!
# Orderly schemas

In an orderly schema every place is held by one keyword at most, and by one that stands before it.
All ways of changing a schema at its root keep it orderly.
-/

namespace JsonSchema

/-! ## Places that are held -/

def Keyword.places (k : Keyword) : List NodeId := k.children.map (·.2)

def Node.places (n : Node) : List NodeId := n.keywords.flatMap Keyword.places

def Schema.places (s : Schema) : List NodeId := s.nodes.toList.flatMap Node.places

theorem Keyword.places_mapIds (f : NodeId → NodeId) (k : Keyword) :
    (k.mapIds f).places = k.places.map f := by
  rw [places, places, children_mapIds, List.map_map, List.map_map]
  rfl

namespace Node

theorem places_mapIds (f : NodeId → NodeId) (n : Node) : (n.mapIds f).places = n.places.map f := by
  rw [places, places, mapIds, List.flatMap_map, List.map_flatMap]
  simp only [Keyword.places_mapIds]

theorem count_places_setKeyword_le (n : Node) (k : Keyword) (id : NodeId) :
    (n.setKeyword k).places.count id ≤ k.places.count id + n.places.count id := by
  unfold places setKeyword
  dsimp only
  induction n.keywords with
  | nil => simp [setKeyword.replace]
  | cons old ks ih =>
    rw [setKeyword.replace]
    split
    · simp only [List.flatMap_cons, List.count_append]
      omega
    · simp only [List.flatMap_cons, List.count_append]
      omega

theorem mem_places_setKeyword {n : Node} {k : Keyword} {id : NodeId}
    (h : id ∈ (n.setKeyword k).places) : id ∈ k.places ∨ id ∈ n.places := by
  have hle := count_places_setKeyword_le n k id
  have hpos := List.count_pos_iff.2 h
  rw [← List.count_pos_iff, ← List.count_pos_iff]
  omega

theorem count_places_removeKeyword_le (n : Node) (name : String) (id : NodeId) :
    (n.removeKeyword name).places.count id ≤ n.places.count id := by
  unfold places removeKeyword
  dsimp only
  induction n.keywords with
  | nil => exact Nat.le_refl _
  | cons k ks ih =>
    rw [List.filter_cons]
    split
    · simp only [List.flatMap_cons, List.count_append]
      omega
    · simp only [List.flatMap_cons, List.count_append]
      omega

theorem names_setKeyword (n : Node) (k : Keyword) :
    (n.setKeyword k).keywords.map (·.name) =
      if k.name ∈ n.keywords.map (·.name) then n.keywords.map (·.name)
      else n.keywords.map (·.name) ++ [k.name] := by
  unfold setKeyword
  dsimp only
  induction n.keywords with
  | nil => rfl
  | cons old ks ih =>
    rw [setKeyword.replace]
    by_cases h : old.name = k.name
    · simp [h]
    · rw [if_neg h, List.map_cons, ih, List.map_cons]
      have hne : k.name ≠ old.name := Ne.symm h
      by_cases hmem : k.name ∈ ks.map (·.name)
      · rw [if_pos hmem, if_pos (List.mem_cons_of_mem _ hmem)]
      · have hmem' : k.name ∉ old.name :: ks.map (·.name) := by simp [hne, hmem]
        rw [if_neg hmem, if_neg hmem', List.cons_append]

theorem nodup_names_setKeyword {n : Node} (h : (n.keywords.map (·.name)).Nodup) (k : Keyword) :
    ((n.setKeyword k).keywords.map (·.name)).Nodup := by
  rw [names_setKeyword]
  split
  · exact h
  · next hmem => exact List.nodup_append.2 ⟨h, List.nodup_singleton _, by simpa using hmem⟩

theorem nodup_names_removeKeyword {n : Node} (h : (n.keywords.map (·.name)).Nodup) (name : String) :
    ((n.removeKeyword name).keywords.map (·.name)).Nodup :=
  h.sublist (List.filter_sublist.map _)

end Node

namespace Schema

theorem exists_of_mem_places {s : Schema} {child : NodeId} (h : child ∈ s.places) :
    ∃ id n, s.node? id = some n ∧ child ∈ n.places := by
  obtain ⟨n, hn, hchild⟩ := List.mem_flatMap.1 h
  obtain ⟨id, hid⟩ := List.mem_iff_getElem?.1 hn
  exact ⟨id, n, by rw [node?, ← Array.getElem?_toList, hid], hchild⟩

theorem places_adopt (s child : Schema) :
    (s.adopt child).1.places = s.places ++ child.places.map (· + s.size) := by
  unfold places adopt
  rw [Array.toList_append, List.flatMap_append, Array.toList_map, List.flatMap_map,
    List.map_flatMap]
  simp only [Node.places_mapIds]

theorem count_places_modify_le (s : Schema) (id : NodeId) (f : Node → Node) (more : NodeId → Nat)
    (hf : ∀ n child, (f n).places.count child ≤ more child + n.places.count child) (child : NodeId) :
    (s.modify id f).places.count child ≤ more child + s.places.count child := by
  unfold places modify
  rw [Array.toList_modify]
  generalize s.nodes.toList = ns
  induction ns generalizing id with
  | nil => simp
  | cons n ns ih =>
    cases id with
    | zero =>
      have := hf n child
      rw [List.modify_zero_cons, List.flatMap_cons, List.flatMap_cons, List.count_append,
        List.count_append]
      omega
    | succ id =>
      have := ih id
      rw [List.modify_succ_cons, List.flatMap_cons, List.flatMap_cons, List.count_append,
        List.count_append]
      omega

/-! ## Order -/

structure Orderly (s : Schema) : Prop where
  nonempty : 0 < s.size
  below : ∀ id n, s.node? id = some n → ∀ child ∈ n.places, s.Below id child
  once : ∀ child, s.places.count child ≤ 1
  link : ∀ id n target, s.node? id = some n → n.kind = .link target → target < id
  names : ∀ id n, s.node? id = some n → (n.keywords.map (·.name)).Nodup

namespace Orderly

variable {s child : Schema}

theorem pos_of_mem_places (h : s.Orderly) {id : NodeId} (hid : id ∈ s.places) : 0 < id ∧ id < s.size := by
  obtain ⟨parent, n, hn, hid⟩ := exists_of_mem_places hid
  obtain ⟨hlt, hsize⟩ : parent < id ∧ id < s.size := h.below parent n hn id hid
  exact ⟨Nat.zero_lt_of_lt hlt, hsize⟩

theorem owner (h : s.Orderly) {id id' place : NodeId} {n n' : Node} (hn : s.node? id = some n)
    (hplace : place ∈ n.places) (hn' : s.node? id' = some n') (hplace' : place ∈ n'.places) :
    id = id' := by
  have hnodup : (s.nodes.toList.flatMap Node.places).Nodup :=
    List.nodup_iff_count_le_one.2 h.once
  -- No place occurs twice in the list of all of them, and each node has its own stretch of it.
  have hapart := List.pairwise_iff_getElem.1 (List.nodup_flatMap.1 hnodup).2
  obtain ⟨hlt, rfl⟩ := Array.getElem?_eq_some_iff.1 hn
  obtain ⟨hlt', rfl⟩ := Array.getElem?_eq_some_iff.1 hn'
  rcases Nat.lt_trichotomy id id' with hless | heq | hmore
  · exact absurd hplace' (hapart id id' hlt hlt' hless hplace)
  · exact heq
  · exact absurd hplace (hapart id' id hlt' hlt hmore hplace')

theorem nodup_places (h : s.Orderly) {id : NodeId} {n : Node} (hn : s.node? id = some n) :
    n.places.Nodup := by
  have hnodup : (s.nodes.toList.flatMap Node.places).Nodup :=
    List.nodup_iff_count_le_one.2 h.once
  obtain ⟨hlt, rfl⟩ := Array.getElem?_eq_some_iff.1 hn
  exact (List.nodup_flatMap.1 hnodup).1 _ (by simp)

theorem exists_root (h : s.Orderly) : ∃ n, s.node? root = some n :=
  ⟨_, Array.getElem?_eq_getElem h.nonempty⟩

theorem root_not_link (h : s.Orderly) (target : NodeId) : s.kind? root ≠ some (.link target) := by
  intro hkind
  obtain ⟨n, hn, hkind⟩ := Option.map_eq_some_iff.1 hkind
  exact absurd (h.link root n target hn hkind) (Nat.not_lt_zero target)

theorem eq_of_node?_ofNode {n m : Node} {id : NodeId} (h : (Schema.ofNode n).node? id = some m) :
    id = root ∧ m = n := by
  obtain rfl : id = root := Nat.lt_one_iff.1 (lt_size_of_node? h)
  exact ⟨rfl, (Option.some.inj h).symm⟩

theorem ofNode {n : Node} (hheld : n.places = []) (hlink : ∀ target, n.kind ≠ .link target)
    (hnames : (n.keywords.map (·.name)).Nodup) : (Schema.ofNode n).Orderly where
  nonempty := Nat.one_pos
  below := by
    intro id m hm c hc
    obtain ⟨rfl, rfl⟩ := eq_of_node?_ofNode hm
    rw [hheld] at hc
    cases hc
  once := by
    intro c
    have hnone : (Schema.ofNode n).places = [] := by simp [places, Schema.ofNode, hheld]
    rw [hnone]
    exact Nat.zero_le _
  link := by
    intro id m target hm hkind
    obtain ⟨rfl, rfl⟩ := eq_of_node?_ofNode hm
    exact absurd hkind (hlink target)
  names := by
    intro id m hm
    obtain ⟨rfl, rfl⟩ := eq_of_node?_ofNode hm
    exact hnames

theorem node?_adopt_cases {s child : Schema} {id : NodeId} {n : Node}
    (hn : (s.adopt child).1.node? id = some n) :
    (id < s.size ∧ s.node? id = some n) ∨
      ∃ place m, id = s.size + place ∧ child.node? place = some m ∧ n = m.mapIds (· + s.size) := by
  by_cases hlt : id < s.size
  · rw [node?_adopt_left s child hlt] at hn
    exact .inl ⟨hlt, hn⟩
  · obtain ⟨place, rfl⟩ := Nat.exists_eq_add_of_le (Nat.le_of_not_lt hlt)
    rw [node?_adopt_right] at hn
    obtain ⟨m, hm, rfl⟩ := Option.map_eq_some_iff.1 hn
    exact .inr ⟨place, m, rfl, hm, rfl⟩

theorem adopt (hs : s.Orderly) (hc : child.Orderly) : (s.adopt child).1.Orderly where
  nonempty := by
    have := hs.nonempty
    rw [size_adopt]
    omega
  below := by
    intro id n hn c hmem
    unfold Below
    rw [size_adopt]
    rcases node?_adopt_cases hn with ⟨_, hn⟩ | ⟨place, m, rfl, hm, rfl⟩
    · have hbelow := hs.below id n hn c hmem
      dsimp only [NodeId, Below] at *
      omega
    · rw [Node.places_mapIds] at hmem
      obtain ⟨c', hmem', rfl⟩ := List.mem_map.1 hmem
      have hbelow := hc.below place m hm c' hmem'
      dsimp only [NodeId, Below] at *
      omega
  once := by
    intro (c : Nat)
    rw [places_adopt, List.count_append]
    by_cases hlt : c < s.size
    -- Moved places are beyond those of the schema, so each comes from one side only.
    · have hnone : (child.places.map (· + s.size)).count c = 0 := by
        rw [List.count_eq_zero]
        intro hmem
        obtain ⟨c' : Nat, _, heq⟩ := List.mem_map.1 hmem
        omega
      have := hs.once c
      omega
    · have hnone : s.places.count c = 0 := by
        rw [List.count_eq_zero]
        exact fun hmem => hlt (hs.pos_of_mem_places hmem).2
      obtain ⟨c, rfl⟩ := Nat.exists_eq_add_of_le' (Nat.le_of_not_lt hlt)
      have hmoved : (child.places.map (· + s.size)).count (c + s.size) = child.places.count c :=
        List.count_map_of_injective _ (· + s.size) (fun a b h => Nat.add_right_cancel h) c
      have := hc.once c
      omega
  link := by
    intro id n target hn hkind
    rcases node?_adopt_cases hn with ⟨_, hn⟩ | ⟨place, m, rfl, hm, rfl⟩
    · exact hs.link id n target hn hkind
    · cases hold : m.kind with
      | link old =>
        have hmoved : (m.mapIds (· + s.size)).kind = .link (old + s.size) := by
          rw [Node.mapIds, hold]
          rfl
        rw [hmoved, Kind.link.injEq] at hkind
        have hlt := hc.link place m old hm hold
        dsimp only [NodeId] at *
        omega
      | _ => simp [Node.mapIds, hold, Kind.mapIds] at hkind
  names := by
    intro id n hn
    rcases node?_adopt_cases hn with ⟨_, hn⟩ | ⟨place, m, rfl, hm, rfl⟩
    · exact hs.names id n hn
    · rw [Node.mapIds, List.map_map]
      have hnames : ((·.name) ∘ (·.mapIds (· + s.size)) : Keyword → String) = (·.name) :=
        funext fun k => Keyword.name_mapIds _ k
      rw [hnames]
      exact hc.names place m hm

/-- A change to one node that keeps its kind and holds no place that is held already. -/
theorem modify (h : s.Orderly) (id : NodeId) {f : Node → Node} (hkind : ∀ n, (f n).kind = n.kind)
    (more : List NodeId) (hmore : more.Nodup)
    (hfresh : ∀ child ∈ more, s.Below id child ∧ child ∉ s.places)
    (hheld : ∀ n child, (f n).places.count child ≤ more.count child + n.places.count child)
    (hnames : ∀ n : Node, (n.keywords.map (·.name)).Nodup →
      ((f n).keywords.map (·.name)).Nodup) : (s.modify id f).Orderly where
  nonempty := by
    rw [size_modify]
    exact h.nonempty
  below := by
    intro place n hn c hmem
    unfold Below
    rw [size_modify]
    rw [node?_modify] at hn
    split at hn
    · next heq =>
      subst heq
      obtain ⟨old, hold, rfl⟩ := Option.map_eq_some_iff.1 hn
      have hle := hheld old c
      have hpos := List.count_pos_iff.2 hmem
      by_cases hc : c ∈ more
      · exact (hfresh c hc).1
      · rw [List.count_eq_zero.2 hc] at hle
        exact h.below id old hold c (List.count_pos_iff.1 (by omega))
    · exact h.below place n hn c hmem
  once := by
    intro (c : Nat)
    have hle := count_places_modify_le s id f more.count hheld c
    have honce := h.once c
    by_cases hc : c ∈ more
    · have hnone := List.count_eq_zero.2 (hfresh c hc).2
      have := List.nodup_iff_count_le_one.1 hmore c
      omega
    · rw [List.count_eq_zero.2 hc] at hle
      omega
  link := by
    intro place n target hn hlink
    rw [node?_modify] at hn
    split at hn
    · obtain ⟨old, hold, rfl⟩ := Option.map_eq_some_iff.1 hn
      rw [hkind] at hlink
      exact h.link place old target hold hlink
    · exact h.link place n target hn hlink
  names := by
    intro place n hn
    rw [node?_modify] at hn
    split at hn
    · obtain ⟨old, hold, rfl⟩ := Option.map_eq_some_iff.1 hn
      exact hnames old (h.names place old hold)
    · exact h.names place n hn

theorem modify_same (h : s.Orderly) (id : NodeId) {f : Node → Node}
    (hkind : ∀ n, (f n).kind = n.kind) (hkeywords : ∀ n, (f n).keywords = n.keywords) :
    (s.modify id f).Orderly := by
  refine h.modify id hkind [] List.nodup_nil (by simp) ?_ ?_
  · intro n c
    rw [Node.places, hkeywords, Node.places]
    exact Nat.le_add_left _ _
  · intro n hn
    rw [hkeywords]
    exact hn

theorem setKeyword (h : s.Orderly) {k : Keyword} (hnodup : k.places.Nodup)
    (hfresh : ∀ child ∈ k.places, s.Below root child ∧ child ∉ s.places) : (s.setKeyword k).Orderly :=
  h.modify root (fun _ => rfl) k.places hnodup hfresh (fun n => n.count_places_setKeyword_le k)
    fun _ hn => Node.nodup_names_setKeyword hn k

theorem setLeaf (h : s.Orderly) (l : Leaf) : (s.setLeaf l).Orderly :=
  h.setKeyword List.nodup_nil (by simp [Keyword.places, Keyword.children])

theorem removeKeyword (h : s.Orderly) (id : NodeId) (name : String) :
    (s.modify id (·.removeKeyword name)).Orderly := by
  refine h.modify id (fun _ => rfl) [] List.nodup_nil (by simp) ?_ ?_
  · intro n c
    rw [List.count_nil, Nat.zero_add]
    exact n.count_places_removeKeyword_le name c
  · intro n hn
    exact Node.nodup_names_removeKeyword hn name

/-! ### Children -/

theorem fresh_adopt (hs : s.Orderly) (hc : child.Orderly) : s.size ∉ (s.adopt child).1.places := by
  intro hmem
  rw [places_adopt, List.mem_append] at hmem
  rcases hmem with hmem | hmem
  · exact absurd (hs.pos_of_mem_places hmem).2 (Nat.lt_irrefl _)
  · obtain ⟨c : Nat, hc', heq⟩ := List.mem_map.1 hmem
    have hpos : (0 : Nat) < c := (hc.pos_of_mem_places hc').1
    have heq : c + s.size = s.size := heq
    omega

theorem adoptAll_cons (s c : Schema) (children : List Schema) :
    s.adoptAll (c :: children) = (((s.adopt c).1.adoptAll children).1,
      s.size :: ((s.adopt c).1.adoptAll children).2) := rfl

/-- The schemas that are taken in stand at new places, which nothing holds. -/
theorem adoptAll (hs : s.Orderly) {children : List Schema} (hc : ∀ c ∈ children, c.Orderly) :
    (s.adoptAll children).1.Orderly ∧ s.size ≤ (s.adoptAll children).1.size ∧
      (∀ id, id < s.size → (s.adoptAll children).1.node? id = s.node? id) ∧
      (∀ id ∈ (s.adoptAll children).1.places, id < s.size → id ∈ s.places) ∧
      (s.adoptAll children).2.length = children.length ∧ (s.adoptAll children).2.Nodup ∧
      ∀ id ∈ (s.adoptAll children).2,
        s.size ≤ id ∧ id < (s.adoptAll children).1.size ∧ id ∉ (s.adoptAll children).1.places := by
  induction children generalizing s with
  | nil => exact ⟨hs, Nat.le_refl _, fun _ _ => rfl, fun _ h _ => h, rfl, List.nodup_nil, nofun⟩
  | cons c children ih =>
    obtain ⟨hfirst, hrest⟩ := List.forall_mem_cons.1 hc
    obtain ⟨horderly, hsize, hnode, hheld, hlength, hnodup, hids⟩ := ih (hs.adopt hfirst) hrest
    rw [adoptAll_cons]
    dsimp only
    have hadopt := size_adopt s c
    have hpos := hfirst.nonempty
    refine ⟨horderly, by omega, ?_, ?_, congrArg (· + 1) hlength, ?_, ?_⟩
    · intro id hid
      have hlt : id < (s.adopt c).1.size := by dsimp only [NodeId] at *; omega
      rw [← node?_adopt_left s c hid]
      exact hnode id hlt
    · intro id hmem hid
      have hlt : id < (s.adopt c).1.size := by dsimp only [NodeId] at *; omega
      have hmem := hheld id hmem hlt
      rw [places_adopt, List.mem_append] at hmem
      rcases hmem with hmem | hmem
      · exact hmem
      · obtain ⟨c', _, heq⟩ := List.mem_map.1 hmem
        dsimp only [NodeId] at *
        omega
    · refine List.nodup_cons.2 ⟨fun hmem => ?_, hnodup⟩
      obtain ⟨hle, _, _⟩ := hids s.size hmem
      omega
    · intro id hmem
      rcases List.mem_cons.1 hmem with rfl | hmem
      · have hlt : s.size < (s.adopt c).1.size := by omega
        exact ⟨Nat.le_refl _, Nat.lt_of_lt_of_le hlt hsize,
          fun hmem => fresh_adopt hs hfirst (hheld s.size hmem hlt)⟩
      · obtain ⟨hle, hlt, hnot⟩ := hids id hmem
        exact ⟨by dsimp only [NodeId] at *; omega, hlt, hnot⟩

theorem setChildren (hs : s.Orderly) {children : List Schema} (hc : ∀ c ∈ children, c.Orderly)
    {k : Keyword} (hk : k.places.Sublist (s.adoptAll children).2) :
    ((s.adoptAll children).1.setKeyword k).Orderly := by
  obtain ⟨horderly, _, _, _, _, hnodup, hids⟩ := hs.adoptAll hc
  refine horderly.setKeyword (hnodup.sublist hk) fun id hmem => ?_
  obtain ⟨hle, hlt, hnot⟩ := hids id (hk.subset hmem)
  exact ⟨⟨Nat.lt_of_lt_of_le hs.nonempty hle, hlt⟩, hnot⟩

theorem setSingle (hs : s.Orderly) (hc : child.Orderly) (slot : Slot) :
    (s.setSingle slot child).Orderly := by
  have hchildren : ∀ c ∈ [child], c.Orderly := by simpa using hc
  exact hs.setChildren (k := .single slot s.size) hchildren (List.Sublist.refl _)

theorem places_listed (slot : ListSlot) (ids : List NodeId) : (Keyword.listed slot ids).places = ids := by
  have hpositioned : ∀ (name : String) (i : Nat),
      (Keyword.positioned name i ids).map (·.2) = ids := by
    intro name i
    induction ids generalizing i with
    | nil => rfl
    | cons id ids ih => rw [Keyword.positioned, List.map_cons, ih]
  exact hpositioned _ 0

theorem places_keyed (slot : KeyedSlot) (entries : List (String × NodeId)) :
    (Keyword.keyed slot entries).places = entries.map (·.2) := by
  simp [Keyword.places, Keyword.children]

theorem places_patterns (entries : List (Pattern × NodeId)) :
    (Keyword.patternProperties entries).places = entries.map (·.2) := by
  simp [Keyword.places, Keyword.children]

theorem map_snd_zip_sublist (as : List α) (bs : List β) : ((as.zip bs).map (·.2)).Sublist bs := by
  induction as generalizing bs with
  | nil => exact List.nil_sublist bs
  | cons a as ih =>
    cases bs with
    | nil => exact List.nil_sublist _
    | cons b bs => exact (ih bs).cons_cons b

theorem setListed (hs : s.Orderly) {children : List Schema} (hc : ∀ c ∈ children, c.Orderly)
    (slot : ListSlot) : (s.setListed slot children).Orderly := by
  refine hs.setChildren hc ?_
  rw [places_listed]

theorem setKeyed (hs : s.Orderly) {entries : List (String × Schema)}
    (hc : ∀ e ∈ entries, e.2.Orderly) (slot : KeyedSlot) : (s.setKeyed slot entries).Orderly := by
  have hchildren : ∀ c ∈ entries.map (·.2), c.Orderly := by simpa using fun c key h => hc (key, c) h
  refine hs.setChildren hchildren ?_
  rw [places_keyed]
  exact map_snd_zip_sublist _ _

theorem setPatterns (hs : s.Orderly) {entries : List (String × Schema)}
    (hc : ∀ e ∈ entries, e.2.Orderly) {t : Schema} (ht : s.setPatterns entries = .ok t) :
    t.Orderly := by
  obtain ⟨patterns, _, ht⟩ := Except.bind_eq_ok_iff.1 ht
  cases ht
  have hchildren : ∀ c ∈ entries.map (·.2), c.Orderly := by simpa using fun c key h => hc (key, c) h
  refine hs.setChildren hchildren ?_
  rw [places_patterns]
  exact map_snd_zip_sublist _ _

/-! ### Objects and recursion -/

theorem foldl_optional (entries : List (String × NodeId)) (h : s.Orderly) :
    (entries.foldl (fun s e => s.modify e.2 fun n => { n with optional := true }) s).Orderly := by
  induction entries generalizing s with
  | nil => exact h
  | cons e entries ih => exact ih (h.modify_same e.2 (fun _ => rfl) fun _ => rfl)

theorem syncRequired (h : s.Orderly) : (s.syncRequired root).Orderly := by
  unfold Schema.syncRequired
  cases s.node? root with
  | none => exact h
  | some node =>
    dsimp only
    split
    · exact h.removeKeyword root "required"
    · exact h.setLeaf _

theorem close (h : s.Orderly) : s.close.Orderly := by
  unfold Schema.close
  dsimp only
  split
  · exact h.syncRequired
  · exact h.syncRequired.setSingle (ofNode rfl (by simp [Node.ofKind]) (by simp [Node.ofKind])) _

theorem loosen (h : s.Orderly) : s.loosen.Orderly := (h.foldl_optional _).syncRequired

theorem markOptional (h : s.Orderly) : (Loader.markOptional s).Orderly := by
  unfold Loader.markOptional
  split
  · exact h
  · exact h.foldl_optional _

end Orderly

/-! ### Recursion -/

theorem node?_tie (s : Schema) (token : Nat) (id : NodeId) :
    (s.tie token).node? id = (s.node? id).map fun n =>
      if n.kind = .hole token then
        { n with kind := if s.kind? root = some (.hole token) then .any else .link root }
      else n := Array.getElem?_map

theorem size_tie (s : Schema) (token : Nat) : (s.tie token).size = s.size := Array.size_map

theorem node?_tie_cases {s : Schema} {token : Nat} {id : NodeId} {n : Node}
    (h : (s.tie token).node? id = some n) :
    ∃ old, s.node? id = some old ∧ n.keywords = old.keywords ∧ n.optional = old.optional ∧
      n.hooks = old.hooks ∧
      ((old.kind ≠ .hole token ∧ n.kind = old.kind) ∨
        (old.kind = .hole token ∧ s.kind? root = some (.hole token) ∧ n.kind = .any) ∨
        (old.kind = .hole token ∧ s.kind? root ≠ some (.hole token) ∧ n.kind = .link root)) := by
  rw [node?_tie] at h
  obtain ⟨old, hold, rfl⟩ := Option.map_eq_some_iff.1 h
  refine ⟨old, hold, ?_⟩
  by_cases hhole : old.kind = .hole token
  · rw [if_pos hhole]
    by_cases hroot : s.kind? root = some (.hole token)
    · exact ⟨rfl, rfl, rfl, .inr (.inl ⟨hhole, hroot, if_pos hroot⟩)⟩
    · exact ⟨rfl, rfl, rfl, .inr (.inr ⟨hhole, hroot, if_neg hroot⟩)⟩
  · rw [if_neg hhole]
    exact ⟨rfl, rfl, rfl, .inl ⟨hhole, rfl⟩⟩

theorem places_tie (s : Schema) (token : Nat) : (s.tie token).places = s.places := by
  unfold places tie
  rw [Array.toList_map, List.flatMap_map]
  congr 1
  funext n
  split <;> rfl

theorem isOptional_tie (s : Schema) (token : Nat) (id : NodeId) :
    (s.tie token).isOptional id = s.isOptional id := by
  unfold isOptional
  rw [node?_tie]
  cases s.node? id with
  | none => rfl
  | some n =>
    rw [Option.map_some, Option.map_some, Option.map_some]
    split <;> rfl

theorem Orderly.tie {s : Schema} (h : s.Orderly) (token : Nat) : (s.tie token).Orderly where
  nonempty := by
    rw [size_tie]
    exact h.nonempty
  below := by
    intro id n hn c hmem
    obtain ⟨old, hold, hkeywords, _⟩ := node?_tie_cases hn
    rw [Node.places, hkeywords] at hmem
    unfold Below
    rw [size_tie]
    exact h.below id old hold c hmem
  once := by
    rw [places_tie]
    exact h.once
  link := by
    intro id n target hn hkind
    obtain ⟨old, hold, _, _, _, hcases⟩ := node?_tie_cases hn
    rcases hcases with ⟨_, hsame⟩ | ⟨_, _, hany⟩ | ⟨hhole, hroot, hlink⟩
    · exact h.link id old target hold (hsame ▸ hkind)
    · rw [hany] at hkind
      cases hkind
    · rw [hlink] at hkind
      cases hkind
      refine Nat.pos_of_ne_zero fun hzero => hroot ?_
      subst hzero
      rw [kind?, root, hold, Option.map_some, hhole]
  names := by
    intro id n hn
    obtain ⟨old, hold, hkeywords, _⟩ := node?_tie_cases hn
    rw [hkeywords]
    exact h.names id old hold

/-! ## Kinds -/

theorem kind?_modify (s : Schema) (id place : NodeId) {f : Node → Node}
    (hf : ∀ n, (f n).kind = n.kind) : (s.modify id f).kind? place = s.kind? place := by
  unfold kind?
  rw [node?_modify]
  split
  · rw [Option.map_map]
    congr 1
    exact funext hf
  · rfl

theorem kind?_foldl_optional (s : Schema) (entries : List (String × NodeId)) (place : NodeId) :
    (entries.foldl (fun s e => s.modify e.2 fun n => { n with optional := true }) s).kind? place =
      s.kind? place := by
  induction entries generalizing s with
  | nil => rfl
  | cons e entries ih =>
    rw [List.foldl_cons, ih]
    exact s.kind?_modify e.2 place fun _ => rfl

theorem kind?_setKeyword (s : Schema) (k : Keyword) (place : NodeId) :
    (s.setKeyword k).kind? place = s.kind? place := s.kind?_modify root place fun _ => rfl

theorem kind?_syncRequired (s : Schema) (id place : NodeId) :
    (s.syncRequired id).kind? place = s.kind? place := by
  unfold syncRequired
  split
  · rfl
  · exact s.kind?_modify id place fun n => by split <;> rfl

theorem size_setKeyword (s : Schema) (k : Keyword) : (s.setKeyword k).size = s.size := size_modify ..

theorem size_adoptAll (s : Schema) (cs : List Schema) :
    (s.adoptAll cs).1.size = s.size + (cs.map size).sum := by
  induction cs generalizing s with
  | nil => rfl
  | cons c cs ih =>
    rw [Orderly.adoptAll_cons]
    dsimp only
    rw [ih, size_adopt, List.map_cons, List.sum_cons, Nat.add_assoc]

theorem le_of_mem_adoptAll {s : Schema} {cs : List Schema} {id : NodeId} (h : id ∈ (s.adoptAll cs).2) :
    s.size ≤ id := by
  induction cs generalizing s with
  | nil => cases h
  | cons c cs ih =>
    rw [Orderly.adoptAll_cons] at h
    rcases List.mem_cons.1 h with rfl | h
    · exact Nat.le_refl _
    · have hle := ih h
      rw [size_adopt] at hle
      exact Nat.le_trans (Nat.le_add_right _ _) hle

theorem node?_adoptAll (s : Schema) (cs : List Schema) {id : NodeId} (h : id < s.size) :
    (s.adoptAll cs).1.node? id = s.node? id := by
  induction cs generalizing s with
  | nil => rfl
  | cons c cs ih =>
    have hlt : id < (s.adopt c).1.size := by
      rw [size_adopt]
      exact Nat.lt_add_right _ h
    rw [Orderly.adoptAll_cons]
    exact (ih _ hlt).trans (node?_adopt_left s c h)

theorem kind?_adoptAll (s : Schema) (children : List Schema) {place : NodeId}
    (h : place < s.size) : (s.adoptAll children).1.kind? place = s.kind? place := by
  rw [kind?, node?_adoptAll s children h, kind?]

end Schema

end JsonSchema
