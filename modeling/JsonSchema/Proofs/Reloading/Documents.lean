import JsonSchema.Proofs.Building.Marks
import JsonSchema.Proofs.Building.Tree
import JsonSchema.Proofs.Reloading.Plain
import JsonSchema.Proofs.Writing.Reload

/-!
# The documents of the nodes of a schema

Every node of a plain schema writes a document that some node reads: itself up to the spelling of
numbers, or a reference where it is a link.
-/

namespace JsonSchema

open Loader

/-! ## What is read back -/

/-- What may be read from the document of a node: the same about related places, only the truth value
itself, a reference for a link, and nothing for a placeholder. -/
inductive Node.ReadsBack (pointer : NodeId → String) (R : NodeId → NodeId → Prop) (n n' : Node) : Prop
    where
  | same (stands : ¬n.kind.IsBare) (kind : n.kind = n'.kind)
      (keywords : List.Forall₂ (Keyword.Alike Leaf.Same R) n.keywords n'.keywords)
  | constant {accepts : Bool} (kind : n.kind = .constant accepts) (kind' : n'.kind = .constant accepts)
      (inert : ∀ k ∈ n.keywords, k.IsInert) (keywords' : n'.keywords = [])
  | link {target : NodeId} (kind : n.kind = .link target) (kind' : n'.kind = .any)
      (inert : ∀ k ∈ n.keywords, k.IsInert)
      (keywords' : n'.keywords = [.leaf (.ref (pointer target))])
  | hole {token : Nat} (kind : n.kind = .hole token) (kind' : n'.kind = .any)
      (keywords : n.keywords = []) (keywords' : n'.keywords = [])

/-! ## What can be loaded -/

namespace Loader

variable {R : NodeId → Json → Prop} (hR : ∀ id d, R id d → ∀ path, ∃ u, load path d = .ok u)
include hR

theorem exists_loadItems {ids : List NodeId} {items : List Json} (h : List.Forall₂ R ids items)
    (path : Path) (i : Nat) : ∃ children, loadItems path i items = .ok children := by
  induction h generalizing i with
  | nil => exact ⟨[], rfl⟩
  | @cons id d _ _ hd _ ih =>
    obtain ⟨u, hu⟩ := hR id d hd (path ++ [.ofPosition i])
    obtain ⟨us, hus⟩ := ih (i + 1)
    refine ⟨u :: us, ?_⟩
    rw [loadItems, hu, Except.ok_bind, hus]
    rfl

theorem exists_loadEntries {α : Type} {P : α × NodeId → String × Json → Prop} {entries : List (α × NodeId)}
    {ms : Members} (h : List.Forall₂ (fun e m => P e m ∧ R e.2 m.2) entries ms) (path : Path) :
    ∃ loaded, loadEntries path ms = .ok loaded := by
  induction h with
  | nil => exact ⟨[], rfl⟩
  | @cons e m _ _ he _ ih =>
    obtain ⟨u, hu⟩ := hR e.2 m.2 he.2 (path ++ [.key m.1])
    obtain ⟨us, hus⟩ := ih
    refine ⟨(m.1, u) :: us, ?_⟩
    rw [loadEntries, hu, Except.ok_bind, hus]
    rfl

theorem exists_loadMembers {ms : Members} {ks : List Keyword}
    (h : List.Forall₂ (Keyword.Reads R) ms ks) (path : Path) (s : Schema) :
    ∃ t, loadMembers path s ms = .ok t := by
  induction h generalizing s with
  | nil => exact ⟨s, rfl⟩
  | cons hk _ ih =>
    cases hk with
    | leaf role read =>
      rw [loadMembers_leaf role (readLeaf_eq_ok_iff.2 (readLeaf_eq_ok_iff.1 read))]
      exact ih _
    | @single name v slot child role held =>
      obtain ⟨u, hu⟩ := hR child v held (path ++ [.key name])
      rw [loadMembers_single role hu]
      exact ih _
    | @listed name items slot children role held =>
      obtain ⟨us, hus⟩ := exists_loadItems hR held (path ++ [.key name]) 0
      rw [loadMembers_listed role hus]
      exact ih _
    | @keyed name ms slot entries role held =>
      obtain ⟨us, hus⟩ := exists_loadEntries hR held (path ++ [.key name])
      rw [loadMembers_keyed role hus]
      exact ih _
    | @patterns name ms entries role held =>
      obtain ⟨us, hus⟩ := exists_loadEntries hR held (path ++ [.key name])
      have hcompiles : ∀ u ∈ us, ∃ p, Schema.compile u.1 = .ok p := by
        intro u hu
        obtain ⟨m, hm, hkey, _⟩ := exists_of_forall₂ (forall₂_of_loadEntries hus) hu
        obtain ⟨e, _, hpattern, _⟩ := exists_of_forall₂ held.flip hm
        exact ⟨e.1, compile_eq_ok_iff.2 (hkey ▸ hpattern)⟩
      obtain ⟨patterns, hpatterns⟩ := Except.exists_mapM_eq_ok_iff.2 hcompiles
      have hset : s.setPatterns us = .ok _ := Except.bind_eq_ok_iff.2 ⟨patterns, hpatterns, rfl⟩
      rw [loadMembers_patterns role hus hset]
      exact ih _

theorem exists_load {d : Json} {n : Node} (h : n.Reads R d) (path : Path) :
    ∃ u, load path d = .ok u := by
  cases h with
  | constant => exact ⟨_, by rw [load]⟩
  | object kind keywords =>
    obtain ⟨t, ht⟩ := exists_loadMembers hR keywords path (.ofNode (.ofKind n.kind))
    refine ⟨markOptional t, ?_⟩
    rw [load, kind, Except.ok_bind, ht]
    rfl

end Loader

namespace Schema

/-- What is known of a plain schema that was built. -/
structure WellBuilt (s : Schema) : Prop where
  orderly : s.Orderly
  plain : s.IsPlain
  candid : s.Everywhere Node.Candid
  synced : s.SyncedOn fun _ => True
  nested : s.Nested

def pointerTo (s : Schema) (id : NodeId) : String := ((Index.ofSchema s).pointer? id).getD "#"

/-! ## Documents -/

section Documents

variable {s : Schema} {id : NodeId} {n : Node}

theorem documentAt_none (hn : s.node? id = none) : s.documentAt id = .null := by
  unfold documentAt
  rw [document, hn]

variable (hn : s.node? id = some n)
include hn

theorem documentAt_constant {accepts : Bool} (hkind : n.kind = .constant accepts) :
    s.documentAt id = .bool accepts := by
  unfold documentAt
  rw [document, hn]
  dsimp only
  rw [hkind]

theorem documentAt_link {target : NodeId} (hkind : n.kind = .link target) :
    s.documentAt id = .object [("$ref", .string (s.pointerTo target))] := by
  unfold documentAt
  rw [document, hn]
  dsimp only
  rw [hkind]
  rfl

theorem documentAt_keywords (ho : s.Orderly) (hconstant : ∀ accepts, n.kind ≠ .constant accepts)
    (hlink : ∀ target, n.kind ≠ .link target) :
    s.documentAt id = .object (n.keywords.map fun k => (k.name, k.toJson s.documentAt)) := by
  have hwritten : s.documentAt id = .object (Members.ofList (n.keywords.map fun k =>
      (k.name, k.toJson fun child =>
        if _ : s.Below id child then s.document (.ofSchema s) child else .null))) := by
    unfold documentAt
    rw [document, hn]
    dsimp only
    cases hkind : n.kind with
    | constant accepts => exact absurd hkind (hconstant accepts)
    | link target => exact absurd hkind (hlink target)
    | _ => rfl
  have hkeywords : n.keywords.map (fun k => (k.name, k.toJson fun child =>
      if _ : s.Below id child then s.document (.ofSchema s) child else .null)) =
        n.keywords.map fun k => (k.name, k.toJson s.documentAt) := by
    refine List.map_congr_left fun k hk => ?_
    congr 1
    refine Keyword.toJson_congr fun child hchild => ?_
    exact dif_pos (ho.below id n hn child (List.mem_flatMap.2 ⟨k, hk, hchild⟩))
  rw [hwritten, hkeywords, Members.ofList_of_nodup]
  rw [Members.keys, List.map_map]
  exact ho.names id n hn

end Documents

namespace WellBuilt

variable {s : Schema} (h : s.WellBuilt)
include h

theorem keysDistinct_documentAt (id : NodeId) : (s.documentAt id).keysDistinct = true := by
  induction hsize : s.size - id using Nat.strongRecOn generalizing id with
  | ind size ih
  subst hsize
  cases hn : s.node? id with
  | none => rw [documentAt_none hn]; rfl
  | some n =>
    by_cases hconstant : ∃ accepts, n.kind = .constant accepts
    · obtain ⟨accepts, hkind⟩ := hconstant
      rw [documentAt_constant hn hkind]
      rfl
    by_cases hlink : ∃ target, n.kind = .link target
    · obtain ⟨target, hkind⟩ := hlink
      rw [documentAt_link hn hkind]
      rfl
    simp only [not_exists] at hconstant hlink
    rw [documentAt_keywords hn h.orderly hconstant hlink, Json.keysDistinct_object, Members.keys,
      List.map_map]
    refine ⟨h.orderly.names id n hn, ?_⟩
    simp only [List.forall_mem_map]
    intro k hk
    apply ((h.plain id n hn).keywords k hk).keysDistinct
    intro child hchild
    have hbelow := h.orderly.below id n hn child (List.mem_flatMap.2 ⟨k, hk, hchild⟩)
    exact ih _ hbelow.size_sub_lt child rfl

theorem genuine {id : NodeId} {n : Node} (hn : s.node? id = some n) {names : List String}
    (hnames : ∀ name ∈ names, name ∈ interpreted) : n.Genuine names := by
  intro name v hv hmem
  have hplain : (Leaf.note name v).IsPlain := (h.plain id n hn).keywords _ hv
  exact hplain.1 (hnames name hmem)

theorem exists_reads_keywords {id : NodeId} {n : Node} (hn : s.node? id = some n) :
    ∃ ks, List.Forall₂ (Keyword.Reads fun child d => s.HeldBy child id ∧ d = s.documentAt child)
        (n.keywords.map fun k => (k.name, k.toJson s.documentAt)) ks ∧
      List.Forall₂ (Keyword.Alike Leaf.Same Eq) n.keywords ks := by
  have heach : ∀ k ∈ n.keywords, ∃ k', k'.Reads
      (fun child d => s.HeldBy child id ∧ d = s.documentAt child) (k.name, k.toJson s.documentAt) ∧
        k.Alike Leaf.Same Eq k' := by
    intro k hk
    refine ((h.plain id n hn).keywords k hk).exists_reads ((h.candid id n hn).patterns k hk) ?_
    intro child hchild
    exact ⟨⟨n, hn, List.mem_flatMap.2 ⟨k, hk, hchild⟩⟩, rfl⟩
  generalize n.keywords = ks at heach ⊢
  induction ks with
  | nil => exact ⟨[], .nil, .nil⟩
  | cons k ks ih =>
    obtain ⟨hk, hks⟩ := List.forall_mem_cons.1 heach
    obtain ⟨k', hreads, halike⟩ := hk
    obtain ⟨ks', hreads', halike'⟩ := ih hks
    exact ⟨k' :: ks', .cons hreads hreads', .cons halike halike'⟩

theorem exists_readsBack {id : NodeId} {n : Node} (hn : s.node? id = some n) :
    ∃ n', n'.Reads (fun child d => s.HeldBy child id ∧ d = s.documentAt child) (s.documentAt id) ∧
      n.ReadsBack s.pointerTo Eq n' := by
  have hplain := h.plain id n hn
  by_cases hbare : n.kind.IsBare
  · have hinert := hplain.bare hbare
    cases hkind : n.kind with
    | constant accepts =>
      refine ⟨{ kind := .constant accepts }, ?_, .constant hkind rfl hinert rfl⟩
      rw [documentAt_constant hn hkind]
      exact .constant rfl rfl rfl
    | link target =>
      refine ⟨{ kind := .any, keywords := [.leaf (.ref (s.pointerTo target))] }, ?_,
        .link hkind rfl hinert rfl⟩
      rw [documentAt_link hn hkind]
      have hread : Loader.readLeaf [] "$ref" (.string (s.pointerTo target)) =
          .ok (.ref (s.pointerTo target)) := rfl
      exact .object rfl (.cons (.leaf rfl hread) .nil) rfl
    | hole token =>
      have hkeywords := hplain.hole token hkind
      refine ⟨{ kind := .any }, ?_, .hole hkind rfl hkeywords rfl⟩
      rw [documentAt_keywords hn h.orderly (by simp [hkind]) (by simp [hkind]), hkeywords]
      exact .object rfl .nil rfl
    | _ => simp [hkind, Kind.IsBare] at hbare
  · have hconstant : ∀ accepts, n.kind ≠ .constant accepts := by
      rintro accepts heq
      simp [heq, Kind.IsBare] at hbare
    have hlink := Kind.ne_link_of_not_bare hbare
    have hsaid : n.kind.said? = some n.kind := by
      cases hkind : n.kind with
      | constant | link | hole => simp [hkind, Kind.IsBare] at hbare
      | _ => rfl
    obtain ⟨ks, hreads, halike⟩ := h.exists_reads_keywords hn
    refine ⟨{ kind := n.kind, keywords := ks }, ?_, .same hbare rfl halike⟩
    rw [documentAt_keywords hn h.orderly hconstant hlink]
    refine .object ?_ hreads rfl
    -- No note stands under a name that is interpreted, so the kind is what the keywords say.
    have hgenuine : n.Genuine Node.kindNames := by
      apply h.genuine hn
      simp [Node.kindNames, interpreted, ListSlot.all, ListSlot.name]
    have hkind := (h.candid id n hn).kind hgenuine n.kind hsaid
    rw [Node.kindOf_of_reads (n := { kind := n.kind, keywords := ks }) hreads, ← hkind]
    exact congrArg Except.ok (Node.saidKind_eq (fun _ _ hl => hl) halike).symm

/-! ## Loading -/

theorem exists_load {id : NodeId} (hid : id < s.size) (path : Path) :
    ∃ u, load path (s.documentAt id) = .ok u := by
  induction hsize : s.size - id using Nat.strongRecOn generalizing id path with
  | ind size ih
  subst hsize
  obtain ⟨n, hn⟩ : ∃ n, s.node? id = some n := ⟨_, Array.getElem?_eq_getElem hid⟩
  obtain ⟨n', hreads, _⟩ := h.exists_readsBack hn
  refine Loader.exists_load ?_ hreads path
  rintro child d ⟨hheld, rfl⟩ path
  have hbelow := h.orderly.below_of_heldBy hheld
  exact ih _ hbelow.size_sub_lt hbelow.2 path rfl

end WellBuilt

end Schema

end JsonSchema
