import JsonSchema.Proofs.Loading.Labels

/-! # Schemas that differ only in how a number is spelled -/

namespace JsonSchema

/-! ## Keywords and nodes -/

/-- Limits on numbers are compared as numbers, so that zero has no sign. -/
inductive Leaf.Same : Leaf → Leaf → Prop where
  | refl (l : Leaf) : Same l l
  | bound (which : Bound) {f g : Float} (h : (f == g) = true) : Same (.bound which f) (.bound which g)
  | multipleOf {f g : Float} (h : (f == g) = true) : Same (.multipleOf f) (.multipleOf g)

/-- Schemas are held at the same places. -/
inductive Keyword.Same : Keyword → Keyword → Prop where
  | leaf {l l' : Leaf} (h : l.Same l') : Same (.leaf l) (.leaf l')
  | refl (k : Keyword) : Same k k

structure Node.Same (n n' : Node) : Prop where
  kind : n.kind = n'.kind
  keywords : List.Forall₂ Keyword.Same n.keywords n'.keywords
  optional : n.optional = n'.optional
  hooks : n.hooks = n'.hooks

theorem Leaf.Same.name_eq {l l' : Leaf} (h : l.Same l') : l.name = l'.name := by
  cases h <;> rfl

theorem Keyword.Same.name_eq {k k' : Keyword} (h : k.Same k') : k.name = k'.name := by
  cases h with
  | leaf h => exact h.name_eq
  | refl k => rfl

theorem Keyword.Same.mapIds {k k' : Keyword} (h : k.Same k') (f : NodeId → NodeId) :
    (k.mapIds f).Same (k'.mapIds f) := by
  cases h with
  | leaf h => exact .leaf h
  | refl k => exact .refl _

namespace Node

variable {n n' : Node}

theorem Same.mapIds (h : n.Same n') (f : NodeId → NodeId) : (n.mapIds f).Same (n'.mapIds f) where
  kind := congrArg (Kind.mapIds f) h.kind
  keywords := List.forall₂_map_left_iff.2 (List.forall₂_map_right_iff.2
    (h.keywords.imp fun _ _ hk => hk.mapIds f))
  optional := h.optional
  hooks := h.hooks

theorem forall₂_replace {k k' : Keyword} (hk : k.Same k') {ks ks' : List Keyword}
    (h : List.Forall₂ Keyword.Same ks ks') :
    List.Forall₂ Keyword.Same (setKeyword.replace k ks) (setKeyword.replace k' ks') := by
  induction h with
  | nil => exact .cons hk .nil
  | cons hold hrest ih =>
    rw [setKeyword.replace, setKeyword.replace, hold.name_eq, hk.name_eq]
    split
    · exact .cons hk hrest
    · exact .cons hold ih

theorem Same.setKeyword (h : n.Same n') {k k' : Keyword} (hk : k.Same k') :
    (n.setKeyword k).Same (n'.setKeyword k') where
  kind := h.kind
  keywords := forall₂_replace hk h.keywords
  optional := h.optional
  hooks := h.hooks

theorem Same.setOptional (h : n.Same n') :
    Same { n with optional := true } { n' with optional := true } where
  kind := h.kind
  keywords := h.keywords
  optional := rfl
  hooks := h.hooks

theorem Same.find?_eq (h : n.Same n') {part? : Keyword → Option α}
    (hpart : ∀ l l' : Leaf, l.Same l' → part? (.leaf l) = part? (.leaf l')) :
    n.find? part? = n'.find? part? := by
  have hkeywords := h.keywords
  unfold find?
  generalize n.keywords = ks at hkeywords
  generalize n'.keywords = ks' at hkeywords
  induction hkeywords with
  | nil => rfl
  | cons hk _ ih =>
    rw [List.findSome?_cons, List.findSome?_cons, ih]
    cases hk with
    | leaf hl => rw [hpart _ _ hl]
    | refl k => rfl

theorem Same.properties_eq (h : n.Same n') : n.properties = n'.properties := by
  unfold properties
  rw [h.find?_eq]
  intro l l' _
  rfl

theorem Same.required?_eq (h : n.Same n') : n.required? = n'.required? := by
  unfold required?
  rw [h.find?_eq]
  intro l l' hl
  cases hl <;> rfl

end Node

/-! ## Schemas -/

/-- Same nodes at the same places. -/
structure Schema.Same (s t : Schema) : Prop where
  size : s.size = t.size
  nodes : ∀ id n, s.node? id = some n → ∃ n', t.node? id = some n' ∧ n.Same n'

namespace Schema

variable {s t : Schema}

theorem Same.ofNode {n n' : Node} (h : n.Same n') : (Schema.ofNode n).Same (.ofNode n') where
  size := rfl
  nodes := by
    intro id found hfound
    obtain rfl : id = root := Nat.lt_one_iff.1 (lt_size_of_node? hfound)
    cases hfound
    exact ⟨n', rfl, h⟩

theorem Same.modify (h : s.Same t) (id : NodeId) {f g : Node → Node}
    (hfg : ∀ n n', n.Same n' → (f n).Same (g n')) : (s.modify id f).Same (t.modify id g) where
  size := by rw [size_modify, size_modify, h.size]
  nodes := by
    intro place n hn
    rw [node?_modify] at hn ⊢
    split at hn
    · next heq =>
      obtain ⟨old, hold, rfl⟩ := Option.map_eq_some_iff.1 hn
      obtain ⟨old', hold', hsame⟩ := h.nodes place old hold
      exact ⟨g old', by rw [if_pos heq, hold']; rfl, hfg old old' hsame⟩
    · next hne =>
      obtain ⟨n', hn', hsame⟩ := h.nodes place n hn
      exact ⟨n', by rw [if_neg hne, hn'], hsame⟩

theorem Same.setKeyword (h : s.Same t) {k k' : Keyword} (hk : k.Same k') :
    (s.setKeyword k).Same (t.setKeyword k') :=
  h.modify root fun _ _ hn => hn.setKeyword hk

/-! ## Taking in schemas -/

theorem Same.adopt (h : s.Same t) {c c' : Schema} (hc : c.Same c') :
    (s.adopt c).1.Same (t.adopt c').1 where
  size := by rw [size_adopt, size_adopt, h.size, hc.size]
  nodes := by
    intro id n hn
    by_cases hlt : id < s.size
    · rw [node?_adopt_left s c hlt] at hn
      rw [node?_adopt_left t c' (h.size ▸ hlt)]
      exact h.nodes id n hn
    · obtain ⟨place, rfl⟩ := Nat.exists_eq_add_of_le (Nat.le_of_not_lt hlt)
      rw [node?_adopt_right] at hn
      obtain ⟨old, hold, rfl⟩ := Option.map_eq_some_iff.1 hn
      obtain ⟨old', hold', hsame⟩ := hc.nodes place old hold
      refine ⟨old'.mapIds (· + s.size), ?_, hsame.mapIds _⟩
      rw [h.size, node?_adopt_right, hold', Option.map_some]

theorem Same.adoptAll {cs cs' : List Schema} (hcs : List.Forall₂ Same cs cs') (h : s.Same t) :
    (s.adoptAll cs).1.Same (t.adoptAll cs').1 ∧ (s.adoptAll cs).2 = (t.adoptAll cs').2 := by
  induction hcs generalizing s t with
  | nil => exact ⟨h, rfl⟩
  | cons hc _ ih =>
    obtain ⟨hsame, hids⟩ := ih (h.adopt hc)
    exact ⟨hsame, congrArg₂ List.cons h.size hids⟩

theorem Same.setSingle (h : s.Same t) {c c' : Schema} (hc : c.Same c') (slot : Slot) :
    (s.setSingle slot c).Same (t.setSingle slot c') := by
  have hk : (Keyword.single slot s.size).Same (.single slot t.size) := h.size ▸ .refl _
  exact (h.adopt hc).setKeyword hk

theorem Same.setListed (h : s.Same t) {cs cs' : List Schema} (hcs : List.Forall₂ Same cs cs')
    (slot : ListSlot) : (s.setListed slot cs).Same (t.setListed slot cs') := by
  obtain ⟨hsame, hids⟩ := h.adoptAll hcs
  exact hsame.setKeyword (hids ▸ .refl _)

/-- The same schemas under the same keys. -/
def SameEntries (es es' : List (String × Schema)) : Prop :=
  List.Forall₂ (fun e e' => e.1 = e'.1 ∧ e.2.Same e'.2) es es'

theorem SameEntries.keys {es es' : List (String × Schema)} (h : SameEntries es es') :
    es.map (·.1) = es'.map (·.1) := by
  induction h with
  | nil => rfl
  | cons h _ ih => rw [List.map_cons, List.map_cons, h.1, ih]

theorem SameEntries.schemas {es es' : List (String × Schema)} (h : SameEntries es es') :
    List.Forall₂ Same (es.map (·.2)) (es'.map (·.2)) :=
  List.forall₂_map_left_iff.2 (List.forall₂_map_right_iff.2 (h.imp fun _ _ h => h.2))

theorem Same.setKeyed (h : s.Same t) {es es' : List (String × Schema)} (hes : SameEntries es es')
    (slot : KeyedSlot) : (s.setKeyed slot es).Same (t.setKeyed slot es') := by
  obtain ⟨hsame, hids⟩ := h.adoptAll hes.schemas
  refine hsame.setKeyword ?_
  rw [hids, hes.keys]
  exact .refl _

theorem Same.setPatterns (h : s.Same t) {es es' : List (String × Schema)}
    (hes : SameEntries es es') {u : Schema} (hu : s.setPatterns es = .ok u) :
    ∃ u', t.setPatterns es' = .ok u' ∧ u.Same u' := by
  obtain ⟨patterns, hpatterns, hu⟩ := Except.bind_eq_ok_iff.1 hu
  cases hu
  obtain ⟨hsame, hids⟩ := h.adoptAll hes.schemas
  refine ⟨_, Except.bind_eq_ok_iff.2 ⟨patterns, ?_, rfl⟩, hsame.setKeyword (hids ▸ .refl _)⟩
  have hkeys : es.mapM (fun e => compile e.1) = (es.map (·.1)).mapM compile := by
    rw [List.mapM_map]; rfl
  have hkeys' : es'.mapM (fun e => compile e.1) = (es'.map (·.1)).mapM compile := by
    rw [List.mapM_map]; rfl
  rw [hkeys', ← hes.keys, ← hkeys, hpatterns]

theorem Same.foldl_optional (entries : List (String × NodeId)) (h : s.Same t) :
    (entries.foldl (fun s e => s.modify e.2 fun n => { n with optional := true }) s).Same
      (entries.foldl (fun s e => s.modify e.2 fun n => { n with optional := true }) t) := by
  induction entries generalizing s t with
  | nil => exact h
  | cons e entries ih => exact ih (h.modify e.2 fun _ _ hn => hn.setOptional)

theorem Same.markOptional (h : s.Same t) :
    (Loader.markOptional s).Same (Loader.markOptional t) := by
  unfold Loader.markOptional
  cases hn : s.node? root with
  | none =>
    have hnone : t.node? root = none := by
      rw [node?, Array.getElem?_eq_none_iff] at hn ⊢
      exact Nat.le_trans (Nat.le_of_eq h.size.symm) hn
    rw [hnone]
    exact h
  | some n =>
    obtain ⟨n', hn', hsame⟩ := h.nodes root n hn
    rw [hn']
    dsimp only
    rw [hsame.properties_eq, hsame.required?_eq]
    exact h.foldl_optional _

end Schema

end JsonSchema
