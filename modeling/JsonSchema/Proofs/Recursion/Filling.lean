import JsonSchema.Proofs.Recursion.Renaming

/-!
# Schemas with their holes filled

Where one schema has a hole of the outermost recursion, the other has a copy of the schema that
fills. All other nodes are the same up to a renaming of places.
-/

namespace JsonSchema

namespace Schema

/-- Nothing in the schema is still being built. -/
def HoleFree (s : Schema) : Prop := ∀ id n, s.node? id = some n → ∀ token, n.kind ≠ .hole token

/-! ## Filled schemas -/

/-- How many places stand for one of the schema with holes. -/
def width (t b : Schema) (a : Nat) : Nat := if b.kind? a = some (.hole 0) then t.size else 1

/-- Only whether a copy is optional is said by the hole. -/
structure Fills (t b u : Schema) (place : Nat → Nat) : Prop where
  root : place 0 = 0
  grows : ∀ a a', a < a' → a' ≤ b.size → place a + t.width b a ≤ place a'
  size : place b.size = u.size
  node : ∀ (a : Nat) n, b.node? a = some n → n.kind ≠ .hole 0 →
    u.node? (place a) = some (n.mapIds place)
  copy : ∀ (a : Nat) n, b.node? a = some n → n.kind = .hole 0 → ∀ (j : Nat) m, t.node? j = some m →
    u.node? (place a + j) =
      some { m.mapIds (· + place a) with optional := if j = 0 then n.optional else m.optional }

theorem width_of_node {t b : Schema} {a : Nat} {n : Node} (hn : b.node? a = some n) :
    t.width b a = if n.kind = .hole 0 then t.size else 1 := by
  unfold width kind?
  rw [hn, Option.map_some]
  by_cases h : n.kind = .hole 0
  · rw [if_pos h, if_pos (by rw [h])]
  · rw [if_neg h, if_neg (by simpa using h)]

namespace Fills

theorem refl {t b : Schema} (hb : ∀ id n, b.node? id = some n → n.kind ≠ .hole 0) :
    Fills t b b fun a => a where
  root := rfl
  grows := by
    intro a a' hlt hle
    obtain ⟨n, hn⟩ : ∃ n, b.node? a = some n :=
      ⟨_, Array.getElem?_eq_getElem (Nat.lt_of_lt_of_le hlt hle)⟩
    rw [width_of_node hn, if_neg (hb a n hn)]
    exact hlt
  size := rfl
  node := by
    intro a n hn _
    rw [Node.mapIds_id, hn]
  copy := fun a n hn hhole => absurd hhole (hb a n hn)

/-- The hole alone is filled by the schema itself. -/
theorem hole {t : Schema} (hroot : t.isOptional Schema.root = false) :
    Fills t (placeholder 0) t (· * t.size) where
  root := Nat.zero_mul _
  grows := by
    intro a a' hlt hle
    have hsize : (placeholder 0).size = 1 := rfl
    obtain ⟨rfl, rfl⟩ : a = 0 ∧ a' = 1 := by omega
    have hn : (placeholder 0).node? 0 = some (.ofKind (.hole 0)) := rfl
    have hkind : (Node.ofKind (.hole 0)).kind = .hole 0 := rfl
    rw [width_of_node hn, if_pos hkind]
    omega
  size := Nat.one_mul _
  node := by
    intro a n hn hhole
    obtain ⟨rfl, rfl⟩ := Orderly.eq_of_node?_ofNode hn
    exact absurd rfl hhole
  copy := by
    intro a n hn _ j m hm
    obtain ⟨rfl, rfl⟩ := Orderly.eq_of_node?_ofNode hn
    have hplace : Schema.root * t.size = 0 := Nat.zero_mul _
    rw [hplace, Nat.zero_add, hm]
    have hoptional : (if j = 0 then false else m.optional) = m.optional := by
      split
      · next hj =>
        subst hj
        rw [isOptional, Schema.root, hm] at hroot
        exact hroot.symm
      · rfl
    have hid : m.mapIds (· + 0) = m := Node.mapIds_id m
    rw [hid]
    show some m = some { m with optional := if j = 0 then false else m.optional }
    rw [hoptional]

variable {t b u : Schema} {place : Nat → Nat} (h : Fills t b u place)

section Places

variable (ht : 0 < t.size)
include h ht

omit h in
theorem width_pos (a : Nat) : 0 < t.width b a := by
  unfold width
  split
  · exact ht
  · exact Nat.one_pos

theorem strict {a a' : Nat} (hlt : a < a') (hle : a' ≤ b.size) : place a < place a' := by
  have := h.grows a a' hlt hle
  have := width_pos (b := b) ht a
  omega

theorem lt_size {a : Nat} (ha : a < b.size) : place a < u.size := by
  rw [← h.size]
  exact h.strict ht ha (Nat.le_refl _)

theorem injective {a a' : Nat} (ha : a < b.size) (ha' : a' < b.size)
    (heq : place a = place a') : a = a' := by
  rcases Nat.lt_trichotomy a a' with hlt | heq' | hlt
  · have := h.strict ht hlt (Nat.le_of_lt ha')
    omega
  · exact heq'
  · have := h.strict ht hlt (Nat.le_of_lt ha)
    omega

theorem inside {a a' j : Nat} {n : Node} (hn : b.node? a = some n) (hhole : n.kind = .hole 0)
    (hj : j < t.size) (ha' : a' < b.size) (heq : place a' = place a + j) : a' = a ∧ j = 0 := by
  have ha := lt_size_of_node? hn
  have hwidth := width_of_node (t := t) hn
  rw [if_pos hhole] at hwidth
  rcases Nat.lt_trichotomy a a' with hlt | rfl | hlt
  · have := h.grows a a' hlt (Nat.le_of_lt ha')
    omega
  · exact ⟨rfl, by omega⟩
  · have := h.strict ht hlt (Nat.le_of_lt ha)
    omega

end Places

/-! ## Looking up -/

section Lookups

variable (ht : t.Orderly)
include h

theorem kind?_of_node {a : Nat} {kind : Kind} (hkind : b.kind? a = some kind)
    (hhole : kind ≠ .hole 0) : u.kind? (place a) = some (kind.mapIds place) := by
  obtain ⟨n, hn, rfl⟩ := Option.map_eq_some_iff.1 hkind
  rw [kind?, h.node a n hn hhole]
  rfl

include ht

theorem kind?_of_hole {a : Nat} (hhole : b.kind? a = some (.hole 0)) :
    u.kind? (place a) = t.kind? Schema.root := by
  obtain ⟨n, hn, hkind⟩ := Option.map_eq_some_iff.1 hhole
  obtain ⟨m, hm⟩ := ht.exists_root
  have hcopy := h.copy a n hn hkind 0 m hm
  have hlink : ∀ target, m.kind ≠ .link target := by
    intro target hlink
    exact ht.root_not_link target (by rw [kind?, hm, Option.map_some, hlink])
  rw [Nat.add_zero] at hcopy
  rw [kind?, hcopy, kind?, hm, Option.map_some, Option.map_some]
  exact congrArg some (Node.kind_mapIds_of_not_link hlink _)

theorem isOptional_eq {a : Nat} (ha : a < b.size) : u.isOptional (place a) = b.isOptional a := by
  obtain ⟨n, hn⟩ : ∃ n, b.node? a = some n := ⟨_, Array.getElem?_eq_getElem ha⟩
  by_cases hhole : n.kind = .hole 0
  · obtain ⟨m, hm⟩ := ht.exists_root
    have hcopy := h.copy a n hn hhole 0 m hm
    rw [Nat.add_zero, if_pos rfl] at hcopy
    rw [isOptional, hcopy, isOptional, hn]
    rfl
  · rw [isOptional, h.node a n hn hhole, isOptional, hn]
    rfl

end Lookups

/-! ## Taking in other schemas -/

/-- The places of a schema that took in another one. -/
def joined (b u : Schema) (place place' : Nat → Nat) (a : Nat) : Nat :=
  if a < b.size then place a else place' (a - b.size) + u.size

theorem joined_left {place' : Nat → Nat} {a : Nat} (ha : a < b.size) :
    joined b u place place' a = place a := if_pos ha

theorem joined_right (place place' : Nat → Nat) (a : Nat) :
    joined b u place place' (b.size + a) = place' a + u.size := by
  rw [joined, if_neg (by omega), Nat.add_sub_cancel_left]

theorem width_adopt_left {c : Schema} {a : Nat} (ha : a < b.size) :
    t.width (b.adopt c).1 a = t.width b a := by
  unfold width kind?
  rw [node?_adopt_left b c ha]

theorem width_adopt_right {c : Schema} (a : Nat) :
    t.width (b.adopt c).1 (b.size + a) = t.width c a := by
  unfold width kind?
  rw [node?_adopt_right]
  cases c.node? a with
  | none => rfl
  | some n =>
    simp only [Option.map_some, Option.some.injEq, Node.kind_mapIds_eq_hole_iff]

theorem adopt (ht : t.Orderly) (hb : b.Orderly) {c w : Schema} {place' : Nat → Nat}
    (h : Fills t b u place) (h' : Fills t c w place') :
    Fills t (b.adopt c).1 (u.adopt w).1 (joined b u place place') where
  root := by
    rw [joined_left hb.nonempty, h.root]
  size := by
    rw [size_adopt, joined_right, h'.size, size_adopt, Nat.add_comm]
  grows := by
    intro a a' hlt hle
    rw [size_adopt] at hle
    by_cases ha : a < b.size
    · rw [joined_left ha, width_adopt_left ha]
      by_cases ha' : a' < b.size
      · rw [joined_left ha']
        exact h.grows a a' hlt (Nat.le_of_lt ha')
      · obtain ⟨d, rfl⟩ := Nat.exists_eq_add_of_le (Nat.le_of_not_lt ha')
        have := h.grows a b.size ha (Nat.le_refl _)
        rw [joined_right, ← h.size]
        omega
    · obtain ⟨d, rfl⟩ := Nat.exists_eq_add_of_le (Nat.le_of_not_lt ha)
      obtain ⟨d', rfl⟩ := Nat.exists_eq_add_of_le (Nat.le_trans (Nat.le_of_not_lt ha) (Nat.le_of_lt hlt))
      have := h'.grows d d' (by omega) (by omega)
      rw [joined_right, joined_right, width_adopt_right]
      omega
  node := by
    intro a n hn hhole
    rcases Orderly.node?_adopt_cases hn with ⟨ha, hn⟩ | ⟨d, m, rfl, hm, rfl⟩
    · rw [joined_left ha, node?_adopt_left u w (h.lt_size ht.nonempty ha), h.node a n hn hhole]
      refine congrArg some (Node.mapIds_congr ?_ ?_)
      · intro id hid
        exact (joined_left (hb.below a n hn id hid).2).symm
      · intro target hlink
        exact (joined_left (Nat.lt_trans (hb.link a n target hn hlink) ha)).symm
    · have hkind : m.kind ≠ .hole 0 := mt Node.kind_mapIds_eq_hole_iff.2 hhole
      rw [joined_right, Nat.add_comm, node?_adopt_right, h'.node d m hm hkind, Option.map_some,
        Node.mapIds_mapIds, Node.mapIds_mapIds]
      congr 2
      funext id
      rw [Nat.add_comm id, joined_right]
  copy := by
    intro a n hn hhole j m hm
    rcases Orderly.node?_adopt_cases hn with ⟨ha, hn⟩ | ⟨d, m', rfl, hm', rfl⟩
    · have hcopy := h.copy a n hn hhole j m hm
      rw [joined_left ha, node?_adopt_left u w (lt_size_of_node? hcopy), hcopy]
    · have hkind : m'.kind = .hole 0 := Node.kind_mapIds_eq_hole_iff.1 hhole
      have hcopy := h'.copy d m' hm' hkind j m hm
      have hplace : place' d + u.size + j = u.size + (place' d + j) := by omega
      rw [joined_right, hplace, node?_adopt_right, hcopy, Option.map_some]
      have hmoved : (m.mapIds (· + place' d)).mapIds (· + u.size) =
          m.mapIds (· + (place' d + u.size)) := by
        rw [Node.mapIds_mapIds]
        congr 1
        funext id
        exact Nat.add_assoc _ _ _
      rw [← hmoved]
      rfl

theorem adoptAll (ht : t.Orderly) {cs ws : List Schema}
    (hcs : List.Forall₂ (fun c w => c.Orderly ∧ ∃ place, Fills t c w place) cs ws)
    (hb : b.Orderly) (h : Fills t b u place) :
    ∃ place', Fills t (b.adoptAll cs).1 (u.adoptAll ws).1 place' ∧
      (∀ a < b.size, place' a = place a) ∧
      (u.adoptAll ws).2 = (b.adoptAll cs).2.map place' := by
  induction hcs generalizing b u place with
  | nil => exact ⟨place, h, fun _ _ => rfl, rfl⟩
  | @cons c w cs ws hc hcs ih =>
    obtain ⟨horderly, placec, hfills⟩ := hc
    obtain ⟨place', h', hsame, hids⟩ := ih (hb.adopt horderly) (h.adopt ht hb hfills)
    have hsize := size_adopt b c
    have hpos := horderly.nonempty
    refine ⟨place', h', ?_, ?_⟩
    · intro a ha
      rw [hsame a (by omega), joined_left ha]
    · have hroot : joined b u place placec b.size = u.size := by
        have := joined_right (b := b) (u := u) place placec 0
        rwa [Nat.add_zero, hfills.root, Nat.zero_add] at this
      rw [Orderly.adoptAll_cons, Orderly.adoptAll_cons]
      dsimp only
      rw [hids, List.map_cons, hsame b.size (by omega), hroot]

/-! ## Changing nodes -/

theorem width_modify (b : Schema) (a a' : Nat) {f : Node → Node} (hf : ∀ n, (f n).kind = n.kind) :
    t.width (b.modify a f) a' = t.width b a' := by
  unfold width
  rw [b.kind?_modify a a' hf]

/-- The node at a place that is no hole may change like the node that stands for it. -/
theorem modify (ht : t.Orderly) (h : Fills t b u place) {a : Nat} (ha : a < b.size)
    {f g : Node → Node} (hf : ∀ n, (f n).kind = n.kind)
    (hnode : ∀ n, b.node? a = some n → n.kind ≠ .hole 0 →
      g (n.mapIds place) = (f n).mapIds place)
    (hcopy : ∀ n, b.node? a = some n → n.kind = .hole 0 → ∀ m : Node,
      g { m with optional := n.optional } = { m with optional := (f n).optional }) :
    Fills t (b.modify a f) (u.modify (place a) g) place where
  root := h.root
  grows := by
    intro a' a'' hlt hle
    rw [size_modify] at hle
    rw [width_modify b a a' hf]
    exact h.grows a' a'' hlt hle
  size := by rw [size_modify, size_modify, h.size]
  node := by
    intro a' n hn hhole
    rw [node?_modify] at hn ⊢
    by_cases heq : a = a'
    · subst heq
      rw [if_pos rfl] at hn
      obtain ⟨old, hold, rfl⟩ := Option.map_eq_some_iff.1 hn
      rw [hf] at hhole
      rw [if_pos rfl, h.node a old hold hhole, Option.map_some, hnode old hold hhole]
    · rw [if_neg heq] at hn
      have hne : place a ≠ place a' :=
        fun hsame => heq (h.injective ht.nonempty ha (lt_size_of_node? hn) hsame)
      rw [if_neg hne, h.node a' n hn hhole]
  copy := by
    intro a' n hn hhole j m hm
    rw [node?_modify] at hn ⊢
    by_cases heq : a = a'
    · subst heq
      rw [if_pos rfl] at hn
      obtain ⟨old, hold, rfl⟩ := Option.map_eq_some_iff.1 hn
      rw [hf] at hhole
      have hold' := h.copy a old hold hhole j m hm
      -- Of the copy only the root is changed, and of that only what the hole says.
      by_cases hj : j = 0
      · subst hj
        rw [if_pos rfl] at hold' ⊢
        rw [Nat.add_zero] at hold' ⊢
        rw [if_pos rfl, hold', Option.map_some, hcopy old hold hhole]
      · rw [if_neg hj] at hold' ⊢
        have hne : place a ≠ place a + j := by omega
        rw [if_neg hne, hold']
    · rw [if_neg heq] at hn
      have hne : place a ≠ place a' + j := fun hsame =>
        heq (h.inside ht.nonempty hn hhole (lt_size_of_node? hm) ha hsame).1
      rw [if_neg hne, h.copy a' n hn hhole j m hm]

theorem modifyRoot (ht : t.Orderly) (hb : b.Orderly) (h : Fills t b u place)
    (hroot : b.kind? Schema.root ≠ some (.hole 0)) {f g : Node → Node}
    (hf : ∀ n, (f n).kind = n.kind)
    (hnode : ∀ n, b.node? Schema.root = some n → g (n.mapIds place) = (f n).mapIds place) :
    Fills t (b.modifyRoot f) (u.modifyRoot g) place := by
  have hmodify := h.modify ht hb.nonempty hf (fun n hn _ => hnode n hn) (g := g) ?_
  · rwa [h.root] at hmodify
  · intro n hn hhole
    have hkind : b.kind? Schema.root = some (.hole 0) := by
      rw [kind?, Schema.root, hn, Option.map_some, hhole]
    exact absurd hkind hroot

theorem setKeyword (ht : t.Orderly) (hb : b.Orderly) (h : Fills t b u place)
    (hroot : b.kind? Schema.root ≠ some (.hole 0)) (k : Keyword) :
    Fills t (b.setKeyword k) (u.setKeyword (k.mapIds place)) place :=
  h.modifyRoot ht hb hroot (fun _ => rfl) fun n _ => (n.mapIds_setKeyword place k).symm

theorem setOptional (ht : t.Orderly) (h : Fills t b u place) {a : Nat} (ha : a < b.size) :
    Fills t (b.modify a fun n => { n with optional := true })
      (u.modify (place a) fun n => { n with optional := true }) place :=
  h.modify ht ha (fun _ => rfl) (fun _ _ _ => rfl) fun _ _ _ _ => rfl

/-! ## Objects -/

theorem node?_root (hb : b.Orderly) (h : Fills t b u place)
    (hroot : b.kind? Schema.root ≠ some (.hole 0)) :
    ∃ n, b.node? Schema.root = some n ∧ u.node? Schema.root = some (n.mapIds place) := by
  obtain ⟨n, hn⟩ := hb.exists_root
  have hhole : n.kind ≠ .hole 0 := by
    intro hhole
    exact hroot (by rw [kind?, hn, Option.map_some, hhole])
  have hnode := h.node _ n hn hhole
  have hplace : place Schema.root = Schema.root := h.root
  rw [hplace] at hnode
  exact ⟨n, hn, hnode⟩

theorem required_eq (ht : t.Orderly) (hb : b.Orderly) (h : Fills t b u place) {id : NodeId}
    {n : Node} (hn : b.node? id = some n) :
    ((n.mapIds place).properties.filter fun e => !u.isOptional e.2).map (·.1) =
      (n.properties.filter fun e => !b.isOptional e.2).map (·.1) := by
  have hfilter : n.properties.filter (fun e => !u.isOptional (place e.2)) =
      n.properties.filter fun e => !b.isOptional e.2 := by
    refine List.filter_congr fun e he => ?_
    rw [h.isOptional_eq ht (hb.below id n hn e.2 (Node.mem_places_of_properties he)).2]
  rw [Node.properties_mapIds, List.filter_map, List.map_map, ← hfilter]
  rfl

theorem syncRequired (ht : t.Orderly) (hb : b.Orderly) (h : Fills t b u place)
    (hroot : b.kind? Schema.root ≠ some (.hole 0)) :
    Fills t (b.syncRequired Schema.root) (u.syncRequired Schema.root) place := by
  obtain ⟨n, hn, hnode⟩ := h.node?_root hb hroot
  unfold Schema.syncRequired
  rw [hn, hnode]
  dsimp only
  rw [h.required_eq ht hb hn]
  refine h.modifyRoot ht hb hroot (fun m => by split <;> rfl) fun m _ => ?_
  split
  · exact (Node.mapIds_removeKeyword place m _).symm
  · exact (Node.mapIds_setKeyword place m (.leaf _)).symm

theorem foldl_optional (ht : t.Orderly) {entries : List (String × NodeId)}
    (hentries : ∀ e ∈ entries, e.2 < b.size) (h : Fills t b u place) :
    Fills t (entries.foldl (fun s e => s.modify e.2 fun n => { n with optional := true }) b)
      ((entries.map fun e => (e.1, place e.2)).foldl
        (fun s e => s.modify e.2 fun n => { n with optional := true }) u) place := by
  induction entries generalizing b u with
  | nil => exact h
  | cons e entries ih =>
    obtain ⟨he, hentries⟩ := List.forall_mem_cons.1 hentries
    rw [List.map_cons, List.foldl_cons, List.foldl_cons]
    refine ih (fun e' he' => ?_) (h.setOptional ht he)
    rw [size_modify]
    exact hentries e' he'

theorem loosen (ht : t.Orderly) (hb : b.Orderly) (h : Fills t b u place)
    (hroot : b.kind? Schema.root ≠ some (.hole 0)) : Fills t b.loosen u.loosen place := by
  obtain ⟨n, hn, hnode⟩ := h.node?_root hb hroot
  unfold Schema.loosen
  rw [hn, hnode]
  dsimp only [Option.map_some, Option.getD_some]
  rw [Node.properties_mapIds]
  have hbelow : ∀ e ∈ n.properties, e.2 < b.size := fun e he =>
    (hb.below _ n hn e.2 (Node.mem_places_of_properties he)).2
  refine (h.foldl_optional ht hbelow).syncRequired ht (hb.foldl_optional _) ?_
  rwa [kind?_foldl_optional]

theorem closed_iff (ht : t.Orderly) (hb : b.Orderly) (h : Fills t b u place)
    (hroot : b.kind? Schema.root ≠ some (.hole 0))
    (hconst : t.kind? Schema.root ≠ some (.constant false)) :
    ((u.node? Schema.root).bind (·.single? .additionalProperties)).bind u.kind? =
        some (.constant false) ↔
      ((b.node? Schema.root).bind (·.single? .additionalProperties)).bind b.kind? =
        some (.constant false) := by
  obtain ⟨n, hn, hnode⟩ := h.node?_root hb hroot
  rw [hn, hnode, Option.bind_some, Option.bind_some, Node.single?_mapIds]
  cases hchild : n.single? .additionalProperties with
  | none => rfl
  | some child =>
    rw [Option.map_some, Option.bind_some, Option.bind_some]
    have hlt := (hb.below _ n hn child (Node.mem_places_of_single? hchild)).2
    obtain ⟨m, hm⟩ : ∃ m, b.node? child = some m := ⟨_, Array.getElem?_eq_getElem hlt⟩
    have hkind : b.kind? child = some m.kind := by rw [kind?, hm, Option.map_some]
    -- In place of a hole stands the root that fills it, which does not reject everything.
    by_cases hhole : m.kind = .hole 0
    · rw [h.kind?_of_hole ht (hhole ▸ hkind), hkind, hhole]
      exact iff_of_false hconst (by simp)
    · rw [h.kind?_of_node hkind hhole, hkind, Option.some.injEq, Option.some.injEq]
      cases m.kind <;> simp [Kind.mapIds]

/-! ## Recursion within -/

theorem hole_of_tie {token token' : Nat} {a : Nat} {n : Node} (hn : (b.tie token).node? a = some n)
    (hhole : n.kind = .hole token') : b.node? a = some n := by
  rw [node?_tie] at hn
  obtain ⟨old, hold, rfl⟩ := Option.map_eq_some_iff.1 hn
  by_cases hold' : old.kind = .hole token
  · rw [if_pos hold'] at hhole
    dsimp only at hhole
    split at hhole <;> cases hhole
  · rw [if_neg hold', hold]

theorem width_tie {token : Nat} (htoken : token ≠ 0) (a : Nat) : t.width (b.tie token) a = t.width b a := by
  have hzero : Kind.hole token ≠ .hole 0 := by simpa using htoken
  unfold width kind?
  rw [node?_tie]
  cases b.node? a with
  | none => rfl
  | some n =>
    simp only [Option.map_some, Option.some.injEq]
    by_cases hn : n.kind = .hole token
    · have hpatched : (if b.kind? Schema.root = some (.hole token) then Kind.any else .link Schema.root) ≠
          .hole 0 := by
        split <;> simp
      rw [if_pos hn, if_neg hpatched, if_neg (hn ▸ hzero)]
    · rw [if_neg hn]

theorem kind?_root_eq_hole_iff (ht : t.Orderly) (hholes : t.HoleFree) (hb : b.Orderly) (h : Fills t b u place)
    {token : Nat} (htoken : token ≠ 0) :
    u.kind? Schema.root = some (.hole token) ↔ b.kind? Schema.root = some (.hole token) := by
  obtain ⟨n, hn⟩ := hb.exists_root
  have hkind : b.kind? Schema.root = some n.kind := by rw [kind?, hn, Option.map_some]
  have hplace : place Schema.root = Schema.root := h.root
  by_cases hhole : n.kind = .hole 0
  · rw [← hplace, h.kind?_of_hole ht (hhole ▸ hkind), hplace, hkind, hhole]
    refine iff_of_false (fun hfill => ?_) (by simpa using Ne.symm htoken)
    obtain ⟨m, hm, hmkind⟩ := Option.map_eq_some_iff.1 hfill
    exact hholes _ m hm token hmkind
  · rw [← hplace, h.kind?_of_node hkind hhole, hplace, hkind, Option.some.injEq, Option.some.injEq]
    cases n.kind <;> simp [Kind.mapIds]

theorem tie (ht : t.Orderly) (hholes : t.HoleFree) (hb : b.Orderly) (h : Fills t b u place) {token : Nat}
    (htoken : token ≠ 0) : Fills t (b.tie token) (u.tie token) place where
  root := h.root
  grows := by
    intro a a' hlt hle
    rw [size_tie] at hle
    rw [width_tie htoken]
    exact h.grows a a' hlt hle
  size := by rw [size_tie, size_tie, h.size]
  node := by
    intro a n hn hhole
    rw [node?_tie] at hn ⊢
    obtain ⟨old, hold, rfl⟩ := Option.map_eq_some_iff.1 hn
    by_cases hold' : old.kind = .hole token
    · have hpatched : (if b.kind? Schema.root = some (.hole token) then Kind.any
          else .link Schema.root).mapIds place =
            if u.kind? Schema.root = some (.hole token) then Kind.any else .link Schema.root := by
        simp only [h.kind?_root_eq_hole_iff ht hholes hb htoken]
        split
        · rfl
        · exact congrArg Kind.link h.root
      have hother : old.kind ≠ .hole 0 := by simpa [hold'] using htoken
      rw [h.node a old hold hother, Option.map_some, if_pos hold',
        if_pos (Node.kind_mapIds_eq_hole_iff.2 hold'), ← hpatched]
      rfl
    · rw [if_neg hold'] at hhole ⊢
      rw [h.node a old hold hhole, Option.map_some,
        if_neg (mt Node.kind_mapIds_eq_hole_iff.1 hold')]
  copy := by
    intro a n hn hhole j m hm
    have hcopy := h.copy a n (hole_of_tie hn hhole) hhole j m hm
    have hne : (m.mapIds (· + place a)).kind ≠ .hole token :=
      mt Node.kind_mapIds_eq_hole_iff.1 (hholes j m hm token)
    rw [node?_tie, hcopy, Option.map_some]
    exact congrArg some (if_neg hne)

end Fills

end Schema

end JsonSchema
