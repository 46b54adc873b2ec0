import JsonSchema.Proofs.Building.Everywhere
import JsonSchema.Proofs.Recursion.Filling
import JsonSchema.Proofs.Recursion.Roots

/-!
# Building under a placeholder and under what fills it

An expression that is built with a schema under a name makes what it makes with a placeholder under
that name, filled with the schema.
-/

namespace JsonSchema

namespace Schema

/-! ## Holes -/

/-- The holes of the outermost recursion say nothing themselves, but may be optional. -/
def Bare (s : Schema) : Prop :=
  ∀ id n, s.node? id = some n → n.kind = .hole 0 → n.keywords = [] ∧ n.hooks = {}

section Holes

variable {s child : Schema}

theorem holeFree_ofNode {n : Node} (h : ∀ token, n.kind ≠ .hole token) : (ofNode n).HoleFree := by
  intro id m hm
  obtain ⟨_, rfl⟩ := Orderly.eq_of_node?_ofNode hm
  exact h

theorem closed_holeFree : Loader.Closed HoleFree HoleFree :=
  closed_everywhere (by simp [Node.ofKind]) (fun _ _ hhole => hhole)
    (fun _ _ hn token => mt Node.kind_mapIds_eq_hole_iff.1 (hn token)) (fun _ _ hn => hn) fun _ hn => hn

theorem Bare.of_adopt (h : (s.adopt child).1.Bare) : s.Bare ∧ child.Bare := by
  constructor
  · intro id n hn
    exact h id n (by rw [node?_adopt_left s child (lt_size_of_node? hn), hn])
  · intro id n hn hhole
    have hmoved : (s.adopt child).1.node? (s.size + id) = some (n.mapIds (· + s.size)) := by
      rw [node?_adopt_right, hn, Option.map_some]
    obtain ⟨hkeywords, hhooks⟩ := h _ _ hmoved (Node.kind_mapIds_eq_hole_iff.2 hhole)
    exact ⟨List.map_eq_nil_iff.1 hkeywords, hhooks⟩

theorem Bare.of_adoptAll {children : List Schema} (h : (s.adoptAll children).1.Bare) :
    s.Bare ∧ ∀ c ∈ children, c.Bare := by
  induction children generalizing s with
  | nil => exact ⟨h, nofun⟩
  | cons c children ih =>
    rw [Orderly.adoptAll_cons] at h
    obtain ⟨hadopt, hrest⟩ := ih h
    obtain ⟨hs, hc⟩ := hadopt.of_adopt
    exact ⟨hs, List.forall_mem_cons.2 ⟨hc, hrest⟩⟩

theorem Bare.of_modify {id : NodeId} {f : Node → Node} (h : (s.modify id f).Bare)
    (hkind : ∀ n, (f n).kind = n.kind)
    (hf : ∀ n, s.node? id = some n → n.kind = .hole 0 → (f n).keywords = [] → (f n).hooks = {} →
      n.keywords = [] ∧ n.hooks = {}) : s.Bare := by
  intro place n hn hhole
  by_cases heq : id = place
  · subst heq
    have hnew : (s.modify id f).node? id = some (f n) := by rw [node?_modify, if_pos rfl, hn]; rfl
    obtain ⟨hkeywords, hhooks⟩ := h id _ hnew ((hkind n).trans hhole)
    exact hf n hn hhole hkeywords hhooks
  · exact h place n (by rw [node?_modify, if_neg heq, hn]) hhole

theorem Bare.of_modifyRoot {f : Node → Node} (h : (s.modifyRoot f).Bare)
    (hkind : ∀ n, (f n).kind = n.kind) (hroot : s.kind? root ≠ some (.hole 0)) : s.Bare := by
  refine h.of_modify hkind fun n hn hhole => ?_
  exact absurd (by rw [kind?, hn, Option.map_some, hhole]) hroot

theorem keywords_setKeyword_ne_nil (n : Node) (k : Keyword) : (n.setKeyword k).keywords ≠ [] := by
  unfold Node.setKeyword
  cases n.keywords with
  | nil => exact List.cons_ne_nil _ _
  | cons old ks =>
    rw [Node.setKeyword.replace]
    split
    · exact List.cons_ne_nil _ _
    · exact List.cons_ne_nil _ _

theorem Bare.of_setKeyword (hs : ∃ n, s.node? root = some n) {k : Keyword}
    (h : (s.setKeyword k).Bare) : s.Bare ∧ s.kind? root ≠ some (.hole 0) := by
  have hroot : s.kind? root ≠ some (.hole 0) := by
    intro hhole
    obtain ⟨n, hn⟩ := hs
    rw [kind?, hn, Option.map_some, Option.some.injEq] at hhole
    have hnew : (s.setKeyword k).node? root = some (n.setKeyword k) := by
      rw [setKeyword, modifyRoot, node?_modify, if_pos rfl, hn]
      rfl
    exact keywords_setKeyword_ne_nil n k (h root _ hnew hhole).1
  exact ⟨h.of_modifyRoot (fun _ => rfl) hroot, hroot⟩

theorem Bare.of_foldl_optional (entries : List (String × NodeId))
    (h : (entries.foldl (fun s e => s.modify e.2 fun n => { n with optional := true }) s).Bare) :
    s.Bare := by
  induction entries generalizing s with
  | nil => exact h
  | cons e entries ih =>
    exact (ih h).of_modify (fun _ => rfl) fun _ _ _ hkeywords hhooks => ⟨hkeywords, hhooks⟩

theorem Bare.of_syncRequired (h : (s.syncRequired root).Bare)
    (hroot : s.kind? root ≠ some (.hole 0)) : s.Bare := by
  unfold syncRequired at h
  cases hn : s.node? root with
  | none =>
    rw [hn] at h
    exact h
  | some n =>
    rw [hn] at h
    refine Bare.of_modifyRoot h (fun m => ?_) hroot
    split <;> rfl

theorem Bare.of_close (hs : s.Orderly) (h : s.close.Bare)
    (hroot : s.kind? root ≠ some (.hole 0)) : s.Bare := by
  unfold close at h
  dsimp only at h
  split at h
  · exact h.of_syncRequired hroot
  · have hadopt := hs.syncRequired.adopt (orderly_constant false)
    obtain ⟨h, _⟩ := Bare.of_setKeyword hadopt.exists_root h
    exact h.of_adopt.1.of_syncRequired hroot

theorem Bare.of_tie {token : Nat} (htoken : token ≠ 0) (h : (s.tie token).Bare) : s.Bare := by
  intro id n hn hhole
  refine h id n ?_ hhole
  have hne : n.kind ≠ .hole token := by rw [hhole]; simpa using Ne.symm htoken
  rw [node?_tie, hn, Option.map_some, if_neg hne]

end Holes

/-! ## Filled schemas -/

/-- The second schema is the first one with the first one's holes filled. If nothing satisfies what
fills them, only the roots have to be the same. -/
structure Filled (t b u : Schema) : Prop where
  orderly : b.Orderly
  filled : u.Orderly
  top : b.kind? root ≠ some (.hole 0) → u.top = b.top
  fills : b.Bare → t.kind? root ≠ some (.constant false) → ∃ place, Fills t b u place

namespace Filled

variable {t b u : Schema}

theorem refl (ho : b.Orderly) (hb : b.HoleFree) : Filled t b b where
  orderly := ho
  filled := ho
  top := fun _ => rfl
  fills := fun _ _ => ⟨_, .refl fun id n hn => hb id n hn 0⟩

theorem ofNode {n : Node} (hkeywords : n.keywords = []) (hlink : ∀ target, n.kind ≠ .link target)
    (hhole : n.kind ≠ .hole 0) : Filled t (.ofNode n) (.ofNode n) where
  orderly := .ofNode (by simp [Node.places, hkeywords]) hlink (by simp [hkeywords])
  filled := .ofNode (by simp [Node.places, hkeywords]) hlink (by simp [hkeywords])
  top := fun _ => rfl
  fills := by
    refine fun _ _ => ⟨_, .refl fun id m hm => ?_⟩
    obtain ⟨_, rfl⟩ := Orderly.eq_of_node?_ofNode hm
    exact hhole

section Edits

variable (ht : t.Orderly)
include ht

omit ht in
theorem kind?_ne_hole (h : Filled t b u) {kind : Kind} (hkind : b.kind? root = some kind)
    (hhole : kind ≠ .hole 0) : u.kind? root = some kind := by
  have hroot : b.kind? root ≠ some (.hole 0) := by rw [hkind]; simpa using hhole
  rw [kind?_root, h.top hroot, ← kind?_root, hkind]

theorem setChildren (h : Filled t b u) {cs ws : List Schema} (hcs : List.Forall₂ (Filled t) cs ws)
    {k : List NodeId → Keyword} (hname : ∀ ids, (k ids).name ≠ "$ref")
    (hheld : ∀ ids, ids.length = cs.length → (k ids).places.Sublist ids)
    (hmap : ∀ f ids, ids.length = cs.length → (k ids).mapIds f = k (ids.map f)) :
    Filled t ((b.adoptAll cs).1.setKeyword (k (b.adoptAll cs).2))
      ((u.adoptAll ws).1.setKeyword (k (u.adoptAll ws).2)) := by
  have hc : ∀ c ∈ cs, c.Orderly := by
    intro c hc
    obtain ⟨w, _, hw⟩ := exists_of_forall₂ hcs hc
    exact hw.orderly
  have hw : ∀ w ∈ ws, w.Orderly := by
    intro w hw
    obtain ⟨c, _, hc⟩ := exists_of_forall₂ hcs.flip hw
    exact hc.filled
  obtain ⟨hadopt, _, _, _, hlength, _⟩ := h.orderly.adoptAll hc
  obtain ⟨hadopt', _, _, _, hlength', _⟩ := h.filled.adoptAll hw
  rw [← hcs.length_eq] at hlength'
  have hpos : root < b.size := h.orderly.nonempty
  refine ⟨h.orderly.setChildren hc (hheld _ hlength), h.filled.setChildren hw (hheld _ hlength'),
    ?_, ?_⟩
  · intro hroot
    rw [kind?_setKeyword, kind?_adoptAll _ _ hpos] at hroot
    rw [top_setKeyword_of_ne hadopt (hname _), top_setKeyword_of_ne hadopt' (hname _),
      top_adoptAll hpos, top_adoptAll h.filled.nonempty, h.top hroot]
  · intro hbare hconst
    obtain ⟨hbare, hroot⟩ := Bare.of_setKeyword hadopt.exists_root hbare
    obtain ⟨hbare, hbares⟩ := hbare.of_adoptAll
    obtain ⟨place, hplace⟩ := h.fills hbare hconst
    have hchildren : List.Forall₂ (fun c w => c.Orderly ∧ ∃ place, Fills t c w place) cs ws := by
      refine (forall₂_and_mem hcs).imp ?_
      rintro c w ⟨hcw, hmem, _⟩
      exact ⟨hcw.orderly, hcw.fills (hbares c hmem) hconst⟩
    obtain ⟨place', hfills, _, hids⟩ := hplace.adoptAll ht hchildren h.orderly
    refine ⟨place', ?_⟩
    rw [hids, ← hmap _ _ hlength]
    exact hfills.setKeyword ht hadopt hroot _

theorem setSingle (h : Filled t b u) {c w : Schema} (hc : Filled t c w) (slot : Slot) :
    Filled t (b.setSingle slot c) (u.setSingle slot w) := by
  have hcs : List.Forall₂ (Filled t) [c] [w] := .cons hc .nil
  refine h.setChildren ht hcs (k := fun ids => .single slot (ids.headD 0)) ?_ ?_ ?_
  · intro ids
    cases slot <;> simp [Keyword.name, Slot.name]
  · intro ids hlength
    obtain ⟨id, rfl⟩ := List.length_eq_one_iff.1 hlength
    exact List.Sublist.refl _
  · intro f ids hlength
    obtain ⟨id, rfl⟩ := List.length_eq_one_iff.1 hlength
    rfl

theorem setListed (h : Filled t b u) {cs ws : List Schema} (hcs : List.Forall₂ (Filled t) cs ws)
    (slot : ListSlot) : Filled t (b.setListed slot cs) (u.setListed slot ws) := by
  refine h.setChildren ht hcs (k := .listed slot) ?_ ?_ ?_
  · intro ids
    cases slot <;> simp [Keyword.name, ListSlot.name]
  · intro ids _
    rw [Orderly.places_listed]
  · intro f ids _
    rfl

omit ht in
theorem forall₂_schemas {es es' : List (String × Schema)} (h : RelatedEntries (Filled t) es es') :
    List.Forall₂ (Filled t) (es.map (·.2)) (es'.map (·.2)) :=
  List.forall₂_map_left_iff.2 (List.forall₂_map_right_iff.2 (h.imp fun _ _ he => he.2))

omit ht in
theorem map_keys_eq {R : Schema → Schema → Prop} {es es' : List (String × Schema)}
    (h : RelatedEntries R es es') : es.map (·.1) = es'.map (·.1) := by
  induction h with
  | nil => rfl
  | cons he _ ih => rw [List.map_cons, List.map_cons, he.1, ih]

theorem setKeyed (h : Filled t b u) {es es' : List (String × Schema)}
    (hes : RelatedEntries (Filled t) es es') (slot : KeyedSlot) :
    Filled t (b.setKeyed slot es) (u.setKeyed slot es') := by
  unfold Schema.setKeyed
  rw [← map_keys_eq hes]
  refine h.setChildren ht (forall₂_schemas hes)
    (k := fun ids => .keyed slot ((es.map (·.1)).zip ids)) ?_ ?_ ?_
  · intro ids
    cases slot <;> simp [Keyword.name, KeyedSlot.name]
  · intro ids _
    rw [Orderly.places_keyed]
    exact Orderly.map_snd_zip_sublist _ _
  · intro f ids _
    rw [Keyword.mapIds, List.zip_map_right]
    rfl

theorem setPatterns (h : Filled t b u) {es es' : List (String × Schema)}
    (hes : RelatedEntries (Filled t) es es') {s : Schema} (hs : b.setPatterns es = .ok s) :
    ∃ s', u.setPatterns es' = .ok s' ∧ Filled t s s' := by
  obtain ⟨patterns, hpatterns, hs⟩ := Except.bind_eq_ok_iff.1 hs
  cases hs
  have hcompile : ∀ es : List (String × Schema),
      es.mapM (fun e => compile e.1) = (es.map (·.1)).mapM compile := by
    intro es
    induction es with
    | nil => rfl
    | cons e es ih => rw [List.mapM_cons, List.map_cons, List.mapM_cons, ih]
  rw [hcompile, map_keys_eq hes, ← hcompile] at hpatterns
  refine ⟨_, Except.bind_eq_ok_iff.2 ⟨patterns, hpatterns, rfl⟩, ?_⟩
  refine h.setChildren ht (forall₂_schemas hes)
    (k := fun ids => .patternProperties (patterns.zip ids)) ?_ ?_ ?_
  · intro ids
    simp [Keyword.name]
  · intro ids _
    rw [Orderly.places_patterns]
    exact Orderly.map_snd_zip_sublist _ _
  · intro f ids _
    rw [Keyword.mapIds, List.zip_map_right]
    rfl

/-! ### Changes of roots -/

theorem setLeaf (h : Filled t b u) (l : Leaf) : Filled t (b.setLeaf l) (u.setLeaf l) where
  orderly := h.orderly.setLeaf l
  filled := h.filled.setLeaf l
  top := by
    intro hroot
    rw [Schema.setLeaf, kind?_setKeyword] at hroot
    rw [Schema.setLeaf, Schema.setLeaf, top_setKeyword h.orderly, top_setKeyword h.filled,
      h.top hroot]
  fills := by
    intro hbare hconst
    obtain ⟨hbare, hroot⟩ := Bare.of_setKeyword h.orderly.exists_root hbare
    obtain ⟨place, hplace⟩ := h.fills hbare hconst
    exact ⟨place, hplace.setKeyword ht h.orderly hroot (.leaf l)⟩

theorem setOptional (h : Filled t b u) :
    Filled t (b.modifyRoot fun n => { n with optional := true })
      (u.modifyRoot fun n => { n with optional := true }) where
  orderly := h.orderly.modify_same root (fun _ => rfl) fun _ => rfl
  filled := h.filled.modify_same root (fun _ => rfl) fun _ => rfl
  top := by
    intro hroot
    have hkind := b.kind?_modify root root (f := fun n => { n with optional := true }) fun _ => rfl
    rw [modifyRoot, hkind] at hroot
    rw [top_modifyRoot, top_modifyRoot]
    exact h.top hroot
  fills := by
    intro hbare hconst
    have hbare : b.Bare :=
      hbare.of_modify (fun _ => rfl) fun _ _ _ hkeywords hhooks => ⟨hkeywords, hhooks⟩
    obtain ⟨place, hplace⟩ := h.fills hbare hconst
    have hfills := hplace.setOptional ht h.orderly.nonempty
    rw [hplace.root] at hfills
    exact ⟨place, hfills⟩

theorem setHooks (h : Filled t b u) {f : Hooks → Hooks} (hf : ∀ hooks, f hooks ≠ {}) :
    Filled t (b.modifyRoot fun n => { n with hooks := f n.hooks })
      (u.modifyRoot fun n => { n with hooks := f n.hooks }) where
  orderly := h.orderly.modify_same root (fun _ => rfl) fun _ => rfl
  filled := h.filled.modify_same root (fun _ => rfl) fun _ => rfl
  top := by
    intro hroot
    have hkind := b.kind?_modify root root (f := fun n => { n with hooks := f n.hooks })
      fun _ => rfl
    rw [modifyRoot, hkind] at hroot
    have htop := congrArg (·.map fun e => (e.1, f e.2.1, e.2.2)) (h.top hroot)
    rw [Schema.top, Schema.top, Option.map_map, Option.map_map] at htop
    rw [top_modifyRoot, top_modifyRoot]
    exact htop
  fills := by
    intro hbare hconst
    have hroot : b.kind? root ≠ some (.hole 0) := by
      intro hhole
      obtain ⟨n, hn, hkind⟩ := Option.map_eq_some_iff.1 hhole
      have hnew : (b.modifyRoot fun n => { n with hooks := f n.hooks }).node? root =
          some { n with hooks := f n.hooks } := by
        rw [modifyRoot, node?_modify, if_pos rfl, hn]
        rfl
      -- A bare hole has no hooks, but hooks have just been set.
      exact hf _ (hbare root _ hnew hkind).2
    have hbare : b.Bare := hbare.of_modifyRoot (fun _ => rfl) hroot
    obtain ⟨place, hplace⟩ := h.fills hbare hconst
    exact ⟨place, hplace.modifyRoot ht h.orderly hroot (fun _ => rfl) fun _ _ => rfl⟩

theorem syncRequired (h : Filled t b u) (hroot : b.kind? root ≠ some (.hole 0)) :
    Filled t (b.syncRequired root) (u.syncRequired root) where
  orderly := h.orderly.syncRequired
  filled := h.filled.syncRequired
  top := by
    intro _
    rw [top_syncRequired h.orderly, top_syncRequired h.filled, h.top hroot]
  fills := by
    intro hbare hconst
    obtain ⟨place, hplace⟩ := h.fills (hbare.of_syncRequired hroot) hconst
    exact ⟨place, hplace.syncRequired ht h.orderly hroot⟩

theorem close (h : Filled t b u) (hroot : b.kind? root ≠ some (.hole 0)) :
    Filled t b.close u.close where
  orderly := h.orderly.close
  filled := h.filled.close
  top := by
    intro _
    rw [top_close h.orderly, top_close h.filled, h.top hroot]
  fills := by
    intro hbare hconst
    have hsync := h.syncRequired ht hroot
    have hsyncroot : (b.syncRequired root).kind? root ≠ some (.hole 0) := by
      rwa [kind?_syncRequired]
    obtain ⟨place, hplace⟩ := h.fills (hbare.of_close h.orderly hroot) hconst
    have hplace := hplace.syncRequired ht h.orderly hroot
    have hiff := hplace.closed_iff ht hsync.orderly hsyncroot hconst
    unfold Schema.close at hbare ⊢
    dsimp only at hbare ⊢
    simp only [hiff]
    split at hbare
    · next hclosed =>
      rw [if_pos hclosed, if_pos hclosed]
      exact ⟨place, hplace⟩
    · next hclosed =>
      rw [if_neg hclosed, if_neg hclosed]
      have hrejects : Filled t (Schema.ofNode (.ofKind (.constant false)))
          (Schema.ofNode (.ofKind (.constant false))) :=
        .ofNode rfl (by simp [Node.ofKind]) (by simp [Node.ofKind])
      exact (hsync.setSingle ht hrejects .additionalProperties).fills hbare hconst

theorem loosen (h : Filled t b u) (hroot : b.kind? root ≠ some (.hole 0)) :
    Filled t b.loosen u.loosen where
  orderly := h.orderly.loosen
  filled := h.filled.loosen
  top := by
    intro _
    rw [top_loosen h.orderly, top_loosen h.filled, h.top hroot]
  fills := by
    intro hbare hconst
    unfold Schema.loosen at hbare
    dsimp only at hbare
    have hbare := (hbare.of_syncRequired (by rwa [kind?_foldl_optional])).of_foldl_optional
    obtain ⟨place, hplace⟩ := h.fills hbare hconst
    exact ⟨place, hplace.loosen ht h.orderly hroot⟩

theorem tie (hholes : t.HoleFree) (h : Filled t b u) {token : Nat} (htoken : token ≠ 0) :
    Filled t (b.tie token) (u.tie token) where
  orderly := h.orderly.tie token
  filled := h.filled.tie token
  top := by
    intro hroot
    have hroot : b.kind? root ≠ some (.hole 0) := by
      intro hhole
      refine hroot ?_
      obtain ⟨n, hn, hkind⟩ := Option.map_eq_some_iff.1 hhole
      have hne : n.kind ≠ .hole token := by rw [hkind]; simpa using Ne.symm htoken
      rw [kind?, node?_tie, hn, Option.map_some, if_neg hne, Option.map_some, hkind]
    rw [top_tie, top_tie, h.top hroot]
  fills := by
    intro hbare hconst
    obtain ⟨place, hplace⟩ := h.fills (hbare.of_tie htoken) hconst
    exact ⟨place, hplace.tie ht hholes h.orderly htoken⟩

end Edits

end Filled

/-! ## Expressions -/

/-- Everything that a builder does below the outermost recursion can be done before or after the
holes are filled. -/
theorem congruence_filled {t : Schema} (ht : t.Orderly) (hholes : t.HoleFree) :
    Congruence (fun _ => True) (fun _ => True) 1 (Filled t) where
  isObject := fun h hkind => h.kind?_ne_hole hkind (by simp)
  any := .ofNode rfl (by simp [Node.ofKind]) (by simp [Node.ofKind])
  constant := fun _ => .ofNode rfl (by simp [Node.ofKind]) (by simp [Node.ofKind])
  typed := by
    intro type
    refine .refl (.ofNode rfl ?_ ?_) (holeFree_ofNode ?_)
    · cases type <;> simp [Node.typed, Kind.ofType]
    · simp [Node.typed]
    · cases type <;> simp [Node.typed, Kind.ofType]
  placeholder := fun token hdepth =>
    .ofNode rfl (by simp [Node.ofKind]) (by simp [Node.ofKind, Nat.ne_of_gt hdepth])
  document := fun {d s} _ h => .refl (orderly_ofJson h) (closed_holeFree.load d [] s h)
  hasEdit := fun _ => trivial
  leaf := fun h l _ => h.setLeaf ht l
  single := fun h hc slot => h.setSingle ht hc slot
  listed := fun h hcs slot _ _ => h.setListed ht hcs slot
  union := fun hcs slot _ => Filled.setListed ht
    (.ofNode rfl (by simp [Node.ofKind]) (by simp [Node.ofKind])) hcs slot
  object := by
    intro es es' hes
    have hbase : Filled t (.typed .object) (.typed .object) := by
      refine .refl (.ofNode rfl ?_ ?_) (holeFree_ofNode ?_)
      · simp [Node.typed, Kind.ofType]
      · simp [Node.typed]
      · simp [Node.typed, Kind.ofType]
    refine (hbase.setKeyed ht hes .properties).syncRequired ht ?_
    rw [setKeyed, kind?_setKeyword, kind?_adoptAll _ _ Nat.one_pos]
    simp [kind?, Schema.typed, Schema.ofNode, node?, Node.typed, Kind.ofType, root]
  dependents := fun h hes => h.setKeyed ht hes _
  patterns := fun h hes hs => h.setPatterns ht hes hs
  hooks := fun h f hf => h.setHooks ht hf
  optional := fun h => h.setOptional ht
  close := fun h hkind => h.close ht (by simp [hkind])
  loosen := fun h hkind => h.loosen ht (by simp [hkind])
  tie := fun h token hdepth => h.tie ht hholes (Nat.ne_of_gt hdepth)

/-- The body of a recursion with the holes for the whole, and with a schema in their place. -/
theorem filled_buildIn {t b : Schema} (ht : t.Orderly) (hholes : t.HoleFree)
    (hroot : t.isOptional root = false) {name : String} {body : Expr}
    (hb : body.buildIn [(name, .placeholder 0)] = .ok b) :
    ∃ u, body.buildIn [(name, t)] = .ok u ∧ Filled t b u := by
  have hname : Filled t (.placeholder 0) t := by
    refine ⟨.ofNode rfl (by simp [Node.ofKind]) (by simp [Node.ofKind]), ht, ?_, ?_⟩
    · exact fun hne => absurd rfl hne
    · exact fun _ _ => ⟨_, .hole hroot⟩
  have hscope : RelatedEntries (Filled t) [(name, .placeholder 0)] [(name, t)] :=
    .cons ⟨rfl, hname⟩ .nil
  exact Expr.build_related (congruence_filled ht hholes) hscope (Nat.le_refl 1) body
    body.ingredients_true hb

end Schema

end JsonSchema
