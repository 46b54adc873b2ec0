import JsonSchema.Proofs.Comparison.Judging
import JsonSchema.Proofs.Reloading.Documents

/-!
# Nodes that stand opposite each other

A node of a schema stands opposite the nodes that were loaded from its document. These say the same, about
children that stand opposite its own children. A reference that resolves in a schema resolves to an opposite
node after reloading, and the pointer that is written for a link resolves to an opposite of the node that the
link stands for.
-/

namespace JsonSchema

open Loader

/-! ## Readers of the same document -/

theorem readLeaf_unique {path path' : Path} {name : String} {v : Json} {l l' : Leaf}
    (h : readLeaf path name v = .ok l) (h' : readLeaf path' name v = .ok l') : l = l' := by
  have hsame : readLeaf path' name v = .ok l := readLeaf_eq_ok_iff.2 (readLeaf_eq_ok_iff.1 h)
  rw [hsame] at h'
  cases h'
  rfl

theorem Keyword.Reads.alike {R R' : NodeId → Json → Prop} {m : String × Json} {k k' : Keyword}
    (h : k.Reads R m) (h' : k'.Reads R' m) : k.Alike Eq (fun x y => ∃ d, R x d ∧ R' y d) k' := by
  obtain ⟨name, v⟩ := m
  cases h.both h' with
  | leaf read read' => exact .leaf (readLeaf_unique read read')
  | single held held' => exact .single ⟨_, held, held'⟩
  | listed held held' => exact .listed (forall₂_of_common (fun _ _ d hd hd' => ⟨d, hd, hd'⟩) held held')
  | keyed held held' =>
    refine .keyed (forall₂_of_common ?_ held held')
    rintro e e' m ⟨hkey, hd⟩ ⟨hkey', hd'⟩
    exact ⟨hkey.trans hkey'.symm, m.2, hd, hd'⟩
  | patterns held held' =>
    refine .patterns (forall₂_of_common ?_ held held')
    rintro e e' m ⟨hpattern, hd⟩ ⟨hpattern', hd'⟩
    rw [hpattern, Option.some.injEq] at hpattern'
    exact ⟨hpattern', m.2, hd, hd'⟩

theorem Node.Reads.alike {R R' : NodeId → Json → Prop} {d : Json} {n n' : Node} (h : n.Reads R d)
    (h' : n'.Reads R' d) : n.kind = n'.kind ∧
      List.Forall₂ (Keyword.Alike Eq fun x y => ∃ d, R x d ∧ R' y d) n.keywords n'.keywords := by
  cases h with
  | constant kind keywords hooks =>
    cases h' with
    | constant kind' keywords' hooks' =>
      rw [kind, kind', keywords, keywords']
      exact ⟨rfl, .nil⟩
  | object kind keywords hooks =>
    cases h' with
    | object kind' keywords' hooks' =>
      rw [kind, Except.ok.injEq] at kind'
      exact ⟨kind', forall₂_of_common (fun _ _ _ hk hk' => hk.alike hk') keywords.flip keywords'.flip⟩

theorem Keyword.Alike.trans {L : Leaf → Leaf → Prop} {R : NodeId → NodeId → Prop} {k k₁ k' : Keyword}
    (h : k.Alike L Eq k₁) (h' : k₁.Alike Eq R k') : k.Alike L R k' := by
  have hentries : ∀ {α : Type} {es es' : List (α × NodeId)},
      List.Forall₂ (fun e e' => e.1 = e'.1 ∧ e.2 = e'.2) es es' → es = es' := by
    intro α es es' hes
    rw [← List.forall₂_eq_eq_eq]
    exact hes.imp fun _ _ he => Prod.ext he.1 he.2
  cases h with
  | leaf hl =>
    cases h' with
    | leaf heq => exact .leaf (heq ▸ hl)
  | single heq =>
    cases h' with
    | single hR => exact .single (heq ▸ hR)
  | listed heq =>
    rw [List.forall₂_eq_eq_eq] at heq
    cases h' with
    | listed hR => exact .listed (heq ▸ hR)
  | keyed heq =>
    cases h' with
    | keyed hR => exact .keyed (hentries heq ▸ hR)
  | patterns heq =>
    cases h' with
    | patterns hR => exact .patterns (hentries heq ▸ hR)

theorem Keyword.Alike.imp {L : Leaf → Leaf → Prop} {R R' : NodeId → NodeId → Prop} {k k' : Keyword}
    (h : k.Alike L R k') (hR : ∀ x y, R x y → R' x y) : k.Alike L R' k' := by
  cases h with
  | leaf hl => exact .leaf hl
  | single hxy => exact .single (hR _ _ hxy)
  | listed hxs => exact .listed (hxs.imp hR)
  | keyed hes => exact .keyed (hes.imp fun _ _ he => ⟨he.1, hR _ _ he.2⟩)
  | patterns hes => exact .patterns (hes.imp fun _ _ he => ⟨he.1, hR _ _ he.2⟩)

theorem Node.ReadsBack.trans {pointer : NodeId → String} {R : NodeId → NodeId → Prop} {n m n' : Node}
    (h : n.ReadsBack pointer Eq m) (hkind : m.kind = n'.kind)
    (hkeywords : List.Forall₂ (Keyword.Alike Eq R) m.keywords n'.keywords) :
    n.ReadsBack pointer R n' := by
  have hnil : m.keywords = [] → n'.keywords = [] := by
    intro hm
    rw [hm] at hkeywords
    exact List.forall₂_nil_left_iff.1 hkeywords
  cases h with
  | same stands kind keywords =>
    exact .same stands (kind.trans hkind)
      (forall₂_trans (fun _ _ _ hk hk' => hk.trans hk') keywords hkeywords)
  | constant kind kind' inert keywords' => exact .constant kind (hkind ▸ kind') inert (hnil keywords')
  | link kind kind' inert keywords' =>
    refine .link kind (hkind ▸ kind') inert ?_
    rw [keywords'] at hkeywords
    obtain ⟨k', ks, hk, hks, heq⟩ := List.forall₂_cons_left_iff.1 hkeywords
    cases hk with
    | leaf hl => rw [heq, List.forall₂_nil_left_iff.1 hks, ← hl]
  | hole kind kind' keywords keywords' => exact .hole kind (hkind ▸ kind') keywords (hnil keywords')

/-! ## Opposite nodes -/

namespace Schema

variable {s s' : Schema} {docs : List Json}

/-- The node was loaded from the document of the other one. -/
def Opposite (s : Schema) (docs : List Json) (x y : NodeId) : Prop :=
  docs[y]? = some (s.documentAt x)

theorem WellBuilt.opposite_node (h : s.WellBuilt) (hlabels : s'.Labels docs) {x y : NodeId} {n : Node}
    (hn : s.node? x = some n) (hxy : s.Opposite docs x y) :
    ∃ n', s'.node? y = some n' ∧ n'.hooks = {} ∧
      n.ReadsBack s.pointerTo
        (fun x' y' => s.HeldBy x' x ∧ s'.Below y y' ∧ s.Opposite docs x' y') n' := by
  obtain ⟨m, hreads, hback⟩ := h.exists_readsBack hn
  obtain ⟨n', hn', hreads'⟩ := hlabels.exists_reads hxy
  obtain ⟨hkind, hkeywords⟩ := hreads.alike hreads'
  refine ⟨n', hn', hreads'.hooks_eq, hback.trans hkind ?_⟩
  refine hkeywords.imp fun k k' hk => hk.imp ?_
  rintro x' y' ⟨d, ⟨hheld, rfl⟩, hbelow, hd⟩
  exact ⟨hheld, hbelow, hd⟩

end Schema

/-! ## Children in the same places -/

theorem Keyword.forall₂_positioned {R : NodeId → NodeId → Prop} {xs ys : List NodeId}
    (h : List.Forall₂ R xs ys) (name : String) (i : Nat) :
    List.Forall₂ (fun e e' => e.1 = e'.1 ∧ R e.2 e'.2) (positioned name i xs)
      (positioned name i ys) := by
  induction h generalizing i with
  | nil => exact .nil
  | cons hxy _ ih => exact .cons ⟨rfl, hxy⟩ (ih (i + 1))

theorem Keyword.Alike.children {L : Leaf → Leaf → Prop} {R : NodeId → NodeId → Prop}
    {k k' : Keyword} (h : k.Alike L R k') :
    List.Forall₂ (fun e e' => e.1 = e'.1 ∧ R e.2 e'.2) k.children k'.children := by
  unfold Keyword.children
  cases h with
  | leaf hl => exact .nil
  | single hxy => exact .cons ⟨rfl, hxy⟩ .nil
  | listed hxs => exact forall₂_positioned hxs _ 0
  | keyed hes | patterns hes =>
    refine List.forall₂_map_left_iff.2 (List.forall₂_map_right_iff.2 (hes.imp ?_))
    rintro e e' ⟨hkey, hR⟩
    exact ⟨by rw [hkey]; rfl, hR⟩

namespace Node

variable {pointer : NodeId → String} {R : NodeId → NodeId → Prop} {n n' : Node}

theorem ReadsBack.children (h : n.ReadsBack pointer R n') :
    List.Forall₂ (fun e e' => e.1 = e'.1 ∧ R e.2 e'.2) n.children n'.children := by
  cases h with
  | same stands kind keywords =>
    unfold Node.children
    exact List.rel_flatMap keywords fun _ _ hk => hk.children
  | constant kind kind' inert keywords' | link kind kind' inert keywords' =>
    rw [children_of_inert inert, Node.children, keywords']
    exact .nil
  | hole kind kind' keywords keywords' =>
    rw [Node.children, Node.children, keywords, keywords']
    exact .nil

theorem id?_eq {L : Leaf → Leaf → Prop} (hL : ∀ l l', L l l' → l.Same l')
    (h : List.Forall₂ (Keyword.Alike L R) n.keywords n'.keywords) : n.id? = n'.id? := by
  refine find?_congr ?_ ?_ h
  · intro k hk
    cases k with
    | leaf l => exact absurd rfl (hk l)
    | _ => rfl
  · intro l l' hl
    cases hL l l' hl <;> rfl

theorem ReadsBack.id?_eq (h : n.ReadsBack pointer R n') : n.id? = n'.id? := by
  cases h with
  | same stands kind keywords => exact Node.id?_eq (fun _ _ hl => hl) keywords
  | constant kind kind' inert keywords' | link kind kind' inert keywords' =>
    rw [id?_of_inert inert, id?, find?, keywords']
    rfl
  | hole kind kind' keywords keywords' => rw [id?, id?, find?, find?, keywords, keywords']

end Node

namespace Schema

theorem pointer?_of_mem_entries {s : Schema} (h : s.Orderly) {p : Path} {id : NodeId}
    (he : (p, id) ∈ s.entriesFrom [] root) :
    (Index.ofSchema s).pointer? id = some ("#" ++ Pointer.render p) := by
  obtain ⟨e, he', hid, hpointer⟩ := Index.pointer?_of_mem ⟨(p, id), he, rfl⟩
  have heq : e = (p, id) := List.inj_on_of_nodup_map (h.nodup_entriesFrom [] root) he' he hid
  rw [hpointer, heq]

/-! ## Reloaded schemas -/

/-- The second schema was loaded from the document of the first one, and stands for the documents. -/
structure Reloaded (s s' : Schema) (docs : List Json) : Prop where
  built : s.WellBuilt
  marked : s'.Marked
  labels : s'.Labels docs
  root : docs[root]? = some s.toJson

theorem WellBuilt.exists_reloaded {s : Schema} (h : s.WellBuilt) :
    ∃ s' docs, ofJson s.toJson = .ok s' ∧ s.Reloaded s' docs := by
  obtain ⟨s', hs'⟩ := h.exists_load h.orderly.nonempty []
  obtain ⟨docs, hlabels, hroot⟩ := loads_of_load _ _ _ (h.keysDistinct_documentAt root) hs'
  exact ⟨s', docs, hs', h, marked_ofJson hs', hlabels, hroot⟩

namespace Reloaded

variable {s s' : Schema} {docs : List Json} (h : s.Reloaded s' docs)
include h

theorem opposite_root : s.Opposite docs Schema.root Schema.root := h.root

theorem forall₂_entriesFrom {x y : NodeId} (hx : x < s.size) (hxy : s.Opposite docs x y)
    (path : Path) :
    List.Forall₂ (fun e e' => e.1 = e'.1 ∧ s.Opposite docs e.2 e'.2) (s.entriesFrom path x)
      (s'.entriesFrom path y) := by
  induction hsize : s.size - x using Nat.strongRecOn generalizing x y path with
  | ind size ih
  subst hsize
  obtain ⟨n, hn⟩ : ∃ n, s.node? x = some n := ⟨_, Array.getElem?_eq_getElem hx⟩
  obtain ⟨n', hn', _, hback⟩ := h.built.opposite_node h.labels hn hxy
  have hchildren := hback.children
  rw [entriesFrom, entriesFrom, children, children, hn, hn', Option.map_some, Option.map_some,
    Option.getD_some, Option.getD_some]
  refine .cons ⟨rfl, hxy⟩ (List.rel_flatMap hchildren ?_)
  rintro e e' ⟨hpath, hheld, hbelow', hopposite⟩
  have hbelow := h.built.orderly.below_of_heldBy hheld
  dsimp only
  rw [dif_pos hbelow, dif_pos hbelow', hpath]
  exact ih _ hbelow.size_sub_lt hbelow.2 hopposite _ rfl

/-! ## Pairs in the same place -/

/-- Opposite nodes to which the same path leads. -/
def Paired (s s' : Schema) (docs : List Json) (x y : NodeId) : Prop :=
  s.Opposite docs x y ∧
    ∃ p, (p, x) ∈ s.entriesFrom [] Schema.root ∧ (p, y) ∈ s'.entriesFrom [] Schema.root

omit h in
theorem Paired.within {x y : NodeId} (hxy : Paired s s' docs x y) : s.Within x Schema.root := by
  obtain ⟨_, p, hp, _⟩ := hxy
  exact within_of_mem_entriesFrom hp

theorem forall₂_entries :
    List.Forall₂ (fun e e' => e.1 = e'.1 ∧ Paired s s' docs e.2 e'.2)
      (s.entriesFrom [] Schema.root) (s'.entriesFrom [] Schema.root) := by
  refine (forall₂_and_mem (h.forall₂_entriesFrom h.built.orderly.nonempty h.opposite_root [])).imp ?_
  rintro e e' ⟨⟨hpath, hopposite⟩, he, he'⟩
  exact ⟨hpath, hopposite, e.1, he, hpath ▸ he'⟩

theorem rel_at? (pointer : String) :
    Option.Rel (Paired s s' docs) ((Index.ofSchema s).at? pointer)
      ((Index.ofSchema s').at? pointer) := by
  unfold Index.at? Index.ofSchema
  refine rel_lookup_of_forall₂ (List.forall₂_reverse_iff.2 ?_) pointer
  refine List.forall₂_map_left_iff.2 (List.forall₂_map_right_iff.2 (h.forall₂_entries.imp ?_))
  rintro e e' ⟨hpath, hpaired⟩
  exact ⟨by rw [hpath], hpaired⟩

theorem declared_eq {x y : NodeId} (hxy : Paired s s' docs x y) :
    (s.node? x).bind (·.id?) = (s'.node? y).bind (·.id?) := by
  have hx := h.built.orderly.lt_size_of_within hxy.within
  obtain ⟨n, hn⟩ : ∃ n, s.node? x = some n := ⟨_, Array.getElem?_eq_getElem hx⟩
  obtain ⟨n', hn', _, hback⟩ := h.built.opposite_node h.labels hn hxy.1
  rw [hn, hn', Option.bind_some, Option.bind_some, hback.id?_eq]

theorem rel_declared? (name : String) :
    Option.Rel (Paired s s' docs) ((Index.ofSchema s).declared? name)
      ((Index.ofSchema s').declared? name) := by
  unfold Index.declared? Index.ofSchema
  refine rel_lookup_of_forall₂ ?_ name
  dsimp only
  have hentries := h.forall₂_entries
  generalize s.entriesFrom [] Schema.root = es at hentries ⊢
  generalize s'.entriesFrom [] Schema.root = es' at hentries ⊢
  induction hentries with
  | nil => exact .nil
  | @cons e e' _ _ he _ ih =>
    rw [List.filterMap_cons, List.filterMap_cons, h.declared_eq he.2]
    cases (s'.node? e'.2).bind (·.id?) with
    | none => exact ih
    | some id => exact .cons ⟨rfl, he.2⟩ ih

theorem pointer?_eq {x y : NodeId} (hxy : Paired s s' docs x y) :
    (Index.ofSchema s).pointer? x = (Index.ofSchema s').pointer? y := by
  obtain ⟨_, p, hp, hp'⟩ := hxy
  rw [pointer?_of_mem_entries h.built.orderly hp, pointer?_of_mem_entries h.marked.orderly hp']

/-! ## Resolving -/

theorem rel_start? (base : String) :
    (Index.ofSchema s).start? base = (Index.ofSchema s').start? base := by
  unfold Index.start?
  split
  · rfl
  · have hdeclared := h.rel_declared? base
    generalize (Index.ofSchema s).declared? base = x? at hdeclared ⊢
    generalize (Index.ofSchema s').declared? base = y? at hdeclared ⊢
    cases hdeclared with
    | none => rfl
    | some hxy => exact h.pointer?_eq hxy

theorem agree_resolve {T : Tolerance} (reference : String) :
    T.Agree (Paired s s' docs) ((Index.ofSchema s).resolve reference)
      ((Index.ofSchema s').resolve reference) := by
  unfold Index.resolve
  have hdeclared := h.rel_declared? reference
  generalize (Index.ofSchema s).declared? reference = x? at hdeclared ⊢
  generalize (Index.ofSchema s').declared? reference = y? at hdeclared ⊢
  cases hdeclared with
  | some hxy => exact .ok hxy
  | none =>
    dsimp only
    split
    · exact .error _
    · next path _ =>
      split
      · exact .error _
      · rw [h.rel_start?]
        cases (Index.ofSchema s').start? (Index.splitHash reference).1 with
        | none => exact .error _
        | some start =>
          rw [Option.bind_some, Option.bind_some]
          have hat := h.rel_at? (start ++ Pointer.render path)
          generalize (Index.ofSchema s).at? _ = x? at hat ⊢
          generalize (Index.ofSchema s').at? _ = y? at hat ⊢
          cases hat with
          | none => exact .error _
          | some hxy => exact .ok hxy

/-! ## Links -/

omit h in
theorem not_declared_hash (hplain : s.IsPlain) (cs : String) :
    (Index.ofSchema s).declared? ("#" ++ cs) = none := by
  rw [Option.eq_none_iff_forall_ne_some]
  intro id hid
  obtain ⟨e, _, he⟩ := List.mem_filterMap.1 (mem_of_lookup hid)
  obtain ⟨name, hname, heq⟩ := Option.map_eq_some_iff.1 he
  cases heq
  obtain ⟨n, hn, hname⟩ := Option.bind_eq_some_iff.1 hname
  obtain ⟨k, hk, hpart⟩ := List.exists_of_findSome?_eq_some hname
  have hk := (hplain e.2 n hn).keywords k hk
  split at hpart
  · cases hpart
    exact hk (by simp)
  · cases hpart

omit h in
theorem splitHash_hash (cs : String) : Index.splitHash ("#" ++ cs) = ("", cs) := by
  simp [Index.splitHash]

omit h in
theorem head?_ne_defs (hplain : s.IsPlain) {e : Path × NodeId}
    (he : e ∈ s.entriesFrom [] Schema.root) :
    (e.1.map Segment.reread).head? ≠ some (.key "$defs") := by
  have hname : ∀ id n, s.node? id = some n → ∀ k ∈ n.keywords, k.children ≠ [] →
      k.name ≠ "$defs" := by
    intro id n hn k hk hchildren
    have hk := (hplain id n hn).keywords k hk
    cases k with
    | leaf l => exact absurd rfl hchildren
    | single slot child => cases slot <;> simp [Keyword.name, Slot.name]
    | listed slot ids => cases slot <;> simp [Keyword.name, ListSlot.name]
    | keyed slot entries =>
      cases slot with
      | defs => exact absurd rfl hk.1
      | properties | dependentSchemas => simp [Keyword.name, KeyedSlot.name]
    | patternProperties entries => simp [Keyword.name]
  rcases exists_of_mem_entriesFrom (P := (· ≠ "$defs")) hname he with heq | ⟨name, p, hne, heq⟩
  · rw [heq]
    simp
  · rw [heq, List.nil_append, List.map_cons, List.head?_cons, ne_eq, Option.some.injEq]
    intro hdefs
    exact hne (Segment.key.inj (Segment.eq_of_reread_eq_key hdefs))

theorem opposite_of_render {p p' : Path} {x y : NodeId} (hx : (p, x) ∈ s.entriesFrom [] Schema.root)
    (hy : (p', y) ∈ s'.entriesFrom [] Schema.root)
    (hrender : "#" ++ Pointer.render p' = "#" ++ Pointer.render p) : s.Opposite docs x y := by
  obtain ⟨e, he, hpath, hpaired⟩ := exists_of_forall₂ h.forall₂_entries hx
  have hreread : p.map Segment.reread = p'.map Segment.reread := by
    have hparse := Pointer.parse_hash_render p'
    rw [hrender, Pointer.parse_hash_render, Except.ok.injEq] at hparse
    exact hparse
  have hkeys := h.built.keysDistinct_documentAt Schema.root
  obtain ⟨d, hd, hdoc⟩ := h.labels.get?_of_mem_entriesFrom hkeys h.root rfl hy
  obtain ⟨d', hd', hdoc'⟩ := h.labels.get?_of_mem_entriesFrom hkeys h.root rfl he
  rw [← hpath, ← Json.get?_reread, hreread, Json.get?_reread, hd] at hd'
  cases hd'
  have hopposite := hpaired.1
  unfold Opposite at hopposite ⊢
  rw [hdoc, ← hopposite, hdoc']

theorem exists_at? {p : Path} {x : NodeId} (hx : (p, x) ∈ s.entriesFrom [] Schema.root) :
    ∃ y, (Index.ofSchema s').at? ("#" ++ Pointer.render (p.map Segment.reread)) = some y ∧
      s.Opposite docs x y := by
  obtain ⟨e, he, hpath, _⟩ := exists_of_forall₂ h.forall₂_entries hx
  rw [Pointer.render_reread]
  cases hat : (Index.ofSchema s').at? ("#" ++ Pointer.render p) with
  | none =>
    have hnone := List.lookup_eq_none_iff.1 hat ("#" ++ Pointer.render e.1, e.2)
      (List.mem_reverse.2 (List.mem_map.2 ⟨e, he, rfl⟩))
    rw [← hpath] at hnone
    simp at hnone
  | some y =>
    refine ⟨y, rfl, ?_⟩
    obtain ⟨e', he', heq⟩ := List.mem_map.1 (List.mem_reverse.1 (mem_of_lookup hat))
    obtain ⟨hpointer, rfl⟩ := Prod.mk.inj heq
    exact h.opposite_of_render hx he' hpointer

omit h in
theorem resolve_hash_render {p : Path} (hdefs : (p.map Segment.reread).head? ≠ some (.key "$defs"))
    (hundeclared : (Index.ofSchema s').declared? ("#" ++ Pointer.render p) = none) {y : NodeId}
    (hat : (Index.ofSchema s').at? ("#" ++ Pointer.render (p.map Segment.reread)) = some y) :
    (Index.ofSchema s').resolve ("#" ++ Pointer.render p) = .ok y := by
  have hstart : (Index.ofSchema s').start? "" = some "#" := rfl
  unfold Index.resolve
  rw [hundeclared, splitHash_hash]
  dsimp only
  rw [Pointer.parse_render]
  dsimp only
  rw [if_neg hdefs, hstart, Option.bind_some, hat]

theorem exists_resolve_pointerTo {target : NodeId} (htarget : s.Within target Schema.root) :
    ∃ y, (Index.ofSchema s').resolve (s.pointerTo target) = .ok y ∧ s.Opposite docs target y := by
  obtain ⟨p, hp⟩ := h.built.orderly.exists_mem_entriesFrom [] htarget
  obtain ⟨y, hy, hopposite⟩ := h.exists_at? hp
  have hdeclared := h.rel_declared? ("#" ++ Pointer.render p)
  rw [not_declared_hash h.built.plain] at hdeclared
  have hundeclared : (Index.ofSchema s').declared? ("#" ++ Pointer.render p) = none := by
    generalize (Index.ofSchema s').declared? _ = y? at hdeclared ⊢
    cases hdeclared
    rfl
  have hpointer : s.pointerTo target = "#" ++ Pointer.render p := by
    rw [pointerTo, pointer?_of_mem_entries h.built.orderly hp, Option.getD_some]
  rw [hpointer]
  exact ⟨y, resolve_hash_render (head?_ne_defs h.built.plain hp) hundeclared hy, hopposite⟩

end Reloaded

end Schema

end JsonSchema
