import JsonSchema.Proofs.Building.Commuting
import JsonSchema.Proofs.Embedding.Properties

/-!
# The required keys follow the marks

An object lists as required just the keys of its properties that may not be absent, in the order in which they
were declared. The list is written anew where the marks change, and neither other changes nor other schemas
around the object make a difference to it. A property that may be absent may be absent for good.
-/

namespace JsonSchema

open Schema

/-! ## Edits that leave the properties alone -/

/-- No keyword that is set as it is, and no note, takes the place of the properties or of the required keys. -/
def Edit.SparesProperties : Edit α → Prop
  | .keyword l => l.name ≠ "required" ∧ l.name ≠ "properties"
  | .note name _ => name ≠ "required" ∧ name ≠ "properties"
  | _ => True

theorem Edit.SparesProperties.names {e : Edit α} (h : e.SparesProperties) (hstrict : e ≠ .strict)
    (hpartial : e ≠ .partialObject) : ∀ name ∈ e.names, name ≠ "required" ∧ name ≠ "properties" := by
  cases e with
  | keyword | note => exact fun _ hname => List.mem_singleton.1 hname ▸ h
  | strict => exact absurd rfl hstrict
  | partialObject => exact absurd rfl hpartial
  | count which => cases which <;> simp [Edit.names, Count.name]
  | bound which => cases which <;> simp [Edit.names, Bound.name]
  | single slot => cases slot <;> simp [Edit.names, Slot.name]
  | branches _ consequent alternative => cases consequent <;> cases alternative <;> simp [Edit.names]
  | _ => simp [Edit.names]

/-! ## Objects that list what is required -/

/-- The node is an object with properties of these keys. It lists those that may not be absent, which are among
the allowed ones. -/
structure Node.ListsMandatory (n : Node) (s : Schema) (keys allowed : List String) : Prop where
  kind : n.kind = .object
  declared : n.properties.map (·.1) = keys
  lists : n.Requires (s.mandatory n)
  among : s.mandatory n ⊆ allowed

theorem Node.Requires.mapIds {n : Node} {keys : List String} (h : n.Requires keys) (f : NodeId → NodeId) :
    (n.mapIds f).Requires keys := by
  intro k hname
  have hmoved : k ∈ (n.mapIds f).keywords ↔ ∃ old ∈ n.keywords, old.mapIds f = k := List.mem_map
  rw [hmoved]
  constructor
  · rintro ⟨old, hold, rfl⟩
    rw [Keyword.name_mapIds] at hname
    obtain ⟨hkeys, rfl⟩ := (h old hname).1 hold
    exact ⟨hkeys, rfl⟩
  · rintro ⟨hkeys, rfl⟩
    exact ⟨.leaf (.required keys), (h _ rfl).2 ⟨hkeys, rfl⟩, rfl⟩

theorem Node.Requires.filter_eq {n : Node} {keys : List String} (hn : (n.keywords.map (·.name)).Nodup)
    (h : n.Requires keys) : n.keywords.filter (·.name == "required") =
      if keys = [] then [] else [.leaf (.required keys)] := by
  have hmem : ∀ k, k ∈ n.keywords.filter (·.name == "required") ↔ keys ≠ [] ∧ k = .leaf (.required keys) := by
    intro k
    rw [List.mem_filter, beq_iff_eq]
    constructor
    · rintro ⟨hk, hname⟩
      exact (h k hname).1 hk
    · rintro ⟨hkeys, rfl⟩
      exact ⟨(h _ rfl).2 ⟨hkeys, rfl⟩, rfl⟩
  have hnodup : (n.keywords.filter (·.name == "required")).Nodup :=
    (List.Nodup.of_map _ hn).filter _
  split
  · next hkeys => exact List.eq_nil_iff_forall_not_mem.2 fun k hk => ((hmem k).1 hk).1 hkeys
  · next hkeys =>
    refine List.perm_singleton.1 ((List.perm_ext_iff_of_nodup hnodup (List.nodup_singleton _)).2 fun k => ?_)
    rw [hmem, and_iff_right hkeys, List.mem_singleton]

namespace Schema

variable {s t c : Schema} {n n' : Node} {q : NodeId} {keys allowed : List String}

/-- There is such an object at the place. -/
def ListsAt (s : Schema) (q : NodeId) (keys allowed : List String) : Prop :=
  ∃ n, s.node? q = some n ∧ n.ListsMandatory s keys allowed

theorem mandatory_congr {f : NodeId → NodeId} (hproperties : n'.properties = n.properties.map fun e => (e.1, f e.2))
    (hoptional : ∀ e ∈ n.properties, t.isOptional (f e.2) = s.isOptional e.2) :
    t.mandatory n' = s.mandatory n := by
  unfold mandatory
  rw [hproperties, List.filter_map, List.map_map]
  have hsame : ∀ e ∈ n.properties, ((fun e => !t.isOptional e.2) ∘ fun e : String × NodeId => (e.1, f e.2)) e =
      !s.isOptional e.2 := fun e he => congrArg (!·) (hoptional e he)
  rw [List.filter_congr hsame]
  rfl

end Schema

theorem Node.ListsMandatory.congr {s t : Schema} {n n' : Node} {keys allowed : List String} {f : NodeId → NodeId}
    (h : n.ListsMandatory s keys allowed) (hkind : n'.kind = n.kind)
    (hproperties : n'.properties = n.properties.map fun e => (e.1, f e.2))
    (hrequires : ∀ keys, n.Requires keys → n'.Requires keys)
    (hoptional : ∀ e ∈ n.properties, t.isOptional (f e.2) = s.isOptional e.2) :
    n'.ListsMandatory t keys allowed := by
  have hmandatory := mandatory_congr hproperties hoptional
  refine ⟨hkind.trans h.kind, ?_, ?_, ?_⟩
  · rw [hproperties, List.map_map]
    exact h.declared
  · rw [hmandatory]
    exact hrequires _ h.lists
  · rw [hmandatory]
    exact h.among

/-! ## What becomes of such an object -/

namespace Schema.ListsAt

variable {s t c : Schema} {q : NodeId} {keys allowed : List String}

theorem of_node (h : s.ListsAt q keys allowed) (hnode : ∀ n, s.node? q = some n → ∃ n', t.node? q = some n' ∧
      n'.kind = n.kind ∧ n'.properties = n.properties ∧ (∀ keys, n.Requires keys → n'.Requires keys) ∧
      ∀ e ∈ n.properties, t.isOptional e.2 = s.isOptional e.2) : t.ListsAt q keys allowed := by
  obtain ⟨n, hn, hlists⟩ := h
  obtain ⟨n', hn', hkind, hproperties, hrequires, hoptional⟩ := hnode n hn
  exact ⟨n', hn', hlists.congr hkind (f := id) (by rw [hproperties]; simp) hrequires hoptional⟩

theorem mono (h : s.ListsAt q keys allowed) {allowed' : List String} (hsubset : allowed ⊆ allowed') :
    s.ListsAt q keys allowed' := by
  obtain ⟨n, hn, hlists⟩ := h
  exact ⟨n, hn, { hlists with among := List.Subset.trans hlists.among hsubset }⟩

theorem copied {place : NodeId} (ho : c.Orderly) (h : c.ListsAt q keys allowed)
    (hcopied : CopiedOn (fun _ => True) c s place) : s.ListsAt (q + place) keys allowed := by
  obtain ⟨n, hn, hlists⟩ := h
  obtain ⟨optional, _, hcopy⟩ := hcopied.node q n trivial hn
  refine ⟨_, hcopy, hlists.congr (f := (· + place)) ?_ (n.properties_mapIds _) ?_ ?_⟩
  · exact Node.kind_mapIds_of_not_link (fun target hlink => by rw [hlists.kind] at hlink; cases hlink) _
  · exact fun keys hrequires => hrequires.mapIds _
  · intro e he
    have hbelow := ho.below q n hn e.2 (Node.mem_places_of_properties he)
    obtain ⟨m, hm⟩ : ∃ m, c.node? e.2 = some m := ⟨_, Array.getElem?_eq_getElem hbelow.2⟩
    obtain ⟨mark, hmark, hnode⟩ := hcopied.node e.2 m trivial hm
    rw [isOptional, hnode, isOptional, hm]
    exact hmark (Nat.ne_of_gt (Nat.zero_lt_of_lt hbelow.1))

theorem tie (h : s.ListsAt q keys allowed) (token : Nat) : (s.tie token).ListsAt q keys allowed := by
  obtain ⟨n, hn, hlists⟩ := h
  have hhole : n.kind ≠ .hole token := by
    rw [hlists.kind]
    exact nofun
  refine of_node ⟨n, hn, hlists⟩ fun m hm => ⟨m, ?_, rfl, rfl, fun _ => id, fun e _ => s.isOptional_tie token e.2⟩
  rw [hn] at hm
  cases hm
  rw [node?_tie, hn, Option.map_some, if_neg hhole]

variable (ho : s.Orderly) (h : s.ListsAt q keys allowed)
include ho h

theorem of_sharesBelow (hq : q ≠ root) (hshares : s.SharesBelow t) : t.ListsAt q keys allowed := by
  refine of_node h fun n hn => ⟨n, ?_, rfl, rfl, fun _ => id, fun e he => ?_⟩
  · exact (hshares.node?_eq q hq (lt_size_of_node? hn)).trans hn
  · have hbelow := ho.below q n hn e.2 (Node.mem_places_of_properties he)
    have hne : e.2 ≠ root := Nat.ne_of_gt (Nat.zero_lt_of_lt hbelow.1)
    rw [isOptional, hshares.node?_eq e.2 hne hbelow.2, isOptional]

theorem setChildren (cs : List Schema) {k : Keyword}
    (hk : q = root → k.name ≠ "required" ∧ k.name ≠ "properties") :
    ((s.adoptAll cs).1.setKeyword k).ListsAt q keys allowed := by
  by_cases hq : q = root
  · subst hq
    obtain ⟨hrequired, hproperties⟩ := hk rfl
    refine of_node h fun n hn => ⟨n.setKeyword k, ?_, rfl, Node.properties_setKeyword_of_ne hproperties,
      fun _ hlists => hlists.setKeyword (ho.names root n hn) hrequired, fun e he => ?_⟩
    · have hkept := (node?_adoptAll s cs (lt_size_of_node? hn)).trans hn
      exact (node?_modifyRoot hkept _ root).trans (if_pos rfl)
    · have hbelow := ho.below root n hn e.2 (Node.mem_places_of_properties he)
      rw [isOptional_setKeyword, isOptional_adoptAll_left s cs hbelow.2]
  · have hadopt : s.SharesBelow (s.adoptAll cs).1 := by
      refine ⟨?_, fun id _ hid => node?_adoptAll s cs hid⟩
      rw [size_adoptAll]
      exact Nat.le_add_right _ _
    exact of_sharesBelow ho h hq (hadopt.trans (.modifyRoot _ _))

theorem setSingle (slot : Slot) (child : Schema) : (s.setSingle slot child).ListsAt q keys allowed :=
  h.setChildren ho [child] (k := .single slot s.size) fun _ => by cases slot <;> simp [Keyword.name, Slot.name]

theorem modifyRoot {f : Node → Node} (hkind : ∀ n, (f n).kind = n.kind)
    (hkeywords : ∀ n, (f n).keywords = n.keywords) : (s.modifyRoot f).ListsAt q keys allowed := by
  by_cases hq : q = root
  · subst hq
    refine of_node h fun n hn => ⟨f n, (node?_modifyRoot hn f root).trans (if_pos rfl), hkind n, ?_, ?_, ?_⟩
    · rw [Node.properties, Node.find?, hkeywords]
      rfl
    · intro keys hlists
      rwa [Node.Requires, hkeywords]
    · intro e he
      have hbelow := ho.below root n hn e.2 (Node.mem_places_of_properties he)
      exact isOptional_modify_of_ne s (Nat.ne_of_lt hbelow.1) f
  · exact of_sharesBelow ho h hq (.modifyRoot s f)

theorem close : s.close.ListsAt q keys allowed := by
  by_cases hq : q = root
  · subst hq
    obtain ⟨n, hn, hlists⟩ := h
    obtain ⟨n', hn', hrequires, hkind, hproperties, _⟩ := exists_closed ho hn
    have hmandatory := mandatory_close ho hn hproperties
    refine ⟨n', hn', hkind.trans hlists.kind, hproperties ▸ hlists.declared, ?_, ?_⟩
    · rwa [hmandatory]
    · rw [hmandatory]
      exact hlists.among
  · exact of_sharesBelow ho h hq (.close s)

omit h in
theorem loosen_root (h : s.ListsAt root keys allowed) : s.loosen.ListsAt root keys [] := by
  obtain ⟨n, hn, hlists⟩ := h
  refine ⟨_, root_loosen ho hn, hlists.kind, ?_, requires_loosen ho hn, ?_⟩
  · rw [Node.properties_removeRequired]
    exact hlists.declared
  · rw [mandatory_loosen ho hn]
    exact List.Subset.refl _

theorem loosen : s.loosen.ListsAt q keys allowed := by
  by_cases hq : q = root
  · subst hq
    exact (h.loosen_root ho).mono (List.nil_subset _)
  · obtain ⟨r, hr⟩ := ho.exists_root
    refine of_node h fun n hn => ?_
    have hnode := node?_loosen ho hr
    have hmarks : ∀ e ∈ n.properties, s.loosen.isOptional e.2 = s.isOptional e.2 := by
      intro e he
      have hheld := Node.mem_places_of_properties he
      have hne : e.2 ≠ root := Nat.ne_of_gt (Nat.zero_lt_of_lt (ho.below q n hn e.2 hheld).1)
      have hnot : e.2 ∉ r.properties.map (·.2) := by
        intro hmem
        obtain ⟨e', he', heq⟩ := List.mem_map.1 hmem
        exact hq (ho.owner hn hheld hr (heq ▸ Node.mem_places_of_properties he'))
      rw [isOptional, hnode, if_neg hne, if_neg hnot, isOptional]
    rw [hnode, if_neg hq, hn]
    split
    · exact ⟨_, rfl, rfl, rfl, fun _ => id, hmarks⟩
    · exact ⟨_, rfl, rfl, rfl, fun _ => id, hmarks⟩

/-- One change at the root. -/
theorem apply {e : Edit Schema} (hparts : ∀ part ∈ e.parts, part.Orderly)
    (hspares : q = root → e.SparesProperties) (ht : s.apply e = .ok t) : t.ListsAt q keys allowed := by
  by_cases hstrict : e = .strict
  · subst hstrict
    exact LastingWith.ifObject (Q := (·.ListsAt q keys allowed)) (h.close ho) ht
  by_cases hpartial : e = .partialObject
  · subst hpartial
    exact LastingWith.ifObject (Q := (·.ListsAt q keys allowed)) (h.loosen ho) ht
  have hname : ∀ {name : String}, name ∈ e.names → q = root → name ≠ "required" ∧ name ≠ "properties" :=
    fun hmem hq => (hspares hq).names hstrict hpartial _ hmem
  cases e with
  | single slot child =>
    cases ht
    exact h.setSingle ho slot child
  | prefixItems children =>
    cases ht
    exact h.setChildren ho children (hname List.mem_cons_self)
  | dependentSchemas entries =>
    cases ht
    exact h.setChildren ho _ (hname List.mem_cons_self)
  | patternProperties entries =>
    obtain ⟨_, _, ht⟩ := Except.bind_eq_ok_iff.1 ht
    cases ht
    exact h.setChildren ho _ (hname List.mem_cons_self)
  | branches condition consequent alternative =>
    cases ht
    have hbranch : ∀ {s : Schema}, s.Orderly ∧ s.ListsAt q keys allowed → ∀ c? : Option Schema,
        (∀ c ∈ c?, c.Orderly) → ∀ slot, (c?.elim s (s.setSingle slot)).Orderly ∧
          (c?.elim s (s.setSingle slot)).ListsAt q keys allowed := by
      rintro s ⟨ho, h⟩ c? hc slot
      cases c? with
      | none => exact ⟨ho, h⟩
      | some c => exact ⟨ho.setSingle (hc c rfl) slot, h.setSingle ho slot c⟩
    have hcondition := ho.setSingle (hparts condition List.mem_cons_self) .condition
    have hconsequent : ∀ c ∈ consequent, c.Orderly := fun c hc =>
      hparts c (List.mem_cons_of_mem _ (List.mem_append_left _ (Option.mem_toList.2 hc)))
    have halternative : ∀ c ∈ alternative, c.Orderly := fun c hc =>
      hparts c (List.mem_cons_of_mem _ (List.mem_append_right _ (Option.mem_toList.2 hc)))
    have hfirst := hbranch ⟨hcondition, h.setSingle ho _ _⟩ consequent hconsequent .consequent
    exact (hbranch hfirst alternative halternative .alternative).2
  | pattern source =>
    obtain ⟨p, _, rfl⟩ := Except.map_eq_ok_iff.1 ht
    exact h.setChildren ho [] (hname List.mem_cons_self)
  | validateHook | coerceHook | templateHook | optional =>
    cases ht
    exact h.modifyRoot ho (fun _ => rfl) fun _ => rfl
  | strict => exact absurd rfl hstrict
  | partialObject => exact absurd rfl hpartial
  | _ =>
    cases ht
    exact h.setChildren ho [] (hname List.mem_cons_self)

theorem attempt {e : Edit Schema} (hparts : ∀ part ∈ e.parts, part.Orderly)
    (hspares : q = root → e.SparesProperties) : (s.attempt e).ListsAt q keys allowed := by
  unfold Schema.attempt
  split
  · next ht => exact h.apply ho hparts hspares ht
  · exact h

end Schema.ListsAt

/-! ## The whole that is made -/

theorem Edit.mem_held_of_mem_parts {α : Type} {e : Edit α} {part : α} (h : part ∈ e.parts) :
    part ∈ e.held.map (·.2) := by
  cases e with
  | single => rwa [Edit.held, map_snd_underSlots]
  | branches => simpa [Edit.held, map_snd_underSlots, Function.comp_def, Edit.parts] using h
  | prefixItems => rwa [Edit.held, map_snd_underPositions]
  | patternProperties | dependentSchemas => rwa [Edit.held, map_snd_underKeys]
  | _ => cases h

theorem Schema.orderly_object_of (shape : Shape) {properties : List (String × Schema)}
    (h : ∀ e ∈ properties, e.2.Orderly) : (Schema.object shape properties).Orderly := by
  have hplain := preserved_orderly.object h
  cases shape with
  | plain => exact hplain
  | closed => exact hplain.close
  | loose => exact hplain.loosen

theorem Making.orderly {m : Making} (hm : ∀ s ∈ m.sources, s.Orderly) {t : Schema} (hmake : m.make = .ok t) :
    t.Orderly := by
  have hheld : ∀ c ∈ m.held.map (·.2), c.Orderly :=
    List.forall_mem_map.2 fun e he => hm e.2 (mem_sources he)
  have hbase := orderly_base hm
  cases m with
  | object shape properties =>
    cases hmake
    rw [held, map_snd_underKeys] at hheld
    exact orderly_object_of shape (List.forall_mem_map.1 hheld)
  | array part | negated part =>
    cases hmake
    exact hbase.setSingle (hheld part List.mem_cons_self) _
  | anyOf parts | oneOf parts | allOf parts =>
    cases hmake
    rw [held, map_snd_underPositions] at hheld
    exact hbase.setListed hheld _
  | edited parent e =>
    exact lasting_orderly.apply hbase (fun part hpart => hheld part (Edit.mem_held_of_mem_parts hpart)) hmake

/-! ## Objects from then on -/

namespace Schema

/-- The object at the place of the first schema may come to stand at the other place of the second one, with the
properties that it declares: the schema is changed at its root, is the body of a recursion, or is put into
another one. -/
inductive Tended (t : Schema) (place : NodeId) : Schema → NodeId → Prop where
  | now : Tended t place t place
  | changed {s : Schema} {q : NodeId} (h : Tended t place s q) {e : Edit Schema}
      (hparts : ∀ part ∈ e.parts, part.Assembled) (hspares : q = root → e.SparesProperties) :
      Tended t place (s.attempt e) q
  | tied {s : Schema} {q : NodeId} (h : Tended t place s q) (token : Nat) : Tended t place (s.tie token) q
  | embedded {s u : Schema} {q : NodeId} (h : Tended t place s q) {m : Making}
      (hm : ∀ s ∈ m.sources, s.Assembled) (hmake : m.make = .ok u) {i : Nat} {way : Path}
      (hheld : m.held[i]? = some (way, s)) : Tended t place u (q + m.place i)

variable {s t : Schema} {place q : NodeId} {keys allowed : List String}

theorem Tended.listsAt (ho : t.Orderly) (h : t.ListsAt place keys allowed) (htended : Tended t place s q) :
    s.Orderly ∧ s.ListsAt q keys allowed := by
  induction htended with
  | now => exact ⟨ho, h⟩
  | @changed s q _ e hparts hspares ih =>
    have hparts : ∀ part ∈ e.parts, part.Orderly := fun part hpart => (hparts part hpart).orderly
    exact ⟨lasting_orderly.attempt ih.1 hparts, ih.2.attempt ih.1 hparts hspares⟩
  | tied _ token ih => exact ⟨ih.1.tie token, ih.2.tie token⟩
  | embedded _ hm hmake hheld ih =>
    obtain ⟨_, houter⟩ := Making.holds (fun s hs => (hm s hs).orderly) hmake hheld
    exact ⟨Making.orderly (fun s hs => (hm s hs).orderly) hmake, ih.2.copied ih.1 houter.copied⟩

theorem listsAt_syncRequired (ho : s.Orderly) {n : Node} (hn : s.node? root = some n) (hkind : n.kind = .object) :
    (s.syncRequired root).ListsAt root (n.properties.map (·.1)) (n.properties.map (·.1)) := by
  have hnames := ho.names root n hn
  have hagrees := n.agreesBut_required hnames (s.mandatory n)
  have hproperties := hagrees.properties_eq (by decide)
  have hroot := node?_syncRequired_root hn
  have hmandatory : (s.syncRequired root).mandatory (n.requiring (s.mandatory n)) = s.mandatory n := by
    refine mandatory_congr (f := id) (by rw [hproperties]; simp) fun e he => ?_
    have hbelow := ho.below root n hn e.2 (Node.mem_places_of_properties he)
    have hshares := (SharesBelow.syncRequired s).node?_eq e.2 (Nat.ne_of_gt hbelow.1) hbelow.2
    rw [id, isOptional, hshares, isOptional]
  refine ⟨_, hroot, hagrees.kind.trans hkind, by rw [hproperties], ?_, ?_⟩
  · rw [hmandatory]
    exact n.requires_requiring hnames _
  · rw [hmandatory]
    exact List.map_subset _ (List.filter_subset_self _)

theorem listsAt_object (shape : Shape) {properties : List (String × Schema)}
    (h : ∀ e ∈ properties, e.2.Orderly) :
    (object shape properties).ListsAt root (properties.map (·.1)) (properties.map (·.1)) := by
  have htyped : (typed .object).Orderly := preserved_orderly.typed .object
  have ho := htyped.setKeyed h .properties
  have hplain : ((((typed .object).setKeyed .properties properties)).syncRequired root).ListsAt root
      (properties.map (·.1)) (properties.map (·.1)) := by
    have hkept := node?_adoptAll (typed .object) (properties.map (·.2)) htyped.nonempty
    have hroot : ((typed .object).setKeyed .properties properties).node? root =
        some ((Node.typed .object).setKeyword (.keyed .properties (placed properties))) :=
      (node?_modifyRoot hkept _ root).trans (if_pos rfl)
    have hlists := listsAt_syncRequired ho hroot rfl
    have hkeys : (placed properties).map (·.1) = properties.map (·.1) := by
      obtain ⟨_, _, _, _, hlength, _⟩ := htyped.adoptAll (List.forall_mem_map.2 h)
      refine List.map_fst_zip ?_
      rw [hlength, List.length_map, List.length_map]
    rwa [← hkeys]
  cases shape with
  | plain => exact hplain
  | closed => exact hplain.close ho.syncRequired
  | loose => exact hplain.loosen ho.syncRequired

/-! ## What is required -/

/-- An object built from any properties, whatever is done to it later and wherever it is put: if all properties may
be absent then nothing is said to be required, and otherwise just the keys of the others are, in the order in which
they were declared. Once the object has been made partial, nothing is required ever again. -/
theorem Tended.required_eq_mandatory {shape : Shape} {properties : List (String × Schema)}
    (hproperties : ∀ e ∈ properties, e.2.Assembled) (h : Tended (object shape properties) root s q) :
    (∃ n, s.node? q = some n ∧ n.properties.map (·.1) = properties.map (·.1) ∧
      n.keywords.filter (·.name == "required") =
        if s.mandatory n = [] then [] else [.leaf (.required (s.mandatory n))]) ∧
    (q = root → ∃ t, s.partialObject = .ok t ∧ ∀ u p, Tended t root u p →
      ∃ n, u.node? p = some n ∧ n.keywords.filter (·.name == "required") = []) := by
  have hparts : ∀ e ∈ properties, e.2.Orderly := fun e he => (hproperties e he).orderly
  obtain ⟨ho, hat⟩ := h.listsAt (orderly_object_of shape hparts) (listsAt_object shape hparts)
  refine ⟨?_, ?_⟩
  · obtain ⟨n, hn, hlists⟩ := hat
    exact ⟨n, hn, hlists.declared, hlists.lists.filter_eq (ho.names q n hn)⟩
  · rintro rfl
    have hkind : s.kind? root = some .object := by
      obtain ⟨n, hn, hlists⟩ := hat
      rw [kind?, hn, Option.map_some, hlists.kind]
    refine ⟨s.loosen, if_pos hkind, fun u p htended => ?_⟩
    obtain ⟨hu, n, hn, hlists⟩ := htended.listsAt ho.loosen (hat.loosen_root ho)
    refine ⟨n, hn, (hlists.lists.filter_eq (hu.names p n hn)).trans (if_pos ?_)⟩
    exact List.subset_nil.1 hlists.among

/-- Two properties, of which the second may be absent. -/
def pair : List (String × Schema) := [("a", any), ("b", ofNode { kind := .any, optional := true })]

/-- The root of the closed object with these properties, as the items of an array. -/
def closedPair : Node where
  kind := .object
  keywords := [.leaf (.types [.object]), .keyed .properties [("a", 2), ("b", 3)], .leaf (.required ["a"]),
    .single .additionalProperties 4]

theorem assembled_pair : ∀ e ∈ pair, e.2.Assembled := by
  have hscope : ∀ entry ∈ ([] : List (String × Schema)), entry.2.Assembled := nofun
  have hany : any.Assembled := .built hscope (e := .any) rfl
  refine List.forall_mem_cons.2 ⟨hany, List.forall_mem_singleton.2 ?_⟩
  exact .built hscope (e := .edited .any [.optional]) (by with_unfolding_all rfl)

/-- The items of an array require the one key until they have been made partial. -/
theorem required_pair :
    (∃ n, (array ((object .plain pair).attempt .strict)).node? 1 = some n ∧
      n.keywords.filter (·.name == "required") = [.leaf (.required ["a"])]) ∧
    ∃ t, (object .plain pair).partialObject = .ok t ∧
      ∃ n, (array t).node? 1 = some n ∧ n.keywords.filter (·.name == "required") = [] := by
  have hobject : (object .plain pair).Assembled :=
    .built assembled_pair (e := .object .plain [("a", .this "a"), ("b", .this "b")]) (by with_unfolding_all rfl)
  have hitems : ∀ {u s : Schema}, s.Assembled → Tended u root s root → Tended u root (array s) 1 :=
    fun hs h => .embedded h (m := .array _) (List.forall_mem_singleton.2 hs) rfl (i := 0) rfl
  have hclosed : ((object .plain pair).attempt .strict).Assembled := .changed hobject (List.forall_mem_nil _)
  have hchanged : Tended (object .plain pair) root ((object .plain pair).attempt .strict) root :=
    .changed .now (List.forall_mem_nil _) fun _ => trivial
  have hbuilt : Tended (object .plain pair) root (object .plain pair) root := .now
  obtain ⟨⟨n, hn, _, hrequired⟩, _⟩ := (hitems hclosed hchanged).required_eq_mandatory assembled_pair
  obtain ⟨t, ht, hloose⟩ := (hbuilt.required_eq_mandatory assembled_pair).2 rfl
  have hassembled : t.Assembled := by
    have hattempt : (object .plain pair).attempt .partialObject = t := by rw [attempt, apply, ht]
    exact hattempt ▸ .changed hobject (List.forall_mem_nil _)
  refine ⟨⟨n, hn, ?_⟩, t, ht, hloose _ _ (hitems hassembled .now)⟩
  have hnode : (array ((object .plain pair).attempt .strict)).node? 1 = some closedPair := by
    with_unfolding_all rfl
  obtain rfl : n = closedPair := Option.some.inj (hn.symm.trans hnode)
  have hmandatory : (array ((object .plain pair).attempt .strict)).mandatory closedPair = ["a"] := by
    with_unfolding_all rfl
  rw [hrequired, hmandatory]
  rfl

/-- The root of the plain object with these properties, once its required keys have been taken away by hand. -/
def silencedPair : Node where
  kind := .object
  keywords := [.leaf (.types [.object]), .keyed .properties [("a", 1), ("b", 2)], .leaf (.required [])]

/-- Keys that are set by hand need not be those of the properties that may not be absent. -/
theorem required_set_by_hand :
    ((object .plain pair).attempt (.keyword (.required []))).node? root = some silencedPair ∧
      ((object .plain pair).attempt (.keyword (.required []))).mandatory silencedPair = ["a"] ∧
      silencedPair.keywords.filter (·.name == "required") = [.leaf (.required [])] := by
  refine ⟨?_, ?_, rfl⟩
  · with_unfolding_all rfl
  · with_unfolding_all rfl

end Schema

end JsonSchema
