import JsonSchema.Proofs.Building.Everywhere
import JsonSchema.Proofs.Building.Induction
import JsonSchema.Proofs.Building.Lookup
import JsonSchema.Proofs.Recursion.Renaming

/-!
# Nodes that speak for themselves

A node is of the kind that its keywords say, and its patterns are those of their sources. Both can be
seen from the node alone, so that they are kept wherever the node goes.
-/

namespace JsonSchema

/-! ## Nodes -/

/-- The kind that the keywords have to speak of. A placeholder may become any schema. -/
def Kind.said? : Kind → Option Kind
  | .constant _ | .link _ => none
  | .hole _ => some .any
  | k => some k

/-- What can be taken from a keyword without schemas about the kind. -/
def Keyword.types? : Keyword → Option (List InstanceType)
  | .leaf (.types ts) => some ts
  | _ => none

/-- The keyword holds patterns that belong to their sources. -/
def Keyword.Compiled : Keyword → Prop
  | .leaf (.pattern p) => Pattern.compile? p.source = some p
  | .patternProperties entries => ∀ e ∈ entries, Pattern.compile? e.1.source = some e.1
  | _ => True

namespace Node

/-- A single type decides; without a type alternatives do. -/
def saidKind (n : Node) : Kind :=
  match n.find? Keyword.types? with
  | some [t] => .ofType t
  | some _ => .any
  | none => if n.declares "anyOf" || n.declares "oneOf" then .union else .any

/-- No note stands under one of the names. -/
def Genuine (n : Node) (names : List String) : Prop :=
  ∀ name v, .leaf (.note name v) ∈ n.keywords → name ∉ names

/-- The names of the keywords that say of what kind a node is. -/
def kindNames : List String := ["type", "anyOf", "oneOf"]

structure Candid (n : Node) : Prop where
  kind : n.Genuine kindNames → ∀ kind, n.kind.said? = some kind → n.saidKind = kind
  patterns : ∀ k ∈ n.keywords, k.Compiled

/-! ### Names -/

theorem partOf_types? : PartOf "type" Keyword.types? := by
  intro k ts h
  cases k with
  | leaf l =>
    cases l with
    | types => rfl
    | _ => cases h
  | _ => cases h

theorem declares_iff_mem (n : Node) (name : String) :
    n.declares name = true ↔ name ∈ n.keywords.map (·.name) := by
  simp [declares]

theorem declares_setKeyword (n : Node) (k : Keyword) (name : String) :
    (n.setKeyword k).declares name = true ↔ k.name = name ∨ n.declares name = true := by
  rw [declares_iff_mem, declares_iff_mem, names_setKeyword]
  split
  · next hmem =>
    refine ⟨.inr, ?_⟩
    rintro (rfl | h)
    · exact hmem
    · exact h
  · rw [List.mem_append, List.mem_singleton, or_comm, eq_comm]

theorem declares_removeKeyword {n : Node} {removed name : String} (hne : removed ≠ name) :
    (n.removeKeyword removed).declares name = n.declares name := by
  rw [Bool.eq_iff_iff, declares, declares, removeKeyword, List.any_filter]
  simp only [List.any_eq_true, Bool.and_eq_true, bne_iff_ne, beq_iff_eq]
  constructor
  · rintro ⟨k, hk, _, hname⟩
    exact ⟨k, hk, hname⟩
  · rintro ⟨k, hk, rfl⟩
    exact ⟨k, hk, Ne.symm hne, rfl⟩

/-! ### Keywords that are set -/

theorem Genuine.of_setKeyword {n : Node} {names : List String} {k : Keyword}
    (hk : k.name ∈ names → ∃ name v, k = .leaf (.note name v))
    (h : (n.setKeyword k).Genuine names) : n.Genuine names ∧ k.name ∉ names := by
  have hself : k.name ∉ names := by
    intro hmem
    obtain ⟨name, v, rfl⟩ := hk hmem
    exact h name v (n.mem_setKeyword_self _) hmem
  refine ⟨fun name v hv hmem => ?_, hself⟩
  have hne : (Keyword.leaf (.note name v)).name ≠ k.name := by
    rintro heq
    exact hself (heq ▸ hmem)
  exact h name v (mem_setKeyword_of_mem hv hne) hmem

theorem Genuine.of_removeKeyword {n : Node} {names : List String} {removed : String}
    (hremoved : removed ∉ names) (h : (n.removeKeyword removed).Genuine names) :
    n.Genuine names := by
  intro name v hv hmem
  refine h name v (List.mem_filter.2 ⟨hv, ?_⟩) hmem
  have hne : name ≠ removed := by
    rintro rfl
    exact hremoved hmem
  exact bne_iff_ne.2 hne

theorem saidKind_setKeyword {n : Node} {k : Keyword} (hk : k.name ∉ kindNames) :
    (n.setKeyword k).saidKind = n.saidKind := by
  simp only [kindNames, List.mem_cons, List.not_mem_nil, or_false, not_or] at hk
  obtain ⟨htype, hany, hone⟩ := hk
  have hdeclares : ∀ name, k.name ≠ name → (n.setKeyword k).declares name = n.declares name := by
    intro name hne
    rw [Bool.eq_iff_iff, declares_setKeyword, or_iff_right hne]
  rw [saidKind, saidKind, find?_setKeyword_of_ne partOf_types? htype, hdeclares _ hany,
    hdeclares _ hone]

theorem saidKind_eq {L : Leaf → Leaf → Prop} {R : NodeId → NodeId → Prop} {n n' : Node}
    (hL : ∀ l l', L l l' → l.Same l')
    (h : List.Forall₂ (Keyword.Alike L R) n.keywords n'.keywords) : n.saidKind = n'.saidKind := by
  have htypes : n.find? Keyword.types? = n'.find? Keyword.types? := by
    refine find?_congr ?_ ?_ h
    · intro k hk
      cases k with
      | leaf l => exact absurd rfl (hk l)
      | _ => rfl
    · intro l l' hl
      cases hL l l' hl <;> rfl
  rw [saidKind, saidKind, htypes, declares_eq h hL, declares_eq h hL]

theorem saidKind_mapIds (f : NodeId → NodeId) (n : Node) : (n.mapIds f).saidKind = n.saidKind :=
  (saidKind_eq (L := Eq) (fun _ _ h => h ▸ .refl _) (renamed_mapIds f n)).symm

theorem genuine_mapIds {f : NodeId → NodeId} {n : Node} {names : List String} :
    (n.mapIds f).Genuine names ↔ n.Genuine names := by
  have hmem : ∀ l, Keyword.leaf l ∈ (n.mapIds f).keywords ↔ .leaf l ∈ n.keywords := by
    intro l
    rw [mapIds, List.mem_map]
    constructor
    · rintro ⟨k, hk, heq⟩
      cases k <;> cases heq
      exact hk
    · exact fun h => ⟨_, h, rfl⟩
  simp only [Genuine, hmem]

/-! ### Candid nodes -/

namespace Candid

variable {n : Node}

theorem mapIds (h : n.Candid) (f : NodeId → NodeId) : (n.mapIds f).Candid where
  kind := by
    intro hgenuine kind hkind
    rw [saidKind_mapIds]
    apply h.kind (genuine_mapIds.1 hgenuine)
    have hsame : (n.mapIds f).kind.said? = n.kind.said? := by
      unfold Node.mapIds
      dsimp only
      cases n.kind <;> rfl
    rwa [hsame] at hkind
  patterns := by
    intro k hk
    obtain ⟨old, hold, rfl⟩ := List.mem_map.1 hk
    have hcompiled := h.patterns old hold
    cases old with
    | leaf l => exact hcompiled
    | patternProperties entries =>
      intro e he
      obtain ⟨e', he', rfl⟩ := List.mem_map.1 he
      exact hcompiled e' he'
    | _ => exact trivial

theorem setKeyword (h : n.Candid) {k : Keyword} (hcompiled : k.Compiled)
    (hk : k.name ∈ kindNames → ∃ name v, k = .leaf (.note name v)) : (n.setKeyword k).Candid where
  kind := by
    intro hgenuine
    obtain ⟨hgenuine, hname⟩ := hgenuine.of_setKeyword hk
    rw [saidKind_setKeyword hname]
    exact h.kind hgenuine
  patterns := by
    intro k' hk'
    rcases mem_setKeyword hk' with rfl | hk'
    · exact hcompiled
    · exact h.patterns k' hk'

theorem removeRequired (h : n.Candid) : (n.removeKeyword "required").Candid where
  kind := by
    intro hgenuine
    have hsame : (n.removeKeyword "required").saidKind = n.saidKind := by
      rw [saidKind, saidKind, find?_removeKeyword_of_ne partOf_types? (by simp),
        declares_removeKeyword (by simp), declares_removeKeyword (by simp)]
    rw [hsame]
    exact h.kind (hgenuine.of_removeKeyword (by simp [kindNames]))
  patterns := fun k hk => h.patterns k (List.mem_of_mem_filter hk)

theorem congr {n' : Node} (h : n.Candid)
    (hkind : ∀ said, n'.kind.said? = some said → n.kind.said? = some said)
    (hkeywords : n'.keywords = n.keywords) : n'.Candid where
  kind := by
    have hsame : n'.saidKind = n.saidKind := by
      rw [saidKind, saidKind, find?, declares, declares, hkeywords]
      rfl
    rw [hsame, Genuine, hkeywords]
    exact fun hgenuine said hsaid => h.kind hgenuine said (hkind said hsaid)
  patterns := by
    rw [hkeywords]
    exact h.patterns

theorem ofKind {kind : Kind} (h : ∀ said, kind.said? = some said → said = .any) :
    (Node.ofKind kind).Candid where
  kind := fun _ said hsaid => (h said hsaid).symm
  patterns := nofun

theorem typed (t : InstanceType) : (Node.typed t).Candid where
  kind := by
    intro _ kind hkind
    cases t <;> cases hkind <;> rfl
  patterns := by
    intro k hk
    cases List.mem_singleton.1 hk
    exact trivial

end Candid

end Node

/-! ## Loading -/

/-- The kind is read from the members as it is taken from the keywords. -/
theorem Node.kindOf_eq_saidKind {n : Node} {ms : Members}
    (htypes : Option.Rel (fun ts v => v = .strings (ts.map (·.name)) ∨ ∃ t, ts = [t] ∧ v = .string t.name)
      (n.find? Keyword.types?) (ms.get? "type"))
    (hnames : ∀ name, n.declares name = ms.hasKey name) : Loader.kindOf ms = .ok n.saidKind := by
  have hnamed : ∀ t : InstanceType, Loader.typeNamed t.name = .ok t := fun t =>
    Loader.typeNamed_eq_ok_iff.2 rfl
  unfold Loader.kindOf saidKind
  rw [hnames, hnames]
  generalize n.find? Keyword.types? = ts? at htypes ⊢
  generalize ms.get? "type" = v? at htypes ⊢
  cases htypes with
  | none => rfl
  | @some ts v h =>
    -- A list decides only if it has one type, and a single name always does.
    rcases h with rfl | ⟨t, rfl, rfl⟩
    · rcases ts with _ | ⟨t, _ | ⟨t', ts⟩⟩
      · rfl
      · simp only [Json.strings, List.map_cons, List.map_nil, hnamed]
        rfl
      · rfl
    · simp only [hnamed]
      rfl

theorem Node.said?_of_kindOf {ms : Members} {kind : Kind} (h : Loader.kindOf ms = .ok kind) :
    kind.said? = some kind := by
  obtain ⟨hconstant, hlink, hhole⟩ := Loader.ne_of_kindOf h
  cases kind with
  | constant accepts => exact absurd rfl (hconstant accepts)
  | link target => exact absurd rfl (hlink target)
  | hole token => exact absurd rfl (hhole token)
  | _ => rfl

theorem Keyword.Reads.compiled {R : NodeId → Json → Prop} {m : String × Json} {k : Keyword}
    (h : k.Reads R m) : k.Compiled := by
  cases h with
  | leaf role read =>
    cases Loader.readLeaf_eq_ok_iff.1 read with
    | @pattern source p hp =>
      have hsource := Pattern.source_of_compile? hp
      subst hsource
      exact hp
    | _ => exact trivial
  | patterns role held =>
    intro e he
    obtain ⟨m, _, hp, _⟩ := exists_of_forall₂ held he
    rw [Pattern.source_of_compile? hp, hp]
  | _ => exact trivial

theorem Node.kindOf_of_reads {R : NodeId → Json → Prop} {ms : Members} {n : Node}
    (h : List.Forall₂ (Keyword.Reads R) ms n.keywords) : Loader.kindOf ms = .ok n.saidKind := by
  apply kindOf_eq_saidKind
  · refine rel_findSome? partOf_types? ?_ h
    intro k d hk
    cases hk with
    | @leaf _ _ path l role read =>
      have hread : (Loader.readTypes path d).map .types = .ok l := read
      obtain ⟨ts, hts, rfl⟩ := Except.map_eq_ok_iff.1 hread
      exact ⟨ts, rfl, Loader.readTypes_eq_ok_iff.1 hts⟩
    | single role | listed role | keyed role | patterns role => cases role
  · intro name
    rw [Bool.eq_iff_iff, declares_iff h, Members.hasKey_iff]

theorem Node.candid_of_reads {R : NodeId → Json → Prop} {d : Json} {n : Node} (h : n.Reads R d) :
    n.Candid := by
  cases h with
  | constant kind keywords hooks =>
    refine ⟨?_, by simp [keywords]⟩
    rw [kind]
    rintro _ said ⟨⟩
  | @object ms n kind keywords hooks =>
    refine ⟨?_, ?_⟩
    · intro _ said hsaid
      have hread := kindOf_of_reads keywords
      rw [kind, Except.ok.injEq] at hread
      rw [said?_of_kindOf kind, Option.some.injEq] at hsaid
      rw [← hread, hsaid]
    · intro k hk
      obtain ⟨m, _, hreads⟩ := exists_of_forall₂ keywords.flip hk
      exact hreads.compiled

namespace Schema

theorem candid_ofJson {d : Json} {s : Schema} (hd : d.keysDistinct = true) (h : ofJson d = .ok s) :
    s.Everywhere Node.Candid := by
  obtain ⟨docs, hlabels, _⟩ := Loader.loads_of_load d [] s hd h
  intro id n hn
  obtain ⟨m, d, hm, _, hreads⟩ := hlabels.reads id (lt_size_of_node? hn)
  rw [hn] at hm
  cases hm
  exact Node.candid_of_reads hreads

/-! ## Building -/

theorem Everywhere.candid_setChildren {s : Schema} (hs : s.Everywhere Node.Candid) {cs : List Schema}
    (hcs : ∀ c ∈ cs, c.Everywhere Node.Candid) {k : Keyword} (hcompiled : k.Compiled)
    (hk : k.name ∉ Node.kindNames) : ((s.adoptAll cs).1.setKeyword k).Everywhere Node.Candid :=
  hs.setChildren hcs (fun _ f hn => hn.mapIds f)
    fun _ hn => hn.setKeyword hcompiled fun hmem => absurd hmem hk

theorem Everywhere.candid_setSingle {s c : Schema} (hs : s.Everywhere Node.Candid)
    (hc : c.Everywhere Node.Candid) (slot : Slot) : (s.setSingle slot c).Everywhere Node.Candid := by
  have hchildren : ∀ c' ∈ [c], c'.Everywhere Node.Candid := by simpa using hc
  refine Everywhere.candid_setChildren (k := .single slot s.size) hs hchildren trivial ?_
  cases slot <;> simp [Keyword.name, Slot.name, Node.kindNames]

theorem Everywhere.candid_syncRequired {s : Schema} (h : s.Everywhere Node.Candid) :
    (s.syncRequired root).Everywhere Node.Candid := by
  unfold Schema.syncRequired
  split
  · exact h
  · apply h.modify root
    intro n _ hn
    split
    · exact hn.removeRequired
    · refine hn.setKeyword (k := .leaf (.required _)) trivial ?_
      simp [Keyword.name, Leaf.name, Node.kindNames]

theorem candid_union {cs : List Schema} (hcs : ∀ c ∈ cs, c.Everywhere Node.Candid) {slot : ListSlot}
    (hslot : slot = .anyOf ∨ slot = .oneOf) : (composed .union slot cs).Everywhere Node.Candid := by
  intro id n hn
  unfold composed setListed Schema.setKeyword modifyRoot at hn
  rw [node?_modify] at hn
  split at hn
  · next hroot =>
    subst hroot
    have hpos : root < (ofKind .union).size := Nat.one_pos
    rw [node?_adoptAll _ cs hpos] at hn
    cases hn
    refine ⟨?_, ?_⟩
    · rintro _ said ⟨⟩
      rcases hslot with rfl | rfl <;> rfl
    · intro k hk
      cases List.mem_singleton.1 hk
      exact trivial
  · next hne =>
    rcases node?_adoptAll_cases hn with hn | ⟨c, hmem, place, m, f, hm, rfl⟩
    · exact absurd (Orderly.eq_of_node?_ofNode hn).1.symm hne
    · exact (hcs c hmem place m hm).mapIds f

theorem preserved_candid :
    Preserved (·.keysDistinct = true) Leaf.HasEdit (·.Everywhere Node.Candid) where
  any := everywhere_ofNode (.ofKind (by simp [Kind.said?]))
  constant := fun _ => everywhere_ofNode (.ofKind (by simp [Kind.said?]))
  typed := fun t => everywhere_ofNode (.typed t)
  placeholder := fun _ => everywhere_ofNode (.ofKind (by simp [Kind.said?]))
  document := fun hd h => candid_ofJson hd h
  hasEdit := id
  leaf := by
    intro s h l hl
    apply h.modify root
    intro n _ hn
    apply hn.setKeyword
    · cases l with
      | pattern p => exact hl
      | _ => exact trivial
    · intro hmem
      cases l with
      | note name v => exact ⟨name, v, rfl⟩
      | types | required => cases hl
      | count which => cases which <;> simp [Keyword.name, Leaf.name, Count.name, Node.kindNames] at hmem
      | bound which => cases which <;> simp [Keyword.name, Leaf.name, Bound.name, Node.kindNames] at hmem
      | _ => simp [Keyword.name, Leaf.name, Node.kindNames] at hmem
  single := fun h hc slot => h.candid_setSingle hc slot
  listed := by
    intro s cs h hcs slot hany hone
    refine h.candid_setChildren (k := .listed slot _) hcs trivial ?_
    cases slot <;> simp_all [Keyword.name, ListSlot.name, Node.kindNames]
  union := fun hcs _ hslot => candid_union hcs hslot
  object := by
    intro es hes
    apply Everywhere.candid_syncRequired
    apply (everywhere_ofNode (.typed .object)).candid_setChildren
    · simpa using fun c key he => hes (key, c) he
    · exact trivial
    · simp [Keyword.name, KeyedSlot.name, Node.kindNames]
  dependents := by
    intro s es h hes
    apply h.candid_setChildren
    · simpa using fun c key he => hes (key, c) he
    · exact trivial
    · simp [Keyword.name, KeyedSlot.name, Node.kindNames]
  patterns := by
    intro s es t h hes ht
    obtain ⟨patterns, hpatterns, ht⟩ := Except.bind_eq_ok_iff.1 ht
    cases ht
    apply h.candid_setChildren
    · simpa using fun c key he => hes (key, c) he
    · intro e he
      obtain ⟨entry, _, hp⟩ := exists_of_forall₂ (Except.mapM_eq_ok_iff.1 hpatterns).flip
        (List.of_mem_zip he).1
      have hp := Loader.compile_eq_ok_iff.1 hp
      rw [Pattern.source_of_compile? hp, hp]
    · simp [Keyword.name, Node.kindNames]
  hooks := fun h f => h.modify root fun n _ hn => hn.congr (fun _ hsaid => hsaid) rfl
  optional := fun h => h.modify root fun n _ hn => hn.congr (fun _ hsaid => hsaid) rfl
  close := by
    intro s h _
    unfold Schema.close
    dsimp only
    split
    · exact h.candid_syncRequired
    · apply h.candid_syncRequired.candid_setSingle
      exact everywhere_ofNode (.ofKind (by simp [Kind.said?]))
  loosen := by
    intro s h _
    apply Everywhere.candid_syncRequired
    exact h.foldl_optional _ fun n hn => hn.congr (fun _ hsaid => hsaid) rfl
  tie := by
    intro s h token id n hn
    obtain ⟨old, hold, hkeywords, _, _, hcases⟩ := node?_tie_cases hn
    refine (h id old hold).congr (fun said hsaid => ?_) hkeywords
    rcases hcases with ⟨_, hsame⟩ | ⟨hhole, _, hany⟩ | ⟨_, _, hlink⟩
    · rwa [← hsame]
    · rw [hany] at hsaid
      rw [hhole]
      exact hsaid
    · rw [hlink] at hsaid
      cases hsaid

end Schema

end JsonSchema
