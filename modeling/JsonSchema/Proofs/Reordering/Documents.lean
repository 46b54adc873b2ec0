import JsonSchema.Proofs.Evaluation.Rules
import JsonSchema.Proofs.Reordering.Runs

/-!
# Nodes of reordered documents

Nodes that stand for documents with the same members in another order say the same in another order.
-/

namespace JsonSchema

open Loader Json

/-! ## Relations one after the other -/

theorem Corresponds.comp {S : α → γ → Prop} {S' : β → δ → Prop} {T : γ → δ → Prop}
    {R : α → β → Prop} (hR : ∀ a c d b, S a c → T c d → S' b d → R a b) {as : List α} {bs : List β}
    {cs : List γ} {ds : List δ} (hS : List.Forall₂ S as cs) (hT : Corresponds T cs ds)
    (hS' : List.Forall₂ S' bs ds) : Corresponds R as bs where
  left a ha := by
    obtain ⟨c, hc, hac⟩ := exists_of_forall₂ hS ha
    obtain ⟨d, hd, hcd⟩ := hT.left c hc
    obtain ⟨b, hb, hbd⟩ := exists_of_forall₂ hS'.flip hd
    exact ⟨b, hb, hR a c d b hac hcd hbd⟩
  right b hb := by
    obtain ⟨d, hd, hbd⟩ := exists_of_forall₂ hS' hb
    obtain ⟨c, hc, hcd⟩ := hT.right d hd
    obtain ⟨a, ha, hac⟩ := exists_of_forall₂ hS.flip hc
    exact ⟨a, ha, hR a c d b hac hcd hbd⟩

theorem rel_comp {S : α → γ → Prop} {S' : β → δ → Prop} {T : γ → δ → Prop} {R : α → β → Prop}
    (hR : ∀ a c d b, S a c → T c d → S' b d → R a b) {a? : Option α} {b? : Option β}
    {c? : Option γ} {d? : Option δ} (hS : Option.Rel S a? c?) (hT : Option.Rel T c? d?)
    (hS' : Option.Rel S' b? d?) : Option.Rel R a? b? := by
  cases hT with
  | none =>
    cases hS
    cases hS'
    exact .none
  | some hcd =>
    cases hS with
    | some hac => cases hS' with
      | some hbd => exact .some (hR _ _ _ _ hac hcd hbd)

theorem eq_of_rel {a? b? : Option α} (h : Option.Rel Eq a? b?) : a? = b? := by
  cases h with
  | none => rfl
  | some h => rw [h]

/-! ## Documents -/

/-- The documents differ in the order of members only. -/
abbrev Json.Permutes (d d' : Json) : Prop := d.Reordering (fun n n' => decide (n = n')) d'

namespace Json.Permutes

variable {d d' : Json}

theorem canonical_eq (h : d.Permutes d') : d.canonical = d'.canonical :=
  canonical_eq_of_reordering (fun _ _ hn => congrArg Number.normalize (of_decide_eq_true hn)) h

theorem eq_of_number {n : Number} (h : (Json.number n).Permutes d') : d' = .number n := by
  cases h.shape with
  | number hn => rw [of_decide_eq_true hn]

theorem eq_of_string {s : String} (h : (Json.string s).Permutes d') : d' = .string s := by
  cases h.shape
  rfl

theorem eq_of_bool {b : Bool} (h : (Json.bool b).Permutes d') : d' = .bool b := by
  cases h.shape
  rfl

theorem eq_of_strings {ts : List String} (h : (Json.strings ts).Permutes d') : d' = .strings ts := by
  unfold Json.strings at h ⊢
  cases h.shape with
  | array hitems =>
    rw [array.injEq, eq_map_iff_forall₂]
    exact (List.forall₂_map_left_iff.1 hitems).flip.imp fun _ _ hv => eq_of_string hv

theorem rel_get? {ms ms' : Members} (h : (Json.object ms).Permutes (.object ms')) (key : String) :
    Option.Rel Permutes (ms.get? key) (ms'.get? key) := by
  have hnodup := ((keysDistinct_object ms).1 h.distinct).1
  have hnodup' := ((keysDistinct_object ms').1 h.distinct').1
  by_cases hkey : key ∈ ms.keys
  · obtain ⟨m, hm, rfl⟩ := List.mem_map.1 hkey
    obtain ⟨m', hm', heq, hvalue⟩ := h.members.left m hm
    rw [Members.get?_eq_some_of_mem ms hnodup m hm, heq,
      Members.get?_eq_some_of_mem ms' hnodup' m' hm']
    exact .some hvalue
  · have hkey' : key ∉ ms'.keys := mt h.perm.mem_iff.2 hkey
    rw [Members.get?_eq_none_of_not_mem ms key hkey, Members.get?_eq_none_of_not_mem ms' key hkey']
    exact .none

theorem countOf?_eq (h : d.Permutes d') : countOf? d = countOf? d' := by
  cases h.shape with
  | number hn => rw [of_decide_eq_true hn]
  | _ => rfl

theorem kindOf_eq {ms ms' : Members} (h : (Json.object ms).Permutes (.object ms')) :
    kindOf ms = kindOf ms' := by
  have htype := h.rel_get? "type"
  unfold kindOf
  rw [Members.hasKey_eq_of_perm h.perm, Members.hasKey_eq_of_perm h.perm]
  generalize ms.get? "type" = d? at htype ⊢
  generalize ms'.get? "type" = d'? at htype ⊢
  cases htype with
  | none => rfl
  | some hd =>
    cases hd.shape with
    | null | bool | number | string | object => rfl
    | array hitems =>
      cases hitems with
      | nil => rfl
      | cons hitem hrest =>
        cases hrest with
        | nil => cases hitem.shape <;> rfl
        | cons => cases hitem.shape <;> rfl

end Json.Permutes

/-! ## Keywords -/

section Leaf

variable {path path' : Path} {name : String} {v v' : Json} {l l' : Leaf}

theorem Leaf.reordered_of_same_value (h : Says name v l) (h' : readLeaf path' name v = .ok l') :
    l.Reordered l' := by
  have hl : readLeaf path' name v = .ok l := readLeaf_eq_ok_iff.2 h
  rw [hl] at h'
  cases h'
  exact .refl l

theorem corresponds_dependents {entries entries' : List (String × List String)}
    (h : Corresponds (fun m m' => m.1 = m'.1 ∧ m.2.Permutes m'.2)
      (entries.map fun e => (e.1, Json.strings e.2)) (entries'.map fun e => (e.1, Json.strings e.2))) :
    Corresponds Eq entries entries' := by
  have heq : ∀ e e' : String × List String, e.1 = e'.1 →
      (Json.strings e.2).Permutes (.strings e'.2) → e = e' := by
    intro e e' hkey htexts
    have hmap := Json.array.inj htexts.eq_of_strings
    exact Prod.ext hkey (List.map_injective_iff.2 (fun _ _ => Json.string.inj) hmap).symm
  constructor
  · intro e he
    obtain ⟨_, hm', hkey, htexts⟩ := h.left _ (List.mem_map_of_mem he)
    obtain ⟨e', he', rfl⟩ := List.mem_map.1 hm'
    exact ⟨e', he', heq e e' hkey htexts⟩
  · intro e' he'
    obtain ⟨_, hm, hkey, htexts⟩ := h.right _ (List.mem_map_of_mem he')
    obtain ⟨e, he, rfl⟩ := List.mem_map.1 hm
    exact ⟨e, he, heq e e' hkey htexts⟩

theorem Leaf.reordered_of_readLeaf (h : readLeaf path name v = .ok l)
    (h' : readLeaf path' name v' = .ok l') (hv : v.Permutes v') : l.Reordered l' := by
  have hsays := readLeaf_eq_ok_iff.1 h
  cases hsays with
  -- Only constants, options, dependents and notes may hold objects; all other values stay as they
  -- are.
  | @types _ ts hts =>
    have heq : v' = v := by
      rcases hts with rfl | ⟨t, rfl, rfl⟩
      · exact hv.eq_of_strings
      · exact hv.eq_of_string
    exact reordered_of_same_value (.types hts) (heq ▸ h')
  | const =>
    cases h'
    exact .const hv.canonical_eq
  | default =>
    cases h'
    exact .default v v'
  | enum options =>
    cases hv.shape with
    | array hitems =>
      cases h'
      refine .enum ?_
      refine List.forall₂_eq_eq_eq ▸ List.forall₂_map_left_iff.2 (List.forall₂_map_right_iff.2 ?_)
      exact hitems.imp fun _ _ => Json.Permutes.canonical_eq
  | multipleOf n => exact reordered_of_same_value (.multipleOf n) (hv.eq_of_number ▸ h')
  | pattern hp => exact reordered_of_same_value (.pattern hp) (hv.eq_of_string ▸ h')
  | format text => exact reordered_of_same_value (.format text) (hv.eq_of_string ▸ h')
  | ref text => exact reordered_of_same_value (.ref text) (hv.eq_of_string ▸ h')
  | id text => exact reordered_of_same_value (.id text) (hv.eq_of_string ▸ h')
  | uniqueItems unique => exact reordered_of_same_value (.uniqueItems unique) (hv.eq_of_bool ▸ h')
  | required keys => exact reordered_of_same_value (.required keys) (hv.eq_of_strings ▸ h')
  | dependentRequired entries =>
    cases hv.shape with
    | object _ hms =>
      have hread : (readDependents path' (.object _)).map .dependentRequired = .ok l' := h'
      obtain ⟨entries', hentries', rfl⟩ := Except.map_eq_ok_iff.1 hread
      rw [readDependents_eq_ok_iff, object.injEq] at hentries'
      subst hentries'
      exact .dependentRequired (corresponds_dependents hms)
  | @count which _ limit hlimit =>
    rw [readLeaf_count] at h'
    obtain ⟨limit', hlimit', rfl⟩ := Except.map_eq_ok_iff.1 h'
    rw [readCount_eq_ok_iff, ← hv.countOf?_eq, hlimit] at hlimit'
    cases hlimit'
    exact .refl _
  | bound which n => exact reordered_of_same_value (.bound which n) (hv.eq_of_number ▸ h')
  | note hnote =>
    rw [hnote] at h'
    cases h'
    exact .note name v v'

end Leaf

section Reads

variable {P P' : NodeId → Json → Prop} {R : NodeId → NodeId → Prop}
  (hR : ∀ x d d' y, P x d → d.Permutes d' → P' y d' → R x y)
include hR

theorem Keyword.reordered_of_reads {k k' : Keyword} {m m' : String × Json} (hk : k.Reads P m)
    (hk' : k'.Reads P' m') (hkey : m.1 = m'.1) (hm : m.2.Permutes m'.2) : k.Reordered R k' := by
  have hentry : ∀ (e : String × NodeId) (m m' : String × Json) (e' : String × NodeId),
      (e.1 = m.1 ∧ P e.2 m.2) → (m.1 = m'.1 ∧ m.2.Permutes m'.2) → (e'.1 = m'.1 ∧ P' e'.2 m'.2) →
        e.1 = e'.1 ∧ R e.2 e'.2 := by
    rintro e m m' e' ⟨hkey, he⟩ ⟨hkeys, hm⟩ ⟨hkey', he'⟩
    exact ⟨hkey.trans (hkeys.trans hkey'.symm), hR _ _ _ _ he hm he'⟩
  obtain ⟨name, v⟩ := m
  obtain ⟨name', v'⟩ := m'
  obtain rfl : name = name' := hkey
  cases hk.both hk' with
  | leaf read read' => exact .leaf (Leaf.reordered_of_readLeaf read read' hm)
  | single held held' => exact .single (hR _ _ _ _ held hm held')
  | listed held held' => exact .listed (forall₂_comp hR held hm.items held')
  | keyed held held' =>
    refine .keyed (.comp hentry held hm.members held') fun key => ?_
    exact rel_comp hR (rel_lookup held key) (hm.rel_get? key) (rel_lookup held' key)
  | patterns held held' =>
    refine .patterns (.comp ?_ held hm.members held')
    rintro e m m' e' ⟨hcompile, he⟩ ⟨hkeys, hm⟩ ⟨hcompile', he'⟩
    rw [hkeys, hcompile', Option.some.injEq] at hcompile
    exact ⟨hcompile.symm, hR _ _ _ _ he hm he'⟩

/-! ## Nodes -/

namespace Node

variable {ms ms' : Members} {n n' : Node} (hn : List.Forall₂ (Keyword.Reads P) ms n.keywords)
  (hn' : List.Forall₂ (Keyword.Reads P') ms' n'.keywords) (h : (Json.object ms).Permutes (.object ms'))

omit hR
include hn hn' h

theorem reference?_eq_of_reads : n.reference? = n'.reference? := by
  refine eq_of_rel (rel_comp ?_ (rel_reference? hn) (h.rel_get? _) (rel_reference? hn'))
  rintro reference d d' reference' rfl hd rfl
  exact (Json.string.inj hd.eq_of_string).symm

theorem id?_eq_of_reads : n.id? = n'.id? := by
  refine eq_of_rel (rel_comp ?_ (rel_id? hn) (h.rel_get? _) (rel_id? hn'))
  rintro id d d' id' rfl hd rfl
  exact (Json.string.inj hd.eq_of_string).symm

theorem count?_eq_of_reads (which : Count) : n.count? which = n'.count? which := by
  refine eq_of_rel (rel_comp ?_ (rel_count? hn which) (h.rel_get? _) (rel_count? hn' which))
  rintro limit d d' limit' hlimit hd hlimit'
  rw [hd.countOf?_eq, hlimit'] at hlimit
  exact (Option.some.inj hlimit).symm

theorem length_prefixItems_of_reads : n.prefixItems.length = n'.prefixItems.length := by
  have hrel := rel_comp (R := fun ids ids' => ids.length = ids'.length) ?_ (rel_prefixItems hn)
    (h.rel_get? _) (rel_prefixItems hn')
  · unfold prefixItems
    generalize n.find? _ = ids? at hrel ⊢
    generalize n'.find? _ = ids'? at hrel ⊢
    cases hrel with
    | none => rfl
    | some hlength => exact hlength
  · rintro ids d d' ids' ⟨ds, rfl, hids⟩ hd ⟨ds', rfl, hids'⟩
    rw [hids.length_eq, hids'.length_eq]
    exact hd.items.length_eq

theorem any_properties_of_reads (key : String) :
    n.properties.any (·.1 == key) = n'.properties.any (·.1 == key) := by
  have hrel := rel_comp (R := Corresponds fun (e e' : String × NodeId) => e.1 = e'.1) ?_
    (rel_properties hn) (h.rel_get? _) (rel_properties hn')
  · unfold properties
    generalize n.find? _ = es? at hrel ⊢
    generalize n'.find? _ = es'? at hrel ⊢
    cases hrel with
    | none => rfl
    | some hes => exact hes.any_eq fun e e' he => by rw [he]
  · rintro es d d' es' ⟨ds, rfl, hes⟩ hd ⟨ds', rfl, hes'⟩
    refine .comp ?_ hes hd.members hes'
    rintro e m m' e' ⟨he, _⟩ ⟨hm, _⟩ ⟨he', _⟩
    exact he.trans (hm.trans he'.symm)

theorem any_patterns_of_reads (key : String) :
    n.patterns.any (·.occursIn key) = n'.patterns.any (·.occursIn key) := by
  have hrel := rel_comp (R := Corresponds (α := Pattern) Eq) ?_ (rel_patterns hn) (h.rel_get? _)
    (rel_patterns hn')
  · unfold patterns
    generalize n.find? _ = ps? at hrel ⊢
    generalize n'.find? _ = ps'? at hrel ⊢
    cases hrel with
    | none => rfl
    | some hps => exact hps.any_eq fun p p' hp => by rw [hp]
  · rintro ps d d' ps' ⟨ds, rfl, hps⟩ hd ⟨ds', rfl, hps'⟩
    refine .comp ?_ hps hd.members hps'
    rintro p m m' p' hp ⟨hm, _⟩ hp'
    rw [hm, hp'] at hp
    exact (Option.some.inj hp).symm

theorem isExtra_of_reads (key : String) : n.isExtra key = n'.isExtra key := by
  rw [isExtra, isExtra, any_properties_of_reads hn hn' h, any_patterns_of_reads hn hn' h]

include hR in
theorem reordered_of_keywords (kind : n.kind = n'.kind) (hooks : n.hooks = {}) (hooks' : n'.hooks = {}) :
    n.Reordered R n' where
  kind := kind
  hook := by rw [hooks]
  hook' := by rw [hooks']
  keywords := by
    refine .comp ?_ hn.flip h.members hn'.flip
    rintro k m m' k' hk ⟨hkey, hm⟩ hk'
    exact Keyword.reordered_of_reads hR hk hk' hkey hm
  single slot := rel_comp hR (rel_single? hn slot) (h.rel_get? _) (rel_single? hn' slot)
  count := count?_eq_of_reads hn hn' h
  prefixLength := length_prefixItems_of_reads hn hn' h
  extra := isExtra_of_reads hn hn' h
  reference := reference?_eq_of_reads hn hn' h
  id := id?_eq_of_reads hn hn' h

end Node

theorem Node.reordered_of_reads {n n' : Node} {d d' : Json} (hn : n.Reads P d) (hn' : n'.Reads P' d')
    (h : d.Permutes d') : n.Reordered R n' := by
  cases hn with
  | constant kind keywords hooks =>
    obtain rfl := h.eq_of_bool
    cases hn' with
    | constant kind' keywords' hooks' =>
      have hnone : (Json.object []).Permutes (.object []) := ⟨rfl, rfl, rfl⟩
      have hks : List.Forall₂ (Keyword.Reads P) [] n.keywords := keywords ▸ .nil
      have hks' : List.Forall₂ (Keyword.Reads P') [] n'.keywords := keywords' ▸ .nil
      exact reordered_of_keywords hR hks hks' hnone (kind.trans kind'.symm) hooks hooks'
  | object kind keywords hooks =>
    cases h.shape with
    | object =>
      cases hn' with
      | object kind' keywords' hooks' =>
        rw [h.kindOf_eq, kind'] at kind
        exact reordered_of_keywords hR keywords keywords' h (Except.ok.inj kind).symm hooks hooks'

end Reads

/-! ## Schemas -/

namespace Schema

/-- What the places stand for differs in the order of members only. -/
def Matching (docs docs' : List Json) (x y : NodeId) : Prop :=
  ∃ d d', docs[x]? = some d ∧ docs'[y]? = some d' ∧ d.Permutes d'

theorem Labels.reordered {s s' : Schema} {docs docs' : List Json} (h : s.Labels docs)
    (h' : s'.Labels docs') : s.Reordered (Matching docs docs') s' where
  nodes := by
    rintro x y ⟨d, d', hd, hd', hperm⟩
    obtain ⟨n, hn, hreads⟩ := h.exists_reads hd
    obtain ⟨n', hn', hreads'⟩ := h'.exists_reads hd'
    rw [hn, hn']
    refine .some (Node.reordered_of_reads ?_ hreads hreads' hperm)
    rintro a e e' b ⟨hbelow, he⟩ hee' ⟨hbelow', he'⟩
    exact ⟨⟨e, e', he, he', hee'⟩, iff_of_true hbelow hbelow'⟩
  link := by
    rintro x y target ⟨d, d', hd, _⟩ hlink
    obtain ⟨n, hn, hreads⟩ := h.exists_reads hd
    rw [kind?, hn, Option.map_some, Option.some.injEq] at hlink
    cases hreads with
    | constant kind =>
      rw [kind] at hlink
      cases hlink
    | object kind => exact absurd hlink ((ne_of_kindOf kind).2.1 target)

end Schema

end JsonSchema
