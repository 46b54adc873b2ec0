import JsonSchema.Proofs.Parsing.Completion

/-!
# What schemas offer

Filling in keeps the keys of objects distinct, since what a loaded schema offers stands in its document.
-/

namespace JsonSchema

/-! ## Distinct keys -/

theorem Json.keysDistinct_of_isEmpty {v : Json} (h : v.IsEmpty) : v.keysDistinct = true := by
  cases v with
  | object ms =>
    obtain rfl : ms = [] := h
    rfl
  | array items =>
    obtain rfl : items = [] := h
    rfl
  | _ => rfl

namespace Schema

section Distinct

variable {s : Schema} {options : TemplateOptions} {id? : Option NodeId}
  (hid : ∀ id ∈ id?, s.Fillable id)
include hid

theorem keysDistinct_offerAt? {v : Json} (h : s.offerAt? options id? = some v) :
    v.keysDistinct = true := by
  cases id? with
  | none => cases h
  | some id =>
    obtain @⟨_, n, node, _, _, _, _, _, distinct, _, _⟩ := hid id rfl
    simp only [offerAt?, Option.bind_some, node] at h
    exact distinct options v h

theorem offerAt?_of_constAt? (options : TemplateOptions) {v : Json} (h : s.constAt? id? = some v) :
    s.offerAt? options id? = some v := by
  cases id? with
  | none => cases h
  | some id =>
    obtain @⟨_, n, node, _, _, _, _, _, _, _, _⟩ := hid id rfl
    simp only [constAt?, Option.bind_some, node] at h
    simp only [offerAt?, Option.bind_some, node, Node.chosen?, h, Option.some_or]

theorem keysDistinct_extended (hchildren : ∀ e ∈ s.fieldsAt id?, ∀ given w,
      (∀ v ∈ given, v.keysDistinct = true) → s.complete options true (some e.2) given = some w →
      w.keysDistinct = true) {v : Json} (hv : v.keysDistinct = true) :
    (s.extended options id? v).keysDistinct = true := by
  cases v with
  | object base =>
    obtain ⟨hnodup, hvalues⟩ := (Json.keysDistinct_object base).1 hv
    have hkeys : (s.completeMembers options id? base).keys.Nodup := Template.nodup_keys_foldl_put hnodup
    have hbase : ∀ key, ∀ v ∈ Members.get? base key, v.keysDistinct = true := fun key v hv =>
      hvalues _ (Members.mem_of_get?_eq_some base key v hv)
    refine (Json.keysDistinct_object _).2 ⟨hkeys, fun m hm => ?_⟩
    have hget := Members.get?_eq_some_of_mem _ hkeys m hm
    rw [get?_completeMembers hid options] at hget
    cases hlookup : (s.fieldsAt id?).lookup m.1 with
    | none =>
      rw [hlookup] at hget
      exact hbase m.1 _ hget
    | some child =>
      rw [hlookup] at hget
      exact hchildren _ (mem_of_lookup hlookup) _ _ (hbase m.1) hget
  | _ => exact hv

end Distinct

theorem keysDistinct_complete {s : Schema} {options : TemplateOptions}
    (hwanted : options.withOptional = true) {id? : Option NodeId} (hid : ∀ id ∈ id?, s.Fillable id)
    {nested : Bool} {given : Option Json} (hgiven : ∀ v ∈ given, v.keysDistinct = true) {w : Json}
    (h : s.complete options nested id? given = some w) : w.keysDistinct = true := by
  refine fillable_induction (motive := fun id? => ∀ nested given w, (∀ v ∈ given, v.keysDistinct = true) →
    s.complete options nested id? given = some w → w.keysDistinct = true) ?_ hid nested given w hgiven h
  intro id? hid ih nested given w hgiven h
  have hextended : ∀ {v}, v.keysDistinct = true → (s.extended options id? v).keysDistinct = true :=
    keysDistinct_extended hid fun e he => ih e he true
  cases hconst : s.constAt? id? with
  | some v =>
    rcases complete_of_const hid hconst nested with hfixed | hkept
    · rw [hfixed] at h
      cases h
      exact hextended (keysDistinct_offerAt? hid (offerAt?_of_constAt? hid options hconst))
    · rw [hkept] at h
      exact hgiven w h
  | none =>
    cases given with
    | some v =>
      rw [complete_of_given hid (.inl hconst)] at h
      cases h
      exact hextended (hgiven v rfl)
    | none =>
      obtain ⟨start, rfl, hstart⟩ := complete_of_none hwanted hid hconst h
      refine hextended ?_
      rcases hstart with hoffer | ⟨_, hempty⟩
      · exact keysDistinct_offerAt? hid hoffer
      · exact Json.keysDistinct_of_isEmpty hempty

end Schema

/-! ## Loaded schemas -/

open Loader

namespace Node

variable {n : Node} {v : Json}

theorem mem_keywords_of_find? {α : Type} {pick : Keyword → Option α} (make : α → Keyword)
    (hpick : ∀ k a, pick k = some a → k = make a) {a : α} (h : n.find? pick = some a) :
    make a ∈ n.keywords := by
  obtain ⟨k, hk, hpicked⟩ := List.exists_of_findSome?_eq_some h
  exact hpick k a hpicked ▸ hk

theorem mem_keywords_of_const? (h : n.const? = some v) : .leaf (.const v) ∈ n.keywords := by
  refine mem_keywords_of_find? (fun v => .leaf (.const v)) (fun k a hpicked => ?_) h
  split at hpicked <;> cases hpicked
  rfl

theorem mem_keywords_of_default? (h : n.default? = some v) : .leaf (.default v) ∈ n.keywords := by
  refine mem_keywords_of_find? (fun v => .leaf (.default v)) (fun k a hpicked => ?_) h
  split at hpicked <;> cases hpicked
  rfl

theorem mem_keywords_of_enum? {options : List Json} (h : n.enum? = some options) :
    .leaf (.enum options) ∈ n.keywords := by
  refine mem_keywords_of_find? (fun options => .leaf (.enum options)) (fun k a hpicked => ?_) h
  split at hpicked <;> cases hpicked
  rfl

theorem keysDistinct_of_chosen? {R : NodeId → Json → Prop} {ms : Members}
    (h : List.Forall₂ (Keyword.Reads R) ms n.keywords) (hms : (Json.object ms).keysDistinct = true)
    {options : TemplateOptions} (hv : n.chosen? options none = some v) : v.keysDistinct = true := by
  have hsays : ∀ l : Leaf, .leaf l ∈ n.keywords → ∃ name d, Says name d l ∧ d.keysDistinct = true := by
    intro l hl
    obtain ⟨m, hm, hreads⟩ := exists_of_forall₂ h.flip hl
    cases hreads with
    | leaf role read =>
      exact ⟨_, _, readLeaf_eq_ok_iff.1 read, ((Json.keysDistinct_object ms).1 hms).2 _ hm⟩
  simp only [chosen?, Option.none_or] at hv
  rcases Option.or_eq_some_iff.1 hv with hconst | ⟨_, hv⟩
  · obtain ⟨_, _, hleaf, hd⟩ := hsays _ (mem_keywords_of_const? hconst)
    cases hleaf
    exact hd
  · rcases Option.or_eq_some_iff.1 hv with hdefault | ⟨_, hfirst⟩
    · obtain ⟨_, _, hleaf, hd⟩ := hsays _ (mem_keywords_of_default? hdefault)
      cases hleaf
      exact hd
    · split at hfirst
      · obtain ⟨choices, henum, hhead⟩ := Option.bind_eq_some_iff.1 hfirst
        obtain ⟨_, _, hleaf, hd⟩ := hsays _ (mem_keywords_of_enum? henum)
        cases hleaf
        exact (Json.keysDistinct_array choices).1 hd v (List.mem_of_mem_head? hhead)
      · cases hfirst

end Node

/-- The nodes of a loaded schema are filled in by what its document says. -/
theorem Schema.fillable_of_labels {s : Schema} {docs : List Json} (hlabels : s.Labels docs)
    (id : NodeId) : ∀ here, docs[id]? = some here → here.keysDistinct = true → s.Fillable id := by
  induction hsize : s.size - id using Nat.strongRecOn generalizing id with | ind size ih
  subst hsize
  intro here hhere hkeys
  obtain ⟨n, hn, hreads⟩ := hlabels.exists_reads hhere
  cases hreads with
  | constant kind keywords hooks =>
    have hproperties : n.properties = [] := by simp [Node.properties, Node.find?, keywords]
    refine .intro hn hooks (by simp [kind]) (by simp [kind]) (fun _ _ => keywords) ?_ ?_ ?_ ?_
    · simp [Node.declaredKeys, hproperties]
    · intro options v hv
      simp [Node.chosen?, Node.const?, Node.default?, Node.enum?, Node.find?, keywords] at hv
    · rw [hproperties]
      exact List.forall_mem_nil _
    · rw [hproperties]
      exact List.forall_mem_nil _
  | @object ms n kind keywords hooks =>
    obtain ⟨hconstant, hlink, hhole⟩ := ne_of_kindOf kind
    have hvalues := ((Json.keysDistinct_object ms).1 hkeys).2
    have hreads : List.Forall₂ (Keyword.Reads fun child e => s.Held docs id child e ∧
        e.keysDistinct = true) ms n.keywords := by
      refine Keyword.forall₂_reads_and keywords fun m hm e he => ?_
      exact keysDistinct_of_mem_parts (hvalues m hm) he
    obtain ⟨hnodup, hheld⟩ := Node.held_of_properties hreads hkeys
    refine .intro hn hooks hlink hhole (fun accepts h => absurd h (hconstant accepts)) hnodup ?_ ?_ ?_
    · exact fun options v hv => Node.keysDistinct_of_chosen? keywords hkeys hv
    · intro e he
      obtain ⟨_, hbelow, _⟩ := hheld e he
      exact hbelow.1
    · intro e he
      obtain ⟨there, ⟨hbelow, hthere⟩, hdistinct⟩ := hheld e he
      exact ih _ hbelow.size_sub_lt e.2 rfl there hthere hdistinct

theorem Schema.fillable_root {s : Schema} {docs : List Json} {d : Json} (hd : d.keysDistinct = true)
    (hlabels : s.Labels docs) (hroot : docs[root]? = some d) : ∀ id ∈ some root, s.Fillable id := by
  rintro _ ⟨⟩
  exact fillable_of_labels hlabels root d hroot hd

end JsonSchema
