import JsonSchema.Proofs.Evaluation.Verdict
import JsonSchema.Proofs.Reloading.References
import JsonSchema.Proofs.Reordering.Documents

/-!
# References in reordered documents

The index of a schema lists the same pointers and names after reordering, in another order. As long as no
name is declared twice, a reference leads to the same part of the document.
-/

namespace JsonSchema

open Loader

/-! ## Children in another order -/

theorem corresponds_flatMap {P : α → β → Prop} {Q : γ → δ → Prop} {f : α → List γ} {g : β → List δ}
    (hfg : ∀ a b, P a b → Corresponds Q (f a) (g b)) {as : List α} {bs : List β}
    (h : Corresponds P as bs) : Corresponds Q (as.flatMap f) (bs.flatMap g) where
  left c hc := by
    obtain ⟨a, ha, hc⟩ := List.mem_flatMap.1 hc
    obtain ⟨b, hb, hab⟩ := h.left a ha
    obtain ⟨d, hd, hcd⟩ := (hfg a b hab).left c hc
    exact ⟨d, List.mem_flatMap.2 ⟨b, hb, hd⟩, hcd⟩
  right d hd := by
    obtain ⟨b, hb, hd⟩ := List.mem_flatMap.1 hd
    obtain ⟨a, ha, hab⟩ := h.right b hb
    obtain ⟨c, hc, hcd⟩ := (hfg a b hab).right d hd
    exact ⟨c, List.mem_flatMap.2 ⟨a, ha, hc⟩, hcd⟩

theorem Keyword.Reordered.children {R : NodeId → NodeId → Prop} {k k' : Keyword}
    (h : k.Reordered R k') :
    Corresponds (fun e e' => e.1 = e'.1 ∧ R e.2 e'.2) k.children k'.children := by
  unfold Keyword.children
  cases h with
  | leaf hl => exact corresponds_of_forall₂ .nil
  | single hxy => exact corresponds_of_forall₂ (.cons ⟨rfl, hxy⟩ .nil)
  | listed hxs => exact corresponds_of_forall₂ (forall₂_positioned hxs _ 0)
  | keyed hes | patterns hes =>
    refine hes.map ?_
    rintro e e' ⟨hkey, hR⟩
    exact ⟨by rw [hkey]; rfl, hR⟩

theorem Node.Reordered.children {R : NodeId → NodeId → Prop} {n n' : Node} (h : n.Reordered R n') :
    Corresponds (fun e e' => e.1 = e'.1 ∧ R e.2 e'.2) n.children n'.children :=
  corresponds_flatMap (fun _ _ hk => hk.children) h.keywords

namespace Schema

/-- To related nodes the same ways lead. -/
theorem Reordered.entriesFrom {R : NodeId → NodeId → Prop} {s s' : Schema} (h : s.Reordered R s')
    {x y : NodeId} (hxy : R x y) (path : Path) :
    Corresponds (fun e e' => e.1 = e'.1 ∧ R e.2 e'.2) (s.entriesFrom path x)
      (s'.entriesFrom path y) := by
  induction hsize : s.size - x using Nat.strongRecOn generalizing x y path with
  | ind size ih
  subst hsize
  have hchildren : Corresponds (fun e e' => e.1 = e'.1 ∧ R e.2 e'.2 ∧ (s.Below x e.2 ↔ s'.Below y e'.2))
      (s.children x) (s'.children y) := by
    unfold children
    rcases h.nodes_cases hxy with ⟨hx, hy⟩ | ⟨n, n', hx, hy, hn⟩
    · rw [hx, hy]
      exact corresponds_of_forall₂ .nil
    · rw [hx, hy]
      exact hn.children
  have hbelow := corresponds_flatMap (Q := fun e e' => e.1 = e'.1 ∧ R e.2 e'.2)
    (f := fun e => if _ : s.Below x e.2 then s.entriesFrom (path ++ e.1) e.2 else [])
    (g := fun e => if _ : s'.Below y e.2 then s'.entriesFrom (path ++ e.1) e.2 else []) ?_ hchildren
  · rw [Schema.entriesFrom, Schema.entriesFrom]
    constructor
    · intro e he
      rcases List.mem_cons.1 he with rfl | he
      · exact ⟨_, List.mem_cons_self, rfl, hxy⟩
      · obtain ⟨e', he', hee'⟩ := hbelow.left e he
        exact ⟨e', List.mem_cons_of_mem _ he', hee'⟩
    · intro e' he'
      rcases List.mem_cons.1 he' with rfl | he'
      · exact ⟨_, List.mem_cons_self, rfl, hxy⟩
      · obtain ⟨e, he, hee'⟩ := hbelow.right e' he'
        exact ⟨e, List.mem_cons_of_mem _ he, hee'⟩
  · rintro e e' ⟨hpath, hR, hiff⟩
    by_cases hbelow : s.Below x e.2
    · rw [dif_pos hbelow, dif_pos (hiff.1 hbelow), hpath]
      exact ih _ hbelow.size_sub_lt hR _ rfl
    · rw [dif_neg hbelow, dif_neg (mt hiff.2 hbelow)]
      exact corresponds_of_forall₂ .nil

theorem Reordered.declared_eq {R : NodeId → NodeId → Prop} {s s' : Schema} (h : s.Reordered R s')
    {x y : NodeId} (hxy : R x y) : (s.node? x).bind (·.id?) = (s'.node? y).bind (·.id?) := by
  rcases h.nodes_cases hxy with ⟨hx, hy⟩ | ⟨n, n', hx, hy, hn⟩
  · rw [hx, hy]
  · rw [hx, hy]
    exact hn.id

end Schema

/-- No two nodes declare the same name. -/
def Index.Unambiguous (ix : Index) : Prop := (ix.declared.map (·.1)).Nodup

instance (ix : Index) : Decidable ix.Unambiguous := inferInstanceAs (Decidable (List.Nodup _))

namespace Schema

/-! ## Reordered documents -/

/-- Two schemas that were loaded from documents which differ in the order of members only. -/
structure Rearranged (s s' : Schema) (docs docs' : List Json) : Prop where
  orderly : s.Orderly
  orderly' : s'.Orderly
  labels : s.Labels docs
  labels' : s'.Labels docs'
  root : Matching docs docs' root root

theorem exists_rearranged {d d' : Json} (h : d.Permutes d') {s s' : Schema} (hs : ofJson d = .ok s)
    (hs' : ofJson d' = .ok s') : ∃ docs docs', s.Rearranged s' docs docs' := by
  obtain ⟨docs, hlabels, hd⟩ := loads_of_load d [] s h.distinct hs
  obtain ⟨docs', hlabels', hd'⟩ := loads_of_load d' [] s' h.distinct' hs'
  exact ⟨docs, docs', (marked_ofJson hs).orderly, (marked_ofJson hs').orderly, hlabels, hlabels', d, d',
    hd, hd', h⟩

namespace Rearranged

variable {s s' : Schema} {docs docs' : List Json} (h : s.Rearranged s' docs docs')

/-- Nodes for reordered documents to which the same path leads. -/
def Paired (s s' : Schema) (docs docs' : List Json) (x y : NodeId) : Prop :=
  Matching docs docs' x y ∧
    ∃ p, (p, x) ∈ s.entriesFrom [] Schema.root ∧ (p, y) ∈ s'.entriesFrom [] Schema.root

include h

theorem reordered : s.Reordered (Matching docs docs') s' := h.labels.reordered h.labels'

theorem entries : Corresponds (fun e e' => e.1 = e'.1 ∧ Paired s s' docs docs' e.2 e'.2)
    (s.entriesFrom [] Schema.root) (s'.entriesFrom [] Schema.root) := by
  refine (h.reordered.entriesFrom h.root []).and_mem.imp ?_
  rintro e e' ⟨⟨hpath, hxy⟩, he, he'⟩
  exact ⟨hpath, hxy, e.1, he, hpath ▸ he'⟩

theorem declared : Corresponds (fun e e' => e.1 = e'.1 ∧ Paired s s' docs docs' e.2 e'.2)
    (Index.ofSchema s).declared (Index.ofSchema s').declared := by
  unfold Index.ofSchema
  refine h.entries.filterMap ?_
  rintro e e' ⟨_, hxy⟩
  rw [h.reordered.declared_eq hxy.1]
  cases (s'.node? e'.2).bind (·.id?) with
  | none => exact .none
  | some name => exact .some ⟨rfl, hxy⟩

theorem pointer?_eq {x y : NodeId} (hxy : Paired s s' docs docs' x y) :
    (Index.ofSchema s).pointer? x = (Index.ofSchema s').pointer? y := by
  obtain ⟨_, p, hp, hp'⟩ := hxy
  rw [pointer?_of_mem_entries h.orderly hp, pointer?_of_mem_entries h.orderly' hp']

variable (hunambiguous : (Index.ofSchema s).Unambiguous)
include hunambiguous

theorem rel_declared? (name : String) :
    Option.Rel (Paired s s' docs docs') ((Index.ofSchema s).declared? name)
      ((Index.ofSchema s').declared? name) := by
  cases hy : (Index.ofSchema s').declared? name with
  | none =>
    cases hx : (Index.ofSchema s).declared? name with
    | none => exact .none
    | some x =>
      obtain ⟨⟨_, y⟩, hdeclared, rfl, _⟩ := h.declared.left _ (mem_of_lookup hx)
      have hne := List.lookup_eq_none_iff.1 hy _ hdeclared
      simp at hne
  | some y =>
    obtain ⟨⟨_, x⟩, hdeclared, rfl, hxy⟩ := h.declared.right _ (mem_of_lookup hy)
    rw [Index.declared?, lookup_eq_some_of_mem hunambiguous hdeclared]
    exact .some hxy

theorem start?_eq (base : String) :
    (Index.ofSchema s).start? base = (Index.ofSchema s').start? base := by
  unfold Index.start?
  split
  · rfl
  · have hdeclared := h.rel_declared? hunambiguous base
    generalize (Index.ofSchema s).declared? base = x? at hdeclared ⊢
    generalize (Index.ofSchema s').declared? base = y? at hdeclared ⊢
    cases hdeclared with
    | none => rfl
    | some hxy => exact h.pointer?_eq hxy

omit hunambiguous

omit h in
theorem exists_mem_of_at? {s : Schema} {pointer : String} {x : NodeId}
    (hx : (Index.ofSchema s).at? pointer = some x) :
    ∃ p, (p, x) ∈ s.entriesFrom [] Schema.root ∧ "#" ++ Pointer.render p = pointer := by
  obtain ⟨⟨p, _⟩, hp, heq⟩ := List.mem_map.1 (List.mem_reverse.1 (mem_of_lookup hx))
  cases heq
  exact ⟨p, hp, rfl⟩

theorem matching_of_at? {pointer : String} {x y : NodeId}
    (hx : (Index.ofSchema s).at? pointer = some x) (hy : (Index.ofSchema s').at? pointer = some y) :
    Matching docs docs' x y := by
  obtain ⟨p, hp, rfl⟩ := exists_mem_of_at? hx
  obtain ⟨p', hp', hrender⟩ := exists_mem_of_at? hy
  have hreread : p'.map Segment.reread = p.map Segment.reread := by
    have hparse := Pointer.parse_hash_render p'
    rw [hrender, Pointer.parse_hash_render, Except.ok.injEq] at hparse
    exact hparse.symm
  obtain ⟨⟨_, y'⟩, hy', rfl, ⟨e, e', he, he', hperm⟩, _⟩ := h.entries.left _ hp
  obtain ⟨_, d', _, hd', hroot⟩ := h.root
  obtain ⟨there, hget, hthere⟩ := h.labels'.get?_of_mem_entriesFrom hroot.distinct' hd' rfl hp'
  obtain ⟨there', hget', hthere'⟩ := h.labels'.get?_of_mem_entriesFrom hroot.distinct' hd' rfl hy'
  rw [← Json.get?_reread, hreread, Json.get?_reread, hget'] at hget
  cases hget
  rw [hthere'] at he'
  cases he'
  exact ⟨e, _, he, hthere, hperm⟩

include hunambiguous in
theorem consistent_resolve (reference : String) :
    Consistent (Matching docs docs') ((Index.ofSchema s).resolve reference)
      ((Index.ofSchema s').resolve reference) := by
  have hdeclared := h.rel_declared? hunambiguous reference
  unfold Index.resolve
  generalize (Index.ofSchema s).declared? reference = x? at hdeclared ⊢
  generalize (Index.ofSchema s').declared? reference = y? at hdeclared ⊢
  cases hdeclared with
  | some hxy => exact .ok hxy.1
  | none =>
    dsimp only
    split
    · exact .error_left _ _
    · next path _ =>
      split
      · exact .error_left _ _
      · rw [h.start?_eq hunambiguous]
        cases (Index.ofSchema s').start? (Index.splitHash reference).1 with
        | none => exact .error_left _ _
        | some start =>
          rw [Option.bind_some, Option.bind_some]
          cases hx : (Index.ofSchema s).at? (start ++ Pointer.render path) with
          | none => exact .error_left _ _
          | some x =>
            cases hy : (Index.ofSchema s').at? (start ++ Pointer.render path) with
            | none => exact .error_right _ _
            | some y => exact .ok (h.matching_of_at? hx hy)

end Rearranged

/-! ## Verdicts -/

/-- The order of members in a document has no part in a verdict. -/
theorem validate_reordered (d d' : Json) (h : d.Permutes d') (s s' : Schema) (hs : ofJson d = .ok s)
    (hs' : ofJson d' = .ok s') (hnames : (Index.ofSchema s).Unambiguous) (shared : FormatRegistry)
    (v : Json) (options : ValidateOptions) (hcoerce : options.coerce = false) (r r' : Verdict)
    (hr : s.validate shared v options = .ok r) (hr' : s'.validate shared v options = .ok r') :
    r.valid = r'.valid := by
  obtain ⟨docs, docs', harranged⟩ := exists_rearranged h hs hs'
  have hcontext : Context.Reordered (Matching docs docs') (s.context shared options)
      (s'.context shared options) :=
    ⟨harranged.reordered, rfl, rfl, harranged.consistent_resolve hnames⟩
  exact valid_eq_of_reordered hcoerce hcontext Json.resemblance_eq harranged.root rfl hr hr'

/-- Lists with at least two integers. -/
def counted : Json :=
  .object [("$id", .string "counted"), ("contains", .object [("type", .string "integer")]),
    ("minContains", .number (.int 2 (by decide)))]

/-- The same document, read from its end. -/
def countedAgain : Json :=
  .object [("minContains", .number (.int 2 (by decide))), ("contains", .object [("type", .string "integer")]),
    ("$id", .string "counted")]

theorem selfContained_counted : counted.SelfContained ∧ countedAgain.SelfContained := by
  have hinteger : Json.SelfContained (.object [("type", .string "integer")]) := by
    refine .object _ (by simp [PositiveDivisor]) ?_
    intro m hm e he
    cases List.mem_singleton.1 hm
    cases he
  constructor <;>
  · refine .object _ (by simp [PositiveDivisor]) ?_
    intro m hm e he
    simp only [List.mem_cons, List.not_mem_nil, or_false] at hm
    rcases hm with rfl | rfl | rfl <;> cases he <;> first | exact hinteger | contradiction

theorem validate_reordered_counted :
    let v : Json := .array [.number (.int 2 (by decide)), .null]
    counted.Permutes countedAgain ∧ ∃ s s', ofJson counted = .ok s ∧ ofJson countedAgain = .ok s' ∧
      (Index.ofSchema s).Unambiguous ∧ ∃ r r', s.validate .empty v = .ok r ∧
        s'.validate .empty v = .ok r' ∧ r.valid = r'.valid := by
  intro v
  have hpermutes : counted.Permutes countedAgain := ⟨by decide, by decide, by decide⟩
  obtain ⟨s, hs, hnames⟩ : ∃ s, ofJson counted = .ok s ∧ (Index.ofSchema s).Unambiguous :=
    ⟨_, rfl, by decide +kernel⟩
  have hs' : ofJson countedAgain = .ok _ := rfl
  obtain ⟨_, hr, _⟩ := answers_validate .empty counted _ (by decide) selfContained_counted.1 hs v
  obtain ⟨_, hr', _⟩ := answers_validate .empty countedAgain _ (by decide) selfContained_counted.2 hs' v
  exact ⟨hpermutes, _, _, hs, hs', hnames, _, _, hr, hr',
    validate_reordered counted countedAgain hpermutes _ _ hs hs' hnames .empty v {} rfl _ _ hr hr'⟩

end Schema

end JsonSchema
