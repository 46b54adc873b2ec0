import JsonSchema.Proofs.Building.Confinement
import JsonSchema.Proofs.Indexing.Entries

/-!
# Walks and the index

A walk goes to every node by the keywords by which the index lists it, and one step further into the
value with each node that it enters.
-/

namespace JsonSchema

/-! ## The nodes of a walk -/

namespace Walk

variable {w : Walk} {p q : Pending}

/-- A node that is entered leads on to a child for what is there of the value. -/
theorem exists_child_of_mem_expand (h : q ∈ w.expand p) :
    ∃ c ∈ w.schema.childrenFor p.node (w.dataAt? p.instancePath), w.schema.Below p.node c.node ∧
      q = ⟨c.node, p.instancePath ++ [c.instanceStep], p.keywordPath ++ c.keywordPath⟩ := by
  unfold expand at h
  split at h
  · obtain ⟨c, hc, rfl⟩ := List.mem_map.1 h
    obtain ⟨hchild, hbelow⟩ := List.mem_filter.1 hc
    exact ⟨c, hchild, of_decide_eq_true hbelow, rfl⟩
  · cases h

theorem leads_of_mem_expand (h : q ∈ w.expand p) (hp : w.schema.Leads p.keywordPath p.node) :
    w.schema.Leads q.keywordPath q.node := by
  obtain ⟨c, hc, _, rfl⟩ := exists_child_of_mem_expand h
  exact hp.child (Schema.mem_children_of_mem_childrenFor hc)

/-- By what is below: a node is looked at after all its children. -/
theorem expand_induction (w : Walk) {P : Pending → Prop} (step : ∀ p, (∀ c ∈ w.expand p, P c) → P p)
    (p : Pending) : P p := by
  induction hleft : w.schema.size - p.node using Nat.strongRecOn generalizing p with | ind left ih
  subst hleft
  exact step p fun c hc => ih _ (below_of_mem_expand hc).size_sub_lt c rfl

theorem mem_preorder_self (w : Walk) (p : Pending) : p ∈ w.preorder p := by
  rw [preorder_eq]
  exact List.mem_cons_self

theorem mem_preorder_iff :
    q ∈ w.preorder p ↔ q = p ∨ ∃ c ∈ w.expand p, q ∈ w.preorder c := by
  rw [preorder_eq, List.mem_cons, List.mem_flatMap]

theorem leads_of_mem_preorder (hp : w.schema.Leads p.keywordPath p.node) (hq : q ∈ w.preorder p) :
    w.schema.Leads q.keywordPath q.node := by
  induction p using w.expand_induction with | step p ih
  rcases mem_preorder_iff.1 hq with rfl | ⟨c, hc, hq⟩
  · exact hp
  · exact ih c hc (leads_of_mem_expand hc hp) hq

theorem eq_or_mem_expand_of_mem_preorder (hq : q ∈ w.preorder p) :
    q = p ∨ ∃ owner ∈ w.preorder p, q ∈ w.expand owner := by
  induction p using w.expand_induction with | step p ih
  rcases mem_preorder_iff.1 hq with rfl | ⟨c, hc, hq⟩
  · exact .inl rfl
  · right
    rcases ih c hc hq with rfl | ⟨owner, howner, hheld⟩
    · exact ⟨p, mem_preorder_self w p, hc⟩
    · exact ⟨owner, mem_preorder_iff.2 (.inr ⟨c, hc, howner⟩), hheld⟩

end Walk

/-! ## The visits of a walk -/

namespace Walker

theorem left_eq_nil_of_pop? {w : Walker} (h : w.pop? = none) : w.left = [] := by
  unfold pop? at h
  split at h
  · next hstack => rw [left, hstack, List.flatMap_nil]
  · cases h

theorem walk_of_pop? {w after : Walker} {p : Pending} (h : w.pop? = some (p, after)) :
    after.walk = w.walk ∧ after.skipFirst = false := by
  unfold pop? at h
  split at h
  · cases h
  · cases h
    exact ⟨rfl, rfl⟩

/-- The visits are the nodes that are left, without the one that is passed over. -/
theorem toList_eq (w : Walker) :
    w.toList = (w.left.drop (if w.skipFirst then 1 else 0)).map w.walk.visit := by
  fun_induction toList w with
  | case1 w hnext =>
    unfold next? at hnext
    split at hnext
    · next hpop =>
      rw [left_eq_nil_of_pop? hpop, List.drop_nil, List.map_nil]
    · next p after hpop =>
      split at hnext
      · next hskip =>
        have hlast := left_eq_nil_of_pop? (Option.map_eq_none_iff.1 hnext)
        rw [left_of_pop? hpop, hlast, hskip, if_pos rfl, List.drop_one, List.tail_cons, List.map_nil]
      · cases hnext
  | case2 w v after hnext ih =>
    unfold next? at hnext
    split at hnext
    · cases hnext
    · next p popped hpop =>
      obtain ⟨hwalk, _⟩ := walk_of_pop? hpop
      split at hnext
      · next hskip =>
        obtain ⟨⟨q, last⟩, hlast, heq⟩ := Option.map_eq_some_iff.1 hnext
        cases heq
        obtain ⟨hwalk', hkeep⟩ := walk_of_pop? hlast
        rw [ih, hkeep, left_of_pop? hpop, left_of_pop? hlast, hskip, hwalk', hwalk]
        rfl
      · next hskip =>
        cases hnext
        rw [ih, (walk_of_pop? hpop).2, left_of_pop? hpop, hwalk, if_neg hskip]
        rfl

end Walker

namespace Schema

/-- What is known of a walk from the root at each visit: the way by keywords is the pointer of the
node, the depth is how far the visit is inside the value, and a node below the start is one step
further than the visit that leads there. -/
structure Addressed (s : Schema) (shared : FormatRegistry) (options : WalkOptions) (v : Visit) : Prop where
  pointer : (Index.ofSchema s).pointer? v.node = some ("#" ++ Pointer.render v.keywordPath)
  depth : v.depth = v.instancePath.length
  start : v.node = root → v.instancePath = options.instancePath
  step : v.node ≠ root → ∃ parent ∈ s.walk shared root { options with includeSelf := true },
    ∃ c ∈ s.childrenFor parent.node
        (options.data.bind (·.get? (parent.instancePath.drop options.instancePath.length))),
      c.node = v.node ∧ v.instancePath = parent.instancePath ++ [c.instanceStep] ∧
        v.keywordPath = parent.keywordPath ++ c.keywordPath

section

variable {s : Schema} (shared : FormatRegistry) (id : NodeId) (options : WalkOptions)

theorem walk_eq_map : s.walk shared id options =
    (((Walker.start s shared id options).walk.preorder
      ⟨id, options.instancePath, options.keywordPath⟩).drop (if options.includeSelf then 0 else 1)).map
        (Walker.start s shared id options).walk.visit := by
  have hleft : (Walker.start s shared id options).left =
      (Walker.start s shared id options).walk.preorder
        ⟨id, options.instancePath, options.keywordPath⟩ := List.append_nil _
  have hskip : (Walker.start s shared id options).skipFirst = !options.includeSelf := rfl
  rw [walk, Walker.toList_eq, hleft, hskip]
  cases options.includeSelf <;> rfl

end

/-- Walks and the index name the nodes alike, however the schema came about. -/
theorem Assembled.addressed {s : Schema} (h : s.Assembled) (shared : FormatRegistry)
    {options : WalkOptions} (hpath : options.keywordPath = []) :
    ∀ v ∈ s.walk shared root options, s.Addressed shared options v := by
  intro v hv
  rw [walk_eq_map] at hv
  obtain ⟨p, hp, rfl⟩ := List.mem_map.1 hv
  have hmem := List.mem_of_mem_drop hp
  have hstart : s.Leads options.keywordPath root := hpath ▸ .root
  have hleads : s.Leads p.keywordPath p.node := Walk.leads_of_mem_preorder hstart hmem
  have hreached := Walk.eq_or_mem_expand_of_mem_preorder hmem
  constructor
  case pointer => exact pointer?_of_mem_entries h.orderly (h.orderly.leads_iff.1 hleads)
  case depth => rfl
  case start =>
    intro (hroot : p.node = root)
    rcases hreached with rfl | ⟨owner, _, hheld⟩
    · rfl
    · have hbelow := (Walk.below_of_mem_expand hheld).1
      rw [hroot] at hbelow
      exact absurd hbelow (Nat.not_lt_zero _)
  case step =>
    intro hroot
    rcases hreached with rfl | ⟨owner, howner, hheld⟩
    · exact absurd rfl hroot
    · obtain ⟨c, hc, _, rfl⟩ := Walk.exists_child_of_mem_expand hheld
      refine ⟨(Walker.start s shared root options).walk.visit owner, ?_, c, hc, rfl, rfl, rfl⟩
      rw [walk_eq_map, if_pos rfl, List.drop_zero]
      exact List.mem_map_of_mem howner

/-- The items of an array were replaced: a walk through one item goes to the new node and names it as
the index does. -/
theorem addressed_replaced : ∃ s, (Expr.array .any).build = .ok s ∧
    ∃ v ∈ (s.attempt (.single .items (.typed .string))).walk .empty root
        { data := some (.array [.null]), includeSelf := false },
      v.node = 2 ∧ (s.attempt (.single .items (.typed .string))).Addressed .empty
        { data := some (.array [.null]), includeSelf := false } v := by
  have hbuild : (Expr.array .any).build = .ok (Schema.array .any) := rfl
  have hpart : (Expr.typed .string).build = .ok (Schema.typed .string) := rfl
  have hscope : ∀ entry ∈ ([] : List (String × Schema)), entry.2.Assembled := by simp
  have hmade := Assembled.changed (e := .single .items (.typed .string)) (.built hscope hbuild)
    (List.forall_mem_singleton.2 (.built hscope hpart))
  have hpath : ({ data := some (.array [.null]), includeSelf := false } : WalkOptions).keywordPath = [] := rfl
  have haddressed := hmade.addressed .empty hpath
  generalize hs : (Schema.array .any).attempt (.single .items (.typed .string)) = s at haddressed
  generalize hwalk : (Walker.start s .empty root
    { data := some (.array [.null]), includeSelf := false }).walk = w
  have hexpand : w.expand ⟨root, [], []⟩ = [⟨2, [.index 0], [.key "items"]⟩] := by
    subst hwalk hs
    with_unfolding_all rfl
  have hvisited : w.visit ⟨2, [.index 0], [.key "items"]⟩ ∈
      s.walk .empty root { data := some (.array [.null]), includeSelf := false } := by
    rw [walk_eq_map, hwalk, Walk.preorder_eq, hexpand]
    refine List.mem_map_of_mem (List.mem_append_left _ (Walk.mem_preorder_self _ _))
  refine ⟨_, hbuild, _, hs ▸ hvisited, rfl, hs ▸ haddressed _ hvisited⟩

end Schema

end JsonSchema
