import JsonSchema.Proofs.Building.Induction

/-! # What holds of all nodes of a schema -/

namespace JsonSchema

namespace Schema

def Everywhere (Q : Node → Prop) (s : Schema) : Prop := ∀ id n, s.node? id = some n → Q n

section Everywhere

variable {Q : Node → Prop} {s child : Schema}

theorem everywhere_ofNode {n : Node} (h : Q n) : (ofNode n).Everywhere Q := by
  intro id m hm
  obtain ⟨_, rfl⟩ := Orderly.eq_of_node?_ofNode hm
  exact h

theorem Everywhere.modify (h : s.Everywhere Q) (id : NodeId) {f : Node → Node}
    (hf : ∀ n, s.node? id = some n → Q n → Q (f n)) : (s.modify id f).Everywhere Q := by
  intro place n hn
  rw [node?_modify] at hn
  split at hn
  · next heq =>
    subst heq
    obtain ⟨old, hold, rfl⟩ := Option.map_eq_some_iff.1 hn
    exact hf old hold (h id old hold)
  · exact h place n hn

theorem node?_adoptAll_cases {cs : List Schema} {id : NodeId} {n : Node}
    (hn : (s.adoptAll cs).1.node? id = some n) :
    s.node? id = some n ∨ ∃ c ∈ cs, ∃ place m f, c.node? place = some m ∧ n = m.mapIds f := by
  induction cs generalizing s with
  | nil => exact .inl hn
  | cons c cs ih =>
    rw [Orderly.adoptAll_cons] at hn
    rcases ih hn with hn | ⟨c', hc', hmoved⟩
    · rcases Orderly.node?_adopt_cases hn with ⟨_, hn⟩ | ⟨place, m, _, hm, rfl⟩
      · exact .inl hn
      · exact .inr ⟨c, List.mem_cons_self, place, m, _, hm, rfl⟩
    · exact .inr ⟨c', List.mem_cons_of_mem _ hc', hmoved⟩

theorem Everywhere.setChildren (hs : s.Everywhere Q) {children : List Schema}
    (hc : ∀ c ∈ children, c.Everywhere Q) (hQ : ∀ n f, Q n → Q (n.mapIds f)) {k : Keyword}
    (hk : ∀ n, Q n → Q (n.setKeyword k)) : ((s.adoptAll children).1.setKeyword k).Everywhere Q := by
  refine Everywhere.modify ?_ root fun n _ => hk n
  intro id n hn
  rcases node?_adoptAll_cases hn with hn | ⟨c, hmem, place, m, f, hm, rfl⟩
  · exact hs id n hn
  · exact hQ m f (hc c hmem place m hm)

theorem Everywhere.foldl_optional (entries : List (String × NodeId)) (h : s.Everywhere Q)
    (hQ : ∀ n, Q n → Q { n with optional := true }) :
    (entries.foldl (fun s e => s.modify e.2 fun n => { n with optional := true }) s).Everywhere Q := by
  induction entries generalizing s with
  | nil => exact h
  | cons e entries ih => exact ih (h.modify e.2 fun n _ => hQ n)

theorem forall_mem_schemas {P : Schema → Prop} {entries : List (String × Schema)}
    (h : ∀ e ∈ entries, P e.2) : ∀ c ∈ entries.map (·.2), P c := by
  intro c hc
  obtain ⟨e, he, rfl⟩ := List.mem_map.1 hc
  exact h e he

/-- What neither places nor keywords nor marks decide holds of every node that a document makes if it
holds of the nodes to begin with. -/
theorem closed_everywhere (hconstant : ∀ accepts, Q (.ofKind (.constant accepts)))
    (hstart : ∀ kind, (∀ target, kind ≠ .link target) → (∀ token, kind ≠ .hole token) → Q (.ofKind kind))
    (hplaces : ∀ n f, Q n → Q (n.mapIds f)) (hkeywords : ∀ n k, Q n → Q (n.setKeyword k))
    (hmarks : ∀ n, Q n → Q { n with optional := true }) :
    Loader.Closed (Everywhere Q) (Everywhere Q) where
  constant := fun accepts => everywhere_ofNode (hconstant accepts)
  start := fun kind hlink hhole => everywhere_ofNode (hstart kind hlink hhole)
  leaf := fun h l => h.modify root fun n _ => hkeywords n (.leaf l)
  single := by
    intro s child h hc slot
    have hchildren : ∀ c ∈ [child], c.Everywhere Q := List.forall_mem_singleton.2 hc
    exact h.setChildren hchildren hplaces fun n => hkeywords n (.single slot s.size)
  listed := fun h hcs _ => h.setChildren hcs hplaces fun n => hkeywords n _
  keyed := fun h hes _ => h.setChildren (forall_mem_schemas hes) hplaces fun n => hkeywords n _
  patterns := by
    intro s entries t h hes ht
    obtain ⟨_, _, ht⟩ := Except.bind_eq_ok_iff.1 ht
    cases ht
    exact h.setChildren (forall_mem_schemas hes) hplaces fun n => hkeywords n _
  mark := by
    intro s h
    unfold Loader.markOptional
    split
    · exact h
    · exact h.foldl_optional _ hmarks

end Everywhere

end Schema

end JsonSchema
