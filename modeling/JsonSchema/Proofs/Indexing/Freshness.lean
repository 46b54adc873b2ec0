import JsonSchema.Proofs.Building.Tree
import JsonSchema.Schema.Memo

/-!
# The remembered index is never stale

Changes with an index change the nodes as they do without one, and leave behind no index of other nodes.
-/

namespace JsonSchema

open Schema (root)

theorem Schema.adopt_ofKind (s : Schema) {kind : Kind} (h : ∀ target, kind ≠ .link target) :
    s.adopt (ofNode (.ofKind kind)) = (⟨s.nodes.push (.ofKind kind)⟩, s.size) := by
  have hmoved : (Node.ofKind kind).mapIds (· + s.size) = .ofKind kind := by
    cases kind with
    | link target => exact absurd rfl (h target)
    | _ => rfl
  simp only [adopt, ofNode, List.map_toArray, List.map_cons, List.map_nil, hmoved]
  rw [Array.push_eq_append]

namespace Memo

variable (m : Memo)

/-! ## What changes do to the nodes -/

@[simp] theorem schema_setKeyword (k : Keyword) : (m.setKeyword k).schema = m.schema.setKeyword k := rfl

theorem schema_adoptAll (children : List Schema) :
    (m.adoptAll children).1.schema = (m.schema.adoptAll children).1 ∧
      (m.adoptAll children).2 = (m.schema.adoptAll children).2 := by
  induction children generalizing m with
  | nil => exact ⟨rfl, rfl⟩
  | cons child children ih =>
    obtain ⟨hschema, hids⟩ := ih (m.adopt child).1
    exact ⟨hschema, congrArg _ hids⟩

@[simp] theorem schema_setListed (slot : ListSlot) (children : List Schema) :
    (m.setListed slot children).schema = m.schema.setListed slot children := by
  obtain ⟨hschema, hids⟩ := m.schema_adoptAll children
  unfold setListed Schema.setListed
  rw [schema_setKeyword, hschema, hids]

@[simp] theorem schema_setKeyed (slot : KeyedSlot) (entries : List (String × Schema)) :
    (m.setKeyed slot entries).schema = m.schema.setKeyed slot entries := by
  obtain ⟨hschema, hids⟩ := m.schema_adoptAll (entries.map (·.2))
  unfold setKeyed Schema.setKeyed
  rw [schema_setKeyword, hschema, hids]

theorem schema_setPatterns (entries : List (String × Schema)) :
    (m.setPatterns entries).map (·.schema) = m.schema.setPatterns entries := by
  obtain ⟨hschema, hids⟩ := m.schema_adoptAll (entries.map (·.2))
  unfold setPatterns Schema.setPatterns
  cases entries.mapM fun e => Schema.compile e.1 with
  | error e => rfl
  | ok patterns =>
    exact congrArg Except.ok (congrArg₂
      (fun s ids => Schema.setKeyword s (.patternProperties (patterns.zip ids))) hschema hids)

@[simp] theorem schema_syncRequired (id : NodeId) :
    (m.syncRequired id).schema = m.schema.syncRequired id := by
  unfold syncRequired Schema.syncRequired
  cases m.schema.node? id with
  | none => rfl
  | some node => rfl

@[simp] theorem schema_close : m.close.schema = m.schema.close := by
  unfold close Schema.close
  dsimp only
  rw [schema_syncRequired]
  split
  · exact m.schema_syncRequired root
  · rw [Schema.setSingle, Schema.adopt_ofKind _ (by simp), schema_setKeyword, push]
    simp only [schema_syncRequired]

@[simp] theorem schema_loosen : m.loosen.schema = m.schema.loosen := by
  have hfold : ∀ (es : List (String × NodeId)) (m : Memo),
      (es.foldl (fun m e => m.modify e.2 fun n => { n with optional := true }) m).schema =
        es.foldl (fun s e => s.modify e.2 fun n => { n with optional := true }) m.schema := by
    intro es
    induction es with
    | nil => exact fun _ => rfl
    | cons e es ih => exact fun m => ih _
  unfold loosen Schema.loosen
  rw [schema_syncRequired, hfold]

theorem schema_ifObject (operation : String) (changed : Memo) :
    (m.ifObject operation changed).map (·.schema) = m.schema.ifObject operation changed.schema := by
  unfold ifObject Schema.ifObject
  split <;> rfl

theorem schema_apply (e : Edit Schema) : (m.apply e).map (·.schema) = m.schema.apply e := by
  cases e with
  | pattern source =>
    unfold apply Schema.apply
    dsimp only
    cases Schema.compile source <;> rfl
  | prefixItems children => exact congrArg Except.ok (m.schema_setListed _ children)
  | patternProperties entries => exact m.schema_setPatterns entries
  | dependentSchemas entries => exact congrArg Except.ok (m.schema_setKeyed _ entries)
  | branches condition consequent alternative =>
    cases consequent <;> cases alternative <;> rfl
  | strict => rw [apply, schema_ifObject, schema_close]; rfl
  | partialObject => rw [apply, schema_ifObject, schema_loosen]; rfl
  | _ => rfl

/-! ## What changes do to the index -/

/-- An index that is kept is that of the nodes as they are. -/
def Fresh (m : Memo) : Prop := ∀ ix, m.index? = some ix → ix = .ofSchema m.schema

variable {m}

theorem fresh_of_none (h : m.index? = none) : m.Fresh := by
  intro ix hix
  rw [h] at hix
  cases hix

theorem fresh_ofSchema (s : Schema) : (ofSchema s).Fresh := fresh_of_none rfl

theorem fresh_forget : m.forget.Fresh := fresh_of_none rfl

theorem fresh_modify (id : NodeId) (f : Node → Node) : (m.modify id f).Fresh := fresh_of_none rfl

theorem fresh_setKeyword (k : Keyword) : (m.setKeyword k).Fresh := fresh_modify root _

theorem Fresh.index_eq (h : m.Fresh) : m.index.1 = .ofSchema m.schema := by
  unfold index
  cases hix : m.index? with
  | none => rfl
  | some ix => exact h ix hix

/-- A query leaves the nodes as they are. -/
@[simp] theorem schema_index : m.index.2.schema = m.schema := by
  unfold index
  cases m.index? <;> rfl

theorem Fresh.index (h : m.Fresh) : m.index.2.Fresh := by
  unfold Memo.index
  cases hix : m.index? with
  | none =>
    rintro ix ⟨⟩
    rfl
  | some ix => exact h

theorem Fresh.syncRequired (h : m.Fresh) (id : NodeId) : (m.syncRequired id).Fresh := by
  unfold Memo.syncRequired
  cases m.schema.node? id with
  | none => exact h
  | some node => exact fresh_modify id _

theorem Fresh.close (h : m.Fresh) : m.close.Fresh := by
  unfold Memo.close
  dsimp only
  split
  · exact h.syncRequired root
  · exact fresh_setKeyword _

theorem Fresh.loosen (h : m.Fresh) : m.loosen.Fresh := by
  have hfold : ∀ (es : List (String × NodeId)) (m : Memo), m.Fresh →
      (es.foldl (fun m e => m.modify e.2 fun n => { n with optional := true }) m).Fresh := by
    intro es
    induction es with
    | nil => exact fun _ h => h
    | cons e es ih => exact fun m _ => ih _ (fresh_modify e.2 _)
  exact (hfold _ m h).syncRequired root

theorem fresh_of_ifObject {m' changed : Memo} {operation : String} (hchanged : changed.Fresh)
    (h : m.ifObject operation changed = .ok m') : m'.Fresh := by
  unfold ifObject at h
  split at h
  · cases h
    exact hchanged
  · cases h

theorem fresh_setPatterns {m' : Memo} {entries : List (String × Schema)}
    (h : m.setPatterns entries = .ok m') : m'.Fresh := by
  obtain ⟨patterns, _, h⟩ := Except.bind_eq_ok_iff.1 h
  cases h
  exact fresh_setKeyword _

theorem Fresh.apply (h : m.Fresh) {e : Edit Schema} {m' : Memo} (heq : m.apply e = .ok m') :
    m'.Fresh := by
  cases e with
  | pattern source =>
    obtain ⟨p, _, rfl⟩ := Except.map_eq_ok_iff.1 heq
    exact fresh_setKeyword _
  | patternProperties entries => exact fresh_setPatterns heq
  | branches condition consequent alternative =>
    cases heq
    cases consequent <;> cases alternative <;> exact fresh_setKeyword _
  | strict => exact fresh_of_ifObject h.close heq
  | partialObject => exact fresh_of_ifObject h.loosen heq
  | validateHook | coerceHook | templateHook | optional => cases heq; exact fresh_modify root _
  | _ => cases heq; exact fresh_setKeyword _

/-! ## Runs -/

/-- What queries and changes, in any order, lead to. -/
inductive Reached : Memo → Prop where
  | created (s : Schema) : Reached (ofSchema s)
  /-- The index is there after a query. -/
  | asked {m : Memo} (h : Reached m) : Reached m.index.2
  | edited {m m' : Memo} (e : Edit Schema) (h : Reached m) (heq : m.apply e = .ok m') : Reached m'
  /-- Both schemas may have been asked before. -/
  | embedded {m parent whole : Memo} (edit : Schema → Edit Schema) (h : Reached m)
      (hparent : Reached parent) (heq : m.embed parent edit = .ok whole) : Reached whole
  | tied {m : Memo} (token : Nat) (h : Reached m) : Reached (m.tie token)

theorem Reached.fresh (h : m.Reached) : m.Fresh := by
  induction h with
  | created s => exact fresh_ofSchema s
  | asked _ ih => exact ih.index
  | edited e _ heq ih => exact ih.apply heq
  | embedded edit _ _ heq _ ih => exact ih.apply heq
  | tied token _ _ => exact fresh_forget

/-- Whatever came before, every answer is that of an index built now, and all that is in the index can be
reached from the root. -/
theorem Reached.answers (h : m.Reached) :
    (∀ reference, (m.resolve reference).1 = (Index.ofSchema m.schema).resolve reference) ∧
      (∀ id, (m.pointer? id).1 = (Index.ofSchema m.schema).pointer? id) ∧
      (∀ e ∈ m.index.1.entries, m.schema.Within e.2 root) ∧
      ∀ e ∈ m.index.1.declared, m.schema.Within e.2 root := by
  have hindex := h.fresh.index_eq
  refine ⟨fun reference => ?_, fun id => ?_, fun e he => ?_, fun e he => ?_⟩
  · exact congrArg (·.resolve reference) hindex
  · exact congrArg (·.pointer? id) hindex
  · rw [hindex] at he
    obtain ⟨entry, hentry, rfl⟩ := List.mem_map.1 he
    exact Schema.within_of_mem_entriesFrom hentry
  · rw [hindex] at he
    obtain ⟨entry, hentry, hdeclares⟩ := List.mem_filterMap.1 he
    obtain ⟨name, _, rfl⟩ := Option.map_eq_some_iff.1 hdeclares
    exact Schema.within_of_mem_entriesFrom hentry

/-- What is put in after a query is found by the next one. -/
theorem Reached.answers_strict :
    let m : Memo := ofSchema (.object .plain [("a", .typed .string)])
    (m.resolve "#/additionalProperties").1.toOption = none ∧
      ∃ m', m.index.2.apply .strict = .ok m' ∧ m'.Reached ∧
        (m'.resolve "#/additionalProperties").1.toOption = some 2 := by
  intro m
  have hobject : m.index.2.schema.kind? root = some .object := by decide +kernel
  have hstrict : m.index.2.apply .strict = .ok m.index.2.close := if_pos hobject
  have hreached : m.index.2.close.Reached := .edited .strict (.asked (.created _)) hstrict
  refine ⟨by decide +kernel, _, hstrict, hreached, ?_⟩
  rw [hreached.answers.1]
  decide +kernel

end Memo

end JsonSchema
