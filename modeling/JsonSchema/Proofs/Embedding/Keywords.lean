import JsonSchema.Proofs.Building.Construction
import JsonSchema.Proofs.Building.Lookup

/-!
# Keywords that stay

A change at the root states a few keywords anew. A keyword of any other name stays at the root just as it is,
with the places that it holds.
-/

namespace JsonSchema

/-- The names of the keywords that an edit may state anew. -/
def Edit.names : Edit α → List String
  | .keyword l => [l.name]
  | .const _ => ["const"]
  | .enum _ => ["enum"]
  | .default _ => ["default"]
  | .note name _ => [name]
  | .id _ => ["$id"]
  | .ref _ => ["$ref"]
  | .count which _ => [which.name]
  | .bound which _ => [which.name]
  | .multipleOf _ => ["multipleOf"]
  | .pattern _ => ["pattern"]
  | .format _ => ["format"]
  | .uniqueItems _ => ["uniqueItems"]
  | .dependentRequired _ => ["dependentRequired"]
  | .single slot _ => [slot.name]
  | .prefixItems _ => ["prefixItems"]
  | .patternProperties _ => ["patternProperties"]
  | .dependentSchemas _ => ["dependentSchemas"]
  | .branches _ consequent alternative =>
    "if" :: (consequent.toList.map (fun _ => "then") ++ alternative.toList.map fun _ => "else")
  | .validateHook _ | .coerceHook _ | .templateHook _ | .optional => []
  | .strict => ["required", "additionalProperties"]
  | .partialObject => ["required"]

namespace Schema

/-- The keyword is one of the root's. -/
def Carries (s : Schema) (k : Keyword) : Prop := ∃ n, s.node? root = some n ∧ k ∈ n.keywords

theorem carries_setKeyword {s : Schema} {n : Node} (hn : s.node? root = some n) (k : Keyword) :
    (s.setKeyword k).Carries k := by
  refine ⟨n.setKeyword k, ?_, n.mem_setKeyword_self k⟩
  rw [Schema.setKeyword, modifyRoot, node?_modify, if_pos rfl, hn, Option.map_some]

namespace Carries

variable {s : Schema} {k : Keyword} (h : s.Carries k)
include h

theorem modify {id : NodeId} {f : Node → Node} (hf : ∀ n : Node, k ∈ n.keywords → k ∈ (f n).keywords) :
    (s.modify id f).Carries k := by
  obtain ⟨n, hn, hk⟩ := h
  unfold Carries
  rw [node?_modify]
  split
  · exact ⟨f n, by rw [hn, Option.map_some], hf n hk⟩
  · exact ⟨n, hn, hk⟩

theorem setKeyword {k' : Keyword} (hne : k.name ≠ k'.name) : (s.setKeyword k').Carries k :=
  h.modify fun _ hk => Node.mem_setKeyword_of_mem hk hne

theorem adoptAll (cs : List Schema) : (s.adoptAll cs).1.Carries k := by
  obtain ⟨n, hn, hk⟩ := h
  exact ⟨n, by rw [node?_adoptAll s cs (lt_size_of_node? hn), hn], hk⟩

theorem setSingle (slot : Slot) (hne : k.name ≠ slot.name) (c : Schema) : (s.setSingle slot c).Carries k :=
  (h.adoptAll [c]).modify fun _ hk => Node.mem_setKeyword_of_mem hk hne

theorem optionalSingle (slot : Slot) (c? : Option Schema) (hname : k.name ∉ c?.toList.map fun _ => slot.name) :
    (c?.elim s (s.setSingle slot)).Carries k := by
  cases c? with
  | none => exact h
  | some c => exact h.setSingle slot (List.ne_of_not_mem_cons hname) c

theorem syncRequired (hne : k.name ≠ "required") : (s.syncRequired root).Carries k := by
  unfold Schema.syncRequired
  split
  · exact h
  · refine h.modify fun n hk => ?_
    split
    · exact List.mem_filter.2 ⟨hk, by simpa using hne⟩
    · exact Node.mem_setKeyword_of_mem hk hne

theorem close (hrequired : k.name ≠ "required") (hextra : k.name ≠ "additionalProperties") :
    s.close.Carries k := by
  unfold Schema.close
  dsimp only
  split
  · exact h.syncRequired hrequired
  · exact (h.syncRequired hrequired).setSingle .additionalProperties hextra _

theorem loosen (hne : k.name ≠ "required") : s.loosen.Carries k := by
  refine syncRequired ?_ hne
  exact List.foldlRecOn (motive := fun t : Schema => t.Carries k) _ _ h
    fun t ht e _ => ht.modify fun _ hk => hk

theorem apply {e : Edit Schema} (hname : k.name ∉ e.names) {t : Schema} (ht : s.apply e = .ok t) :
    t.Carries k := by
  cases e with
  | single slot child =>
    cases ht
    exact h.setSingle slot (List.ne_of_not_mem_cons hname) child
  | prefixItems children =>
    cases ht
    exact (h.adoptAll children).setKeyword (List.ne_of_not_mem_cons hname)
  | dependentSchemas entries =>
    cases ht
    exact (h.adoptAll _).setKeyword (List.ne_of_not_mem_cons hname)
  | patternProperties entries =>
    obtain ⟨patterns, _, ht⟩ := Except.bind_eq_ok_iff.1 ht
    cases ht
    exact (h.adoptAll _).setKeyword (List.ne_of_not_mem_cons hname)
  | branches condition consequent alternative =>
    cases ht
    simp only [Edit.names, List.mem_cons, List.mem_append, not_or] at hname
    obtain ⟨hif, hthen, helse⟩ := hname
    have hcondition := h.setSingle .condition hif condition
    exact (hcondition.optionalSingle .consequent consequent hthen).optionalSingle .alternative alternative helse
  | pattern source =>
    obtain ⟨p, _, rfl⟩ := Except.map_eq_ok_iff.1 ht
    exact h.setKeyword (List.ne_of_not_mem_cons hname)
  | validateHook | coerceHook | templateHook | optional =>
    cases ht
    exact h.modify fun _ hk => hk
  | strict =>
    simp only [Edit.names, List.mem_cons, List.not_mem_nil, or_false, not_or] at hname
    exact LastingWith.ifObject (Q := fun t => t.Carries k) (h.close hname.1 hname.2) ht
  | partialObject =>
    exact LastingWith.ifObject (Q := fun t => t.Carries k) (h.loosen (List.ne_of_not_mem_cons hname)) ht
  | _ =>
    cases ht
    exact h.setKeyword (List.ne_of_not_mem_cons hname)

theorem attempt {e : Edit Schema} (hname : k.name ∉ e.names) : (s.attempt e).Carries k := by
  unfold Schema.attempt
  split
  · next ht => exact h.apply hname ht
  · exact h

theorem foldl_attempt {edits : List (Edit Schema)} (hnames : ∀ e ∈ edits, k.name ∉ e.names) :
    (edits.foldl Schema.attempt s).Carries k :=
  List.foldlRecOn (motive := fun t : Schema => t.Carries k) _ _ h
    fun _ ht e he => ht.attempt (hnames e he)

end Carries

end Schema

end JsonSchema
