import JsonSchema.Proofs.Reloading.Running
import JsonSchema.Schema.Template

/-!
# What a reloaded schema fills in

Whether a node outside an object may be absent cannot be read from a document. As long as everything
optional is wanted, a schema and its reloaded schema fill in alike.
-/

namespace JsonSchema

namespace Node

variable {n n' : Node}

theorem chosen?_eq_of_alike {R : NodeId → NodeId → Prop}
    (h : List.Forall₂ (Keyword.Alike Leaf.Same R) n.keywords n'.keywords) (options : TemplateOptions)
    (seed : Option Json) : n.chosen? options seed = n'.chosen? options seed := by
  have hconst : n.const? = n'.const? := by
    refine find?_congr (fun k hk => ?_) (by rintro _ _ ⟨⟩ <;> rfl) h
    cases k with
    | leaf l => exact absurd rfl (hk l)
    | _ => rfl
  have hdefault : n.default? = n'.default? := by
    refine find?_congr (fun k hk => ?_) (by rintro _ _ ⟨⟩ <;> rfl) h
    cases k with
    | leaf l => exact absurd rfl (hk l)
    | _ => rfl
  have henum : n.enum? = n'.enum? := by
    refine find?_congr (fun k hk => ?_) (by rintro _ _ ⟨⟩ <;> rfl) h
    cases k with
    | leaf l => exact absurd rfl (hk l)
    | _ => rfl
  rw [chosen?, chosen?, hconst, hdefault, henum]

theorem chosen?_eq_seed (h : n.keywords = [] ∨ ∃ reference, n.keywords = [.leaf (.ref reference)])
    (options : TemplateOptions) (seed : Option Json) : n.chosen? options seed = seed := by
  unfold chosen? const? default? enum? find?
  rcases h with h | ⟨reference, h⟩
  · rw [h]
    simp
  · rw [h]
    simp

end Node

namespace Template

variable {s s' : Schema} {options : TemplateOptions} (hwanted : options.withOptional = true)
  {fill fill' : NodeId → Option Json → Option Json} {R : NodeId → NodeId → Prop}
  (hfill : ∀ x y, R x y → ∀ current, fill x current = fill' y current)
include hwanted hfill

theorem fillMembers_eq (value : Option Json) (base : Members) {es es' : List (String × NodeId)}
    (h : List.Forall₂ (fun e e' => e.1 = e'.1 ∧ R e.2 e'.2) es es') :
    fillMembers s options value base fill es = fillMembers s' options value base fill' es' := by
  unfold fillMembers
  refine List.rel_foldl (P := Eq) ?_ rfl h
  rintro out _ rfl e e' ⟨hkey, hxy⟩
  dsimp only
  rw [hwanted, hkey, hfill _ _ hxy]
  simp only [Bool.not_true, Bool.and_false, Bool.false_and]

theorem fillObject_eq {n n' : Node}
    (h : List.Forall₂ (fun e e' => e.1 = e'.1 ∧ R e.2 e'.2) n.properties n'.properties) (nested : Bool)
    (value : Option Json) :
    fillObject s options nested n fill value = fillObject s' options nested n' fill' value := by
  have hmembers : ∀ base, fillMembers s options value base fill n.properties =
      fillMembers s' options value base fill' n'.properties :=
    fun base => fillMembers_eq hwanted hfill value base h
  cases value with
  | none => simp only [fillObject, hmembers]
  | some v => cases v <;> simp only [fillObject, hmembers]

end Template

namespace Schema

section Nodes

variable {s : Schema} {id : NodeId} {n : Node} (hn : s.node? id = some n)
include hn

theorem templateFrom_bare (hbare : n.kind.IsBare) (options : TemplateOptions) (nested : Bool)
    (seed : Option Json) : s.templateFrom options nested id seed = seed := by
  rw [templateFrom, hn]
  dsimp only
  cases hkind : n.kind with
  | constant | link | hole => rfl
  | _ => simp [hkind, Kind.IsBare] at hbare

theorem templateFrom_any (hkind : n.kind = .any) (hhooks : n.hooks = {})
    (hkeywords : n.keywords = [] ∨ ∃ reference, n.keywords = [.leaf (.ref reference)])
    {options : TemplateOptions} (hwanted : options.withOptional = true) (nested : Bool)
    (seed : Option Json) : s.templateFrom options nested id seed = seed := by
  rw [templateFrom, hn]
  dsimp only
  rw [hkind, Node.chosen?_eq_seed hkeywords, hwanted]
  simp [Node.replaced?, hhooks, Template.blank?]

end Nodes

namespace Reloaded

variable {s s' : Schema} {docs : List Json} (h : s.Reloaded s' docs)
include h

theorem templateFrom_eq {options : TemplateOptions} (hwanted : options.withOptional = true)
    {x y : NodeId} (hxy : s.Meets docs x y) (nested : Bool) (seed : Option Json) :
    s.templateFrom options nested x seed = s'.templateFrom options nested y seed := by
  refine run_induction (motive := fun _ x y => ∀ nested seed,
    s.templateFrom options nested x seed = s'.templateFrom options nested y seed) ?_ hxy 0 nested seed
  intro _ x y hxy _ hchild nested seed
  cases h.meeting hxy with
  | constant node kind hooks inert node' kind' =>
    rw [templateFrom_bare node (by simp [kind, Kind.IsBare]),
      templateFrom_bare node' (by simp [kind', Kind.IsBare])]
  | hole node kind hooks keywords node' kind' hooks' keywords' =>
    rw [templateFrom_bare node (by simp [kind, Kind.IsBare]),
      templateFrom_any node' kind' hooks' (.inl keywords') hwanted]
  | link kind stands resolve meets node' kind' hooks' keywords' =>
    obtain ⟨n, node, kind⟩ := Option.map_eq_some_iff.1 kind
    rw [templateFrom_bare node (by simp [kind, Kind.IsBare]),
      templateFrom_any node' kind' hooks' (.inr ⟨_, keywords'⟩) hwanted]
  | @same n n' node node' stands alike =>
    have hfill : ∀ value, Template.fillObject s options nested n
        (fun child current =>
          if _ : s.Below x child then s.templateFrom options true child current else current) value =
      Template.fillObject s' options nested n'
        (fun child current =>
          if _ : s'.Below y child then s'.templateFrom options true child current else current) value := by
      refine Template.fillObject_eq hwanted ?_ (Node.forall₂_properties alike.keywords) nested
      rintro x' y' ⟨hxy', hx', hy'⟩ current
      rw [dif_pos hx', dif_pos hy']
      exact hchild x' y' hxy' hx' true current
    have hreplaced : ∀ value, n.replaced? options value = n'.replaced? options value := by
      intro value
      rw [Node.replaced?, Node.replaced?, alike.hooks]
    rw [templateFrom, node, templateFrom, node']
    dsimp only
    rw [← alike.kind, hwanted, Node.chosen?_eq_of_alike alike.keywords]
    simp only [Bool.not_true, Bool.and_false, hreplaced, hfill]

end Reloaded

end Schema

end JsonSchema
