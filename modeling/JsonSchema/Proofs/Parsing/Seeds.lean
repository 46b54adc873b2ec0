import JsonSchema.Proofs.Parsing.Offers
import JsonSchema.Schema.Parse

/-!
# What filling in leaves of a seed

A constant takes the place of whatever is given for it. Everywhere else a seed stays: its keys keep their
order, its undeclared members their values, and new keys stand behind the old ones. What has been filled in
is a seed that stays as it is.
-/

namespace JsonSchema

/-! ## Keys -/

namespace Template

variable (fill : NodeId → Option Json → Option Json) (base out : Members)

theorem keys_put (e : String × NodeId) :
    (put fill base out e).keys = out.keys ∨
      e.1 ∉ out.keys ∧ (put fill base out e).keys = out.keys ++ [e.1] := by
  unfold put
  split
  · rw [Members.keys_insert]
    split
    · exact .inl rfl
    · next hkey => exact .inr ⟨hkey, rfl⟩
  · exact .inl rfl

theorem keys_foldl_put (es : List (String × NodeId)) :
    ∃ new, new.Sublist (es.map (·.1)) ∧ new.Disjoint out.keys ∧
      (es.foldl (put fill base) out).keys = out.keys ++ new := by
  induction es generalizing out with
  | nil => exact ⟨[], .slnil, List.disjoint_nil_left _, (List.append_nil _).symm⟩
  | cons e es ih =>
    obtain ⟨new, hsub, hdisjoint, hkeys⟩ := ih (put fill base out e)
    rw [List.foldl_cons, hkeys]
    rcases keys_put fill base out e with hsame | ⟨hkey, hput⟩
    · rw [hsame] at hdisjoint ⊢
      exact ⟨new, hsub.cons _, hdisjoint, rfl⟩
    · rw [hput] at hdisjoint ⊢
      obtain ⟨hold, -⟩ := List.disjoint_append_right.1 hdisjoint
      exact ⟨e.1 :: new, hsub.cons_cons _, List.disjoint_cons_left.2 ⟨hkey, hold⟩,
        by rw [List.append_assoc, List.singleton_append]⟩

end Template

namespace Schema

/-! ## Seeds -/

mutual

/-- What a node makes of a seed. -/
inductive Seeded (s : Schema) (options : TemplateOptions) : Bool → NodeId → Json → Json → Prop where
  /-- Only objects are added to, by object nodes. -/
  | kept {nested : Bool} {id : NodeId} {n : Node} {seed : Json} (node : s.node? id = some n)
    (const : n.const? = none) (simple : n.kind = .object → ∀ ms, seed ≠ .object ms) :
    Seeded s options nested id seed seed
  | extended {nested : Bool} {id : NodeId} {n : Node} {ms out : Members} (node : s.node? id = some n)
    (const : n.const? = none) (kind : n.kind = .object) (members : SeededMembers s options n ms out) :
    Seeded s options nested id (.object ms) (.object out)
  | constant {nested : Bool} {id : NodeId} {n : Node} {seed fixed : Json} (node : s.node? id = some n)
    (const : n.const? = some fixed) (simple : n.kind = .object → ∀ ms, fixed ≠ .object ms) :
    Seeded s options nested id seed fixed
  | completed {nested : Bool} {id : NodeId} {n : Node} {seed : Json} {ms out : Members}
    (node : s.node? id = some n) (const : n.const? = some (.object ms)) (kind : n.kind = .object)
    (members : SeededMembers s options n ms out)
    (wanted : nested = true → options.withExtendedOptional = true ∨ out ≠ []) :
    Seeded s options nested id seed (.object out)
  /-- An empty object inside another takes no place. -/
  | left {id : NodeId} {n : Node} {seed : Json} (node : s.node? id = some n)
    (const : n.const? = some (.object [])) (kind : n.kind = .object)
    (nothing : ∀ e ∈ n.properties, s.templateFrom options true e.2 none = none)
    (unwanted : options.withExtendedOptional = false) :
    Seeded s options true id seed seed

/-- What the properties of a node make of the members of a seed. -/
inductive SeededMembers (s : Schema) (options : TemplateOptions) : Node → Members → Members → Prop where
  | intro {n : Node} {ms out : Members}
    (keys : ∃ new, new.Sublist n.declaredKeys ∧ new.Disjoint ms.keys ∧ out.keys = ms.keys ++ new)
    (undeclared : ∀ key ∉ n.declaredKeys, out.get? key = ms.get? key)
    (declared : ∀ e ∈ n.properties, ∀ v w, ms.get? e.1 = some v → out.get? e.1 = some w →
      Seeded s options true e.2 v w)
    (offered : ∀ e ∈ n.properties, ms.get? e.1 = none →
      out.get? e.1 = s.templateFrom options true e.2 none) :
    SeededMembers s options n ms out

end

section Node

variable {s : Schema} {id : NodeId} (hid : ∀ here ∈ some id, s.Fillable here) {n : Node}
  (hn : s.node? id = some n) (hkind : n.kind = .object) (options : TemplateOptions)
include hid hn hkind

theorem seededMembers_completeMembers (hchildren : ∀ e ∈ n.properties, ∀ v w,
      s.complete options true (some e.2) (some v) = some w → s.Seeded options true e.2 v w)
    (base : Members) :
    s.SeededMembers options n base (s.completeMembers options (some id) base) := by
  have hfields := fieldsAt_of_object hn hkind
  refine .intro ?keys ?undeclared ?declared ?offered
  case keys =>
    rw [completeMembers, hfields]
    exact Template.keys_foldl_put _ base base n.properties
  case undeclared =>
    intro key hkey
    have hnone : n.properties.lookup key = none := by
      refine List.lookup_eq_none_iff.2 fun e he => bne_iff_ne.2 ?_
      rintro rfl
      exact hkey (List.mem_map_of_mem he)
    rw [get?_completeMembers hid, hfields, hnone]
    rfl
  case declared =>
    intro e he v w hv hw
    rw [get?_completeMembers_of_mem hid options base (hfields ▸ he), hv] at hw
    exact hchildren e he v w hw
  case offered =>
    intro e he hnone
    rw [get?_completeMembers_of_mem hid options base (hfields ▸ he), hnone, complete_at, Option.or_none]

theorem templateFrom_of_completeMembers_nil (h : s.completeMembers options (some id) [] = [])
    {e : String × NodeId} (he : e ∈ n.properties) : s.templateFrom options true e.2 none = none := by
  have hfields := fieldsAt_of_object hn hkind
  have hget := get?_completeMembers_of_mem hid options [] (hfields ▸ he)
  have hempty : Members.get? [] e.1 = none := rfl
  rw [h, complete_at, hempty, Option.or_none] at hget
  exact hget.symm

end Node

/-- Whatever stands at a place for a seed is made of the seed. -/
theorem seeded_of_complete {s : Schema} {options : TemplateOptions} {id : NodeId} (hid : s.Fillable id)
    {nested : Bool} {v w : Json} (h : s.complete options nested (some id) (some v) = some w) :
    s.Seeded options nested id v w := by
  induction hid generalizing nested v w with
  | @intro id n node hooks link hole constant nodup distinct below children ih =>
    have hid : ∀ here ∈ some id, s.Fillable here := by
      rintro _ ⟨⟩
      exact .intro node hooks link hole constant nodup distinct below children
    have hmembers (hkind : n.kind = .object) (base : Members) :
        s.SeededMembers options n base (s.completeMembers options (some id) base) :=
      seededMembers_completeMembers hid node hkind options (fun e he v w => ih e he) base
    have hconstAt : s.constAt? (some id) = n.const? := by simp [constAt?, node]
    cases hconst : n.const? with
    | none =>
      rw [complete_of_given hid (.inl (hconstAt.trans hconst))] at h
      obtain rfl := Option.some.inj h
      by_cases hkind : n.kind = .object
      · cases v with
        | object ms => exact .extended node hconst hkind (hmembers hkind ms)
        | _ => exact .kept node hconst (by simp)
      · rw [extended_of_fields (fieldsAt_of_ne_object node hkind)]
        exact .kept node hconst fun hobject => absurd hobject hkind
    | some fixed =>
      have hchosen : n.chosen? options (some v) = some fixed := by
        rw [Node.chosen?, hconst, Option.some_or]
      have hstarted : (n.chosen? options (some v)).isSome = true := by rw [hchosen]; rfl
      rw [complete_at] at h
      by_cases hkind : n.kind = .object
      · rw [templateFrom_object node hooks (.inr hstarted) hkind below, hchosen] at h
        cases fixed with
        | object ms =>
          dsimp only [Template.fillObject.finish] at h
          split at h
          -- The empty constant gets no member, and is not wanted on its own, so the seed is left.
          · next hdropped =>
            simp only [Bool.and_eq_true, List.isEmpty_iff, Bool.not_eq_true'] at hdropped
            obtain ⟨⟨hnil, rfl⟩, hunwanted⟩ := hdropped
            obtain rfl : v = w := Option.some.inj h
            obtain rfl : ms = [] := completeMembers_eq_nil hnil
            exact .left node hconst hkind
              (fun e he => templateFrom_of_completeMembers_nil hid node hkind options hnil he) hunwanted
          · next hstays =>
            obtain rfl := Option.some.inj h
            refine .completed node hconst hkind (hmembers hkind ms) fun hnested => ?_
            by_contra hneither
            obtain ⟨hunwanted, hnil⟩ := not_or.1 hneither
            exact hstays (by simpa [hnested, hunwanted] using not_not.1 hnil)
        | _ =>
          obtain rfl := Option.some.inj h
          exact .constant node hconst (by simp)
      · rw [templateFrom_other node hooks (.inr hstarted) hkind link hole constant, hchosen] at h
        obtain rfl := Option.some.inj h
        exact .constant node hconst fun hobject => absurd hobject hkind

theorem exists_templateFrom {s : Schema} {id : NodeId} (hid : s.Fillable id)
    (options : TemplateOptions) (v : Json) : ∃ w, s.templateFrom options false id (some v) = some w := by
  obtain @⟨_, n, node, hooks, link, hole, constant, _, _, below, _⟩ := hid
  obtain ⟨start, hchosen⟩ : ∃ start, n.chosen? options (some v) = some start := by
    unfold Node.chosen?
    cases n.const? <;> exact ⟨_, rfl⟩
  have hstarted : (n.chosen? options (some v)).isSome = true := by rw [hchosen]; rfl
  by_cases hkind : n.kind = .object
  · rw [templateFrom_object node hooks (.inr hstarted) hkind below, hchosen]
    cases start with
    | object base => exact ⟨_, if_neg (by simp)⟩
    | _ => exact ⟨_, rfl⟩
  · rw [templateFrom_other node hooks (.inr hstarted) hkind link hole constant, hchosen]
    exact ⟨start, rfl⟩

open Loader in
/-- A seed is always filled in, and nothing but a constant takes the place of what it holds. -/
theorem template_seeded (d : Json) (s : Schema) (hd : d.keysDistinct = true) (h : ofJson d = .ok s)
    (seed : Json) (options : TemplateOptions) :
    ∃ w, s.template (some seed) options = some w ∧ s.Seeded options false root seed w := by
  obtain ⟨docs, hlabels, hroot⟩ := loads_of_load d [] s hd h
  have hid : s.Fillable root := fillable_root hd hlabels hroot root rfl
  obtain ⟨w, hw⟩ := exists_templateFrom hid options seed
  refine ⟨w, hw, seeded_of_complete hid ?_⟩
  rw [complete_at, hw]
  rfl

/-! ### Constants, an undeclared member and a new one -/

def seededDocument : Json :=
  .object [("type", .string "object"),
    ("properties", .object [("kind", .object [("const", .string "a")]),
      ("inner", .object [("type", .string "object"), ("const", .object [])]),
      ("note", .object [("type", .string "string")])]),
    ("required", .array [.string "note"])]

def seededSchema : Schema where
  nodes := #[
    { kind := .object
      keywords := [.leaf (.types [.object]), .keyed .properties [("kind", 1), ("inner", 2), ("note", 3)],
        .leaf (.required ["note"])] },
    { kind := .any, keywords := [.leaf (.const (.string "a"))], optional := true },
    { kind := .object, keywords := [.leaf (.types [.object]), .leaf (.const (.object []))],
      optional := true },
    { kind := .string, keywords := [.leaf (.types [.string])] }]

theorem ofJson_seededDocument : ofJson seededDocument = .ok seededSchema := by
  with_unfolding_all rfl

theorem template_seeded_kinds :
    let seed : Json := .object [("x", .null), ("inner", .object [("y", .null)]), ("kind", .string "b")]
    let w : Json := .object [("x", .null), ("inner", .object [("y", .null)]), ("kind", .string "a"),
      ("note", .string "")]
    seededDocument.keysDistinct = true ∧ ofJson seededDocument = .ok seededSchema ∧
      seededSchema.template (some seed) = some w ∧ seededSchema.Seeded {} false root seed w := by
  intro seed w
  have hd : seededDocument.keysDistinct = true := by decide
  have htemplate : seededSchema.template (some seed) = some w := by with_unfolding_all rfl
  obtain ⟨w', hw', hseeded⟩ := template_seeded _ _ hd ofJson_seededDocument seed {}
  obtain rfl : w = w' := Option.some.inj (htemplate.symm.trans hw')
  exact ⟨hd, ofJson_seededDocument, htemplate, hseeded⟩

/-! ## Filling in again -/

open Loader in
/-- Where optional properties are wanted, a value that was filled in stays as it is when it is filled in. -/
theorem template_again (d : Json) (s : Schema) (hd : d.keysDistinct = true) (h : ofJson d = .ok s)
    (seed : Option Json) (options : TemplateOptions) (hwanted : options.withOptional = true) (w : Json)
    (hw : s.template seed options = some w) : s.template (some w) options = some w := by
  obtain ⟨docs, hlabels, hroot⟩ := loads_of_load d [] s hd h
  have hid : ∀ id ∈ some root, s.Fillable id := fillable_root hd hlabels hroot
  have hfilled : s.complete options false (some root) seed = some w :=
    Option.or_eq_some_iff.2 (.inl hw)
  have hagain := complete_complete hwanted hid hfilled
  obtain ⟨w', hw'⟩ := exists_templateFrom (hid root rfl) options w
  rw [complete_at, hw', Option.some_or] at hagain
  exact hw'.trans hagain

/-! ### A default that is extended, a constant, and an empty object that is left out -/

def offersDocument : Json :=
  .object [("type", .string "object"),
    ("properties", .object [
      ("o", .object [("type", .string "object"),
        ("properties", .object [("n", .object [("type", .string "number")])]),
        ("default", .object [("x", .null)])]),
      ("e", .object [("type", .string "object")]),
      ("k", .object [("const", .string "a")])])]

def offersSchema : Schema where
  nodes := #[
    { kind := .object
      keywords := [.leaf (.types [.object]), .keyed .properties [("o", 1), ("e", 3), ("k", 4)]] },
    { kind := .object
      keywords := [.leaf (.types [.object]), .keyed .properties [("n", 2)],
        .leaf (.default (.object [("x", .null)]))]
      optional := true },
    { kind := .number, keywords := [.leaf (.types [.number])], optional := true },
    { kind := .object, keywords := [.leaf (.types [.object])], optional := true },
    { kind := .any, keywords := [.leaf (.const (.string "a"))], optional := true }]

theorem ofJson_offersDocument : ofJson offersDocument = .ok offersSchema := by
  with_unfolding_all rfl

theorem template_again_offers :
    let options : TemplateOptions := { withOptional := true }
    let w : Json := .object [("o", .object [("x", .null), ("n", .number .zero)]), ("k", .string "a")]
    offersDocument.keysDistinct = true ∧ ofJson offersDocument = .ok offersSchema ∧
      options.withOptional = true ∧ offersSchema.template none options = some w ∧
      offersSchema.template (some w) options = some w := by
  intro options w
  have hd : offersDocument.keysDistinct = true := by decide
  have htemplate : offersSchema.template none options = some w := by with_unfolding_all rfl
  exact ⟨hd, ofJson_offersDocument, rfl, htemplate,
    template_again _ _ hd ofJson_offersDocument none options rfl w htemplate⟩

end Schema

end JsonSchema
