import JsonSchema.Proofs.Coercion.Acceptance
import JsonSchema.Proofs.Parsing.Preparation

/-!
# An object with one property

Parsing an object that may hold one member, by what its schema does with that member: what it offers in its
place, how it converts it and how it judges it.
-/

namespace JsonSchema

open Loader

namespace Schema

def holderDocument (key : String) (inner : Json) : Json :=
  .object [("type", .string "object"), ("properties", .object [(key, inner)])]

def holderNode (key : String) : Node where
  kind := .object
  keywords := [.leaf (.types [.object]), .keyed .properties [(key, 1)]]

def held (key : String) (v : Json) : Json := .object [(key, v)]

theorem standsAlone_holderNode (key : String) : (holderNode key).StandsAlone :=
  ⟨nofun, nofun, nofun, rfl, rfl, rfl⟩

/-- The root is an object with one property. -/
structure Holder (s : Schema) (key : String) : Prop where
  node : s.node? root = some (holderNode key)
  below : s.Below root 1

/-- The context in which prepared values are judged. -/
def judging (s : Schema) : Context := s.context .empty { shortCircuit := true, ignoreUnsupported := true }

/-- Where the value of the property stands. -/
def inside (key : String) : Location := ⟨[.key "properties", .key key], [.key key]⟩

namespace Holder

variable {s : Schema} {key : String}

theorem get?_held (v : Json) : Members.get? [(key, v)] key = some v := by simp [Members.get?]

theorem insert_held (v w : Json) : Members.insert [(key, v)] key w = [(key, w)] := by
  simp [Members.insert]

theorem keep_eq (c : Context) (options : CoerceOptions) {ms : Members}
    (hms : ms = [] ∨ ∃ v, ms = [(key, v)]) : Coercion.keep c options (holderNode key) ms = ms := by
  have hproperties : (holderNode key).properties = [(key, 1)] := rfl
  unfold Coercion.keep Coercion.declaredMembers
  split
  · rcases hms with rfl | ⟨v, rfl⟩
    · rfl
    · rw [hproperties, List.filterMap_cons, get?_held]
      rfl
  · rfl

variable (h : Holder s key)
include h

theorem coerce_nil (shared : FormatRegistry) (options : CoerceOptions) :
    s.coerce shared (.object []) options = .ok (.object []) := by
  change (s.lenientContext shared).coerce options 0 root _ = _
  rw [Context.coerce_object (n := holderNode key) h.node rfl rfl rfl, Coercion.coerceMembers,
    keep_eq _ options (.inl rfl)]
  obtain ⟨_ | _⟩ := options <;> rfl

theorem coerce_held (shared : FormatRegistry) (options : CoerceOptions) (v : Json) :
    s.coerce shared (held key v) options = (s.coerceAt shared 1 v options).map (held key) := by
  have hentries : Coercion.convertEntries ((s.lenientContext shared).convertBelow options 0 root) [(key, v)]
      (holderNode key).properties [(key, v)] = (s.coerceAt shared 1 v options).map fun w => [(key, w)] := by
    change Coercion.convertEntries _ _ [(key, 1)] _ = _
    rw [Coercion.convertEntries, get?_held]
    dsimp only
    rw [Context.convertBelow_of_below h.below]
    change (s.coerceAt shared 1 v options >>= _) = _
    cases s.coerceAt shared 1 v options with
    | error e => rfl
    | ok w => exact congrArg Except.ok (insert_held v w)
  have hundeclared : Coercion.undeclared (holderNode key) [(key, v)] = [] := by
    simp [Coercion.undeclared, holderNode, Node.properties, Node.find?]
  change (s.lenientContext shared).coerce options 0 root _ = _
  rw [held, Context.coerce_object (n := holderNode key) h.node rfl rfl rfl, Coercion.coerceMembers,
    keep_eq _ options (.inr ⟨v, rfl⟩), hentries, hundeclared]
  obtain ⟨_ | _⟩ := options <;> cases s.coerceAt shared 1 v _ <;> rfl

theorem completed_object {options : ParseOptions} (hdefaults : options.withDefaults = true) (base : Members) :
    s.completed options (.object base) =
      .object (Template.put (s.templateFrom options.forTemplate true) base base (key, 1)) := by
  have hbelow : ∀ e ∈ (holderNode key).properties, s.Below root e.2 := List.forall_mem_singleton.2 h.below
  have hmembers : s.completeMembers options.forTemplate (some root) base =
      Template.put (s.templateFrom options.forTemplate true) base base (key, 1) := by
    rw [completeMembers, fieldsAt, Option.bind_some, h.node]
    rfl
  have hchosen : (holderNode key).chosen? options.forTemplate (some (.object base)) =
      some (.object base) := rfl
  rw [completed, if_pos hdefaults, complete_at, templateFrom_object h.node rfl (.inl rfl) rfl hbelow, hchosen,
    ← hmembers]
  simp [Template.fillObject.finish]

theorem check_held (v : Json) :
    (judging s).check 0 root (some (held key v)) ⟨[], []⟩ = (judging s).check 0 1 (some v) (inside key) := by
  have hlookup : [(key, (1 : NodeId))].lookup key = some 1 := List.lookup_cons_self
  have hproperties : Keyword.checkProperties ((judging s).judgeBelow 0 root) [(key, 1)] [(key, v)] ⟨[], []⟩ =
      (judging s).check 0 1 (some v) (inside key) := by
    rw [Keyword.checkProperties, Outcome.ofFirst, hlookup]
    dsimp only
    rw [Context.judgeBelow_of_below h.below]
    change ((judging s).check 0 1 (some v) (inside key) >>= _) = _
    cases (judging s).check 0 1 (some v) (inside key) with
    | error e => rfl
    | ok found => cases found <;> rfl
  rw [Context.check_of_standsAlone (c := judging s) h.node (standsAlone_holderNode key)]
  change Outcome.ofAll _ _ [_, _] = _
  rw [Outcome.ofAll_cons_of_pass (by rfl), Outcome.ofAll_singleton]
  exact hproperties

theorem admitted_held {v : Json} (hv : (judging s).check 0 1 (some v) (inside key) = .ok []) :
    s.admitted .empty (held key v) = .ok (held key v) := by
  rw [admitted, validate, validateAt_eq_judged]
  change (((judging s).check 0 root _ _).map _).mapError _ >>= _ = _
  rw [h.check_held, hv]
  rfl

theorem admitted_held_error {v : Json} {e : SchemaError}
    (hv : (judging s).check 0 1 (some v) (inside key) = .error e) :
    s.admitted .empty (held key v) = .error (.schema e) := by
  rw [admitted, validate, validateAt_eq_judged]
  change (((judging s).check 0 root _ _).map _).mapError _ >>= _ = _
  rw [h.check_held, hv]
  rfl

section Parsing

variable {d : Json} (hd : d.keysDistinct = true) (hs : ofJson d = .ok s) {options : ParseOptions}
  (hcoerce : options.coerce = true) (hdefaults : options.withDefaults = true)
include hd hs hcoerce hdefaults

theorem parse_nil {v : Json} (hoffered : s.templateFrom options.forTemplate true 1 none = some v)
    (hv : (judging s).check 0 1 (some v) (inside key) = .ok []) :
    s.parse .empty (.object []) options = .ok (held key v) := by
  have hsupplied : s.supplied .empty (.object []) options = .ok (.object []) := by
    rw [supplied_of_coerce hcoerce, h.coerce_nil]
  have hget : Members.get? [] key = none := rfl
  rw [parse_of_supplied hd hs hsupplied, h.completed_object hdefaults, Template.put, hget, hoffered]
  exact h.admitted_held hv

theorem parse_held {v w filled : Json} (hw : s.coerceAt .empty 1 v options.forCoercion = .ok w)
    (hfilled : s.complete options.forTemplate true (some 1) (some w) = some filled) :
    s.parse .empty (held key v) options = s.admitted .empty (held key filled) := by
  have hsupplied : s.supplied .empty (held key v) options = .ok (held key w) := by
    rw [supplied_of_coerce hcoerce, h.coerce_held, hw]
    rfl
  rw [parse_of_supplied hd hs hsupplied, held, h.completed_object hdefaults, Template.put, get?_held]
  rw [complete_at] at hfilled
  cases hoffered : s.templateFrom options.forTemplate true 1 (some w) with
  | none =>
    rw [hoffered] at hfilled
    cases hfilled
    rfl
  | some offered =>
    rw [hoffered] at hfilled
    cases hfilled
    dsimp only
    rw [insert_held]
    rfl

omit hdefaults in
theorem parse_held_error {v : Json} {e : SchemaError}
    (he : s.coerceAt .empty 1 v options.forCoercion = .error e) :
    s.parse .empty (held key v) options = .error (.schema e) := by
  refine parse_of_supplied_error hd hs ?_
  rw [supplied_of_coerce hcoerce, h.coerce_held, he]
  rfl

end Parsing

end Holder

end Schema

end JsonSchema
