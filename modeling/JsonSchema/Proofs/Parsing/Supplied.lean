import JsonSchema.Proofs.Parsing.Holding
import JsonSchema.Proofs.Parsing.Offers

/-!
# What parsing leaves of a value

Parsing adds members to what is supplied. A value is taken away only where a node declares a constant: then
the constant stands in its place.
-/

namespace JsonSchema

open Loader

namespace Json

/-- What stands in a value at the end of a path of keys. -/
def under? : Json → List String → Option Json
  | v, [] => some v
  | .object ms, key :: path => (Members.get? ms key).bind (·.under? path)
  | _, _ :: _ => none

theorem under?_cons {v x : Json} {key : String} {path : List String}
    (h : v.under? (key :: path) = some x) :
    ∃ ms child, v = .object ms ∧ Members.get? ms key = some child ∧ child.under? path = some x := by
  cases v with
  | object ms =>
    obtain ⟨child, hchild, hx⟩ := Option.bind_eq_some_iff.1 h
    exact ⟨ms, child, rfl, hchild, hx⟩
  | _ => cases h

theorem under?_member {ms : Members} {child : Json} {key : String} (h : ms.get? key = some child)
    (path : List String) : (Json.object ms).under? (key :: path) = child.under? path := by
  rw [under?, h, Option.bind_some]

end Json

namespace Schema

/-- The node for the end of a path of keys, by way of properties. -/
def fieldUnder (s : Schema) : Option NodeId → List String → Option NodeId
  | id?, [] => id?
  | id?, key :: path => s.fieldUnder ((s.fieldsAt id?).lookup key) path

mutual

/-- The value itself, or an object with all its members, each in turn with what is put in there, and with new
members for properties of the node only. -/
inductive Extends (s : Schema) : Option NodeId → Json → Json → Prop where
  | same {id? : Option NodeId} (v : Json) : Extends s id? v v
  | members {id? : Option NodeId} {ms out : Members}
    (kept : ∀ key x, ms.get? key = some x → ∃ y, out.get? key = some y)
    (below : ∀ key x y, ms.get? key = some x → out.get? key = some y →
      Completes s ((s.fieldsAt id?).lookup key) x y)
    (new : ∀ key y, ms.get? key = none → out.get? key = some y → key ∈ (s.fieldsAt id?).map (·.1)) :
    Extends s id? (.object ms) (.object out)

/-- The value is extended, or the constant that the node declares is, in the place of another value. -/
inductive Completes (s : Schema) : Option NodeId → Json → Json → Prop where
  | given {id? : Option NodeId} {v w : Json} (extended : Extends s id? v w) : Completes s id? v w
  | constant {id? : Option NodeId} {v fixed w : Json} (constant : s.constAt? id? = some fixed)
    (other : v ≠ fixed) (extended : Extends s id? fixed w) : Completes s id? v w

end

/-- The node for the end of the path declares a constant, and something else stands there in the value. -/
def Overrides (s : Schema) (id? : Option NodeId) (v : Json) (path : List String) (fixed : Json) : Prop :=
  s.constAt? (s.fieldUnder id? path) = some fixed ∧ ∃ x, v.under? path = some x ∧ x ≠ fixed

section Completion

variable {s : Schema} {options : TemplateOptions} {id? : Option NodeId} (hid : ∀ id ∈ id?, s.Fillable id)
  {nested : Bool} {v w : Json}
include hid

/-- What is given stays, or gets its members, or a constant stands in its place. -/
theorem complete_given_cases (hw : s.complete options nested id? (some v) = some w) :
    w = v ∨ w = s.extended options id? v ∨
      ∃ fixed, s.constAt? id? = some fixed ∧ v ≠ fixed ∧ w = s.extended options id? fixed := by
  by_cases hgiven : s.constAt? id? = none ∨ s.constAt? id? = some v
  · rw [complete_of_given hid hgiven] at hw
    exact .inr (.inl (Option.some.inj hw).symm)
  · obtain ⟨hconst, hother⟩ := not_or.1 hgiven
    obtain ⟨fixed, hfixed⟩ := Option.ne_none_iff_exists'.1 hconst
    rcases complete_of_const hid hfixed nested with hplaced | hkept
    · rw [hplaced] at hw
      exact .inr (.inr ⟨fixed, hfixed, fun h => hother (h ▸ hfixed), (Option.some.inj hw).symm⟩)
    · rw [hkept] at hw
      exact .inl (Option.some.inj hw).symm

end Completion

/-- What filling in puts in the place of a value. -/
theorem completes_of_complete {s : Schema} {options : TemplateOptions} {id? : Option NodeId}
    (hid : ∀ id ∈ id?, s.Fillable id) {nested : Bool} {v w : Json}
    (hw : s.complete options nested id? (some v) = some w) : s.Completes id? v w := by
  refine fillable_induction (motive := fun id? => ∀ nested v w,
    s.complete options nested id? (some v) = some w → s.Completes id? v w) ?_ hid nested v w hw
  intro id? hid ih nested v w hw
  have hextended : ∀ v, s.Extends id? v (s.extended options id? v) := by
    intro v
    cases v with
    | object ms =>
      refine .members (fun key x hx => ?_) (fun key x y hx hy => ?_) fun key y hx hy => ?_
      · rw [get?_completeMembers hid, hx]
        exact complete_some ..
      · rw [get?_completeMembers hid, hx] at hy
        cases hchild : (s.fieldsAt id?).lookup key with
        | some child => exact ih _ (mem_of_lookup hchild) true x y (hchild ▸ hy)
        | none =>
          rw [hchild] at hy
          cases hy
          exact .given (.same x)
      · rw [get?_completeMembers hid, hx] at hy
        cases hchild : (s.fieldsAt id?).lookup key with
        | some child => exact List.mem_map_of_mem (mem_of_lookup hchild)
        | none =>
          rw [hchild] at hy
          cases hy
    | _ => exact .same _
  rcases complete_given_cases hid hw with rfl | rfl | ⟨fixed, hconst, hother, rfl⟩
  · exact .given (.same w)
  · exact .given (hextended v)
  · exact .constant hconst hother (hextended fixed)

/-- What is found at the end of a path is there, extended at most, unless a constant takes the place of it or of
something that holds it. -/
theorem Completes.under? {s : Schema} {id? : Option NodeId} {v w x : Json} {path : List String}
    (h : s.Completes id? v w) (hx : v.under? path = some x) :
    (∃ y, w.under? path = some y ∧ s.Extends (s.fieldUnder id? path) x y) ∨
      ∃ start fixed, start <+: path ∧ s.Overrides id? v start fixed ∧
        ∃ y, w.under? start = some y ∧ s.Extends (s.fieldUnder id? start) fixed y := by
  induction path generalizing id? v w with
  | nil =>
    obtain rfl : v = x := Option.some.inj hx
    cases h with
    | given h => exact .inl ⟨w, rfl, h⟩
    | constant hconst hother h =>
      exact .inr ⟨[], _, List.nil_prefix, ⟨hconst, v, rfl, hother⟩, w, rfl, h⟩
  | cons key path ih =>
    cases h with
    | constant hconst hother h =>
      exact .inr ⟨[], _, List.nil_prefix, ⟨hconst, v, rfl, hother⟩, w, rfl, h⟩
    | given h =>
      obtain ⟨ms, child, rfl, hchild, hx⟩ := Json.under?_cons hx
      cases h with
      | same => exact .inl ⟨x, (Json.under?_member hchild path).trans hx, .same x⟩
      | members kept below new =>
        obtain ⟨filled, hfilled⟩ := kept key child hchild
        refine (ih (below key child filled hchild hfilled) hx).imp ?_ ?_
        · rintro ⟨y, hy, hextends⟩
          exact ⟨y, (Json.under?_member hfilled path).trans hy, hextends⟩
        · rintro ⟨start, fixed, hprefix, ⟨hconst, z, hz, hother⟩, y, hy, hextends⟩
          exact ⟨key :: start, fixed, List.cons_prefix_cons.2 ⟨rfl, hprefix⟩,
            ⟨hconst, z, (Json.under?_member hchild start).trans hz, hother⟩, y,
            (Json.under?_member hfilled start).trans hy, hextends⟩

/-! ## The theorem -/

/-- What is found in the supplied value at the end of a path of keys is found there in the parsed value: an
object with new members for properties at most, and anything else unchanged. Where it is not, a node declares a
constant for the end of the path or of a part of it; something else was supplied there, and the constant stands in
its place, with new members for properties at most if it is an object. -/
theorem supplied_stays {d : Json} {s : Schema} (hd : d.keysDistinct = true) (h : ofJson d = .ok s)
    (shared : FormatRegistry) (v : Json) (options : ParseOptions) (w : Json)
    (hw : s.parse shared v options = .ok w) :
    ∃ c, s.supplied shared v options = .ok c ∧ ∀ path x, c.under? path = some x →
      (∃ y, w.under? path = some y ∧ s.Extends (s.fieldUnder (some root) path) x y) ∨
        options.withDefaults = true ∧ ∃ start fixed, start <+: path ∧
          s.Overrides (some root) c start fixed ∧
          ∃ y, w.under? start = some y ∧ s.Extends (s.fieldUnder (some root) start) fixed y := by
  obtain ⟨docs, hlabels, hroot⟩ := loads_of_load d [] s hd h
  have hid : ∀ id ∈ some root, s.Fillable id := fillable_root hd hlabels hroot
  obtain ⟨c, hc, rfl, -⟩ := parse_eq_ok hd h hw
  refine ⟨c, hc, fun path x hx => ?_⟩
  cases hdefaults : options.withDefaults with
  | false =>
    rw [completed_of_not_filled hdefaults]
    exact .inl ⟨x, hx, .same x⟩
  | true =>
    have hfilled := completes_of_complete hid (complete_root (s := s) hdefaults c)
    exact (hfilled.under? hx).imp_right fun hoverridden => ⟨rfl, hoverridden⟩

/-! ### A property with a constant -/

def fixedDocument : Json :=
  .object [("type", .string "object"), ("properties", .object [("a", .object [("const", .bool true)])])]

def fixingNode : Node where
  kind := .object
  keywords := [.leaf (.types [.object]), .keyed .properties [("a", 1)]]

def fixedNode : Node where
  kind := .any
  keywords := [.leaf (.const (.bool true))]
  optional := true

theorem standsAlone_fixedNode : fixedNode.StandsAlone := ⟨nofun, nofun, nofun, rfl, rfl, rfl⟩

def fixingSchema : Schema := ⟨#[fixingNode, fixedNode]⟩

theorem ofJson_fixedDocument : ofJson fixedDocument = .ok fixingSchema := by
  with_unfolding_all rfl

theorem holder_fixingSchema : Holder fixingSchema "a" := ⟨rfl, by decide⟩

theorem coerceAt_fixedNode (options : CoerceOptions) (x : Json) :
    fixingSchema.coerceAt .empty 1 x options = .ok x := by
  have hstage : (fixingSchema.lenientContext .empty).stage 0 1 = .converted 0 1 fixedNode :=
    Context.stage_of_node (n := fixedNode) rfl (by simp [fixedNode]) 0
  rw [coerceAt, Context.coerce_eq_stage, hstage]
  rfl

theorem coerce_fixingSchema (x : Json) :
    fixingSchema.coerce .empty (.object [("a", x)]) = .ok (.object [("a", x)]) := by
  have hheld := holder_fixingSchema.coerce_held .empty {} x
  rwa [coerceAt_fixedNode] at hheld

theorem complete_fixedNode (x : Json) (options : ParseOptions) :
    fixingSchema.complete options.forTemplate true (some 1) (some x) = some (.bool true) := by
  have halone := standsAlone_fixedNode
  rw [complete_at, templateFrom_other (n := fixedNode) rfl rfl (.inl rfl) (by simp [fixedNode]) halone.link
    halone.hole fun accepts h => absurd h (halone.constant accepts)]
  rfl

theorem check_fixedNode : (judging fixingSchema).check 0 1 (some (.bool true)) (inside "a") = .ok [] := by
  rw [Context.check_of_standsAlone (n := fixedNode) rfl standsAlone_fixedNode]
  rfl

theorem parse_fixingSchema (x : Json) :
    fixingSchema.parse .empty (.object [("a", x)]) = .ok (.object [("a", .bool true)]) := by
  have hparse : fixingSchema.parse .empty (held "a" x) =
      fixingSchema.admitted .empty (held "a" (.bool true)) :=
    holder_fixingSchema.parse_held (by decide) ofJson_fixedDocument rfl rfl (coerceAt_fixedNode _ x)
      (complete_fixedNode x _)
  rwa [holder_fixingSchema.admitted_held check_fixedNode] at hparse

theorem supplied_stays_fixed :
    let v : Json := .object [("a", .bool false)]
    let w : Json := .object [("a", .bool true)]
    let options : ParseOptions := {}
    fixedDocument.keysDistinct = true ∧ ofJson fixedDocument = .ok fixingSchema ∧
      fixingSchema.parse .empty v options = .ok w ∧
      ∃ c, fixingSchema.supplied .empty v options = .ok c ∧ ∀ path x, c.under? path = some x →
        (∃ y, w.under? path = some y ∧
          fixingSchema.Extends (fixingSchema.fieldUnder (some root) path) x y) ∨
          options.withDefaults = true ∧ ∃ start fixed, start <+: path ∧
            fixingSchema.Overrides (some root) c start fixed ∧ ∃ y, w.under? start = some y ∧
              fixingSchema.Extends (fixingSchema.fieldUnder (some root) start) fixed y := by
  intro v w options
  have hd : fixedDocument.keysDistinct = true := by decide
  exact ⟨hd, ofJson_fixedDocument, parse_fixingSchema _,
    supplied_stays hd ofJson_fixedDocument .empty v options w (parse_fixingSchema _)⟩

/-- What is supplied for `a` is forbidden, and is replaced. -/
theorem supplied_overridden :
    ∃ d s v c w x, d.keysDistinct = true ∧ ofJson d = .ok s ∧ s.parse .empty v = .ok w ∧
      s.supplied .empty v {} = .ok c ∧ c.under? ["a"] = some x ∧ (∀ ms, x ≠ .object ms) ∧
      w.under? ["a"] ≠ some x := by
  refine ⟨fixedDocument, fixingSchema, .object [("a", .bool false)], .object [("a", .bool false)],
    .object [("a", .bool true)], .bool false, by decide, ofJson_fixedDocument, parse_fixingSchema _,
    coerce_fixingSchema _, rfl, nofun, ?_⟩
  intro h
  cases h

end Schema

end JsonSchema
