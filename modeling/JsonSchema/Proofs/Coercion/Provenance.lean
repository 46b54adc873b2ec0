import JsonSchema.Proofs.Building.Everywhere
import JsonSchema.Proofs.Coercion.Loaded
import JsonSchema.Proofs.Coercion.Opening

/-!
# Where coerced values come from

All that a coercion gives is in its input: scalars are read as another type, text as the object that it
holds, and members are left out. Nothing is put in.
-/

namespace JsonSchema

open Loader

/-! ## Values and what they are converted to -/

/-- The second value says nothing that the first one does not say. -/
inductive Json.Converts : Json → Json → Prop where
  | null : Converts .null .null
  | bool (b : Bool) : Converts (.bool b) (.bool b)
  | number (n : Number) : Converts (.number n) (.number n)
  | numberText (n : Number) : Converts (.number n) (.string n.plainText)
  | numberBool {n : Number} {b : Bool} (h : (Json.number n).coerceToBoolean = .bool b) :
    Converts (.number n) (.bool b)
  | string (s : String) : Converts (.string s) (.string s)
  | textNumber {s : String} {n : Number} (h : numberOfText? s = some n) : Converts (.string s) (.number n)
  | textBool {s : String} {b : Bool} (h : (Json.string s).coerceToBoolean = .bool b) :
    Converts (.string s) (.bool b)
  | textObject {s : String} {ms out : Members} (parse : parse? s = some (.object ms))
    (inner : Converts (.object ms) (.object out)) : Converts (.string s) (.object out)
  | array {items items' : List Json} (length : items'.length = items.length)
    (inner : ∀ (i : Nat) x y, items[i]? = some x → items'[i]? = some y → Converts x y) :
    Converts (.array items) (.array items')
  | object {ms out : Members} (distinct : out.keys.Nodup) (keys : ∀ key ∈ out.keys, key ∈ ms.keys)
    (inner : ∀ key x y, ms.get? key = some x → out.get? key = some y → Converts x y) :
    Converts (.object ms) (.object out)

namespace Json

variable {v : Json}

theorem converts_self (hv : v.keysDistinct = true) : v.Converts v := by
  induction hsize : sizeOf v using Nat.strongRecOn generalizing v with | ind size ih
  subst hsize
  cases v with
  | null => exact .null
  | bool b => exact .bool b
  | number n => exact .number n
  | string s => exact .string s
  | array items =>
    refine .array rfl fun i x y hx hy => ?_
    rw [hx] at hy
    cases hy
    have hmem := List.mem_of_getElem? hx
    exact ih _ (sizeOf_lt_of_mem_items hmem) ((keysDistinct_array items).1 hv x hmem) rfl
  | object ms =>
    obtain ⟨hnodup, hvalues⟩ := (keysDistinct_object ms).1 hv
    refine .object hnodup (fun _ => id) fun key x y hx hy => ?_
    rw [hx] at hy
    cases hy
    have hmem := Members.mem_of_get?_eq_some ms key x hx
    exact ih _ (sizeOf_lt_of_mem_entries hmem) (hvalues _ hmem) rfl

theorem converts_coerceToString (hv : v.keysDistinct = true) : v.Converts v.coerceToString := by
  cases v with
  | number n => exact .numberText n
  | _ => exact converts_self hv

theorem converts_coerceToNumber (hv : v.keysDistinct = true) : v.Converts v.coerceToNumber := by
  cases v with
  | string s =>
    cases h : numberOfText? s with
    | none => rw [coerceToNumber, h]; exact .string s
    | some n => rw [coerceToNumber, h]; exact .textNumber h
  | _ => exact converts_self hv

theorem converts_coerceToBoolean (hv : v.keysDistinct = true) : v.Converts v.coerceToBoolean := by
  fun_cases coerceToBoolean v with
  | case1 n h => exact .numberBool (by rw [coerceToBoolean, if_pos h])
  | case2 n h h' => exact .numberBool (by rw [coerceToBoolean, if_neg h, if_pos h'])
  | case3 n => exact .number n
  | case4 | case5 | case6 | case7 => exact .textBool rfl
  | case8 => exact converts_self hv

end Json

/-! ## One node -/

namespace Coercion

/-- What comes of a conversion comes from its input. -/
def Faithful (convert : Json → Except SchemaError Json) : Prop :=
  ∀ v w, v.keysDistinct = true → convert v = .ok w → v.Converts w

theorem converts_of_openText {v : Json} {ms out : Members} (hopen : openText v = .object ms)
    (h : (Json.object ms).Converts (.object out)) : v.Converts (.object out) := by
  cases v with
  | string s => exact .textObject (openText_string.1 hopen) h
  | object => cases hopen; exact h
  | _ => cases hopen

variable {c : Context} {options : CoerceOptions} {convert : Convert} {hops : Nat} {n : Node}
  (hconvert : ∀ child, Faithful (convert child))
include hconvert

theorem faithful_convertBy (child? : Option NodeId) : Faithful (convertBy convert child?) := by
  cases child? with
  | some child => exact hconvert child
  | none =>
    rintro v _ hv ⟨⟩
    exact Json.converts_self hv

theorem converts_coerceMembers {input out : Members} (hv : (Json.object input).keysDistinct = true)
    (h : coerceMembers c options convert hops n input = .ok out) :
    (Json.object input).Converts (.object out) := by
  obtain ⟨hinput, hvalues⟩ := (Json.keysDistinct_object input).1 hv
  have hsource : ∀ key y, Members.get? out key = some y →
      ∃ x, Members.get? input key = some x ∧ x.Converts y := by
    intro key y hy
    have hdistinct : ∀ x, Members.get? input key = some x → x.keysDistinct = true := fun x hx =>
      hvalues _ (Members.mem_of_get?_eq_some input key x hx)
    rcases get?_coerceMembers hinput h hy with ⟨child, x, _, hx, hy⟩ | ⟨_, _, x, hx, rfl | hy⟩
    · exact ⟨x, hx, hconvert child x y (hdistinct x hx) hy⟩
    · exact ⟨_, hx, Json.converts_self (hdistinct _ hx)⟩
    · exact ⟨x, hx, faithful_convertBy hconvert _ x y (hdistinct x hx) hy⟩
  refine .object (nodup_keys_coerceMembers hinput h) (fun key hkey => ?_) fun key x y hx hy => ?_
  · obtain ⟨y, hy⟩ := (Members.mem_keys_iff out key).1 hkey
    obtain ⟨x, hx, _⟩ := hsource key y hy
    exact Members.mem_keys_of_get? hx
  · obtain ⟨x', hx', hconverts⟩ := hsource key y hy
    rw [hx] at hx'
    cases hx'
    exact hconverts

theorem faithful_coerceObject : Faithful (coerceObject c options convert hops n) := by
  intro v w hv hw
  have hopened := keysDistinct_openText hv
  rw [coerceObject_eq] at hw
  split at hw
  · next input hopen =>
    rw [hopen] at hopened
    obtain ⟨out, hout, rfl⟩ := Except.map_eq_ok_iff.1 hw
    exact converts_of_openText hopen (converts_coerceMembers hconvert hopened hout)
  · next hother =>
    cases hw
    rw [openText_eq_self hother]
    exact Json.converts_self hv

theorem faithful_coerceArray : Faithful (coerceArray convert n) := by
  intro v w hv hw
  cases v with
  | array items =>
    rw [coerceArray_eq] at hw
    obtain ⟨items', hmap, rfl⟩ := Except.map_eq_ok_iff.1 hw
    have hall := Except.mapM_eq_ok_iff.1 hmap
    have hlength := hall.length_eq
    rw [List.length_zipIdx] at hlength
    refine .array hlength.symm fun i x y hx hy => ?_
    have hzip : items.zipIdx[i]? = some (x, i) := by rw [List.getElem?_zipIdx, hx]; simp
    obtain ⟨y', hy', heach⟩ := getElem?_of_forall₂ hall hzip
    rw [hy] at hy'
    cases hy'
    exact faithful_convertBy hconvert _ x y
      ((Json.keysDistinct_array items).1 hv x (List.mem_of_getElem? hx)) heach
  | _ =>
    cases hw
    exact Json.converts_self hv

theorem faithful_byKind : Faithful (byKind c options convert hops n) := by
  unfold byKind
  cases n.kind with
  | string => rintro v _ hv ⟨⟩; exact Json.converts_coerceToString hv
  | number => rintro v _ hv ⟨⟩; exact Json.converts_coerceToNumber hv
  | integer => rintro v _ hv ⟨⟩; exact Json.converts_coerceToNumber hv
  | boolean => rintro v _ hv ⟨⟩; exact Json.converts_coerceToBoolean hv
  | object => exact faithful_coerceObject hconvert
  | array => exact faithful_coerceArray hconvert
  | _ => rintro v _ hv ⟨⟩; exact Json.converts_self hv

end Coercion

/-! ## Every node -/

/-- Links and references only hand the value on, so that all that counts is what the nodes do where it
comes to. -/
theorem Context.faithful_coerce {c : Context} (hhooks : c.schema.Everywhere fun n => n.hooks.coerce = none)
    (options : CoerceOptions) (hops : Nat) (id : NodeId) : Coercion.Faithful (c.coerce options hops id) := by
  induction hops, id using stage_induction (c := c) with
  | failed hops id e hstage =>
    intro v w _ hw
    rw [coerce_eq_stage, hstage] at hw
    cases hw
  | kept hops id hstage =>
    intro v w hv hw
    rw [coerce_eq_stage, hstage] at hw
    cases hw
    exact Json.converts_self hv
  | hooked hops id hook hstage =>
    obtain ⟨place, n, hn, hhook⟩ := stage_hooked hstage
    rw [hhooks place n hn] at hhook
    cases hhook
  | handed hops id reached target hstage ih =>
    intro v w hv hw
    rw [coerce_eq_stage, hstage] at hw
    exact ih v w hv hw
  | converted hops id reached place n hstage ih =>
    intro v w hv hw
    rw [coerce_eq_stage, hstage] at hw
    refine Coercion.faithful_byKind (fun child => ?_) v w hv hw
    by_cases hbelow : c.schema.Below place child
    · intro x y hx hy
      rw [convertBelow_of_below hbelow] at hy
      exact ih child hbelow x y hx hy
    · intro x y hx hy
      rw [convertBelow_of_not_below hbelow] at hy
      cases hy
      exact Json.converts_self hx

namespace Schema

/-- A coercion invents nothing. -/
theorem coerce_converts {s : Schema} (hhooks : s.Everywhere fun n => n.hooks.coerce = none)
    (shared : FormatRegistry) (id : NodeId) (options : CoerceOptions) {v w : Json}
    (hv : v.keysDistinct = true) (h : s.coerceAt shared id v options = .ok w) : v.Converts w :=
  Context.faithful_coerce (c := s.lenientContext shared) hhooks options 0 id v w hv h

/-! ### Flags inside flags -/

def flagsNode : Node where
  kind := .object
  keywords := [.leaf (.types [.object]), .keyed .properties [("on", 1), ("inner", 2)]]

def flagNode : Node where
  kind := .boolean
  keywords := [.leaf (.types [.boolean])]
  optional := true

def innerNode : Node where
  kind := .any
  keywords := [.leaf (.ref "#")]
  optional := true

/-- A flag, and more of the same. -/
def flagsSchema : Schema := ⟨#[flagsNode, flagNode, innerNode]⟩

section Flags

variable {c : Context} (hc : c.schema = flagsSchema) (hops : Nat)
include hc

theorem coerce_on (v : Json) :
    c.coerce {} hops root (.object [("on", v)]) = .ok (.object [("on", v.coerceToBoolean)]) := by
  have hnode : c.schema.node? root = some flagsNode := by rw [hc]; rfl
  have hflag : c.schema.node? 1 = some flagNode := by rw [hc]; rfl
  have hbelow : c.schema.Below root 1 := by rw [hc]; decide
  have hloose : Coercion.isStrict c.schema flagsNode = false := by rw [hc]; rfl
  have hon : c.coerce {} hops 1 v = .ok v.coerceToBoolean := by
    rw [Context.coerce_eq_stage, Context.stage_of_node hflag (by simp [flagNode])]
    rfl
  rw [Context.coerce_object hnode rfl rfl rfl, Coercion.coerceMembers, Coercion.keep, hloose]
  simp [flagsNode, Node.properties, Node.find?, Node.single?, Coercion.convertEntries, Members.get?,
    Context.convertBelow_of_below hbelow, hon, Coercion.admitsExtra, Members.insert]
  rfl

theorem coerce_inner (hindex : c.index = .ofSchema c.schema) (hlt : hops < maxHops) {v w : Json}
    (h : c.coerce {} (hops + 1) root v = .ok w) :
    c.coerce {} hops root (.object [("inner", v)]) = .ok (.object [("inner", w)]) := by
  have hnode : c.schema.node? root = some flagsNode := by rw [hc]; rfl
  have hinner : c.schema.node? 2 = some innerNode := by rw [hc]; rfl
  have hbelow : c.schema.Below root 2 := by rw [hc]; decide
  have hloose : Coercion.isStrict c.schema flagsNode = false := by rw [hc]; rfl
  have hresolve : c.index.resolve "#" = .ok root := by rw [hindex, hc]; with_unfolding_all rfl
  have hagain : c.coerce {} hops 2 v = .ok w := by
    rw [Context.coerce_eq_stage, Context.stage_of_node hinner (by simp [innerNode])]
    simp [innerNode, Node.reference?, Node.find?, hresolve, hlt, h]
  rw [Context.coerce_object hnode rfl rfl rfl, Coercion.coerceMembers, Coercion.keep, hloose]
  simp [flagsNode, Node.properties, Node.find?, Node.single?, Coercion.convertEntries, Members.get?,
    Context.convertBelow_of_below hbelow, hagain, Coercion.admitsExtra, Members.insert]
  rfl

end Flags

/-- A reference to the whole, and text that holds an object. -/
theorem coerce_converts_flags :
    flagsSchema.coerceAt .empty root (.object [("inner", .string "\x7b\"on\":\"1\"\x7d")]) =
        .ok (.object [("inner", .object [("on", .bool true)])]) ∧
      (Json.object [("inner", .string "\x7b\"on\":\"1\"\x7d")]).Converts
        (.object [("inner", .object [("on", .bool true)])]) := by
  have hhooks : flagsSchema.Everywhere fun n => n.hooks.coerce = none := by
    intro id n hn
    match id, hn with
    | 0, hn | 1, hn | 2, hn =>
      cases hn
      rfl
    | id + 3, hn => simp [node?, flagsSchema] at hn
  have hparse : Json.parse? "\x7b\"on\":\"1\"\x7d" = some (.object [("on", .string "1")]) := by
    with_unfolding_all rfl
  have hnode : flagsSchema.node? root = some flagsNode := rfl
  have hinner : (flagsSchema.lenientContext .empty).coerce {} 1 root (.string "\x7b\"on\":\"1\"\x7d") =
      .ok (.object [("on", .bool true)]) :=
    (Context.coerce_text hnode rfl rfl rfl hparse {} 1).trans (coerce_on rfl 1 _)
  have hcoerce := coerce_inner (c := flagsSchema.lenientContext .empty) rfl 0 rfl (by decide) hinner
  exact ⟨hcoerce, coerce_converts hhooks .empty root {} (by decide) hcoerce⟩

end Schema

end JsonSchema
