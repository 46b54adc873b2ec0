import JsonSchema.Proofs.Building.Tree
import JsonSchema.Proofs.Coercion.Idempotence
import JsonSchema.Proofs.Coercion.Shedding
import JsonSchema.Proofs.Comparison.Locality

/-!
# Coercing with a loaded schema

A coercion by a place that stands for a document comes only to such places, and meets no hooks. What it gives
stays as it is in a second coercion, and nothing of it is lost.
-/

namespace JsonSchema

open Loader

/-! ## Places -/

/-- The place stands for a document as it is read from a text. -/
def Schema.StandsAt (docs : List Json) (id : NodeId) : Prop :=
  ∃ here, docs[id]? = some here ∧ here.keysDistinct = true

namespace Context

/-- What comes at a place that stands for a document. -/
inductive Comes (c : Context) (docs : List Json) (hops : Nat) (id : NodeId) : Stage → Prop where
  | failed (e : SchemaError) : Comes c docs hops id (.failed e)
  | handed {target : NodeId} (stands : Schema.StandsAt docs target) :
    Comes c docs hops id (.handed (hops + 1) target)
  | converted {n : Node} (distinct : n.declaredKeys.Nodup)
    (children : ∀ child ∈ n.places, c.schema.Below id child ∧ Schema.StandsAt docs child) :
    Comes c docs hops id (.converted hops id n)

section Loaded

variable {c : Context} {docs : List Json} (hlabels : c.schema.Labels docs) {d : Json}
  (hd : d.keysDistinct = true) (hroot : docs[Schema.root]? = some d)
  (hindex : c.index = .ofSchema c.schema)
include hlabels hd hroot hindex

theorem comes_stage {id : NodeId} (hstands : Schema.StandsAt docs id) (hops : Nat) :
    c.Comes docs hops id (c.stage hops id) := by
  obtain ⟨here, hhere, hkeys⟩ := hstands
  obtain ⟨n, hn, hreads⟩ := hlabels.exists_reads hhere
  have hchildren : ∀ child ∈ n.places, c.schema.Below id child ∧ Schema.StandsAt docs child := by
    intro child hchild
    rw [← n.map_snd_children] at hchild
    obtain ⟨e, he, rfl⟩ := List.mem_map.1 hchild
    obtain ⟨there, hget, hbelow, hthere⟩ := hreads.get?_of_mem_children hkeys he
    exact ⟨hbelow, there, hthere, Json.keysDistinct_of_get? hkeys hget⟩
  cases hreads with
  | constant kind keywords hooks =>
    have href : n.reference? = none := by simp [Node.reference?, Node.find?, keywords]
    rw [stage_of_node hn (by simp [kind]), hooks, href]
    refine .converted ?_ hchildren
    simp [Node.declaredKeys, Node.properties, Node.find?, keywords]
  | object kind keywords hooks =>
    rw [stage_of_node hn (ne_of_kindOf kind).2.1, hooks]
    cases n.reference? with
    | none => exact .converted (Node.held_of_properties keywords hkeys).1 hchildren
    | some reference =>
      cases hresolve : c.index.resolve reference with
      | error e =>
        simp only [hresolve]
        exact .failed e
      | ok target =>
        have hmeant := hindex ▸ hresolve
        obtain ⟨there, _, hthere, hdistinct⟩ := hlabels.meant_eq hd hroot hmeant
        simp only [hresolve]
        split
        · exact .handed ⟨there, hthere, hdistinct⟩
        · exact .failed _

theorem of_stage_converted {hops reached : Nat} {id place : NodeId} {n : Node}
    (hstands : Schema.StandsAt docs id) (hstage : c.stage hops id = .converted reached place n) :
    reached = hops ∧ place = id ∧ n.declaredKeys.Nodup ∧
      ∀ child ∈ n.places, c.schema.Below id child ∧ Schema.StandsAt docs child := by
  have hcomes := comes_stage hlabels hd hroot hindex hstands hops
  rw [hstage] at hcomes
  cases hcomes with
  | converted distinct children => exact ⟨rfl, rfl, distinct, children⟩

theorem standsAt_of_handed {hops reached : Nat} {id target : NodeId} (hstands : Schema.StandsAt docs id)
    (hstage : c.stage hops id = .handed reached target) : Schema.StandsAt docs target := by
  have hcomes := comes_stage hlabels hd hroot hindex hstands hops
  rw [hstage] at hcomes
  cases hcomes with
  | handed stands => exact stands

/-- What holds of a place if it holds of the places that a coercion comes to next. -/
theorem loaded_induction {motive : Nat → NodeId → Prop}
    (failed : ∀ hops id e, c.stage hops id = .failed e → motive hops id)
    (handed : ∀ hops id reached target, c.stage hops id = .handed reached target →
      motive reached target → motive hops id)
    (converted : ∀ hops id n, c.stage hops id = .converted hops id n → n.declaredKeys.Nodup →
      (∀ child ∈ n.places, c.schema.Below id child ∧ motive hops child) → motive hops id)
    (hops : Nat) {id : NodeId} (hstands : Schema.StandsAt docs id) : motive hops id := by
  induction hops, id using stage_induction (c := c) with
  | failed hops id e hstage => exact failed hops id e hstage
  | kept hops id hstage =>
    have hcomes := comes_stage hlabels hd hroot hindex hstands hops
    rw [hstage] at hcomes
    cases hcomes
  | hooked hops id hook hstage =>
    have hcomes := comes_stage hlabels hd hroot hindex hstands hops
    rw [hstage] at hcomes
    cases hcomes
  | handed hops id reached target hstage ih =>
    exact handed hops id reached target hstage
      (ih (standsAt_of_handed hlabels hd hroot hindex hstands hstage))
  | converted hops id reached place n hstage ih =>
    obtain ⟨rfl, rfl, hdistinct, hchildren⟩ := of_stage_converted hlabels hd hroot hindex hstands hstage
    refine converted _ _ n hstage hdistinct fun child hchild => ?_
    obtain ⟨hbelow, hthere⟩ := hchildren child hchild
    exact ⟨hbelow, ih child hbelow hthere⟩

end Loaded

end Context

theorem Node.mem_places_of_slot? {n : Node} {i : Nat} {child : NodeId} (h : n.slot? i = some child) :
    child ∈ n.places := by
  rcases Option.or_eq_some_iff.1 h with hpositioned | ⟨_, hitems⟩
  · exact mem_places_of_prefixItems (List.mem_of_getElem? hpositioned)
  · exact mem_places_of_single? hitems

/-! ## Members -/

namespace Coercion

variable {c : Context} {options : CoerceOptions} {convert : Convert} {hops : Nat} {n : Node}
  {input out : Members}

theorem coerceMembers_eq_ok (h : coerceMembers c options convert hops n input = .ok out) :
    ∃ first, convertEntries convert input n.properties (keep c options n input) = .ok first ∧
      (out = first ∧ (options.dropUnknown = true ∨
          admitsExtra c hops (n.single? .additionalProperties) = .ok false) ∨
        options.dropUnknown = false ∧ admitsExtra c hops (n.single? .additionalProperties) = .ok true ∧
          ∃ converted : Members, List.Forall₂ (fun m m' => m.1 = m'.1 ∧
            convertBy convert (n.single? .additionalProperties) m.2 = .ok m'.2)
            (undeclared n input) converted ∧ out = first.insertAll converted) := by
  unfold coerceMembers at h
  obtain ⟨first, hfirst, h⟩ := Except.bind_eq_ok_iff.1 h
  refine ⟨first, hfirst, ?_⟩
  split at h
  · next hdrop =>
    cases h
    exact .inl ⟨rfl, .inl hdrop⟩
  · next hdrop =>
    obtain ⟨admits, hadmits, h⟩ := Except.bind_eq_ok_iff.1 h
    cases admits with
    | false =>
      cases h
      exact .inl ⟨rfl, .inr hadmits⟩
    | true => exact .inr ⟨Bool.eq_false_iff.2 hdrop, hadmits, convertExtra_eq_ok h⟩

theorem get?_first {first : Members}
    (hfirst : convertEntries convert input n.properties (keep c options n input) = .ok first)
    {key : String} {y : Json} (hkey : key ∈ n.declaredKeys) (hy : first.get? key = some y) :
    ∃ child x, (key, child) ∈ n.properties ∧ input.get? key = some x ∧ convert child x = .ok y := by
  rcases get?_convertEntries hfirst key with ⟨child, x, _, hlookup, hx, hconvert, hget⟩ | ⟨hnone, hget⟩
  · rw [hy] at hget
    cases hget
    exact ⟨child, x, List.mem_reverse.1 (mem_of_lookup hlookup), hx, hconvert⟩
  · rw [hy, get?_keep hkey] at hget
    rcases hnone with hnone | hnone
    · obtain ⟨e, he, rfl⟩ := List.mem_map.1 hkey
      simpa using List.lookup_eq_none_iff.1 hnone e (List.mem_reverse.2 he)
    · rw [hnone] at hget
      cases hget

/-- Each member is converted by the property for its key. If none is left out, the others are put back. -/
theorem get?_coerceMembers (hinput : input.keys.Nodup)
    (h : coerceMembers c options convert hops n input = .ok out) {key : String} {y : Json}
    (hy : out.get? key = some y) :
    (∃ child x, (key, child) ∈ n.properties ∧ input.get? key = some x ∧ convert child x = .ok y) ∨
      key ∉ n.declaredKeys ∧ ¬c.Drops options hops n ∧ ∃ x, input.get? key = some x ∧
        (x = y ∨ convertBy convert (n.single? .additionalProperties) x = .ok y) := by
  obtain ⟨first, hfirst, ⟨rfl, hcloses⟩ | ⟨hdrop, hadmits, converted, hall, rfl⟩⟩ :=
    coerceMembers_eq_ok h
  · by_cases hkey : key ∈ n.declaredKeys
    · exact .inl (get?_first hfirst hkey hy)
    · rw [get?_other hfirst hkey] at hy
      split at hy
      · cases hy
      · next hkeep =>
        simp only [Bool.or_eq_true, not_or] at hkeep
        refine .inr ⟨hkey, ?_, y, hy, .inl rfl⟩
        rintro (hdrop | ⟨hstrict, _⟩)
        · exact hkeep.1 hdrop
        · exact hkeep.2 hstrict
  · have hkeys := keys_eq_of_forall₂ hall
    have hnodup : converted.keys.Nodup := hkeys ▸ nodup_keys_undeclared hinput
    by_cases hkey : key ∈ n.declaredKeys
    · rw [get?_passes hkeys hkey] at hy
      exact .inl (get?_first hfirst hkey hy)
    · refine .inr ⟨hkey, ?_, ?_⟩
      · rintro (hunknown | ⟨_, hclosed⟩)
        · rw [hdrop] at hunknown
          cases hunknown
        · rw [hadmits] at hclosed
          cases hclosed
      · rw [Members.get?_insertAll (Members.get?_eq_some_of_mem converted hnodup)] at hy
        split at hy
        · next hmem =>
          obtain ⟨m', hm', heq, hconvert⟩ := exists_of_forall₂ hall.flip
            (Members.mem_of_get?_eq_some converted key y hy)
          obtain rfl : m'.1 = key := heq
          exact ⟨m'.2, Members.get?_eq_some_of_mem input hinput m' (mem_undeclared.1 hm').1, .inr hconvert⟩
        · rw [get?_other hfirst hkey] at hy
          split at hy
          · cases hy
          · exact ⟨y, hy, .inl rfl⟩

theorem nodup_keys_coerceMembers (hinput : input.keys.Nodup)
    (h : coerceMembers c options convert hops n input = .ok out) : out.keys.Nodup := by
  obtain ⟨first, hfirst, ⟨rfl, _⟩ | ⟨_, _, converted, _, rfl⟩⟩ := coerceMembers_eq_ok h
  · exact keys_entries hfirst ▸ nodup_keys_keep hinput
  · exact Members.nodup_keys_insertAll (keys_entries hfirst ▸ nodup_keys_keep hinput) converted

end Coercion

/-! ## Distinct keys -/

namespace Json

variable {v : Json}

theorem keysDistinct_coerceToString (h : v.keysDistinct = true) :
    v.coerceToString.keysDistinct = true := by
  cases v <;> first | rfl | exact h

theorem keysDistinct_coerceToNumber (h : v.keysDistinct = true) :
    v.coerceToNumber.keysDistinct = true := by
  cases v with
  | string s =>
    rw [coerceToNumber]
    cases numberOfText? s <;> rfl
  | _ => exact h

theorem keysDistinct_coerceToBoolean (h : v.keysDistinct = true) :
    v.coerceToBoolean.keysDistinct = true := by
  fun_cases coerceToBoolean v <;> first | rfl | exact h

end Json

namespace Coercion

/-- What a conversion gives is such as is read from a text if its input is. -/
def KeepsDistinct (convert : Json → Except SchemaError Json) : Prop :=
  ∀ v w, v.keysDistinct = true → convert v = .ok w → w.keysDistinct = true

variable {c : Context} {options : CoerceOptions} {convert : Convert} {hops : Nat} {n : Node}
  (hconvert : ∀ child, KeepsDistinct (convert child))
include hconvert

theorem keepsDistinct_convertBy (child? : Option NodeId) : KeepsDistinct (convertBy convert child?) := by
  cases child? with
  | some child => exact hconvert child
  | none =>
    rintro v _ hv ⟨⟩
    exact hv

theorem keepsDistinct_coerceObject : KeepsDistinct (coerceObject c options convert hops n) := by
  intro v w hv hw
  have hopened := keysDistinct_openText hv
  rw [coerceObject_eq] at hw
  split at hw
  · next input hopen =>
    obtain ⟨out, hout, rfl⟩ := Except.map_eq_ok_iff.1 hw
    rw [hopen] at hopened
    obtain ⟨hinput, hvalues⟩ := (Json.keysDistinct_object input).1 hopened
    have hnodup := nodup_keys_coerceMembers hinput hout
    refine (Json.keysDistinct_object out).2 ⟨hnodup, fun m hm => ?_⟩
    have hget := Members.get?_eq_some_of_mem out hnodup m hm
    have hx : ∀ x, Members.get? input m.1 = some x → x.keysDistinct = true := fun x hx =>
      hvalues _ (Members.mem_of_get?_eq_some input m.1 x hx)
    rcases get?_coerceMembers hinput hout hget with ⟨child, x, _, hmember, hm⟩ | ⟨_, _, x, hmember, hm⟩
    · exact hconvert child x _ (hx x hmember) hm
    · rcases hm with rfl | hm
      · exact hx _ hmember
      · exact keepsDistinct_convertBy hconvert _ x _ (hx x hmember) hm
  · cases hw
    exact hopened

theorem keepsDistinct_coerceArray : KeepsDistinct (coerceArray convert n) := by
  intro v w hv hw
  cases v with
  | array items =>
    rw [coerceArray_eq] at hw
    obtain ⟨items', hmap, rfl⟩ := Except.map_eq_ok_iff.1 hw
    refine (Json.keysDistinct_array items').2 fun y hy => ?_
    obtain ⟨e, he, heach⟩ := exists_of_forall₂ (Except.mapM_eq_ok_iff.1 hmap).flip hy
    have hitem : e.1 ∈ items := List.fst_mem_of_mem_zipIdx he
    exact keepsDistinct_convertBy hconvert _ e.1 y ((Json.keysDistinct_array items).1 hv _ hitem) heach
  | _ =>
    cases hw
    exact hv

theorem keepsDistinct_byKind : KeepsDistinct (byKind c options convert hops n) := by
  unfold byKind
  cases n.kind with
  | string => rintro v _ hv ⟨⟩; exact Json.keysDistinct_coerceToString hv
  | number => rintro v _ hv ⟨⟩; exact Json.keysDistinct_coerceToNumber hv
  | integer => rintro v _ hv ⟨⟩; exact Json.keysDistinct_coerceToNumber hv
  | boolean => rintro v _ hv ⟨⟩; exact Json.keysDistinct_coerceToBoolean hv
  | object => exact keepsDistinct_coerceObject hconvert
  | array => exact keepsDistinct_coerceArray hconvert
  | _ => rintro v _ hv ⟨⟩; exact hv

end Coercion

/-! ## Places of a loaded schema -/

namespace Context

section Loaded

variable {c : Context} {docs : List Json} (hlabels : c.schema.Labels docs) {d : Json}
  (hd : d.keysDistinct = true) (hroot : docs[Schema.root]? = some d)
  (hindex : c.index = .ofSchema c.schema) (options : CoerceOptions)
include hlabels hd hroot hindex

/-- How a node converts its children, for those that it holds. -/
def convertHeld (c : Context) (options : CoerceOptions) (hops : Nat) (n : Node) : Convert :=
  fun child v => if child ∈ n.places then c.coerce options hops child v else .ok v

omit hlabels hd hroot hindex in
theorem coerce_of_converted {hops : Nat} {id : NodeId} {n : Node}
    (hstage : c.stage hops id = .converted hops id n)
    (hbelow : ∀ child ∈ n.places, c.schema.Below id child) :
    c.coerce options hops id = Coercion.byKind c options (c.convertHeld options hops n) hops n := by
  funext v
  rw [coerce_eq_stage, hstage]
  refine Coercion.byKind_congr c c (fun child hchild v => ?_) (fun _ _ => rfl) (fun _ _ => rfl) v
  rw [convertBelow_of_below (hbelow child hchild), convertHeld, if_pos hchild]

omit hlabels hd hroot hindex in
theorem coerceMembers_of_fixed {hops : Nat} {id : NodeId} {n : Node} {ms : Members}
    (hstage : c.stage hops id = .converted hops id n) (hkind : n.kind = .object)
    (hbelow : ∀ child ∈ n.places, c.schema.Below id child)
    (h : c.coerce options hops id (.object ms) = .ok (.object ms)) :
    Coercion.coerceMembers c options (c.convertHeld options hops n) hops n ms = .ok ms := by
  rw [coerce_of_converted options hstage hbelow, Coercion.byKind_object hkind] at h
  obtain ⟨out, hout, heq⟩ := Except.map_eq_ok_iff.1 h
  cases heq
  exact hout

omit hlabels hd hroot hindex in
theorem forall_convertHeld {P : (Json → Except SchemaError Json) → Prop} (hsame : P .ok) {hops : Nat}
    {n : Node} (h : ∀ child ∈ n.places, P (c.coerce options hops child)) (child : NodeId) :
    P (c.convertHeld options hops n child) := by
  unfold convertHeld
  by_cases hchild : child ∈ n.places
  · simp only [if_pos hchild]
    exact h child hchild
  · simp only [if_neg hchild]
    exact hsame

theorem keepsDistinct_coerce (hops : Nat) {id : NodeId} (hstands : Schema.StandsAt docs id) :
    Coercion.KeepsDistinct (c.coerce options hops id) := by
  refine loaded_induction hlabels hd hroot hindex ?_ ?_ ?_ hops hstands
    (motive := fun hops id => Coercion.KeepsDistinct (c.coerce options hops id))
  · intro hops id e hstage v w _ hw
    rw [coerce_eq_stage, hstage] at hw
    cases hw
  · intro hops id reached target hstage ih v w hv hw
    rw [coerce_eq_stage, hstage] at hw
    exact ih v w hv hw
  · intro hops id n hstage _ hchildren
    rw [coerce_of_converted options hstage fun child hchild => (hchildren child hchild).1]
    refine Coercion.keepsDistinct_byKind (forall_convertHeld options ?_ fun child hchild =>
      (hchildren child hchild).2)
    rintro v _ hv ⟨⟩
    exact hv

/-- What a coercion gives is left as it is by a second one. -/
theorem settles_loaded (hops : Nat) {id : NodeId} (hstands : Schema.StandsAt docs id) :
    Settles False (c.coerce options hops id) := by
  refine loaded_induction hlabels hd hroot hindex ?_ ?_ ?_ hops hstands
    (motive := fun hops id => Settles False (c.coerce options hops id))
  · intro hops id e hstage v w _ hw
    rw [coerce_eq_stage, hstage] at hw
    cases hw
  · intro hops id reached target hstage ih
    have hsame : c.coerce options hops id = c.coerce options reached target := by
      funext v
      rw [coerce_eq_stage, hstage]
    rw [hsame]
    exact ih
  · intro hops id n hstage hdistinct hchildren
    rw [coerce_of_converted options hstage fun child hchild => (hchildren child hchild).1]
    exact Coercion.settles_byKind (forall_convertHeld options
      (settles_of_idempotent fun _ => rfl) fun child hchild => (hchildren child hchild).2)
      fun hrepeats => hrepeats hdistinct

/-- A value that a coercion leaves as it is loses nothing. -/
theorem not_loses_of_coerce_eq {hops : Nat} {id : NodeId} (hstands : Schema.StandsAt docs id) {v : Json}
    (hv : v.keysDistinct = true) (h : c.coerce options hops id v = .ok v) :
    ¬c.Loses options hops id v := by
  intro hloses
  -- The loss is followed down to the member that is left out; on the way every part is its own
  -- conversion.
  induction hloses with
  | @handed hops reached id target v stage inner ih =>
    rw [coerce_eq_stage, stage] at h
    exact ih (standsAt_of_handed hlabels hd hroot hindex hstands stage) hv h
  | @here hops reached id place n ms key stage kind drops member undeclared =>
    obtain ⟨rfl, rfl, -, hchildren⟩ := of_stage_converted hlabels hd hroot hindex hstands stage
    have hmembers := coerceMembers_of_fixed options stage kind (fun child hc => (hchildren child hc).1) h
    obtain ⟨x, hx⟩ := (Members.mem_keys_iff ms key).1 member
    rcases Coercion.get?_coerceMembers ((Json.keysDistinct_object ms).1 hv).1 hmembers hx with
      ⟨child, _, hproperty, _⟩ | ⟨_, hkeeps, _⟩
    · exact undeclared (List.mem_map_of_mem hproperty)
    · exact hkeeps drops
  | @property hops reached id place child n ms key x stage kind declared member inner ih =>
    obtain ⟨rfl, rfl, hdistinct, hchildren⟩ := of_stage_converted hlabels hd hroot hindex hstands stage
    have hmembers := coerceMembers_of_fixed options stage kind (fun child hc => (hchildren child hc).1) h
    obtain ⟨hnodup, hvalues⟩ := (Json.keysDistinct_object ms).1 hv
    have hchild := hchildren child (Node.mem_places_of_properties declared)
    rcases Coercion.get?_coerceMembers hnodup hmembers member with
      ⟨child', x', hproperty, hx', hconvert⟩ | ⟨undeclared, _⟩
    · have hsame := lookup_eq_some_of_mem hdistinct hproperty
      rw [lookup_eq_some_of_mem hdistinct declared] at hsame
      cases hsame
      rw [member] at hx'
      cases hx'
      rw [convertHeld, if_pos (Node.mem_places_of_properties declared)] at hconvert
      exact ih hchild.2 (hvalues _ (Members.mem_of_get?_eq_some ms key x member)) hconvert
    · exact undeclared (List.mem_map_of_mem declared)
  | @item hops reached id place child n items i x stage kind slot item inner ih =>
    obtain ⟨rfl, rfl, -, hchildren⟩ := of_stage_converted hlabels hd hroot hindex hstands stage
    rw [coerce_of_converted options stage fun child hc => (hchildren child hc).1, Coercion.byKind, kind] at h
    obtain ⟨items', hmap, heq⟩ := Except.map_eq_ok_iff.1 h
    cases heq
    have hzip : items.zipIdx[i]? = some (x, i) := by rw [List.getElem?_zipIdx, item]; simp
    obtain ⟨x', hx', hconvert⟩ := getElem?_of_forall₂ (Except.mapM_eq_ok_iff.1 hmap) hzip
    rw [item] at hx'
    cases hx'
    have hplace := Node.mem_places_of_slot? slot
    unfold Node.slot? at slot
    simp only [slot, convertHeld, if_pos hplace] at hconvert
    exact ih (hchildren child hplace).2 ((Json.keysDistinct_array items).1 hv x (List.mem_of_getElem? item))
      hconvert

end Loaded

end Context

end JsonSchema
