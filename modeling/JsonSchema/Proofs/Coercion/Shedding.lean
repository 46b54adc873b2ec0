import JsonSchema.Proofs.Coercion.Acceptance
import JsonSchema.Proofs.Coercion.Members
import JsonSchema.Proofs.Places.References
import Mathlib.Data.List.Nodup

/-!
# What a coercion leaves out

The coercion of an accepted value keeps all of it, up to the order of members, but for members that an
object does not declare: these are left out if that is wanted, or if the object declares properties, requires
them all, and does not take null for the others.
-/

namespace JsonSchema

open Loader

/-- The same value up to the order of the members of objects. -/
inductive Json.Reorders : Json → Json → Prop where
  | same (v : Json) : Reorders v v
  | array {items items' : List Json} (length : items.length = items'.length)
    (inner : ∀ (i : Nat) x y, items[i]? = some x → items'[i]? = some y → Reorders x y) :
    Reorders (.array items) (.array items')
  | object {ms out : Members} (keys : out.keys.Perm ms.keys)
    (inner : ∀ key x y, ms.get? key = some x → out.get? key = some y → Reorders x y) :
    Reorders (.object ms) (.object out)

namespace Context

/-- The node declares properties, requires them all, and admits no other members. -/
def Closes (c : Context) (hops : Nat) (n : Node) : Prop :=
  Coercion.isStrict c.schema n = true ∧
    Coercion.admitsExtra c hops (n.single? .additionalProperties) = .ok false

/-- Members that the node does not declare are left out. -/
def Drops (c : Context) (options : CoerceOptions) (hops : Nat) (n : Node) : Prop :=
  options.dropUnknown = true ∨ c.Closes hops n

/-- The second value is the first as the node at the place leaves it: members that are not declared may
be left out, and nothing else is lost. -/
inductive Sheds (c : Context) (options : CoerceOptions) : Nat → NodeId → Json → Json → Prop where
  | same {hops reached : Nat} {id place : NodeId} {n : Node}
    (stage : c.stage hops id = .converted reached place n) (object : n.kind ≠ .object)
    (array : n.kind ≠ .array) (v : Json) : Sheds c options hops id v v
  | handed {hops reached : Nat} {id target : NodeId} {v w : Json}
    (stage : c.stage hops id = .handed reached target) (inner : Sheds c options reached target v w) :
    Sheds c options hops id v w
  | array {hops reached : Nat} {id place : NodeId} {n : Node} {items items' : List Json}
    (stage : c.stage hops id = .converted reached place n) (kind : n.kind = .array)
    (length : items.length = items'.length)
    (inner : ∀ (i : Nat) x y child, items[i]? = some x → items'[i]? = some y → n.slot? i = some child →
      Sheds c options reached child x y)
    (rest : ∀ i : Nat, n.slot? i = none → items'[i]? = items[i]?) :
    Sheds c options hops id (.array items) (.array items')
  | object {hops reached : Nat} {id place : NodeId} {n : Node} {ms out : Members}
    (stage : c.stage hops id = .converted reached place n) (kind : n.kind = .object)
    (distinct : out.keys.Nodup)
    (declared : ∀ key ∈ n.declaredKeys, key ∈ out.keys ↔ key ∈ ms.keys)
    (inner : ∀ key child x y, (key, child) ∈ n.properties → ms.get? key = some x →
      out.get? key = some y → Sheds c options reached child x y)
    (kept : ¬c.Drops options reached n → ∀ key ∉ n.declaredKeys, out.get? key = ms.get? key)
    (lost : c.Drops options reached n → ∀ key ∉ n.declaredKeys, key ∉ out.keys) :
    Sheds c options hops id (.object ms) (.object out)

/-- In the value is an object with a member that the node there leaves out. -/
inductive Loses (c : Context) (options : CoerceOptions) : Nat → NodeId → Json → Prop where
  | here {hops reached : Nat} {id place : NodeId} {n : Node} {ms : Members} {key : String}
    (stage : c.stage hops id = .converted reached place n) (kind : n.kind = .object)
    (drops : c.Drops options reached n) (member : key ∈ ms.keys) (undeclared : key ∉ n.declaredKeys) :
    Loses c options hops id (.object ms)
  | handed {hops reached : Nat} {id target : NodeId} {v : Json}
    (stage : c.stage hops id = .handed reached target) (inner : Loses c options reached target v) :
    Loses c options hops id v
  | property {hops reached : Nat} {id place child : NodeId} {n : Node} {ms : Members} {key : String}
    {x : Json} (stage : c.stage hops id = .converted reached place n) (kind : n.kind = .object)
    (declared : (key, child) ∈ n.properties) (member : ms.get? key = some x)
    (inner : Loses c options reached child x) : Loses c options hops id (.object ms)
  | item {hops reached : Nat} {id place child : NodeId} {n : Node} {items : List Json} {i : Nat}
    {x : Json} (stage : c.stage hops id = .converted reached place n) (kind : n.kind = .array)
    (slot : n.slot? i = some child) (item : items[i]? = some x)
    (inner : Loses c options reached child x) : Loses c options hops id (.array items)

/-- Where nothing is left out, only the order of members changes. -/
theorem Sheds.reorders {c : Context} {options : CoerceOptions} {hops : Nat} {id : NodeId} {v w : Json}
    (hv : v.keysDistinct = true) (h : c.Sheds options hops id v w)
    (hkeeps : ¬c.Loses options hops id v) : v.Reorders w := by
  induction h with
  | same stage object array v => exact .same v
  | handed stage inner ih => exact ih hv fun hloses => hkeeps (.handed stage hloses)
  | @array hops reached id place n items items' stage kind length inner rest ih =>
    have hitems := (Json.keysDistinct_array items).1 hv
    refine .array length fun i x y hx hy => ?_
    cases hslot : n.slot? i with
    | some child =>
      exact ih i x y child hx hy hslot (hitems x (List.mem_of_getElem? hx))
        fun hloses => hkeeps (.item stage kind hslot hx hloses)
    | none =>
      rw [rest i hslot, hx] at hy
      cases hy
      exact .same x
  | @object hops reached id place n ms out stage kind distinct declared inner kept lost ih =>
    obtain ⟨hnodup, hvalues⟩ := (Json.keysDistinct_object ms).1 hv
    have hother : ∀ key ∉ n.declaredKeys, out.get? key = ms.get? key := by
      intro key hkey
      by_cases hdrops : c.Drops options reached n
      · have hms : key ∉ ms.keys := fun hmem => hkeeps (.here stage kind hdrops hmem hkey)
        rw [Members.get?_eq_none_of_not_mem _ _ hms,
          Members.get?_eq_none_of_not_mem _ _ (lost hdrops key hkey)]
      · exact kept hdrops key hkey
    have hmem : ∀ key, key ∈ out.keys ↔ key ∈ ms.keys := by
      intro key
      by_cases hkey : key ∈ n.declaredKeys
      · exact declared key hkey
      · rw [Members.mem_keys_iff, Members.mem_keys_iff, hother key hkey]
    refine .object ((List.perm_ext_iff_of_nodup distinct hnodup).2 hmem) fun key x y hx hy => ?_
    by_cases hkey : key ∈ n.declaredKeys
    · obtain ⟨e, he, rfl⟩ := List.mem_map.1 hkey
      exact ih e.1 e.2 x y he hx hy (hvalues _ (Members.mem_of_get?_eq_some ms e.1 x hx))
        fun hloses => hkeeps (.property stage kind he hx hloses)
    · rw [hother key hkey, hx] at hy
      cases hy
      exact .same x

end Context

/-! ## Along the coercion of an accepted value -/

namespace Context

/-- The keywords read what the node holds, and no object in that has a key twice. -/
def ReadsBelow (c : Context) (docs : List Json) (id : NodeId) (ms : Members) (n : Node) : Prop :=
  List.Forall₂ (Keyword.Reads fun child e => c.schema.Held docs id child e ∧ e.keysDistinct = true) ms
    n.keywords

section Accepted

variable {c cv : Context} {docs : List Json} (hlabels : c.schema.Labels docs) {d : Json}
  (hd : d.keysDistinct = true) (hroot : docs[Schema.root]? = some d)
  (hindex : c.index = .ofSchema c.schema) (hschema : cv.schema = c.schema)
  (hsame : cv.index = c.index)
include hlabels hd hroot hindex hschema hsame

/-- Along the coercion of an accepted value a constant keeps the value, a reference hands it on, and any other
node converts what its keywords have passed. The value may be accepted in a context of its own. -/
theorem accepted_induction {motive : Nat → NodeId → Json → Prop}
    (constant : ∀ hops id n v, c.stage hops id = .converted hops id n → n.kind = .constant true →
      motive hops id v)
    (handed : ∀ hops id target v, c.stage hops id = .handed (hops + 1) target →
      motive (hops + 1) target v → motive hops id v)
    (converted : ∀ hops id ms n v at_, c.stage hops id = .converted hops id n →
      (Json.object ms).keysDistinct = true → kindOf ms = .ok n.kind → c.ReadsBelow docs id ms n →
      v.keysDistinct = true →
      (∀ k ∈ n.keywords, k.check cv (cv.judgeBelow hops id) hops n v at_ = .ok []) →
      (∀ child x inner, (∃ e, c.schema.Held docs id child e ∧ e.keysDistinct = true) →
        x.keysDistinct = true → cv.judgeBelow hops id child x inner = .ok [] →
        c.schema.Below id child ∧ motive hops child x) → motive hops id v)
    (hops : Nat) (id : NodeId) :
    ∀ here, docs[id]? = some here → here.keysDistinct = true → ∀ v at_, v.keysDistinct = true →
      cv.check hops id (some v) at_ = .ok [] → motive hops id v := by
  have hlabels' : cv.schema.Labels docs := hschema ▸ hlabels
  -- A node that accepts the value is at a stage that its part of the document allows.
  have hstages : ∀ {hops id here v at_}, docs[id]? = some here → cv.check hops id (some v) at_ = .ok [] →
      Accepted cv docs hops id v at_ here (c.stage hops id) :=
    accepted_stage hlabels' c hschema.symm hsame.symm
  induction hops, id using stage_induction (c := c) with
  | failed hops id e hstage =>
    intro here hhere _ v at_ _ h
    have haccepted := hstages hhere h
    rw [hstage] at haccepted
    cases haccepted
  | kept hops id hstage =>
    intro here hhere _ v at_ _ h
    have haccepted := hstages hhere h
    rw [hstage] at haccepted
    cases haccepted
  | hooked hops id hook hstage =>
    intro here hhere _ v at_ _ h
    have haccepted := hstages hhere h
    rw [hstage] at haccepted
    cases haccepted
  | handed hops id reached target hstage ih =>
    intro here hhere _ v at_ hv h
    have haccepted := hstages hhere h
    rw [hstage] at haccepted
    cases haccepted with
    | handed resolve check =>
      rw [hsame, hindex] at resolve
      obtain ⟨there, _, hthere, hkeys⟩ := hlabels.meant_eq hd hroot resolve
      exact handed hops id target v hstage (ih there hthere hkeys v _ hv check)
  | converted hops id reached place n hstage ih =>
    intro here hhere hkeys v at_ hv h
    have haccepted := hstages hhere h
    rw [hstage] at haccepted
    cases haccepted with
    | constant kind => exact constant hops id n v hstage kind
    | @converted ms n kind node reads pass =>
      have hvalues := ((Json.keysDistinct_object ms).1 hkeys).2
      have hreads : c.ReadsBelow docs id ms n := by
        refine Keyword.forall₂_reads_and (hschema ▸ reads) fun m hm e he => ?_
        exact keysDistinct_of_mem_parts (hvalues m hm) he
      refine converted hops id ms n v at_ hstage hkeys kind hreads hv pass ?_
      rintro child x inner ⟨e, ⟨hbelow, he⟩, hdistinct⟩ hx hjudge
      rw [judgeBelow_of_below (hschema ▸ hbelow)] at hjudge
      exact ⟨hbelow, ih child hbelow e he hdistinct x inner hx hjudge⟩

end Accepted

section Null

variable {c : Context} {docs : List Json} (hlabels : c.schema.Labels docs) {d : Json}
  (hd : d.keysDistinct = true) (hroot : docs[Schema.root]? = some d)
  (hindex : c.index = .ofSchema c.schema)
include hlabels hd hroot hindex

/-- A node that accepts null takes every value as it is. -/
theorem coerce_of_null (options : CoerceOptions) (hops : Nat) (id : NodeId) (here : Json)
    (hhere : docs[id]? = some here) (hkeys : here.keysDistinct = true) (at_ : Location)
    (h : c.check hops id (some .null) at_ = .ok []) (v : Json) : c.coerce options hops id v = .ok v := by
  refine accepted_induction (motive := fun hops id x => x = .null → ∀ v, c.coerce options hops id v = .ok v)
    hlabels hd hroot hindex rfl rfl ?_ ?_ ?_ hops id here hhere hkeys .null at_ rfl h rfl v
  · intro hops id n _ hstage hkind _ v
    rw [coerce_eq_stage, hstage]
    simp only [Coercion.byKind, hkind]
  · intro hops id target _ hstage ih hnull v
    rw [coerce_eq_stage, hstage]
    exact ih hnull v
  · rintro hops id ms n _ at_ hstage _ hkind hreads _ hpass _ rfl v
    have haccepts : ∀ t, n.kind = .ofType t → t.accepts .null = true :=
      fun t ht => Node.accepts_of_pass hreads hkind hpass ht
    rw [coerce_eq_stage, hstage]
    unfold Coercion.byKind
    dsimp only
    split
    · next hkind => exact absurd (haccepts .string hkind) (by decide)
    · next hkind => exact absurd (haccepts .number hkind) (by decide)
    · next hkind => exact absurd (haccepts .integer hkind) (by decide)
    · next hkind => exact absurd (haccepts .boolean hkind) (by decide)
    · next hkind => exact absurd (haccepts .object hkind) (by decide)
    · next hkind => exact absurd (haccepts .array hkind) (by decide)
    · rfl

end Null

end Context

/-! ## The parts of an accepted value -/

namespace Node

variable {R : NodeId → Json → Prop} {ms : Members} {n : Node}

theorem held_of_properties (h : List.Forall₂ (Keyword.Reads R) ms n.keywords)
    (hkeys : (Json.object ms).keysDistinct = true) :
    n.declaredKeys.Nodup ∧ ∀ e ∈ n.properties, ∃ d, R e.2 d := by
  cases hproperties : n.properties with
  | nil => exact ⟨by simp [declaredKeys, hproperties], fun e he => absurd he List.not_mem_nil⟩
  | cons e entries =>
    have hmem := mem_keywords_of_properties (n := n) (e := e) (by rw [hproperties]; simp)
    obtain ⟨m, hm, hreads⟩ := exists_of_forall₂ h.flip hmem
    obtain ⟨_, hvalues⟩ := (Json.keysDistinct_object ms).1 hkeys
    rw [← hproperties]
    cases hreads with
    | @keyed name ds slot _ role held =>
      have hds := ((Json.keysDistinct_object ds).1 (hvalues _ hm)).1
      have hdeclared : n.declaredKeys = ds.keys := keys_of_forall₂ held
      refine ⟨hdeclared ▸ hds, fun e he => ?_⟩
      obtain ⟨m', _, _, hR⟩ := exists_of_forall₂ held he
      exact ⟨m'.2, hR⟩

theorem held_of_slot? (h : List.Forall₂ (Keyword.Reads R) ms n.keywords) {i : Nat} {child : NodeId}
    (hslot : n.slot? i = some child) : ∃ d, R child d := by
  unfold slot? at hslot
  rcases Option.or_eq_some_iff.1 hslot with hpositioned | ⟨_, hitems⟩
  · obtain ⟨m, _, hreads⟩ := exists_of_forall₂ h.flip (mem_keywords_of_prefixItems hpositioned)
    cases hreads with
    | listed role held =>
      obtain ⟨d, _, hR⟩ := getElem?_of_forall₂ held hpositioned
      exact ⟨d, hR⟩
  · obtain ⟨m, _, hreads⟩ := exists_of_forall₂ h.flip (mem_keywords_of_single? hitems)
    cases hreads with
    | single role held => exact ⟨_, held⟩

variable {c : Context} {judge : Judge} {hops : Nat} {at_ : Location}

theorem judged_property {vs : Members} {key : String} {child : NodeId} {x : Json}
    (hpass : ∀ k ∈ n.keywords, k.check c judge hops n (.object vs) at_ = .ok [])
    (hnodup : n.declaredKeys.Nodup) (he : (key, child) ∈ n.properties) (hx : vs.get? key = some x) :
    ∃ inner, judge child x inner = .ok [] := by
  have hcheck := hpass _ (mem_keywords_of_properties he)
  have hmember := Outcome.eq_pass_of_ofFirst hcheck _ (Members.mem_of_get?_eq_some vs key x hx)
  dsimp only at hmember
  rw [lookup_eq_some_of_mem hnodup he] at hmember
  exact ⟨_, hmember⟩

theorem judged_slot {items : List Json} {i : Nat} {child : NodeId} {x : Json}
    (hpass : ∀ k ∈ n.keywords, k.check c judge hops n (.array items) at_ = .ok [])
    (hslot : n.slot? i = some child) (hx : items[i]? = some x) :
    ∃ inner, judge child x inner = .ok [] := by
  unfold slot? at hslot
  rcases Option.or_eq_some_iff.1 hslot with hpositioned | ⟨hnone, hitems⟩
  · have hcheck := hpass _ (mem_keywords_of_prefixItems hpositioned)
    have hmem : ((child, x), i) ∈ (n.prefixItems.zip items).zipIdx := by
      rw [List.mem_zipIdx_iff_getElem?, List.getElem?_zip_eq_some]
      exact ⟨hpositioned, hx⟩
    exact ⟨_, Outcome.eq_pass_of_ofFirst hcheck _ hmem⟩
  · have hcheck := hpass _ (mem_keywords_of_single? hitems)
    have hle : n.prefixItems.length ≤ i := List.getElem?_eq_none_iff.1 hnone
    have hmem : (x, i) ∈ items.zipIdx.drop n.prefixItems.length := by
      refine List.mem_iff_getElem?.2 ⟨i - n.prefixItems.length, ?_⟩
      rw [List.getElem?_drop, Nat.add_sub_of_le hle, List.getElem?_zipIdx, hx]
      simp
    exact ⟨_, Outcome.eq_pass_of_ofFirst hcheck _ hmem⟩

end Node

/-! ## One node -/

namespace InstanceType

theorem eq_object_of_accepts {v : Json} (h : object.accepts v = true) : ∃ ms, v = .object ms := by
  cases v with
  | object ms => exact ⟨ms, rfl⟩
  | _ => cases h

theorem eq_array_of_accepts {v : Json} (h : array.accepts v = true) : ∃ items, v = .array items := by
  cases v with
  | array items => exact ⟨items, rfl⟩
  | _ => cases h

end InstanceType

namespace Context

/-- Asking some node's schema for other members about null fails. -/
def ProbeFails (c : Context) (e : SchemaError) : Prop :=
  ∃ hops id n, c.schema.node? id = some n ∧ n.kind = .object ∧
    Coercion.admitsExtra c hops (n.single? .additionalProperties) = .error e

/-- What is left of the members of an object. -/
structure Left (c : Context) (options : CoerceOptions) (hops : Nat) (n : Node) (ms out : Members) :
    Prop where
  distinct : out.keys.Nodup
  declared : ∀ key ∈ n.declaredKeys, key ∈ out.keys ↔ key ∈ ms.keys
  inner : ∀ key child x y, (key, child) ∈ n.properties → ms.get? key = some x →
    out.get? key = some y → c.Sheds options hops child x y
  kept : ¬c.Drops options hops n → ∀ key ∉ n.declaredKeys, out.get? key = ms.get? key
  lost : c.Drops options hops n → ∀ key ∉ n.declaredKeys, key ∉ out.keys

/-- The coercion of the value leaves at most members out, or a question about null fails. -/
def Curtailed (c : Context) (options : CoerceOptions) (hops : Nat) (id : NodeId) (v : Json) : Prop :=
  (∃ e, c.coerce options hops id v = .error e ∧ c.ProbeFails e) ∨
    ∃ w, c.coerce options hops id v = .ok w ∧ c.Sheds options hops id v w

theorem Curtailed.sheds {c : Context} {options : CoerceOptions} {hops : Nat} {id : NodeId} {v w : Json}
    (h : c.Curtailed options hops id v) (hw : c.coerce options hops id v = .ok w) :
    c.Sheds options hops id v w := by
  rcases h with ⟨e, he, _⟩ | ⟨w', hw', hsheds⟩
  · rw [hw] at he
    cases he
  · rw [hw] at hw'
    cases hw'
    exact hsheds

theorem Curtailed.probeFails {c : Context} {options : CoerceOptions} {hops : Nat} {id : NodeId} {v : Json}
    {e : SchemaError} (h : c.Curtailed options hops id v) (he : c.coerce options hops id v = .error e) :
    c.ProbeFails e := by
  rcases h with ⟨e', he', hprobe⟩ | ⟨w, hw, _⟩
  · rw [he] at he'
    cases he'
    exact hprobe
  · rw [he] at hw
    cases hw

end Context

namespace Coercion

theorem mapM_error {f : α → Except SchemaError β} {as : List α} {e : SchemaError}
    (h : as.mapM f = .error e) : ∃ a ∈ as, f a = .error e := by
  induction as with
  | nil => cases h
  | cons a as ih =>
    rw [List.mapM_cons] at h
    cases ha : f a with
    | error e' =>
      rw [ha] at h
      cases h
      exact ⟨a, List.mem_cons_self, ha⟩
    | ok b =>
      rw [ha] at h
      cases has : as.mapM f with
      | error e' =>
        rw [has] at h
        cases h
        obtain ⟨a', hmem, ha'⟩ := ih has
        exact ⟨a', List.mem_cons_of_mem _ hmem, ha'⟩
      | ok bs =>
        rw [has] at h
        cases h

variable {c : Context} {options : CoerceOptions} {hops : Nat} {id : NodeId} {n : Node}

theorem byKind_of_accepts {convert : Convert} {v : Json}
    (h : ∀ t, n.kind = .ofType t → t.accepts v = true) (hobject : n.kind ≠ .object)
    (harray : n.kind ≠ .array) : byKind c options convert hops n v = .ok v := by
  unfold byKind
  cases hkind : n.kind with
  | string =>
    have := h .string hkind
    cases v <;> simp_all [InstanceType.accepts, Json.coerceToString]
  | number =>
    have := h .number hkind
    cases v <;> simp_all [InstanceType.accepts, Json.coerceToNumber]
  | integer =>
    have := h .integer hkind
    cases v <;> simp_all [InstanceType.accepts, Json.isInteger, Json.coerceToNumber]
  | boolean =>
    have := h .boolean hkind
    cases v <;> simp_all [InstanceType.accepts, Json.coerceToBoolean]
  | object => exact absurd hkind hobject
  | array => exact absurd hkind harray
  | _ => rfl

theorem coerceArray_curtailed {items : List Json}
    (hchild : ∀ (i : Nat) x child, items[i]? = some x → n.slot? i = some child →
      c.schema.Below id child ∧ c.Curtailed options hops child x) :
    (∃ e, coerceArray (c.convertBelow options hops id) n (.array items) = .error e ∧ c.ProbeFails e) ∨
      ∃ items', coerceArray (c.convertBelow options hops id) n (.array items) = .ok (.array items') ∧
        items.length = items'.length ∧
        (∀ (i : Nat) x y child, items[i]? = some x → items'[i]? = some y → n.slot? i = some child →
          c.Sheds options hops child x y) ∧
        ∀ i : Nat, n.slot? i = none → items'[i]? = items[i]? := by
  rw [coerceArray_eq]
  cases hmap : items.zipIdx.mapM fun e : Json × Nat =>
      convertBy (c.convertBelow options hops id) (n.slot? e.2) e.1 with
  | error e =>
    obtain ⟨⟨x, i⟩, hmem, hfails⟩ := mapM_error hmap
    have hx := List.mem_zipIdx_iff_getElem?.1 hmem
    refine .inl ⟨e, rfl, ?_⟩
    dsimp only at hfails
    cases hslot : n.slot? i with
    | none =>
      rw [hslot] at hfails
      cases hfails
    | some child =>
      obtain ⟨hbelow, hcurtailed⟩ := hchild i x child hx hslot
      rw [hslot, convertBy, Context.convertBelow_of_below hbelow] at hfails
      exact hcurtailed.probeFails hfails
  | ok items' =>
    have hall := Except.mapM_eq_ok_iff.1 hmap
    have hlength := hall.length_eq
    rw [List.length_zipIdx] at hlength
    refine .inr ⟨items', rfl, hlength, ?_, ?_⟩
    · intro i x y child hx hy hslot
      have hzip : items.zipIdx[i]? = some (x, i) := by rw [List.getElem?_zipIdx, hx]; simp
      obtain ⟨y', hy', hconvert⟩ := getElem?_of_forall₂ hall hzip
      rw [hy] at hy'
      cases hy'
      obtain ⟨hbelow, hcurtailed⟩ := hchild i x child hx hslot
      simp only [hslot, convertBy, Context.convertBelow_of_below hbelow] at hconvert
      exact hcurtailed.sheds hconvert
    · intro i hslot
      cases hx : items[i]? with
      | none =>
        rw [List.getElem?_eq_none_iff] at hx ⊢
        omega
      | some x =>
        have hzip : items.zipIdx[i]? = some (x, i) := by rw [List.getElem?_zipIdx, hx]; simp
        obtain ⟨y', hy', hconvert⟩ := getElem?_of_forall₂ hall hzip
        simp only [hslot, convertBy] at hconvert
        cases hconvert
        exact hy'

theorem get?_putBack {convert : Convert} {vs out : Members} (hvs : vs.keys.Nodup)
    (hout : convertEntries convert vs n.properties (keep c options n vs) = .ok out) {key : String}
    (hkey : key ∉ n.declaredKeys) : (out.insertAll (undeclared n vs)).get? key = vs.get? key := by
  have hagree : ∀ m ∈ undeclared n vs, vs.get? m.1 = some m.2 := fun m hm =>
    Members.get?_eq_some_of_mem vs hvs m (mem_undeclared.1 hm).1
  rw [Members.get?_insertAll hagree]
  split
  · rfl
  · next hnew =>
    have hnone : vs.get? key = none := by
      refine Members.get?_eq_none_of_not_mem vs key fun hmem => hnew ?_
      obtain ⟨m, hm, rfl⟩ := List.mem_map.1 hmem
      exact List.mem_map_of_mem (mem_undeclared.2 ⟨hm, hkey⟩)
    rw [get?_other hout hkey, hnone, ite_self]

section Members

variable {vs out : Members} (hvs : vs.keys.Nodup) (hnodup : n.declaredKeys.Nodup)
  (hchild : ∀ key child x, (key, child) ∈ n.properties → vs.get? key = some x →
    c.schema.Below id child ∧ c.Curtailed options hops child x)
include hchild

theorem convertEntries_fails {e : SchemaError} {kept : Members}
    (h : convertEntries (c.convertBelow options hops id) vs n.properties kept = .error e) :
    c.ProbeFails e := by
  obtain ⟨⟨key, child⟩, he, x, hx, hfails⟩ := convertEntries_error h
  obtain ⟨hbelow, hcurtailed⟩ := hchild key child x he hx
  rw [Context.convertBelow_of_below hbelow] at hfails
  exact hcurtailed.probeFails hfails

variable (hout : convertEntries (c.convertBelow options hops id) vs n.properties (keep c options n vs) = .ok out)
include hnodup hout

theorem sheds_declared {key : String} {child : NodeId} {x y : Json}
    (he : (key, child) ∈ n.properties) (hx : vs.get? key = some x) (hy : out.get? key = some y) :
    c.Sheds options hops child x y := by
  -- Declared once, the property that counts last is the only one.
  have hlookup : n.properties.reverse.lookup key = some child := by
    refine lookup_eq_some_of_mem ?_ (List.mem_reverse.2 he)
    rw [List.map_reverse]
    exact List.nodup_reverse.2 hnodup
  rcases get?_convertEntries hout key with ⟨id', x', y', hid', hx', hconvert, hy'⟩ | ⟨hnone, _⟩
  · rw [hlookup] at hid'
    rw [hx] at hx'
    rw [hy] at hy'
    cases hid'
    cases hx'
    cases hy'
    obtain ⟨hbelow, hcurtailed⟩ := hchild key child x he hx
    rw [Context.convertBelow_of_below hbelow] at hconvert
    exact hcurtailed.sheds hconvert
  · rcases hnone with hnone | hnone
    · rw [hlookup] at hnone
      cases hnone
    · rw [hx] at hnone
      cases hnone

include hvs

theorem left_of_dropped (hadmits : options.dropUnknown = true ∨
      admitsExtra c hops (n.single? .additionalProperties) = .ok false) :
    c.Left options hops n vs out where
  distinct := keys_entries hout ▸ nodup_keys_keep hvs
  declared key hkey := by rw [keys_entries hout, mem_keys_keep hkey]
  inner key child x y he hx hy := sheds_declared hnodup hchild hout he hx hy
  kept hopen key hkey := by
    rw [get?_other hout hkey, if_neg]
    intro hkeep
    rcases Bool.or_eq_true_iff.1 hkeep with hunknown | hstrict
    · exact hopen (.inl hunknown)
    · exact hopen (hadmits.imp_right fun hadmits => ⟨hstrict, hadmits⟩)
  lost hdrops key hkey := by
    have hkeep := Bool.or_eq_true_iff.2 (hdrops.imp_right And.left)
    rw [Members.mem_keys_iff, get?_other hout hkey, if_pos hkeep]
    simp

theorem left_of_admitted (hunknown : options.dropUnknown = false)
    (hadmits : admitsExtra c hops (n.single? .additionalProperties) = .ok true) :
    c.Left options hops n vs (out.insertAll (undeclared n vs)) := by
  have hsame : ∀ key ∈ n.declaredKeys,
      (out.insertAll (undeclared n vs)).get? key = out.get? key := by
    intro key hkey
    refine Members.get?_insertAll_of_not_mem (fun hmem => ?_) out
    obtain ⟨m, hm, rfl⟩ := List.mem_map.1 hmem
    exact (mem_undeclared.1 hm).2 hkey
  refine ⟨Members.nodup_keys_insertAll (keys_entries hout ▸ nodup_keys_keep hvs) _, ?_, ?_, ?_, ?_⟩
  · intro key hkey
    rw [Members.mem_keys_iff, hsame key hkey, ← Members.mem_keys_iff, keys_entries hout,
      mem_keys_keep hkey]
  · intro key child x y he hx hy
    rw [hsame key (List.mem_map_of_mem he)] at hy
    exact sheds_declared hnodup hchild hout he hx hy
  · intro _ key hkey
    exact get?_putBack hvs hout hkey
  · rintro (hdrop | ⟨_, hclosed⟩)
    · rw [hunknown] at hdrop
      cases hdrop
    · rw [hadmits] at hclosed
      cases hclosed

omit hout in
theorem coerceMembers_curtailed (hnode : c.schema.node? id = some n) (hkind : n.kind = .object)
    (hnull : ∀ child, n.single? .additionalProperties = some child →
      c.check hops child (some .null) .root = .ok [] →
      ∀ v, c.convertBelow options hops id child v = .ok v) :
    (∃ e, coerceMembers c options (c.convertBelow options hops id) hops n vs = .error e ∧ c.ProbeFails e) ∨
      ∃ final, coerceMembers c options (c.convertBelow options hops id) hops n vs = .ok final ∧
        c.Left options hops n vs final := by
  unfold coerceMembers
  cases hout : convertEntries (c.convertBelow options hops id) vs n.properties (keep c options n vs) with
  | error e => exact .inl ⟨e, rfl, convertEntries_fails hchild hout⟩
  | ok out =>
    rw [Except.ok_bind]
    by_cases hunknown : options.dropUnknown = true
    · rw [if_pos hunknown]
      exact .inr ⟨out, rfl, left_of_dropped hvs hnodup hchild hout (.inl hunknown)⟩
    · rw [if_neg hunknown]
      dsimp only
      cases hadmits : admitsExtra c hops (n.single? .additionalProperties) with
      | error e => exact .inl ⟨e, rfl, hops, id, n, hnode, hkind, hadmits⟩
      | ok admits =>
        cases admits with
        | false => exact .inr ⟨out, rfl, left_of_dropped hvs hnodup hchild hout (.inr hadmits)⟩
        | true =>
          -- Who admits other members accepts null, and so takes them as they are.
          have hextra : ∀ m ∈ undeclared n vs,
              convertBy (c.convertBelow options hops id) (n.single? .additionalProperties) m.2 =
                .ok m.2 := by
            intro m _
            cases hsingle : n.single? .additionalProperties with
            | none => rfl
            | some child =>
              rw [hsingle] at hadmits
              obtain ⟨found, hfound, hempty⟩ := Except.map_eq_ok_iff.1 hadmits
              rw [List.isEmpty_iff.1 hempty] at hfound
              exact hnull child hsingle hfound m.2
          have hleft := left_of_admitted hvs hnodup hchild hout (Bool.eq_false_iff.2 hunknown) hadmits
          exact .inr ⟨_, convertExtra_of_same hextra out, hleft⟩

end Members

end Coercion

/-! ## Every node -/

namespace Context

variable {c cv : Context} {docs : List Json} (hlabels : c.schema.Labels docs) {d : Json}
  (hd : d.keysDistinct = true) (hroot : docs[Schema.root]? = some d)
  (hindex : c.index = .ofSchema c.schema)

section Converted

variable {options : CoerceOptions} {hops : Nat} {id : NodeId} {ms : Members} {n : Node} {at_ : Location}
  (hstage : c.stage hops id = .converted hops id n) (hreads : c.ReadsBelow docs id ms n)
  (hchild : ∀ child x inner, (∃ e, c.schema.Held docs id child e ∧ e.keysDistinct = true) →
    x.keysDistinct = true → cv.judgeBelow hops id child x inner = .ok [] →
    c.schema.Below id child ∧ c.Curtailed options hops child x)
include hstage hreads hchild

include hlabels hd hroot hindex in
theorem curtailed_object {vs : Members} (hobject : n.kind = .object)
    (hkeys : (Json.object ms).keysDistinct = true) (hv : (Json.object vs).keysDistinct = true)
    (hpass : ∀ k ∈ n.keywords, k.check cv (cv.judgeBelow hops id) hops n (.object vs) at_ = .ok []) :
    c.Curtailed options hops id (.object vs) := by
  obtain ⟨hvs, hinner⟩ := (Json.keysDistinct_object vs).1 hv
  obtain ⟨hnodup, hheld⟩ := Node.held_of_properties hreads hkeys
  have hproperty : ∀ key child x, (key, child) ∈ n.properties → Members.get? vs key = some x →
      c.schema.Below id child ∧ c.Curtailed options hops child x := by
    intro key child x he hx
    obtain ⟨inner, hjudge⟩ := Node.judged_property hpass hnodup he hx
    have hmem := Members.mem_of_get?_eq_some vs key x hx
    exact hchild child x inner (hheld _ he) (hinner _ hmem) hjudge
  have hnull : ∀ child, n.single? .additionalProperties = some child →
      c.check hops child (some .null) .root = .ok [] →
      ∀ v, c.convertBelow options hops id child v = .ok v := by
    intro child hsingle hcheck v
    obtain ⟨m, _, hread⟩ := exists_of_forall₂ hreads.flip (Node.mem_keywords_of_single? hsingle)
    cases hread with
    | single role held =>
      obtain ⟨⟨hbelow, he⟩, hkeys⟩ := held
      rw [convertBelow_of_below hbelow]
      exact coerce_of_null hlabels hd hroot hindex options hops child _ he hkeys _ hcheck v
  unfold Curtailed
  rw [coerce_eq_stage, hstage]
  dsimp only
  rw [Coercion.byKind_object hobject]
  rcases Coercion.coerceMembers_curtailed hvs hnodup hproperty (stage_converted hstage).2.1
    hobject hnull with ⟨e, he, hprobe⟩ | ⟨final, hfinal, hleft⟩
  · exact .inl ⟨e, by rw [he]; rfl, hprobe⟩
  · exact .inr ⟨_, by rw [hfinal]; rfl, .object hstage hobject hleft.distinct hleft.declared
      hleft.inner hleft.kept hleft.lost⟩

theorem curtailed_array {items : List Json} (harray : n.kind = .array)
    (hv : (Json.array items).keysDistinct = true)
    (hpass : ∀ k ∈ n.keywords, k.check cv (cv.judgeBelow hops id) hops n (.array items) at_ = .ok []) :
    c.Curtailed options hops id (.array items) := by
  have hitems := (Json.keysDistinct_array items).1 hv
  have hslot : ∀ (i : Nat) x child, items[i]? = some x → n.slot? i = some child →
      c.schema.Below id child ∧ c.Curtailed options hops child x := by
    intro i x child hx hslot
    obtain ⟨inner, hjudge⟩ := Node.judged_slot hpass hslot hx
    exact hchild child x inner (Node.held_of_slot? hreads hslot)
      (hitems x (List.mem_of_getElem? hx)) hjudge
  have hbyKind : Coercion.byKind c options (c.convertBelow options hops id) hops n (.array items) =
      Coercion.coerceArray (c.convertBelow options hops id) n (.array items) := by
    simp only [Coercion.byKind, harray]
  unfold Curtailed
  rw [coerce_eq_stage, hstage]
  dsimp only
  rw [hbyKind]
  refine (Coercion.coerceArray_curtailed hslot).imp_right ?_
  rintro ⟨items', hitems', hlength, hinner, hrest⟩
  exact ⟨_, hitems', .array hstage harray hlength hinner hrest⟩

end Converted

variable (hschema : cv.schema = c.schema) (hsame : cv.index = c.index)
include hlabels hd hroot hindex hschema hsame

theorem curtailed_of_accepted (options : CoerceOptions) (hops : Nat) (id : NodeId) :
    ∀ here, docs[id]? = some here → here.keysDistinct = true → ∀ v at_, v.keysDistinct = true →
      cv.check hops id (some v) at_ = .ok [] → c.Curtailed options hops id v := by
  refine accepted_induction hlabels hd hroot hindex hschema hsame ?_ ?_ ?_ hops id
  · intro hops id n v hstage hkind
    refine .inr ⟨v, ?_, .same hstage (by simp [hkind]) (by simp [hkind]) v⟩
    rw [coerce_eq_stage, hstage]
    simp only [Coercion.byKind, hkind]
  · intro hops id target v hstage ih
    unfold Curtailed
    rw [coerce_eq_stage, hstage]
    refine ih.imp_right ?_
    rintro ⟨w, hw, hsheds⟩
    exact ⟨w, hw, .handed hstage hsheds⟩
  · intro hops id ms n v at_ hstage hkeys hkind hreads hv hpass hchild
    have haccepts : ∀ t, n.kind = .ofType t → t.accepts v = true :=
      fun t ht => Node.accepts_of_pass hreads hkind hpass ht
    by_cases hobject : n.kind = .object
    · obtain ⟨vs, rfl⟩ := InstanceType.eq_object_of_accepts (haccepts .object hobject)
      exact curtailed_object hlabels hd hroot hindex hstage hreads hchild hobject hkeys hv hpass
    by_cases harray : n.kind = .array
    · obtain ⟨items, rfl⟩ := InstanceType.eq_array_of_accepts (haccepts .array harray)
      exact curtailed_array hstage hreads hchild harray hv hpass
    · refine .inr ⟨v, ?_, .same hstage hobject harray v⟩
      rw [coerce_eq_stage, hstage]
      exact Coercion.byKind_of_accepts haccepts hobject harray

end Context

end JsonSchema
