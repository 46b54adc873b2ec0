import JsonSchema.Proofs.Coercion.Shedding
import JsonSchema.Proofs.Parsing.Completion
import JsonSchema.Proofs.Reordering.Values

/-!
# What a second filling in restores

What filling in puts into a value was never coerced. Where a coercion of the value leaves out members, a
second filling in puts them back, unless they belong to something that filling in has offered.
-/

namespace JsonSchema

open Loader

/-! ## Reordered values -/

namespace Json

theorem Reorders.object_of_rel {ms out : Members} (hms : ms.keys.Nodup) (hout : out.keys.Nodup)
    (h : ∀ key, Option.Rel Reorders (ms.get? key) (out.get? key)) :
    (Json.object ms).Reorders (.object out) := by
  refine .object ((List.perm_ext_iff_of_nodup hout hms).2 fun key => ?_) fun key x y hx hy => ?_
  · have hrel := h key
    rw [Members.mem_keys_iff, Members.mem_keys_iff]
    generalize ms.get? key = x? at hrel ⊢
    generalize out.get? key = y? at hrel ⊢
    cases hrel <;> simp
  · have hrel := h key
    rw [hx, hy] at hrel
    cases hrel with
    | some hxy => exact hxy

theorem rel_reorders_self (v? : Option Json) : Option.Rel Reorders v? v? := by
  cases v? with
  | none => exact .none
  | some v => exact .some (.same v)

section Numbers

variable {numbers : Number → Number → Bool} (hnumbers : ∀ n, numbers n n = true)
include hnumbers

theorem reordered_self {v : Json} (hv : v.keysDistinct = true) : v.reordered numbers v = true := by
  induction hsize : sizeOf v using Nat.strongRecOn generalizing v with | ind size ih
  subst hsize
  cases v with
  | null => rfl
  | bool b => exact beq_self_eq_true b
  | number n => exact hnumbers n
  | string s => exact beq_self_eq_true s
  | array items =>
    rw [reordered, itemsReordered_iff]
    exact List.forall₂_same.2 fun x hx =>
      ih _ (sizeOf_lt_of_mem_items hx) ((keysDistinct_array items).1 hv x hx) rfl
  | object ms =>
    obtain ⟨hnodup, hvalues⟩ := (keysDistinct_object ms).1 hv
    rw [reordered, Bool.and_eq_true, List.isPerm_iff, membersReordered_iff]
    refine ⟨.refl _, fun m hm => ⟨m.2, Members.get?_eq_some_of_mem ms hnodup m hm, ?_⟩⟩
    exact ih _ (sizeOf_lt_of_mem_entries hm) (hvalues m hm) rfl

theorem Reorders.reordering {v w : Json} (h : v.Reorders w) (hv : v.keysDistinct = true)
    (hw : w.keysDistinct = true) : v.Reordering numbers w := by
  refine ⟨hv, hw, ?_⟩
  induction h with
  | same v => exact reordered_self hnumbers hv
  | @array items items' length inner ih =>
    rw [reordered, itemsReordered_iff]
    refine List.forall₂_iff_get.2 ⟨length, fun i hi hi' => ?_⟩
    exact ih i _ _ (List.getElem?_eq_getElem hi) (List.getElem?_eq_getElem hi')
      ((keysDistinct_array items).1 hv _ (List.getElem_mem hi))
      ((keysDistinct_array items').1 hw _ (List.getElem_mem hi'))
  | @object ms out keys inner ih =>
    obtain ⟨hnodup, hvalues⟩ := (keysDistinct_object ms).1 hv
    obtain ⟨_, hvalues'⟩ := (keysDistinct_object out).1 hw
    rw [reordered, Bool.and_eq_true, List.isPerm_iff, membersReordered_iff]
    refine ⟨keys.symm, fun m hm => ?_⟩
    have hx := Members.get?_eq_some_of_mem ms hnodup m hm
    obtain ⟨y, hy⟩ := (Members.mem_keys_iff out m.1).1 (keys.mem_iff.2 (List.mem_map_of_mem hm))
    exact ⟨y, hy, ih m.1 m.2 y hx hy (hvalues m hm) (hvalues' _ (Members.mem_of_get?_eq_some out m.1 y hy))⟩

end Numbers

end Json

/-! ## What is offered -/

namespace Context

/-- A value that filling in offers, where nothing is given, for what a coercion converts at the place or
below it: the coercion leaves out members of the value. -/
inductive Offends (c : Context) (options : CoerceOptions) (filling : TemplateOptions) :
    Nat → NodeId → Option NodeId → Option Json → Prop where
  | here {hops : Nat} {place : NodeId} {id? : Option NodeId} {v : Json}
    (free : c.schema.constAt? id? = none) (offers : c.schema.offerAt? filling id? = some v)
    (loses : c.Loses options hops place v) : Offends c options filling hops place id? none
  | handed {hops reached : Nat} {place target : NodeId} {id? : Option NodeId} {given : Option Json}
    (stage : c.stage hops place = .handed reached target)
    (inner : Offends c options filling reached target id? given) :
    Offends c options filling hops place id? given
  | property {hops reached : Nat} {place reachedPlace child : NodeId} {n : Node} {id? : Option NodeId}
    {given : Option Json} {base : Members} {key : String}
    (stage : c.stage hops place = .converted reached reachedPlace n) (kind : n.kind = .object)
    (declared : (key, child) ∈ n.properties) (free : c.schema.constAt? id? = none)
    (starts : (given.or (c.schema.offerAt? filling id?)).getD (.object []) = .object base)
    (inner : Offends c options filling reached child ((c.schema.fieldsAt id?).lookup key) (base.get? key)) :
    Offends c options filling hops place id? given

theorem not_loses_of_isEmpty {c : Context} {options : CoerceOptions} {hops : Nat} {id : NodeId} {v : Json}
    (h : v.IsEmpty) : ¬c.Loses options hops id v := by
  intro hloses
  induction hloses with
  | here _ _ _ member =>
    obtain rfl : _ = [] := h
    cases member
  | handed _ _ ih => exact ih h
  | property _ _ _ member =>
    obtain rfl : _ = [] := h
    cases member
  | item _ _ _ item =>
    obtain rfl : _ = [] := h
    cases item

/-- In what has been filled in nothing is left to be offered. -/
theorem not_offends_of_complete {c : Context} {options : CoerceOptions} {filling : TemplateOptions}
    (hwanted : filling.withOptional = true) {hops : Nat} {place : NodeId} {id? : Option NodeId}
    (hid : ∀ id ∈ id?, c.schema.Fillable id) {nested : Bool} {given : Option Json}
    (h : c.schema.complete filling nested id? given = given) :
    ¬c.Offends options filling hops place id? given := by
  intro hoffends
  induction hoffends generalizing nested with
  | here _ offers loses =>
    obtain ⟨hoffer, -⟩ := Schema.nothing_offered hwanted hid h
    rw [offers, Option.getD_some] at hoffer
    subst hoffer
    exact not_loses_of_isEmpty (v := .object []) rfl loses
  | handed _ _ ih => exact ih hid h
  | @property _ _ _ _ _ _ id? given base key _ _ _ free starts _ ih =>
    have hsame : c.schema.completeMembers filling id? base = base := by
      cases given with
      | some v =>
        obtain rfl : v = .object base := starts
        rw [Schema.complete_of_given hid (.inl free)] at h
        exact Json.object.inj (Option.some.inj h)
      | none =>
        obtain ⟨hoffer, hmembers⟩ := Schema.nothing_offered hwanted hid h
        rw [Option.none_or, hoffer] at starts
        cases starts
        exact hmembers
    have hget := Schema.get?_completeMembers hid filling base key
    rw [hsame] at hget
    exact ih (Schema.fillable_lookup hid key) hget.symm

section Completion

variable {c : Context} {options : CoerceOptions} {filling : TemplateOptions}
  (hwanted : filling.withOptional = true) {hops : Nat} {place : NodeId} {id? : Option NodeId}
  (hid : ∀ id ∈ id?, c.schema.Fillable id) {nested : Bool} {given : Option Json} {w w' : Json}
  (hw : w.keysDistinct = true) (h : c.schema.complete filling nested id? given = some w)
  (hgiven : ∀ v ∈ given, ¬c.Loses options hops place v)
  (hoffers : ¬c.Offends options filling hops place id? given)
include hwanted hid hw h hgiven hoffers

/-- What was filled in is restored, or members were added to something of which nothing is lost. -/
theorem restored_or_started (hsheds : c.Sheds options hops place w w') :
    (∃ again, c.schema.complete filling nested id? (some w') = some again ∧ w.Reorders again) ∨
      c.schema.constAt? id? = none ∧ ∃ start, w = c.schema.extended filling id? start ∧
        ¬c.Loses options hops place start ∧ ∀ base, start = .object base →
          (given.or (c.schema.offerAt? filling id?)).getD (.object []) = .object base := by
  rcases Schema.complete_cases hwanted hid h with hfixed | hkept | ⟨hfree, start, hstarted, hstart⟩
  · exact .inl ⟨w, hfixed _, .same w⟩
  · rw [hkept] at h
    exact .inl ⟨w', hkept _, hsheds.reorders hw (hgiven w h)⟩
  · refine .inr ⟨hfree, start, hstarted, ?_⟩
    rcases hstart with rfl | ⟨rfl, hoffer | ⟨hnone, hempty⟩⟩
    · refine ⟨hgiven start rfl, ?_⟩
      rintro base rfl
      rfl
    · refine ⟨fun hloses => hoffers (.here hfree hoffer hloses), ?_⟩
      rintro base rfl
      rw [hoffer]
      rfl
    · refine ⟨not_loses_of_isEmpty hempty, ?_⟩
      rintro base rfl
      obtain rfl : base = [] := hempty
      rw [hnone]
      rfl

end Completion

theorem get?_completeMembers_again {s : Schema} {filling : TemplateOptions}
    (hwanted : filling.withOptional = true) {id? : Option NodeId} (hid : ∀ id ∈ id?, s.Fillable id)
    {base out : Members} {key : String}
    (h : out.get? key = (s.completeMembers filling id? base).get? key) :
    (s.completeMembers filling id? out).get? key = (s.completeMembers filling id? base).get? key := by
  have hfilled := Schema.get?_completeMembers hid filling base key
  rw [Schema.get?_completeMembers hid filling, h]
  cases hx : (s.completeMembers filling id? base).get? key with
  | none =>
    rw [hx] at hfilled
    rw [Schema.given_of_complete_none hfilled.symm] at hfilled
    exact hfilled.symm
  | some x =>
    rw [hx] at hfilled
    exact Schema.complete_complete hwanted (Schema.fillable_lookup hid key) hfilled.symm

/-- The members of an object are restored if the declared ones are. -/
theorem completeMembers_restored {c : Context} {options : CoerceOptions} {filling : TemplateOptions}
    (hwanted : filling.withOptional = true) {hops reached : Nat} {place reachedPlace : NodeId} {n : Node}
    (hstage : c.stage hops place = .converted reached reachedPlace n) (hkind : n.kind = .object)
    {id? : Option NodeId} (hid : ∀ id ∈ id?, c.schema.Fillable id) {base out : Members}
    (hleft : c.Left options reached n (c.schema.completeMembers filling id? base) out)
    (hkeeps : ¬c.Loses options hops place (.object base))
    (hnodup : (c.schema.completeMembers filling id? base).keys.Nodup)
    (hinner : ∀ e ∈ n.properties, ∀ x y, (c.schema.completeMembers filling id? base).get? e.1 = some x →
      out.get? e.1 = some y → ∃ z, x.Reorders z ∧
        c.schema.complete filling true ((c.schema.fieldsAt id?).lookup e.1) (some y) = some z) :
    Json.Reorders (.object (c.schema.completeMembers filling id? base))
      (.object (c.schema.completeMembers filling id? out)) := by
  refine .object_of_rel hnodup (Template.nodup_keys_foldl_put hleft.distinct) fun key => ?_
  have hsame : (c.schema.completeMembers filling id? out).get? key =
        (c.schema.completeMembers filling id? base).get? key →
      Option.Rel Json.Reorders ((c.schema.completeMembers filling id? base).get? key)
        ((c.schema.completeMembers filling id? out).get? key) := by
    intro heq
    rw [heq]
    exact Json.rel_reorders_self _
  by_cases hdeclared : key ∈ n.declaredKeys
  · cases hx : (c.schema.completeMembers filling id? base).get? key with
    | none =>
      have hout : Members.get? out key = none := Members.get?_eq_none_of_not_mem out key fun hmem => by
        obtain ⟨y, hy⟩ := (Members.mem_keys_iff _ key).1 ((hleft.declared key hdeclared).1 hmem)
        rw [hx] at hy
        cases hy
      rw [← hx]
      exact hsame (get?_completeMembers_again hwanted hid (hout.trans hx.symm))
    | some x =>
      obtain ⟨e, he, rfl⟩ := List.mem_map.1 hdeclared
      obtain ⟨y, hy⟩ := (Members.mem_keys_iff out e.1).1
        ((hleft.declared e.1 hdeclared).2 (Members.mem_keys_of_get? hx))
      obtain ⟨z, hreorders, hz⟩ := hinner e he x y hx hy
      rw [Schema.get?_completeMembers hid filling, hy, hz]
      exact .some hreorders
  · by_cases hdrops : c.Drops options reached n
    · -- The member is left out, so it was no member of `base`: it is offered once more.
      have hbase : Members.get? base key = none := Members.get?_eq_none_of_not_mem base key fun hmem =>
        hkeeps (.here hstage hkind hdrops hmem hdeclared)
      have hout := Members.get?_eq_none_of_not_mem out key (hleft.lost hdrops key hdeclared)
      refine hsame ?_
      rw [Schema.get?_completeMembers hid filling, Schema.get?_completeMembers hid filling, hbase, hout]
    · exact hsame (get?_completeMembers_again hwanted hid (hleft.kept hdrops key hdeclared))

/-- What a coercion takes of a value that was filled in, a second filling in restores. -/
theorem restored {c : Context} {options : CoerceOptions} {filling : TemplateOptions}
    (hwanted : filling.withOptional = true) {hops : Nat} {place : NodeId} {w w' : Json}
    (hsheds : c.Sheds options hops place w w') {id? : Option NodeId}
    (hid : ∀ id ∈ id?, c.schema.Fillable id) {nested : Bool} {given : Option Json}
    (hw : w.keysDistinct = true) (h : c.schema.complete filling nested id? given = some w)
    (hgiven : ∀ v ∈ given, ¬c.Loses options hops place v)
    (hoffers : ¬c.Offends options filling hops place id? given) :
    ∃ again, c.schema.complete filling nested id? (some w') = some again ∧ w.Reorders again := by
  -- Along the coercion: filling in may go by another node than the one that converts, so `id?` and what is
  -- given there move on their own.
  induction hsheds generalizing id? nested given with
  | @same hops reached place reachedPlace n stage object array w =>
    exact ⟨w, Schema.complete_complete hwanted hid h, .same w⟩
  | @handed hops reached place target w w' stage inner ih =>
    exact ih hid hw h (fun v hv hloses => hgiven v hv (.handed stage hloses))
      fun hoffends => hoffers (.handed stage hoffends)
  | @array hops reached place reachedPlace n items items' stage kind length inner rest ih =>
    have hsheds : c.Sheds options hops place (.array items) (.array items') :=
      .array stage kind length inner rest
    rcases restored_or_started hwanted hid hw h hgiven hoffers hsheds with
      hrestored | ⟨hfree, start, hstart, hkept, -⟩
    · exact hrestored
    · have heq : start = .array items := by
        cases start with
        | object base => cases hstart
        | _ => exact hstart.symm
      subst heq
      exact ⟨_, Schema.complete_of_given hid (.inl hfree) nested, hsheds.reorders hw hkept⟩
  | @object hops reached place reachedPlace n ms out stage kind distinct declared inner kept lost ih =>
    have hsheds : c.Sheds options hops place (.object ms) (.object out) :=
      .object stage kind distinct declared inner kept lost
    rcases restored_or_started hwanted hid hw h hgiven hoffers hsheds with
      hrestored | ⟨hfree, start, hstart, hkept, hstarts⟩
    · exact hrestored
    · obtain ⟨base, rfl, rfl⟩ : ∃ base, start = .object base ∧
          ms = c.schema.completeMembers filling id? base := by
        cases start with
        | object base =>
          cases hstart
          exact ⟨base, rfl, rfl⟩
        | _ => cases hstart
      obtain ⟨hnodup, hvalues⟩ := (Json.keysDistinct_object _).1 hw
      have hleft : c.Left options reached n _ out := ⟨distinct, declared, inner, kept, lost⟩
      refine ⟨_, Schema.complete_of_given hid (.inl hfree) nested,
        completeMembers_restored hwanted stage kind hid hleft hkept hnodup ?_⟩
      intro e he x y hx hy
      have hfilled := Schema.get?_completeMembers hid filling base e.1
      rw [hx] at hfilled
      obtain ⟨z, hz, hreorders⟩ := ih e.1 e.2 x y he hx hy (Schema.fillable_lookup hid e.1)
        (hvalues _ (Members.mem_of_get?_eq_some _ e.1 x hx)) hfilled.symm
        (fun v hv hloses => hkept (.property stage kind he hv hloses))
        fun hoffends => hoffers (.property stage kind he hfree (hstarts base rfl) hoffends)
      exact ⟨z, hreorders, hz⟩

end Context

end JsonSchema
