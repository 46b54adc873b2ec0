import JsonSchema.Proofs.Building.Strictness
import JsonSchema.Proofs.Coercion.Acceptance
import JsonSchema.Proofs.Coercion.Members
import JsonSchema.Proofs.Embedding.Making
import JsonSchema.Proofs.Places.References
import JsonSchema.Proofs.Reloading.Documents

/-!
# Properties that are declared more than once

The list of an object's properties may have a key in it several times. Judging takes the first entry with the
key, converting takes all of them one after the other so that the last one decides, and writing takes the last.
-/

namespace JsonSchema

open Schema

/-! ## All entries with a key -/

/-- What stands at the key, in the order of the entries. -/
def allAt {α : Type} (key : String) (entries : List (String × α)) : List α :=
  (entries.filter (·.1 == key)).map (·.2)

section AllAt

variable {α β : Type} {key : String}

theorem allAt_cons_self (a : α) (entries : List (String × α)) :
    allAt key ((key, a) :: entries) = a :: allAt key entries := by
  rw [allAt, List.filter_cons_of_pos (by simp), List.map_cons, allAt]

theorem allAt_cons_of_ne {e : String × α} (h : e.1 ≠ key) (entries : List (String × α)) :
    allAt key (e :: entries) = allAt key entries := by
  rw [allAt, List.filter_cons_of_neg (by simpa using h), allAt]

theorem head?_allAt (entries : List (String × α)) : (allAt key entries).head? = entries.lookup key := by
  induction entries with
  | nil => rfl
  | cons e entries ih =>
    obtain ⟨k, a⟩ := e
    by_cases h : k = key
    · subst h
      rw [allAt_cons_self, List.head?_cons, List.lookup_cons_self]
    · rw [allAt_cons_of_ne h, ih, List.lookup_cons, beq_false_of_ne (Ne.symm h)]

theorem getLast?_allAt (entries : List (String × α)) :
    (allAt key entries).getLast? = entries.reverse.lookup key := by
  rw [← head?_allAt, ← List.head?_reverse, allAt, allAt, ← List.map_reverse, List.filter_reverse]

theorem allAt_map (f : α → β) (entries : List (String × α)) :
    allAt key (entries.map fun e => (e.1, f e.2)) = (allAt key entries).map f := by
  rw [allAt, allAt, List.filter_map, List.map_map, List.map_map]
  rfl

theorem allAt_ne_nil {entries : List (String × α)} (h : key ∈ entries.map (·.1)) : allAt key entries ≠ [] := by
  obtain ⟨e, he, rfl⟩ := List.mem_map.1 h
  exact List.ne_nil_of_mem (List.mem_map_of_mem (List.mem_filter.2 ⟨he, beq_self_eq_true e.1⟩))

theorem forall₂_allAt {R : α → β → Prop} {as : List (String × α)} {bs : List (String × β)}
    (h : List.Forall₂ (fun a b => a.1 = b.1 ∧ R a.2 b.2) as bs) :
    List.Forall₂ R (allAt key as) (allAt key bs) := by
  induction h with
  | nil => exact .nil
  | @cons a b _ _ hab _ ih =>
    obtain ⟨k, x⟩ := a
    obtain ⟨_, y⟩ := b
    obtain ⟨rfl, hxy⟩ := hab
    by_cases hkey : k = key
    · subst hkey
      rw [allAt_cons_self, allAt_cons_self]
      exact .cons hxy ih
    · rwa [allAt_cons_of_ne hkey, allAt_cons_of_ne hkey]

theorem keys_filter_of_forall₂ {p : α → Bool} {q : β → Bool} {as : List (String × α)}
    {bs : List (String × β)} (h : List.Forall₂ (fun a b => a.1 = b.1 ∧ p a.2 = q b.2) as bs) :
    (as.filter fun a => p a.2).map (·.1) = (bs.filter fun b => q b.2).map (·.1) := by
  induction h with
  | nil => rfl
  | @cons a b _ _ hab _ ih =>
    rw [List.filter_cons, List.filter_cons, hab.2]
    split
    · rw [List.map_cons, List.map_cons, hab.1, ih]
    · exact ih

end AllAt

namespace Members

theorem get?_ofList (entries : Members) (key : String) :
    (ofList entries).get? key = (allAt key entries).getLast? := by
  have hall : ∀ ms : Members, (ms.insertAll entries).get? key =
      (entries.reverse.lookup key).or (ms.get? key) := by
    induction entries with
    | nil => exact fun ms => rfl
    | cons e entries ih =>
      intro ms
      rw [insertAll_cons, ih, get?_insert, List.reverse_cons, List.lookup_append, Option.or_assoc]
      congr 1
      obtain ⟨k, v⟩ := e
      by_cases h : key = k
      · rw [if_pos h, h, List.lookup_cons_self, Option.some_or]
      · rw [if_neg h, List.lookup_cons, beq_false_of_ne h, List.lookup_nil, Option.none_or]
  rw [getLast?_allAt]
  exact (hall []).trans (Option.or_none ..)

end Members

theorem Context.check_typed {c : Context} {id : NodeId} {t : InstanceType}
    (hn : c.schema.node? id = some (.typed t)) (hops : Nat) (v : Json) (at_ : Location) :
    c.check hops id (some v) at_ = .require (t.accepts v) at_ "type" (.notOfType [t]) v := by
  have halone : (Node.typed t).StandsAlone := by
    cases t <;> exact ⟨nofun, nofun, nofun, rfl, rfl, rfl⟩
  rw [check_of_standsAlone hn halone]
  change Outcome.ofAll _ _ [_] = _
  rw [Outcome.ofAll_singleton]
  simp [Keyword.check, Leaf.check, Leaf.name]

/-! ## The document of a copy -/

theorem Keyword.toJson_mapIds (f : NodeId → NodeId) (write : NodeId → Json) (k : Keyword) :
    (k.mapIds f).toJson write = k.toJson (write ∘ f) := by
  cases k <;> simp only [Keyword.mapIds, Keyword.toJson, List.map_map] <;> rfl

/-- Only the document of a link says where it stands. -/
def Schema.LinkFree (s : Schema) : Prop := s.Everywhere fun n => ∀ target, n.kind ≠ .link target

theorem Schema.CopiedOn.documentAt {c s : Schema} {place : NodeId} (hc : c.Orderly) (hs : s.Orderly)
    (h : CopiedOn (fun _ => True) c s place) (hlinks : c.LinkFree) {id : NodeId} (hid : id < c.size) :
    s.documentAt (id + place) = c.documentAt id := by
  induction hsize : c.size - id using Nat.strongRecOn generalizing id with
  | ind size ih
  subst hsize
  obtain ⟨n, hn⟩ : ∃ n, c.node? id = some n := ⟨_, Array.getElem?_eq_getElem hid⟩
  obtain ⟨_, _, hcopy⟩ := h.node id n trivial hn
  have hkind : (n.mapIds (· + place)).kind = n.kind := Node.kind_mapIds_of_not_link (hlinks id n hn) _
  by_cases hconstant : ∃ accepts, n.kind = .constant accepts
  · obtain ⟨accepts, hconstant⟩ := hconstant
    rw [documentAt_constant hn hconstant]
    exact documentAt_constant hcopy (hkind.trans hconstant)
  · rw [not_exists] at hconstant
    rw [documentAt_keywords hn hc hconstant (hlinks id n hn), documentAt_keywords hcopy hs
      (fun accepts => hkind ▸ hconstant accepts) fun target => hkind ▸ hlinks id n hn target]
    dsimp only [Node.mapIds]
    rw [List.map_map]
    congr 1
    refine List.map_congr_left fun k hk => ?_
    rw [Function.comp_apply, Keyword.name_mapIds, Keyword.toJson_mapIds]
    congr 1
    refine Keyword.toJson_congr fun child hchild => ?_
    have hbelow := hc.below id n hn child (List.mem_flatMap.2 ⟨k, hk, hchild⟩)
    exact ih _ hbelow.size_sub_lt hbelow.2 rfl

/-! ## The root of an object schema -/

namespace Schema

section Adopted

variable (s : Schema)

theorem isOptional_adoptAll {cs : List Schema} {i : Nat} {c : Schema} (hc : cs[i]? = some c)
    (hpos : 0 < c.size) : (s.adoptAll cs).1.isOptional (s.beginning cs i) = c.isOptional root := by
  induction cs generalizing s i with
  | nil => cases hc
  | cons first cs ih =>
    rw [Orderly.adoptAll_cons]
    cases i with
    | zero =>
      cases hc
      have hlt : s.size < (s.adopt c).1.size := by
        rw [size_adopt]
        exact Nat.lt_add_of_pos_right hpos
      exact (congrArg (fun n => (n.map (·.optional)).getD false) (node?_adoptAll _ cs hlt)).trans
        (isOptional_adopt_right s c root)
    | succ i =>
      rw [beginning_succ]
      exact ih _ hc

theorem forall₂_zip_adoptAll {R : NodeId → Schema → Prop} (properties : List (String × Schema))
    (h : ∀ i c, (properties.map (·.2))[i]? = some c → R (s.beginning (properties.map (·.2)) i) c) :
    List.Forall₂ (fun e p => e.1 = p.1 ∧ R e.2 p.2)
      ((properties.map (·.1)).zip (s.adoptAll (properties.map (·.2))).2) properties := by
  induction properties generalizing s with
  | nil => exact .nil
  | cons p properties ih =>
    simp only [List.map_cons, Orderly.adoptAll_cons, List.zip_cons_cons] at h ⊢
    refine .cons ⟨rfl, h 0 p.2 rfl⟩ (ih _ fun i c hc => ?_)
    rw [← beginning_succ]
    exact h (i + 1) c hc

end Adopted

section Root

variable (properties : List (String × Schema))

/-- The keys of the entries that are not marked as optional. -/
def demanded : List String := (properties.filter fun e => !e.2.isOptional root).map (·.1)

/-- The entries with the places at which their schemas begin. -/
def placed : List (String × NodeId) :=
  (properties.map (·.1)).zip ((typed .object).adoptAll (properties.map (·.2))).2

/-- The root of an object schema that leaves other members alone. -/
def objectNode (entries : List (String × NodeId)) (required : List String) : Node where
  kind := .object
  keywords := .leaf (.types [.object]) :: .keyed .properties entries ::
    if required.isEmpty then [] else [.leaf (.required required)]

theorem properties_objectNode (entries : List (String × NodeId)) (required : List String) :
    (objectNode entries required).properties = entries := rfl

theorem standsAlone_objectNode (entries : List (String × NodeId)) (required : List String) :
    (objectNode entries required).StandsAlone := by
  refine ⟨nofun, nofun, nofun, rfl, ?_, ?_⟩ <;> unfold objectNode <;> split <;> rfl

variable {properties} (hproperties : ∀ e ∈ properties, e.2.Orderly)
include hproperties

theorem mandatory_objectNode : ((typed .object).setKeyed .properties properties).mandatory
    (objectNode (placed properties) []) = demanded properties := by
  refine keys_filter_of_forall₂ (q := fun c : Schema => !c.isOptional root)
    (p := fun place => !((typed .object).setKeyed .properties properties).isOptional place) ?_
  refine forall₂_zip_adoptAll _ properties (R := fun place (c : Schema) =>
    (!((typed .object).setKeyed .properties properties).isOptional place) = !c.isOptional root) ?_
  intro i c hc
  obtain ⟨e, he, rfl⟩ := List.mem_map.1 (List.mem_of_getElem? hc)
  exact congrArg (!·)
    ((isOptional_setKeyword _ _ _).trans (isOptional_adoptAll _ hc (hproperties e he).nonempty))

theorem node?_root_object : (object .plain properties).node? root =
    some (objectNode (placed properties) (demanded properties)) := by
  have hdeclaring : ((typed .object).setKeyed .properties properties).node? root =
      some (objectNode (placed properties) []) := by
    have hroot : root < (typed .object).size := Nat.one_pos
    have hkept := node?_adoptAll (typed .object) (properties.map (·.2)) hroot
    exact (node?_modifyRoot hkept _ root).trans (if_pos rfl)
  have hsynced := node?_syncRequired_root hdeclaring
  rw [mandatory_objectNode hproperties] at hsynced
  refine hsynced.trans ?_
  rw [objectNode, objectNode, Node.requiring]
  split <;> rfl

end Root

/-! ## What the entries stand for -/

theorem orderly_object {properties : List (String × Schema)} (hproperties : ∀ e ∈ properties, e.2.Orderly) :
    (object .plain properties).Orderly :=
  ((preserved_orderly.typed .object).setKeyed hproperties .properties).syncRequired

/-- A copy of the schema begins at the place. There it does what it does by itself, and its document is its own
unless a link tells where it stands. -/
structure StandsFor (s : Schema) (place : NodeId) (c : Schema) : Prop where
  copied : CopiedOn (fun _ => True) c s place
  judges : c.SelfContained → ∀ shared options hops v at_,
    (s.context shared options).check hops place (some v) at_ =
      (c.context shared options).check hops root (some v) at_
  converts : c.SelfContained → ∀ shared v options, s.coerceAt shared place v options = c.coerce shared v options
  writes : c.LinkFree → s.documentAt place = c.toJson

theorem CopiedOn.standsFor {c s : Schema} {place : NodeId} (hc : c.Assembled) (hs : s.Orderly)
    (h : CopiedOn (fun _ => True) c s place) : s.StandsFor place c := by
  obtain ⟨ho, hnested⟩ := hc.preserved preserved_nested
  have hwithin : CopiedOn (c.Within · root) c s place := h.imp fun _ _ => trivial
  have hplace : root + place = place := Nat.zero_add place
  refine ⟨h, fun hself shared options hops v at_ => ?_, fun hself shared v => ?_, fun hlinks => ?_⟩
  · have hcopied : (c.context shared options).Copied (s.context shared options) place :=
      ⟨ho, hnested, hself, hwithin, rfl, rfl, rfl⟩
    have hrun := hcopied.check .refl hops v at_
    rw [hplace] at hrun
    exact hrun.symm
  · exact (hwithin.behavesAs ho hnested hself shared v).2
  · have hwritten : s.documentAt (root + place) = c.toJson := h.documentAt ho hs hlinks ho.nonempty
    rwa [hplace] at hwritten

theorem forall₂_placed {properties : List (String × Schema)} (hproperties : ∀ e ∈ properties, e.2.Assembled) :
    List.Forall₂ (fun e p => e.1 = p.1 ∧ (object .plain properties).StandsFor e.2 p.2)
      (placed properties) properties := by
  have horderly : ∀ e ∈ properties, e.2.Orderly := fun e he => (hproperties e he).orderly
  have hs := orderly_object horderly
  refine forall₂_zip_adoptAll _ properties (R := fun place c => StandsFor _ place c) fun i c hc => ?_
  obtain ⟨e, he, rfl⟩ := List.mem_map.1 (List.mem_of_getElem? hc)
  rw [← map_snd_underKeys "properties"] at hc ⊢
  obtain ⟨⟨way, _⟩, hheld, rfl⟩ := Option.map_eq_some_iff.1 ((List.getElem?_map ..).symm.trans hc)
  have hsources : ∀ c ∈ (underKeys "properties" properties).map (·.2), c.Orderly := by
    rw [map_snd_underKeys]
    exact List.forall_mem_map.2 horderly
  obtain ⟨k, hholds⟩ := Making.holds (m := .object .plain properties) hsources rfl hheld
  exact hholds.copied.standsFor (hproperties e he) hs

/-! ## What becomes of a property -/

/-- Of the places at which a property is declared the first one judges it, all of them convert it, so that the
last one decides, and the last one is written. -/
structure Declares (s : Schema) (required : List String) (key : String) (places : List NodeId) : Prop where
  judged : ∀ place, places.head? = some place → ∀ c : Context, c.schema = s → ∀ hops v at_,
    c.check hops root (some (.object [(key, v)])) at_ = Outcome.ofAll c.shortCircuit id
      [c.check hops place (some v) (at_.descend [.key "properties", .key key] [.key key]),
        (Leaf.required required).check c.formats (.object [(key, v)]) at_]
  converted : ∀ shared options v, s.coerce shared (.object [(key, v)]) options =
    (places.mapM fun place => s.coerceAt shared place v options).map fun ws =>
      .object [(key, ws.getLast?.getD v)]
  written : s.toJson.get? [.key "properties", .key key] = places.getLast?.map s.documentAt

namespace Declares

variable {s : Schema} {entries : List (String × NodeId)} {required : List String} {key : String}

section Converting

open Coercion

theorem convertEntries_single {convert : Convert} {v : Json} {f : NodeId → Except SchemaError Json}
    (h : ∀ place ∈ allAt key entries, convert place v = f place) (w : Json) :
    convertEntries convert [(key, v)] entries [(key, w)] =
      ((allAt key entries).mapM f).map fun ws => [(key, ws.getLast?.getD w)] := by
  have hself : Members.get? [(key, v)] key = some v := List.lookup_cons_self
  induction entries generalizing w with
  | nil => rfl
  | cons e entries ih =>
    obtain ⟨k, id⟩ := e
    unfold convertEntries
    by_cases hk : k = key
    · subst hk
      rw [allAt_cons_self] at h ⊢
      obtain ⟨hid, h⟩ := List.forall_mem_cons.1 h
      rw [hself]
      dsimp only
      rw [hid, List.mapM_cons]
      cases f id with
      | error e => rfl
      | ok x =>
        have hput : Members.insert [(k, w)] k x = [(k, x)] := if_pos rfl
        rw [Except.ok_bind, Except.ok_bind, hput, ih h]
        cases List.mapM f (allAt k entries) with
        | error e => rfl
        | ok ws => simp [Except.map, List.getLast?_cons]
    · have hother : Members.get? [(key, v)] k = none := by
        rw [Members.get?, List.lookup_cons, beq_false_of_ne hk, List.lookup_nil]
      rw [allAt_cons_of_ne hk] at h ⊢
      rw [hother]
      exact ih h w

theorem keep_single {c : Context} {options : CoerceOptions} {n : Node} (hkey : key ∈ n.declaredKeys)
    (v : Json) : keep c options n [(key, v)] = [(key, v)] := by
  unfold keep
  split
  · have hmem : ∀ k, k ∈ (declaredMembers n [(key, v)]).keys ↔ k ∈ [key] := by
      intro k
      rw [mem_keys_declaredMembers]
      refine and_iff_right_of_imp fun h => ?_
      rwa [List.mem_singleton.1 h]
    have hkeys : (declaredMembers n [(key, v)]).keys.Perm [key] :=
      (List.perm_ext_iff_of_nodup nodup_keys_declaredMembers (List.nodup_singleton key)).2 hmem
    exact declaredMembers_eq_self (List.perm_singleton.1 hkeys).symm
  · rfl

theorem undeclared_single {n : Node} (hkey : key ∈ n.declaredKeys) (v : Json) :
    undeclared n [(key, v)] = [] := by
  rw [undeclared, List.filter_cons_of_neg, List.filter_nil]
  simpa using (n.any_properties_iff_declared key).2 hkey

end Converting

variable (hs : s.Orderly) (hn : s.node? root = some (objectNode entries required))
include hs hn

theorem below {place : NodeId} (hplace : place ∈ allAt key entries) : s.Below root place := by
  obtain ⟨e, he, rfl⟩ := List.mem_map.1 hplace
  refine hs.below root _ hn e.2 (Node.mem_places_of_properties ?_)
  exact List.mem_of_mem_filter he

theorem judge {place : NodeId} (hplace : (allAt key entries).head? = some place) {c : Context}
    (hc : c.schema = s) (hops : Nat) (v : Json) (at_ : Location) :
    c.check hops root (some (.object [(key, v)])) at_ = Outcome.ofAll c.shortCircuit id
      [c.check hops place (some v) (at_.descend [.key "properties", .key key] [.key key]),
        (Leaf.required required).check c.formats (.object [(key, v)]) at_] := by
  subst hc
  have hproperties : Keyword.checkProperties (c.judgeBelow hops root) entries [(key, v)] at_ =
      c.check hops place (some v) (at_.descend [.key "properties", .key key] [.key key]) := by
    rw [Keyword.checkProperties, Outcome.ofFirst_singleton, ← head?_allAt, hplace]
    exact Context.judgeBelow_of_below (below hs hn (List.mem_of_mem_head? hplace)) hops v _
  -- No required keys and no keyword for them come to the same.
  have hrequired : Outcome.ofAll c.shortCircuit (fun k : Keyword => k.check c (c.judgeBelow hops root) hops
      (objectNode entries required) (.object [(key, v)]) at_)
        (if required.isEmpty then [] else [.leaf (.required required)]) =
      (Leaf.required required).check c.formats (.object [(key, v)]) at_ := by
    split
    · next hempty =>
      rw [List.isEmpty_iff.1 hempty]
      rfl
    · rw [Outcome.ofAll_singleton]
      rfl
  rw [Context.check_of_standsAlone hn (standsAlone_objectNode entries required)]
  change Outcome.ofAll _ _ (_ :: _ :: _) = _
  rw [Outcome.ofAll_cons_of_pass (by rfl), Outcome.ofAll, hrequired, Outcome.ofAll, Outcome.ofAll_singleton]
  change (Keyword.checkProperties _ _ _ _ >>= _) = _
  rw [hproperties]
  rfl

theorem convert (hkey : key ∈ entries.map (·.1)) (shared : FormatRegistry) (options : CoerceOptions) (v : Json) :
    s.coerce shared (.object [(key, v)]) options =
      ((allAt key entries).mapM fun place => s.coerceAt shared place v options).map fun ws =>
        .object [(key, ws.getLast?.getD v)] := by
  have hdeclared : key ∈ (objectNode entries required).declaredKeys := hkey
  have hreference := (standsAlone_objectNode entries required).reference
  have hextra : (objectNode entries required).single? .additionalProperties = none := by
    unfold objectNode
    split <;> rfl
  have heach : ∀ place ∈ allAt key entries,
      (s.lenientContext shared).convertBelow options 0 root place v = s.coerceAt shared place v options :=
    fun place hplace => Context.convertBelow_of_below (below hs hn hplace) options 0 v
  have hentries := convertEntries_single heach v
  rw [coerce, coerceAt, Context.coerce_object hn rfl rfl hreference, Coercion.coerceMembers,
    keep_single hdeclared, undeclared_single hdeclared, hextra, properties_objectNode, hentries]
  cases (allAt key entries).mapM fun place => s.coerceAt shared place v options with
  | error e => rfl
  | ok ws => cases options.dropUnknown <;> rfl

theorem write : s.toJson.get? [.key "properties", .key key] =
    (allAt key entries).getLast?.map s.documentAt := by
  have hfound : s.toJson.child? (.key "properties") =
      some (.object (Members.ofList (entries.map fun e => (e.1, s.documentAt e.2)))) := by
    have halone := standsAlone_objectNode entries required
    rw [toJson, documentAt_keywords hn hs halone.constant halone.link]
    rfl
  rw [Json.get?, hfound, Option.bind_some, Json.get?_singleton]
  change (Members.ofList _).get? key = _
  rw [Members.get?_ofList, allAt_map, List.getLast?_map]

end Declares

/-- One schema decides what becomes of the property. -/
structure DecidedBy (s : Schema) (required : List String) (key : String) (c : Schema) : Prop where
  judged : ∀ shared options hops v at_,
    (s.context shared options).check hops root (some (.object [(key, v)])) at_ =
      Outcome.ofAll options.shortCircuit id
        [(c.context shared options).check hops root (some v)
            (at_.descend [.key "properties", .key key] [.key key]),
          (Leaf.required required).check (options.formats.getD shared) (.object [(key, v)]) at_]
  converted : ∀ shared options v, s.coerce shared (.object [(key, v)]) options =
    (c.coerce shared v options).map fun w => .object [(key, w)]
  written : s.toJson.get? [.key "properties", .key key] = some c.toJson

theorem Declares.decidedBy {s c : Schema} {required : List String} {key : String} {place : NodeId}
    (h : s.Declares required key [place]) (hplace : s.StandsFor place c) (hself : c.SelfContained)
    (hlinks : c.LinkFree) : s.DecidedBy required key c where
  judged := by
    intro shared options hops v at_
    rw [h.judged place rfl _ rfl, hplace.judges hself]
    rfl
  converted := by
    intro shared options v
    rw [h.converted, List.mapM_cons, List.mapM_nil, hplace.converts hself]
    cases c.coerce shared v options <;> rfl
  written := by
    rw [h.written, ← hplace.writes hlinks]
    rfl

/-- Each entry with the key stands at a place of its own. The first of the places judges the property, all of them
convert it, and the last one is written. So an entry decides alone if no other one has its key. -/
theorem object_declares {properties : List (String × Schema)} (hproperties : ∀ e ∈ properties, e.2.Assembled)
    {key : String} (hkey : key ∈ properties.map (·.1)) :
    (∃ places, places ≠ [] ∧
      List.Forall₂ (object .plain properties).StandsFor places (allAt key properties) ∧
      (object .plain properties).Declares (demanded properties) key places) ∧
    ∀ c, allAt key properties = [c] → c.SelfContained → c.LinkFree →
      (object .plain properties).DecidedBy (demanded properties) key c := by
  have horderly : ∀ e ∈ properties, e.2.Orderly := fun e he => (hproperties e he).orderly
  have hs := orderly_object horderly
  have hn := node?_root_object horderly
  have hplaced := forall₂_placed hproperties
  have hdeclared : key ∈ (placed properties).map (·.1) := by
    rwa [keys_of_forall₂ hplaced]
  have hstand : List.Forall₂ _ (allAt key (placed properties)) (allAt key properties) := forall₂_allAt hplaced
  have hdeclares : (object .plain properties).Declares (demanded properties) key
      (allAt key (placed properties)) :=
    ⟨fun _ hplace _ hc => Declares.judge hs hn hplace hc, Declares.convert hs hn hdeclared,
      Declares.write hs hn⟩
  refine ⟨⟨_, allAt_ne_nil hdeclared, hstand, hdeclares⟩, fun c hc hself hlinks => ?_⟩
  rw [hc] at hstand
  obtain ⟨place, _, hplace, hnil, hplaces⟩ := List.forall₂_cons_right_iff.1 hstand
  rw [hplaces, List.forall₂_nil_right_iff.1 hnil] at hdeclares
  exact hdeclares.decidedBy hplace hself hlinks

/-- A text, and then a number. -/
def twice : List (String × Schema) := [("a", typed .string), ("a", typed .number)]

theorem assembled_twice : ∀ e ∈ twice, e.2.Assembled := by
  have hscope : ∀ entry ∈ ([] : List (String × Schema)), entry.2.Assembled := nofun
  have htyped : ∀ t, (typed t).Assembled := fun t => .built hscope (e := .typed t) rfl
  exact List.forall_mem_cons.2 ⟨htyped .string, List.forall_mem_singleton.2 (htyped .number)⟩

theorem orderly_twice : (object .plain twice).Orderly :=
  orderly_object fun e he => (assembled_twice e he).orderly

theorem object_declares_twice : (∀ e ∈ twice, e.2.Assembled) ∧ "a" ∈ twice.map (·.1) ∧
    ∃ places, List.Forall₂ (object .plain twice).StandsFor places [typed .string, typed .number] ∧
      (object .plain twice).Declares ["a", "a"] "a" places := by
  have hkey : "a" ∈ twice.map (·.1) := List.mem_cons_self
  obtain ⟨⟨places, _, hstand, hdeclares⟩, _⟩ := object_declares assembled_twice hkey
  exact ⟨assembled_twice, hkey, places, hstand, hdeclares⟩

/-- The first entry accepts texts, and the document asks for a number. -/
theorem no_entry_decides : ¬∃ c ∈ allAt "a" twice, (object .plain twice).DecidedBy (demanded twice) "a" c := by
  rintro ⟨c, hc, hdecides⟩
  have hentries : allAt "a" twice = [typed .string, typed .number] := rfl
  rw [hentries, List.mem_cons, List.mem_singleton] at hc
  rcases hc with rfl | rfl
  · have hwhole : (object .plain twice).toJson.get? [.key "properties", .key "a"] =
        some (.object [("type", .string "number")]) := by with_unfolding_all rfl
    have hpart : (typed .string).toJson = .object [("type", .string "string")] := by with_unfolding_all rfl
    have hwritten := hdecides.written
    rw [hwhole, hpart] at hwritten
    simp at hwritten
  · have hn := node?_root_object fun e he => (assembled_twice e he).orderly
    have htext : (object .plain twice).node? 1 = some (.typed .string) := by with_unfolding_all rfl
    have hwhole : ((object .plain twice).context .empty {}).check 0 root (some (.object [("a", .string "x")])) .root
        = .ok [] := by
      rw [Declares.judge orderly_twice hn rfl rfl, Context.check_typed htext]
      rfl
    have hjudged := hdecides.judged .empty {} 0 (.string "x") .root
    rw [hwhole, Context.check_typed rfl] at hjudged
    cases hjudged

end Schema

end JsonSchema
