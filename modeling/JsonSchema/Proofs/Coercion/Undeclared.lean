import JsonSchema.Proofs.Coercion.Loaded
import JsonSchema.Proofs.Coercion.Opening
import JsonSchema.Proofs.Coercion.Trimming
import JsonSchema.Proofs.Indexing.Pointers
import JsonSchema.Proofs.Recursion.Sooner
import JsonSchema.Proofs.Reloading.Running

/-!
# Members that are not declared

The coercion of an object leaves members that the node does not declare out, or keeps them as they
are. The schema for them decides which, by what it says about null, and converts none of them.
-/

namespace JsonSchema

open Loader

/-! ## Loaded nodes -/

theorem Node.Reads.listsRequired {R : NodeId → Json → Prop} {d : Json} {n : Node} (h : n.Reads R d) :
    n.ListsRequired := by
  intro v hv
  cases h with
  | constant kind keywords hooks =>
    rw [keywords] at hv
    cases hv
  | object kind keywords hooks =>
    obtain ⟨m, _, hread⟩ := exists_of_forall₂ keywords.flip hv
    obtain ⟨name, value⟩ := m
    obtain rfl : "required" = name := hread.name_eq
    cases hread with
    | leaf role read =>
      obtain ⟨_, _, heq⟩ := Except.map_eq_ok_iff.1 read
      cases heq

theorem Node.Reads.nodup_declaredKeys {R : NodeId → Json → Prop} {d : Json} {n : Node} (h : n.Reads R d)
    (hd : d.keysDistinct = true) : n.declaredKeys.Nodup := by
  cases h with
  | constant kind keywords hooks => simp [Node.declaredKeys, Node.properties, Node.find?, keywords]
  | object kind keywords hooks => exact (Node.held_of_properties keywords hd).1

/-! ## One object -/

namespace Coercion

section Members

variable {c : Context} {options : CoerceOptions} {convert : Convert} {hops : Nat} {n : Node}
  {input out : Members}

theorem admitsExtra_of_coerceMembers (h : coerceMembers c options convert hops n input = .ok out) :
    options.dropUnknown = true ∨
      ∃ admits, admitsExtra c hops (n.single? .additionalProperties) = .ok admits := by
  obtain ⟨_, _, ⟨_, hdrop | hcloses⟩ | ⟨_, hadmits, _⟩⟩ := coerceMembers_eq_ok h
  · exact .inl hdrop
  · exact .inr ⟨false, hcloses⟩
  · exact .inr ⟨true, hadmits⟩

variable (hinput : input.keys.Nodup)
  (hsame : admitsExtra c hops (n.single? .additionalProperties) = .ok true →
    ∀ v, convertBy convert (n.single? .additionalProperties) v = .ok v)
  (h : coerceMembers c options convert hops n input = .ok out) {key : String} (hkey : key ∉ n.declaredKeys)
include h hkey

omit hinput hsame in
theorem get?_dropped (hdrops : c.Drops options hops n) : out.get? key = none := by
  obtain ⟨first, hfirst, ⟨rfl, _⟩ | ⟨hunknown, hadmits, _⟩⟩ := coerceMembers_eq_ok h
  · rw [get?_other hfirst hkey, if_pos (Bool.or_eq_true_iff.2 (hdrops.imp_right And.left))]
  · rcases hdrops with hdrop | ⟨_, hclosed⟩
    · rw [hunknown] at hdrop
      cases hdrop
    · rw [hadmits] at hclosed
      cases hclosed

include hinput hsame

theorem get?_kept (hkeeps : ¬c.Drops options hops n) : out.get? key = input.get? key := by
  obtain ⟨first, hfirst, ⟨rfl, hcloses⟩ | ⟨_, hadmits, converted, hall, rfl⟩⟩ := coerceMembers_eq_ok h
  · rw [get?_other hfirst hkey, if_neg]
    intro hkeep
    rcases Bool.or_eq_true_iff.1 hkeep with hunknown | hstrict
    · exact hkeeps (.inl hunknown)
    · exact hkeeps (hcloses.imp_right fun hadmits => ⟨hstrict, hadmits⟩)
  · have hequal : List.Forall₂ (· = ·) (undeclared n input) converted := by
      refine hall.imp ?_
      rintro ⟨k, v⟩ ⟨_, w⟩ ⟨rfl, hconvert⟩
      rw [hsame hadmits] at hconvert
      exact congrArg (Prod.mk k) (Except.ok.inj hconvert)
    rw [List.forall₂_eq_eq_eq] at hequal
    subst hequal
    exact get?_putBack hinput hfirst hkey

end Members

theorem admitsExtra_sooner {c : Context} {hops hops' : Nat} (hle : hops' ≤ hops) {extra? : Option NodeId}
    {admits : Bool} (h : admitsExtra c hops extra? = .ok admits) : admitsExtra c hops' extra? = .ok admits := by
  cases extra? with
  | none => exact h
  | some id =>
    obtain ⟨found, hfound, hempty⟩ := Except.map_eq_ok_iff.1 h
    exact Except.map_eq_ok_iff.2 ⟨found, Context.check_eq_of_sooner hle hfound, hempty⟩

end Coercion

namespace Schema

/-! ## The rule -/

/-- The place says of null that it is not valid, where only acceptance counts. -/
def RefusesNull (s : Schema) (shared : FormatRegistry) (id : NodeId) : Prop :=
  ∃ r, s.validateAt shared id (some .null) { shortCircuit := true, ignoreUnsupported := true } = .ok r ∧
    r.valid = false

/-- The node declares properties, requires all of them, and has a schema for others that refuses null. -/
def ShutsOut (s : Schema) (shared : FormatRegistry) (n : Node) : Prop :=
  n.properties ≠ [] ∧ (∀ key ∈ n.declaredKeys, key ∈ n.required?.getD []) ∧
    ∃ extra, n.single? .additionalProperties = some extra ∧ s.RefusesNull shared extra

/-- What comes of the members that the node does not declare: all are lost, or none. -/
structure LeavesUndeclared (s : Schema) (shared : FormatRegistry) (options : CoerceOptions) (n : Node)
    (input out : Members) : Prop where
  lost : ∀ key ∈ input.keys, key ∉ n.declaredKeys →
    (key ∉ out.keys ↔ options.dropUnknown = true ∨ s.ShutsOut shared n)
  same : ∀ key ∈ out.keys, key ∉ n.declaredKeys → out.get? key = input.get? key

section

variable {s : Schema} {shared : FormatRegistry}

theorem refusesNull_iff {id : NodeId} :
    s.RefusesNull shared id ↔ Coercion.admitsExtra (s.lenientContext shared) 0 (some id) = .ok false := by
  have hjudged : s.validateAt shared id (some .null) { shortCircuit := true, ignoreUnsupported := true } =
      ((s.lenientContext shared).check 0 id (some .null) .root).map .ofFailures := validateAt_eq_judged ..
  rw [RefusesNull, Coercion.admitsExtra, hjudged]
  cases (s.lenientContext shared).check 0 id (some .null) .root with
  | error e => simp [Except.map]
  | ok found => simp [Except.map, Verdict.ofFailures]

theorem shutsOut_iff {n : Node} (hmarks : s.Marks n) {hops : Nat}
    (hasked : ∃ admits,
      Coercion.admitsExtra (s.lenientContext shared) hops (n.single? .additionalProperties) = .ok admits) :
    s.ShutsOut shared n ↔ (s.lenientContext shared).Closes hops n := by
  obtain ⟨admits, hadmits⟩ := hasked
  have hstrict : Coercion.isStrict s n = true ↔
      n.properties ≠ [] ∧ ∀ key ∈ n.declaredKeys, key ∈ n.required?.getD [] := by
    rw [Coercion.isStrict_of_marks hmarks]
    simp [Node.declaredKeys]
  have hextra : Coercion.admitsExtra (s.lenientContext shared) hops (n.single? .additionalProperties) =
      .ok false ↔ ∃ extra, n.single? .additionalProperties = some extra ∧ s.RefusesNull shared extra := by
    cases hsingle : n.single? .additionalProperties with
    | none => simp [Coercion.admitsExtra]
    | some extra =>
      rw [hsingle] at hadmits
      have hsooner := Coercion.admitsExtra_sooner (Nat.zero_le hops) hadmits
      simp [refusesNull_iff, hadmits, hsooner]
  rw [ShutsOut, Context.Closes, hextra, ← and_assoc, ← hstrict]
  rfl

theorem convertBy_of_admits {docs : List Json} {d : Json} (h : s.Depicts docs d) {place : NodeId} {n : Node}
    (hn : s.node? place = some n) (options : CoerceOptions) (hops : Nat)
    (hadmits : Coercion.admitsExtra (s.lenientContext shared) hops (n.single? .additionalProperties) = .ok true)
    (v : Json) :
    Coercion.convertBy ((s.lenientContext shared).convertBelow options hops place)
      (n.single? .additionalProperties) v = .ok v := by
  cases hsingle : n.single? .additionalProperties with
  | none => rfl
  | some extra =>
    rw [hsingle] at hadmits
    obtain ⟨found, hfound, hempty⟩ := Except.map_eq_ok_iff.1 hadmits
    rw [List.isEmpty_iff.1 hempty] at hfound
    have hplace : extra ∈ n.places := Node.mem_places_of_single? hsingle
    have hbelow := h.orderly.below place n hn extra hplace
    obtain ⟨child, hchild⟩ : ∃ child, s.node? extra = some child := ⟨_, Array.getElem?_eq_getElem hbelow.2⟩
    obtain ⟨there, hthere, hkeys, _⟩ := h.exists_document hchild
    rw [Coercion.convertBy, Context.convertBelow_of_below hbelow]
    exact Context.coerce_of_null h.labels h.keysDistinct h.root rfl options hops extra there hthere hkeys _ hfound v

end

/-- An object node without a reference applies the rule. -/
theorem leavesUndeclared_of_coerce (shared : FormatRegistry) {d : Json} {s : Schema} (hd : d.keysDistinct = true)
    (h : ofJson d = .ok s) (options : CoerceOptions) (hops : Nat) {place : NodeId} {n : Node}
    (hn : s.node? place = some n) (hkind : n.kind = .object) (href : n.reference? = none) {u w : Json}
    {input : Members} (hu : u.keysDistinct = true)
    (hinput : u = .object input ∨ ∃ text, u = .string text ∧ Json.parse? text = some (.object input))
    (hw : (s.lenientContext shared).coerce options hops place u = .ok w) :
    ∃ out, w = .object out ∧ s.LeavesUndeclared shared options n input out := by
  obtain ⟨docs, hdepicts⟩ := exists_depicts hd h
  obtain ⟨here, hhere, hkeys, hreads⟩ := hdepicts.exists_document hn
  have hmarks : s.Marks n :=
    (marked_ofJson h).synced place n trivial hn hreads.listsRequired (hreads.nodup_declaredKeys hkeys)
  have hopened : (Json.object input).keysDistinct = true ∧
      (s.lenientContext shared).coerce options hops place (.object input) = .ok w := by
    rcases hinput with rfl | ⟨text, rfl, hparse⟩
    · exact ⟨hu, hw⟩
    · exact ⟨Json.keysDistinct_of_parse? hparse,
        (Context.coerce_text hn hkind hreads.hooks_eq href hparse options hops).symm.trans hw⟩
  obtain ⟨hdistinct, hobject⟩ := hopened
  obtain ⟨hnodup, _⟩ := (Json.keysDistinct_object input).1 hdistinct
  rw [Context.coerce_object hn hkind hreads.hooks_eq href] at hobject
  obtain ⟨out, hout, rfl⟩ := Except.map_eq_ok_iff.1 hobject
  have hsame : Coercion.admitsExtra (s.lenientContext shared) hops (n.single? .additionalProperties) = .ok true →
      ∀ v, Coercion.convertBy ((s.lenientContext shared).convertBelow options hops place)
        (n.single? .additionalProperties) v = .ok v := convertBy_of_admits hdepicts hn options hops
  have hrule : (s.lenientContext shared).Drops options hops n ↔
      options.dropUnknown = true ∨ s.ShutsOut shared n := by
    rcases Coercion.admitsExtra_of_coerceMembers hout with hdrop | hasked
    · exact iff_of_true (.inl hdrop) (.inl hdrop)
    · exact or_congr_right (shutsOut_iff hmarks hasked).symm
  refine ⟨out, rfl, fun key hpresent hkey => ?_, fun key hpresent hkey => ?_⟩
  · rw [← hrule, Members.mem_keys_iff]
    by_cases hdrops : (s.lenientContext shared).Drops options hops n
    · rw [Coercion.get?_dropped hout hkey hdrops]
      simp [hdrops]
    · rw [Coercion.get?_kept hnodup hsame hout hkey hdrops, ← Members.mem_keys_iff]
      simp [hdrops, hpresent]
  · by_cases hdrops : (s.lenientContext shared).Drops options hops n
    · rw [Members.mem_keys_iff, Coercion.get?_dropped hout hkey hdrops] at hpresent
      simp at hpresent
    · exact Coercion.get?_kept hnodup hsame hout hkey hdrops

/-- At every object that a coercion comes to, members that the node does not declare are lost by one rule,
and those that are kept are as they were. A node with a reference applies no rule of its own: it hands the value
on as it is. -/
theorem coerce_undeclared (shared : FormatRegistry) {d : Json} {s : Schema} (hd : d.keysDistinct = true)
    (h : ofJson d = .ok s) (options : CoerceOptions) (hops : Nat) {place : NodeId} {n : Node}
    (hn : s.node? place = some n) (hkind : n.kind = .object) {u w : Json} {input : Members}
    (hu : u.keysDistinct = true)
    (hinput : u = .object input ∨ ∃ text, u = .string text ∧ Json.parse? text = some (.object input))
    (hw : (s.lenientContext shared).coerce options hops place u = .ok w) :
    (n.reference? = none → ∃ out, w = .object out ∧ s.LeavesUndeclared shared options n input out) ∧
      ∀ reference, n.reference? = some reference →
        ∃ target, (Index.ofSchema s).resolve reference = .ok target ∧ hops < maxHops ∧
          (s.lenientContext shared).coerce options (hops + 1) target u = .ok w := by
  obtain ⟨docs, hdepicts⟩ := exists_depicts hd h
  obtain ⟨_, _, _, hreads⟩ := hdepicts.exists_document hn
  have hlink : ∀ target, n.kind ≠ .link target := by
    intro target hlink
    rw [hkind] at hlink
    cases hlink
  exact ⟨fun href => leavesUndeclared_of_coerce shared hd h options hops hn hkind href hu hinput hw,
    fun _ href => Context.handed_of_coerce (c := s.lenientContext shared) hn hlink hreads.hooks_eq href hw⟩

/-- The member `b` of an object that comes as a text is not declared, and null is no number. -/
theorem coerce_undeclared_text :
    ∃ out, (strictSchema.lenientContext .empty).coerce {} 0 root (.string "\x7b\"a\":1,\"b\":1\x7d") =
        .ok (.object out) ∧
      strictSchema.LeavesUndeclared .empty {} strictNode [("a", .number one), ("b", .number one)] out ∧
      "b" ∉ Members.keys out := by
  have hnode : strictSchema.node? root = some strictNode := rfl
  have hparse : Json.parse? "\x7b\"a\":1,\"b\":1\x7d" =
      some (.object [("a", .number one), ("b", .number one)]) := by with_unfolding_all rfl
  have hcoerce : (strictSchema.lenientContext .empty).coerce {} 0 root (.string "\x7b\"a\":1,\"b\":1\x7d") =
      .ok (.object [("a", .number one)]) :=
    (Context.coerce_text hnode rfl rfl rfl hparse {} 0).trans (coerce_strictNode rfl one one)
  obtain ⟨out, heq, hleaves⟩ := (coerce_undeclared .empty (by decide) ofJson_strictDocument {} 0 hnode rfl
    rfl (.inr ⟨_, rfl, hparse⟩) hcoerce).1 rfl
  cases heq
  exact ⟨_, hcoerce, hleaves, by decide⟩

end Schema

end JsonSchema
