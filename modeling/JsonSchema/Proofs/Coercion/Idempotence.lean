import JsonSchema.Proofs.Coercion.Members
import JsonSchema.Proofs.Json.Reading
import JsonSchema.Proofs.Loading.Steps
import JsonSchema.Schema.Builder
import Mathlib.Data.List.Nodup

/-!
# Coercing twice

A coerced value stays as it is when it is coerced again. The one exception is a node that declares a
property twice: then the second coercion may fail, because every declaration is tried and the last
one counts.
-/

namespace JsonSchema

/-- Converting once more gives the same, or fails and there is an excuse. -/
def Settled (excuse : Prop) (convert : Json → Except SchemaError Json) (w : Json) : Prop :=
  convert w = .ok w ∨ excuse ∧ ∃ e, convert w = .error e

def Settles (excuse : Prop) (convert : Json → Except SchemaError Json) : Prop :=
  ∀ v w, v.keysDistinct = true → convert v = .ok w → Settled excuse convert w

variable {excuse : Prop}

/-- The steps of a second pass give what the first pass gave, or fail and there is an excuse. -/
def Repeats (excuse : Prop) (r : Except SchemaError α) (a : α) : Prop :=
  r = .ok a ∨ excuse ∧ ∃ e, r = .error e

namespace Repeats

theorem ok (a : α) : Repeats excuse (.ok a) a := .inl rfl

theorem bind {r : Except SchemaError α} {a : α} {f : α → Except SchemaError β} {b : β}
    (h : Repeats excuse r a) (hf : Repeats excuse (f a) b) : Repeats excuse (r >>= f) b := by
  rcases h with rfl | ⟨hexcuse, e, rfl⟩
  · exact hf
  · exact .inr ⟨hexcuse, e, rfl⟩

theorem map {r : Except SchemaError α} {a : α} (h : Repeats excuse r a) (f : α → β) :
    Repeats excuse (r.map f) (f a) := by
  rcases h with rfl | ⟨hexcuse, e, rfl⟩
  · exact ok (f a)
  · exact .inr ⟨hexcuse, e, rfl⟩

end Repeats

theorem settles_of_idempotent {f : Json → Json} (h : ∀ v, f (f v) = f v) :
    Settles excuse fun v => .ok (f v) := by
  intro v w _ hw
  cases hw
  exact .inl (congrArg Except.ok (h v))

/-! ## Scalars and hooks -/

namespace Json

theorem coerceToString_idempotent (v : Json) : v.coerceToString.coerceToString = v.coerceToString := by
  cases v <;> rfl

theorem coerceToNumber_idempotent (v : Json) : v.coerceToNumber.coerceToNumber = v.coerceToNumber := by
  cases v with
  | string s =>
    cases h : numberOfText? s with
    | none => simp [coerceToNumber, h]
    | some n => simp [coerceToNumber, h]
  | _ => rfl

theorem coerceToBoolean_idempotent (v : Json) :
    v.coerceToBoolean.coerceToBoolean = v.coerceToBoolean := by
  fun_cases coerceToBoolean v <;> simp_all [coerceToBoolean]

end Json

namespace Hooks

/-- One of the ready-made coercions. -/
def IsStock (hook : CoerceOptions → Json → Json) : Prop :=
  (∃ delimiter, hook = splitDelimited delimiter) ∨ ∃ value, hook = constant value

theorem splitDelimited_idempotent (delimiter : Char) (options : CoerceOptions) (v : Json) :
    splitDelimited delimiter options (splitDelimited delimiter options v) =
      splitDelimited delimiter options v := by
  cases v <;> simp [splitDelimited, itemText]

theorem settles_hook {hook : CoerceOptions → Json → Json} (h : IsStock hook)
    (options : CoerceOptions) : Settles excuse fun v => .ok (hook options v) := by
  refine settles_of_idempotent fun v => ?_
  rcases h with ⟨delimiter, rfl⟩ | ⟨value, rfl⟩
  · exact splitDelimited_idempotent delimiter options v
  · rfl

end Hooks

namespace Coercion

/-! ## Arrays -/

theorem settles_convertBy {convert : Convert} (h : ∀ child, Settles excuse (convert child))
    (extra? : Option NodeId) : Settles excuse (convertBy convert extra?) := by
  cases extra? with
  | some id => exact h id
  | none => exact settles_of_idempotent fun _ => rfl

theorem repeats_mapM {f : Json × Nat → Except SchemaError Json} {items items' : List Json}
    {start : Nat} (h : ∀ i, Settles excuse fun v => f (v, i))
    (hitems : ∀ v ∈ items, v.keysDistinct = true)
    (hmap : (items.zipIdx start).mapM f = .ok items') :
    Repeats excuse ((items'.zipIdx start).mapM f) items' := by
  induction items generalizing items' start with
  | nil =>
    cases hmap
    exact .ok []
  | cons v items ih =>
    obtain ⟨hv, hitems⟩ := List.forall_mem_cons.1 hitems
    rw [List.zipIdx_cons, List.mapM_cons] at hmap
    obtain ⟨w, hw, hmap⟩ := Except.bind_eq_ok_iff.1 hmap
    obtain ⟨rest, hrest, hmap⟩ := Except.bind_eq_ok_iff.1 hmap
    cases hmap
    rw [List.zipIdx_cons, List.mapM_cons]
    have hfirst : Repeats excuse (f (w, start)) w := h start v w hv hw
    exact hfirst.bind ((ih hitems hrest).bind (.ok (w :: rest)))

theorem settles_coerceArray {convert : Convert} (h : ∀ child, Settles excuse (convert child))
    (n : Node) : Settles excuse (coerceArray convert n) := by
  intro v w hv hw
  cases v with
  | array items =>
    rw [coerceArray_eq] at hw
    obtain ⟨items', hmap, rfl⟩ := Except.map_eq_ok_iff.1 hw
    have hslot : ∀ i : Nat, Settles excuse fun v => convertBy convert (n.slot? i) v :=
      fun i => settles_convertBy h (n.slot? i)
    have hagain := repeats_mapM hslot ((Json.keysDistinct_array items).1 hv) hmap
    unfold Settled
    rw [coerceArray_eq]
    exact hagain.map Json.array
  | null | bool | number | string | object =>
    cases hw
    exact .inl rfl

/-! ## Objects -/

section Objects

variable {convert : Convert} (h : ∀ child, Settles excuse (convert child)) {n : Node}
  (hrepeat : ¬n.declaredKeys.Nodup → excuse) {input out : Members}
  (hinput : (Json.object input).keysDistinct = true)
include h hinput

/-- A converted member converts to itself by the declaration that converted it. -/
theorem settled_declared {entries : List (String × NodeId)} {kept : Members}
    (hout : convertEntries convert input entries kept = .ok out) {k : String} {id : NodeId} {x : Json}
    (hlookup : entries.reverse.lookup k = some id)
    (hkept : input.get? k = none → kept.get? k = none) (hx : out.get? k = some x) :
    Settled excuse (convert id) x := by
  rcases get?_convertEntries hout k with ⟨id', v, x', hlookup', hv, hx', hout'⟩ | ⟨hnone, hout'⟩
  · rw [hlookup] at hlookup'
    rw [hx] at hout'
    cases hlookup'
    cases hout'
    have hmem := Members.mem_of_get?_eq_some input k v hv
    exact h id v x (((Json.keysDistinct_object input).1 hinput).2 _ hmem) hx'
  · rcases hnone with hnone | hnone
    · simp [hlookup] at hnone
    · rw [hkept hnone, hx] at hout'
      cases hout'

include hrepeat

/-- The declared members of the second pass are those of the first. -/
theorem repeats_convertEntries {c : Context} {options : CoerceOptions} {later : Members}
    (hout : convertEntries convert input n.properties (keep c options n input) = .ok out)
    (hlater : later.keys.Nodup) (hsame : ∀ k ∈ n.declaredKeys, later.get? k = out.get? k) :
    Repeats excuse (convertEntries convert later n.properties (keep c options n later))
      (keep c options n later) := by
  have hsettled : ∀ k id x, n.properties.reverse.lookup k = some id → k ∈ n.declaredKeys →
      later.get? k = some x → Settled excuse (convert id) x := by
    intro k id x hlookup hk hx
    refine settled_declared h hinput hout hlookup (fun hnone => ?_) (hsame k hk ▸ hx)
    rw [get?_keep hk, hnone]
  cases hagain : convertEntries convert later n.properties (keep c options n later) with
  | error e =>
    refine .inr ⟨?_, e, rfl⟩
    obtain ⟨⟨k, id⟩, hmem, x, hx, hfails⟩ := convertEntries_error hagain
    have hk : k ∈ n.declaredKeys := List.mem_map_of_mem hmem
    by_contra hnot
    -- Without an excuse the declaration that fails is the only one for its key.
    have hnodup : (n.properties.reverse.map (·.1)).Nodup := by
      rw [List.map_reverse]
      refine List.nodup_reverse.2 ?_
      exact not_not.1 fun hdup => hnot (hrepeat hdup)
    have hlookup : n.properties.reverse.lookup k = some id :=
      lookup_eq_some_of_mem hnodup (List.mem_reverse.2 hmem)
    rcases hsettled k id x hlookup hk hx with hok | ⟨hexcuse, _⟩
    · rw [hfails] at hok
      cases hok
    · exact hnot hexcuse
  | ok again =>
    refine .inl (congrArg Except.ok ?_)
    have hkeys : again.keys = (keep c options n later).keys := by
      refine keys_convertEntries hagain fun e he hpresent => ?_
      exact (mem_keys_keep (List.mem_map_of_mem he)).2 hpresent
    refine Members.eq_of_get? (hkeys ▸ nodup_keys_keep hlater) hkeys fun k _ => ?_
    rcases get?_convertEntries hagain k with ⟨id, x, y, hlookup, hx, hy, hagain'⟩ | ⟨_, hagain'⟩
    · have hk : k ∈ n.declaredKeys :=
        List.mem_map_of_mem (List.mem_reverse.1 (mem_of_lookup hlookup))
      rcases hsettled k id x hlookup hk hx with hok | ⟨_, e, hfails⟩
      · rw [hy] at hok
        cases hok
        rw [hagain', get?_keep hk, hx]
      · rw [hy] at hfails
        cases hfails
    · exact hagain'

end Objects

theorem repeats_convertExtra {convert : Convert} {extra? : Option NodeId} {ms : Members}
    (h : ∀ m ∈ ms, Settled excuse (convertBy convert extra?) m.2) (out : Members) :
    Repeats excuse (convertExtra convert extra? ms out) (out.insertAll ms) := by
  induction ms generalizing out with
  | nil => exact .ok out
  | cons m ms ih =>
    obtain ⟨hm, hms⟩ := List.forall_mem_cons.1 h
    rw [convertExtra_cons]
    have hfirst : Repeats excuse (convertBy convert extra? m.2) m.2 := hm
    exact hfirst.bind (ih hms _)

/-! ### Text of an object -/

theorem openText_eq_self {v : Json} (h : ∀ ms, openText v ≠ .object ms) : openText v = v := by
  fun_cases openText v <;> simp_all [openText]

theorem keysDistinct_openText {v : Json} (h : v.keysDistinct = true) :
    (openText v).keysDistinct = true := by
  unfold openText
  split
  · split
    · split
      · next hparse => exact Json.keysDistinct_of_parse? hparse
      · exact h
    · exact h
  · exact h

/-! ### Both passes over an object -/

section Passes

variable {c : Context} {options : CoerceOptions} {n : Node} {input out converted : Members}

theorem keep_eq_self (hkeys : out.keys = (keep c options n input).keys) :
    keep c options n out = out := by
  unfold keep at hkeys ⊢
  split at hkeys
  · next h => rw [if_pos h, declaredMembers_eq_self hkeys]
  · next h => rw [if_neg h]

theorem keys_eq_of_forall₂ {P : String × Json → String × Json → Prop} {ms ms' : Members}
    (h : List.Forall₂ (fun m m' => m.1 = m'.1 ∧ P m m') ms ms') : ms.keys = ms'.keys :=
  map_eq_map_of_forall₂ (h.imp fun _ _ hm => hm.1)

theorem nodup_keys_undeclared (h : input.keys.Nodup) : (undeclared n input).keys.Nodup :=
  (List.filter_sublist.map _).nodup h

variable (hinput : input.keys.Nodup) (hkeys : out.keys = (keep c options n input).keys)
  (hconverted : (undeclared n input).keys = converted.keys)
include hinput hkeys hconverted

omit hinput hkeys in
theorem not_declared_of_mem {k : String} (h : k ∈ converted.keys) : k ∉ n.declaredKeys := by
  rw [← hconverted] at h
  obtain ⟨m, hm, rfl⟩ := List.mem_map.1 h
  exact (mem_undeclared.1 hm).2

omit hinput hkeys in
theorem get?_passes {k : String} (hk : k ∈ n.declaredKeys) :
    (out.insertAll converted).get? k = out.get? k :=
  Members.get?_insertAll_of_not_mem (fun h => not_declared_of_mem hconverted h hk) out

omit hinput hkeys hconverted in
theorem undeclared_eq_nil (h : ∀ k ∈ out.keys, k ∈ n.declaredKeys) : undeclared n out = [] := by
  refine List.filter_eq_nil_iff.2 fun m hm => ?_
  have hany := (Node.any_properties_iff_declared n m.1).2 (h m.1 (List.mem_map_of_mem hm))
  simp [hany]

omit hinput hkeys in
theorem undeclared_eq_self : undeclared n converted = converted := by
  refine List.filter_eq_self.2 fun m hm => ?_
  have hany := mt (Node.any_properties_iff_declared n m.1).1
    (not_declared_of_mem hconverted (List.mem_map_of_mem hm))
  rw [Bool.not_eq_true', ← Bool.not_eq_true]
  exact hany

omit hinput hkeys in
theorem declaredMembers_insertAll (hdeclared : out.keys = (declaredMembers n input).keys) :
    declaredMembers n (out.insertAll converted) = out := by
  have hout := declaredMembers_eq_self hdeclared
  have hkeys : (declaredMembers n (out.insertAll converted)).keys = (declaredMembers n out).keys := by
    refine keys_declaredMembers_congr fun k hk => ?_
    rw [Members.mem_keys_iff, Members.mem_keys_iff, get?_passes hconverted hk]
  rw [hout] at hkeys
  refine Members.eq_of_get? nodup_keys_declaredMembers hkeys fun k hk => ?_
  have hk := ((mem_keys_declaredMembers k).1 hk).1
  rw [get?_declaredMembers, if_pos hk, get?_passes hconverted hk]

/-- The members that are not declared are put back where they were. -/
theorem insertAll_undeclared :
    (keep c options n (out.insertAll converted)).insertAll (undeclared n (out.insertAll converted)) =
      out.insertAll converted := by
  have hout : out.keys.Nodup := hkeys ▸ nodup_keys_keep hinput
  by_cases hflag : (options.dropUnknown || isStrict c.schema n) = true
  · have hdeclared : out.keys = (declaredMembers n input).keys := by
      rw [hkeys, keep, if_pos hflag]
    have hmem : ∀ k ∈ out.keys, k ∈ n.declaredKeys := fun k hk =>
      ((mem_keys_declaredMembers k).1 (hdeclared ▸ hk)).1
    have happend : out.insertAll converted = out ++ converted := by
      refine Members.insertAll_append ?_
      rw [Members.keys, List.map_append, List.nodup_append]
      have hnodup : converted.keys.Nodup := hconverted ▸ nodup_keys_undeclared hinput
      refine ⟨hout, hnodup, ?_⟩
      rintro k hk _ hk' rfl
      exact not_declared_of_mem hconverted hk' (hmem k hk)
    have hfilter : undeclared n (out.insertAll converted) = converted := by
      rw [happend, undeclared, List.filter_append]
      exact congrArg₂ (· ++ ·) (undeclared_eq_nil hmem) (undeclared_eq_self hconverted)
    rw [keep, if_pos hflag, declaredMembers_insertAll hconverted hdeclared, hfilter]
  · rw [keep, if_neg hflag]
    refine Members.insertAll_eq_self fun m hm => ?_
    exact Members.get?_eq_some_of_mem _ (Members.nodup_keys_insertAll hout converted) m
      (mem_undeclared.1 hm).1

theorem mem_converted {m : String × Json} (h : m ∈ undeclared n (out.insertAll converted)) :
    m ∈ converted := by
  have hout : out.keys.Nodup := hkeys ▸ nodup_keys_keep hinput
  obtain ⟨hmem, hnot⟩ := mem_undeclared.1 h
  have hget := Members.get?_eq_some_of_mem _ (Members.nodup_keys_insertAll hout converted) m hmem
  have hnodup : converted.keys.Nodup := hconverted ▸ nodup_keys_undeclared hinput
  rw [Members.get?_insertAll (Members.get?_eq_some_of_mem converted hnodup)] at hget
  split at hget
  · exact Members.mem_of_get?_eq_some converted m.1 m.2 hget
  · next hnew =>
    refine absurd ?_ hnew
    have hk : m.1 ∈ (keep c options n input).keys := hkeys ▸ Members.mem_keys_of_get? hget
    rw [← hconverted]
    unfold keep at hk
    split at hk
    · exact absurd ((mem_keys_declaredMembers m.1).1 hk).1 hnot
    · obtain ⟨m', hm', heq⟩ := List.mem_map.1 hk
      refine List.mem_map.2 ⟨m', mem_undeclared.2 ⟨hm', ?_⟩, heq⟩
      rw [heq]
      exact hnot

end Passes

theorem repeats_coerceMembers {c : Context} {options : CoerceOptions} {convert : Convert}
    {hops : Nat} {n : Node} {input final : Members} (h : ∀ child, Settles excuse (convert child))
    (hrepeat : ¬n.declaredKeys.Nodup → excuse) (hinput : (Json.object input).keysDistinct = true)
    (hfinal : coerceMembers c options convert hops n input = .ok final) :
    Repeats excuse (coerceMembers c options convert hops n final) final := by
  obtain ⟨hnodup, hvalues⟩ := (Json.keysDistinct_object input).1 hinput
  unfold coerceMembers at hfinal
  obtain ⟨out, hout, hfinal⟩ := Except.bind_eq_ok_iff.1 hfinal
  have hkeys : out.keys = (keep c options n input).keys := by
    refine keys_convertEntries hout fun e he hpresent => ?_
    exact (mem_keys_keep (List.mem_map_of_mem he)).2 hpresent
  have houtNodup : out.keys.Nodup := hkeys ▸ nodup_keys_keep hnodup
  -- The second pass converts the declared members of the result, which are those of `out`.
  have hagain := repeats_convertEntries h hrepeat hinput hout houtNodup fun _ _ => rfl
  rw [keep_eq_self hkeys] at hagain
  split at hfinal
  · next hdrop =>
    cases hfinal
    unfold coerceMembers
    rw [keep_eq_self hkeys]
    refine hagain.bind ?_
    rw [if_pos hdrop]
    exact .ok _
  · next hdrop =>
    obtain ⟨admits, hadmits, hfinal⟩ := Except.bind_eq_ok_iff.1 hfinal
    cases admits with
    | false =>
      cases hfinal
      unfold coerceMembers
      rw [keep_eq_self hkeys]
      refine hagain.bind ?_
      rw [if_neg hdrop]
      dsimp only
      rw [hadmits]
      exact .ok _
    | true =>
      obtain ⟨converted, hall, rfl⟩ := convertExtra_eq_ok hfinal
      have hconverted := keys_eq_of_forall₂ hall
      have hagain := repeats_convertEntries h hrepeat hinput hout
        (Members.nodup_keys_insertAll houtNodup converted)
        fun k hk => get?_passes hconverted hk
      have hextra : ∀ m ∈ undeclared n (out.insertAll converted),
          Settled excuse (convertBy convert (n.single? .additionalProperties)) m.2 := by
        intro m hm
        obtain ⟨m', hm', _, hconvert⟩ :=
          exists_of_forall₂ hall.flip (mem_converted hnodup hkeys hconverted hm)
        have hvalue := hvalues m' (mem_undeclared.1 hm').1
        exact settles_convertBy h _ m'.2 m.2 hvalue hconvert
      have hlast := repeats_convertExtra hextra (keep c options n (out.insertAll converted))
      rw [insertAll_undeclared hnodup hkeys hconverted] at hlast
      unfold coerceMembers
      refine hagain.bind ?_
      rw [if_neg hdrop]
      dsimp only
      rw [hadmits]
      exact hlast

theorem settles_coerceObject {c : Context} {options : CoerceOptions} {convert : Convert}
    {hops : Nat} {n : Node} (h : ∀ child, Settles excuse (convert child))
    (hrepeat : ¬n.declaredKeys.Nodup → excuse) :
    Settles excuse (coerceObject c options convert hops n) := by
  intro v w hv hw
  have hopened := keysDistinct_openText hv
  rw [coerceObject_eq] at hw
  split at hw
  · next input hopen =>
    obtain ⟨final, hfinal, rfl⟩ := Except.map_eq_ok_iff.1 hw
    rw [hopen] at hopened
    have hagain := repeats_coerceMembers h hrepeat hopened hfinal
    unfold Settled
    rw [coerceObject_eq, show openText (.object final) = .object final from rfl]
    exact hagain.map Json.object
  · next hnot =>
    cases hw
    have hsame : openText v = v := openText_eq_self hnot
    refine .inl ?_
    rw [coerceObject_eq, hsame, hsame]
    rw [hsame] at hnot
    split
    · exact absurd rfl (hnot _)
    · rfl

theorem settles_byKind {c : Context} {options : CoerceOptions} {convert : Convert} {hops : Nat}
    {n : Node} (h : ∀ child, Settles excuse (convert child))
    (hrepeat : ¬n.declaredKeys.Nodup → excuse) :
    Settles excuse (byKind c options convert hops n) := by
  unfold byKind
  cases n.kind with
  | string => exact settles_of_idempotent Json.coerceToString_idempotent
  | number => exact settles_of_idempotent Json.coerceToNumber_idempotent
  | integer => exact settles_of_idempotent Json.coerceToNumber_idempotent
  | boolean => exact settles_of_idempotent Json.coerceToBoolean_idempotent
  | object => exact settles_coerceObject h hrepeat
  | array => exact settles_coerceArray h n
  | _ => exact settles_of_idempotent fun _ => rfl

end Coercion

/-! ## Schemas -/

namespace Schema

/-- Every hook that replaces a coercion is a ready-made one. -/
def HasStockCoercions (s : Schema) : Prop :=
  ∀ id n, s.node? id = some n → ∀ hook, n.hooks.coerce = some hook → Hooks.IsStock hook

/-- Some node declares a property twice. -/
def RepeatsProperty (s : Schema) : Prop :=
  ∃ id n, s.node? id = some n ∧ ¬n.declaredKeys.Nodup

end Schema

namespace Context

theorem settles_coerce (c : Context) (options : CoerceOptions) (hstock : c.schema.HasStockCoercions)
    (hops : Nat) (id : NodeId) :
    Settles c.schema.RepeatsProperty (c.coerce options hops id) := by
  have heq : ∀ hops id, c.coerce options hops id = _ :=
    fun hops id => funext (c.coerce_eq_stage options hops id)
  induction hops, id using stage_induction (c := c) with
  | failed hops id e h =>
    rw [heq, h]
    intro v w _ hw
    cases hw
  | kept hops id h =>
    rw [heq, h]
    exact settles_of_idempotent fun _ => rfl
  | hooked hops id hook h =>
    obtain ⟨place, node, hnode, hhook⟩ := stage_hooked h
    rw [heq, h]
    exact Hooks.settles_hook (hstock place node hnode hook hhook) options
  | handed hops id reached target h ih =>
    rw [heq, h]
    exact ih
  | converted hops id reached place node h ih =>
    obtain ⟨_, hnode, _, _⟩ := stage_converted h
    have hchildren : ∀ child,
        Settles c.schema.RepeatsProperty (c.convertBelow options reached place child) := by
      intro child
      by_cases hbelow : c.schema.Below place child
      · rw [funext (convertBelow_of_below hbelow options reached)]
        exact ih child hbelow
      · rw [funext (convertBelow_of_not_below hbelow options reached)]
        exact settles_of_idempotent fun _ => rfl
    rw [heq, h]
    exact Coercion.settles_byKind hchildren fun hdup => ⟨place, node, hnode, hdup⟩

end Context

namespace Schema

/-- The second coercion with the same options finds nothing left to do. -/
theorem coerce_again (s : Schema) (shared : FormatRegistry) (options : CoerceOptions)
    (hstock : s.HasStockCoercions) {v w : Json} (hv : v.keysDistinct = true)
    (h : s.coerce shared v options = .ok w) :
    s.coerce shared w options = .ok w ∨
      s.RepeatsProperty ∧ ∃ e, s.coerce shared w options = .error e :=
  (s.lenientContext shared).settles_coerce options hstock 0 root v w hv h

/-- A text is split, and the list of its pieces is left alone. -/
theorem coerce_again_split :
    let s : Schema := .ofNode { kind := .any, hooks := { coerce := some (Hooks.splitDelimited ',') } }
    ∃ v w, s.HasStockCoercions ∧ v.keysDistinct = true ∧ s.coerce .empty v = .ok w ∧
      (s.coerce .empty w = .ok w ∨ s.RepeatsProperty ∧ ∃ e, s.coerce .empty w = .error e) := by
  intro s
  have hstock : s.HasStockCoercions := by
    intro id n hn hook hhook
    cases id with
    | zero =>
      cases hn
      cases hhook
      exact .inl ⟨',', rfl⟩
    | succ id => simp [s, node?, ofNode] at hn
  have hfirst : s.coerce .empty (.string "x,y") = .ok (.array [.string "x", .string "y"]) := by
    unfold coerce coerceAt
    have hnode : (s.lenientContext .empty).schema.node? root =
        some { kind := .any, hooks := { coerce := some (Hooks.splitDelimited ',') } } := rfl
    rw [Context.coerce_eq_stage, Context.stage_of_node hnode (by simp)]
    rfl
  exact ⟨_, _, hstock, rfl, hfirst, s.coerce_again .empty {} hstock rfl hfirst⟩

/-! ### A property that is declared twice -/

/-- As a list of references to nothing, and as a text that is split. -/
def twiceDeclared : Schema :=
  .object .plain [("a", .array (.reference "#/nowhere")),
    ("a", any.modifyRoot fun n => { n with hooks := { coerce := some (Hooks.splitDelimited ',') } })]

section TwiceDeclared

def declaring : Node where
  kind := .object
  keywords := [.leaf (.types [.object]), .keyed .properties [("a", 1), ("a", 3)],
    .leaf (.required ["a", "a"])]

def listing : Node where
  kind := .array
  keywords := [.leaf (.types [.array]), .single .items 2]

def lost : Node where
  kind := .any
  keywords := [.leaf (.ref "#/nowhere")]

def splitting : Node where
  kind := .any
  hooks := { coerce := some (Hooks.splitDelimited ',') }

theorem twiceDeclared_eq : twiceDeclared = ⟨#[declaring, listing, lost, splitting]⟩ := by
  simp [twiceDeclared, declaring, listing, lost, splitting, object, array, reference, typed, any,
    ofKind, ofNode, setKeyed, setSingle, setLeaf, setKeyword, modifyRoot, Schema.modify, adoptAll,
    adopt, syncRequired, node?, isOptional, size, root, Node.typed, Node.ofKind, Kind.ofType,
    Node.properties, Node.find?, Node.setKeyword, Node.setKeyword.replace, Node.mapIds,
    Keyword.mapIds, Kind.mapIds, Keyword.name, Leaf.name, Slot.name, KeyedSlot.name]

theorem hasStockCoercions_twiceDeclared : twiceDeclared.HasStockCoercions := by
  rw [twiceDeclared_eq]
  intro id n hn hook hhook
  match id with
  | 0 | 1 | 2 =>
    cases hn
    cases hhook
  | 3 =>
    cases hn
    cases hhook
    exact .inl ⟨',', rfl⟩
  | id + 4 => simp [node?] at hn

variable {c : Context} (hc : c = twiceDeclared.lenientContext .empty)
include hc

theorem convertBelow_eq (place child : NodeId) (h : place < child) (hchild : child < 4) (v : Json) :
    c.convertBelow {} 0 place child v = c.coerce {} 0 child v := by
  refine Context.convertBelow_of_below ⟨h, ?_⟩ {} 0 v
  rw [hc, lenientContext, twiceDeclared_eq]
  exact hchild

theorem coerce_lost (v : Json) : c.coerce {} 0 2 v = .error (.unresolvedRef "#/nowhere") := by
  rw [lenientContext, twiceDeclared_eq] at hc
  have hresolve : c.index.resolve "#/nowhere" = .error (.unresolvedRef "#/nowhere") := by
    rw [hc]
    with_unfolding_all rfl
  have hnode : c.schema.node? 2 = some lost := by rw [hc]; rfl
  have hstage := Context.stage_of_node hnode nofun 0
  simp only [lost, Node.reference?, Node.find?, List.findSome?_cons, hresolve] at hstage
  rw [Context.coerce_eq_stage, hstage]

theorem stage_listing : c.stage 0 1 = .converted 0 1 listing := by
  have hnode : c.schema.node? 1 = some listing := by rw [hc, lenientContext, twiceDeclared_eq]; rfl
  exact Context.stage_of_node hnode nofun 0

theorem stage_declaring : c.stage 0 0 = .converted 0 0 declaring := by
  have hnode : c.schema.node? 0 = some declaring := by
    rw [hc, lenientContext, twiceDeclared_eq]; rfl
  exact Context.stage_of_node hnode nofun 0

theorem coerce_listing_text : c.coerce {} 0 1 (.string "x") = .ok (.string "x") := by
  rw [Context.coerce_eq_stage, stage_listing hc]
  rfl

theorem coerce_listing_list :
    c.coerce {} 0 1 (.array [.string "x"]) = .error (.unresolvedRef "#/nowhere") := by
  have hitem := convertBelow_eq hc 1 2 (by decide) (by decide) (.string "x")
  rw [coerce_lost hc] at hitem
  rw [Context.coerce_eq_stage, stage_listing hc]
  simp [Coercion.byKind, listing, Coercion.coerceArray, Node.prefixItems, Node.single?, Node.find?,
    hitem]
  rfl

theorem coerce_splitting : c.coerce {} 0 3 (.string "x") = .ok (.array [.string "x"]) := by
  have hnode : c.schema.node? 3 = some splitting := by
    rw [hc, lenientContext, twiceDeclared_eq]; rfl
  have hstage := Context.stage_of_node hnode nofun 0
  rw [Context.coerce_eq_stage, hstage]
  rfl

end TwiceDeclared

/-- The first declaration does not take what the last one makes. -/
theorem coerce_again_fails :
    ∃ (s : Schema) (v w : Json), s.HasStockCoercions ∧ v.keysDistinct = true ∧
      s.coerce .empty v = .ok w ∧ ∃ e, s.coerce .empty w = .error e := by
  refine ⟨twiceDeclared, .object [("a", .string "x")], .object [("a", .array [.string "x"])],
    hasStockCoercions_twiceDeclared, rfl, ?_, .unresolvedRef "#/nowhere", ?_⟩
  · have hlist := convertBelow_eq rfl 0 1 (by decide) (by decide) (.string "x")
    have hsplit := convertBelow_eq rfl 0 3 (by decide) (by decide) (.string "x")
    rw [coerce_listing_text rfl] at hlist
    rw [coerce_splitting rfl] at hsplit
    unfold coerce coerceAt root
    rw [Context.coerce_eq_stage, stage_declaring rfl]
    simp only [Coercion.byKind, declaring]
    rw [Coercion.coerceObject_eq]
    simp [Coercion.openText, Coercion.coerceMembers, Node.properties, Node.find?, Node.single?,
      Coercion.convertEntries, Members.get?, Coercion.admitsExtra, Coercion.undeclared,
      Coercion.convertExtra, hlist, hsplit]
    unfold Coercion.keep
    split <;> rfl
  · have hlist := convertBelow_eq rfl 0 1 (by decide) (by decide)
      (.array [.string "x"])
    rw [coerce_listing_list rfl] at hlist
    unfold coerce coerceAt root
    rw [Context.coerce_eq_stage, stage_declaring rfl]
    simp only [Coercion.byKind, declaring]
    rw [Coercion.coerceObject_eq]
    simp [Coercion.openText, Coercion.coerceMembers, Node.properties, Node.find?,
      Coercion.convertEntries, Members.get?, hlist]
    rfl

end Schema

end JsonSchema
