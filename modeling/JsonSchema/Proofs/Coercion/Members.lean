import JsonSchema.Proofs.Coercion.Stage
import JsonSchema.Proofs.Json.Insertion

/-! # How the members of an object are converted -/

namespace JsonSchema

/-- The keys of the properties, in the order of their declarations. -/
def Node.declaredKeys (n : Node) : List String := n.properties.map (·.1)

theorem Node.any_properties_iff_declared (n : Node) (key : String) :
    n.properties.any (·.1 == key) = true ↔ key ∈ n.declaredKeys := by
  simp [declaredKeys]

/-- The schema of an item at a position. -/
def Node.slot? (n : Node) (i : Nat) : Option NodeId := n.prefixItems[i]?.or (n.single? .items)

namespace Coercion

/-- Conversion for a schema that may be missing. -/
def convertBy (convert : Convert) (child? : Option NodeId) (v : Json) : Except SchemaError Json :=
  match child? with
  | some id => convert id v
  | none => .ok v

theorem coerceArray_eq (convert : Convert) (n : Node) (items : List Json) :
    coerceArray convert n (.array items) =
      (items.zipIdx.mapM fun e : Json × Nat => convertBy convert (n.slot? e.2) e.1).map .array := rfl

/-! ## Declared members -/

section Declared

variable {n : Node} {ms : Members}

theorem declaredMembers_eq (n : Node) (ms : Members) :
    declaredMembers n ms =
      Members.insertAll [] (n.properties.filterMap fun e => (ms.get? e.1).map (e.1, ·)) := rfl

theorem nodup_keys_declaredMembers : (declaredMembers n ms).keys.Nodup := by
  rw [declaredMembers_eq]
  have hnil : Members.keys [] |>.Nodup := List.nodup_nil
  exact Members.nodup_keys_insertAll hnil _

theorem get?_declaredMembers (k : String) :
    (declaredMembers n ms).get? k = if k ∈ n.declaredKeys then ms.get? k else none := by
  have hagree : ∀ m ∈ n.properties.filterMap fun e => (ms.get? e.1).map (e.1, ·),
      ms.get? m.1 = some m.2 := by
    intro m hm
    obtain ⟨e, _, he⟩ := List.mem_filterMap.1 hm
    obtain ⟨v, hv, rfl⟩ := Option.map_eq_some_iff.1 he
    exact hv
  have hnil : Members.get? [] k = none := rfl
  rw [declaredMembers_eq, Members.get?_insertAll hagree, hnil]
  cases hv : ms.get? k with
  | none => simp only [ite_self]
  | some v =>
    have hkeys : k ∈ Members.keys (n.properties.filterMap fun e => (ms.get? e.1).map (e.1, ·)) ↔
        k ∈ n.declaredKeys := by
      simp only [Members.keys, Node.declaredKeys, List.mem_map, List.mem_filterMap,
        Option.map_eq_some_iff]
      constructor
      · rintro ⟨_, ⟨e, he, _, _, rfl⟩, rfl⟩
        exact ⟨e, he, rfl⟩
      · rintro ⟨e, he, rfl⟩
        exact ⟨_, ⟨e, he, v, hv, rfl⟩, rfl⟩
    simp only [hkeys]

theorem mem_keys_declaredMembers (k : String) :
    k ∈ (declaredMembers n ms).keys ↔ k ∈ n.declaredKeys ∧ k ∈ ms.keys := by
  rw [Members.mem_keys_iff, Members.mem_keys_iff, get?_declaredMembers]
  by_cases h : k ∈ n.declaredKeys <;> simp [h]

theorem keys_declaredMembers_congr {ms' : Members}
    (h : ∀ k ∈ n.declaredKeys, k ∈ ms.keys ↔ k ∈ ms'.keys) :
    (declaredMembers n ms).keys = (declaredMembers n ms').keys := by
  refine Members.keys_insertAll_congr rfl ?_
  have hpresent : ∀ e ∈ n.properties, (ms.get? e.1).isSome = (ms'.get? e.1).isSome := by
    intro e he
    have hmem := h e.1 (List.mem_map_of_mem he)
    rw [Members.mem_keys_iff, Members.mem_keys_iff, ← Option.isSome_iff_exists,
      ← Option.isSome_iff_exists] at hmem
    exact Bool.eq_iff_iff.2 hmem
  clear h
  generalize n.properties = entries at hpresent ⊢
  induction entries with
  | nil => rfl
  | cons e es ih =>
    obtain ⟨he, hes⟩ := List.forall_mem_cons.1 hpresent
    have ih := ih hes
    simp only [List.filterMap_cons]
    cases hv : ms.get? e.1 <;> cases hv' : ms'.get? e.1 <;> simp_all [Members.keys]

theorem declaredMembers_eq_self {out : Members}
    (h : out.keys = (declaredMembers n ms).keys) : declaredMembers n out = out := by
  have hmem : ∀ k, k ∈ out.keys ↔ k ∈ n.declaredKeys ∧ k ∈ ms.keys := by
    intro k
    rw [h, mem_keys_declaredMembers]
  have hkeys : (declaredMembers n out).keys = out.keys := by
    rw [h]
    refine keys_declaredMembers_congr fun k hk => ?_
    rw [hmem]
    exact and_iff_right hk
  refine Members.eq_of_get? nodup_keys_declaredMembers hkeys fun k hk => ?_
  rw [get?_declaredMembers, if_pos ((mem_keys_declaredMembers k).1 hk).1]

end Declared

/-! ## Entries -/

section Entries

variable {convert : Convert} {input out w : Members} {entries : List (String × NodeId)}

/-- Of several entries with one key the last decides. -/
theorem get?_convertEntries (h : convertEntries convert input entries out = .ok w) (k : String) :
    (∃ id v x, entries.reverse.lookup k = some id ∧ input.get? k = some v ∧
      convert id v = .ok x ∧ w.get? k = some x) ∨
    ((entries.reverse.lookup k = none ∨ input.get? k = none) ∧ w.get? k = out.get? k) := by
  induction entries generalizing out with
  | nil =>
    cases h
    exact .inr ⟨.inl rfl, rfl⟩
  | cons e entries ih =>
    obtain ⟨key, id⟩ := e
    rw [List.reverse_cons, List.lookup_append]
    unfold convertEntries at h
    -- A later entry with the same key replaces what this one puts in.
    by_cases hk : k = key
    · subst hk
      simp only [List.lookup_cons_self]
      split at h
      · next hv =>
        rcases ih h with ⟨id', v, x, _, hv', _⟩ | ⟨_, hw⟩
        · simp [hv] at hv'
        · exact .inr ⟨.inr hv, hw⟩
      · next v hv =>
        obtain ⟨x, hx, h⟩ := Except.bind_eq_ok_iff.1 h
        rcases ih h with ⟨id', v', x', hlookup, hv', hx', hw⟩ | ⟨hnone, hw⟩
        · exact .inl ⟨id', v', x', by simp [hlookup], hv', hx', hw⟩
        · have hlookup : entries.reverse.lookup k = none := by
            rcases hnone with hnone | hnone
            · exact hnone
            · simp [hv] at hnone
          exact .inl ⟨id, v, x, by simp [hlookup], hv, hx, by rw [hw, Members.get?_insert_self]⟩
    · have hne : (k == key) = false := by simpa using hk
      simp only [List.lookup_cons, hne, List.lookup_nil, Option.or_none]
      split at h
      · exact ih h
      · obtain ⟨x, _, h⟩ := Except.bind_eq_ok_iff.1 h
        rw [← Members.get?_insert_of_ne hk out x]
        exact ih h

theorem keys_convertEntries (h : convertEntries convert input entries out = .ok w)
    (hkeys : ∀ e ∈ entries, e.1 ∈ input.keys → e.1 ∈ out.keys) : w.keys = out.keys := by
  induction entries generalizing out with
  | nil => cases h; rfl
  | cons e entries ih =>
    obtain ⟨key, id⟩ := e
    obtain ⟨he, hes⟩ := List.forall_mem_cons.1 hkeys
    unfold convertEntries at h
    split at h
    · exact ih h hes
    · next v hv =>
      obtain ⟨x, _, h⟩ := Except.bind_eq_ok_iff.1 h
      have hsame := Members.keys_insert_of_mem (he (Members.mem_keys_of_get? hv)) x
      rw [ih h (by rw [hsame]; exact hes), hsame]

theorem convertEntries_error {e : SchemaError}
    (h : convertEntries convert input entries out = .error e) :
    ∃ entry ∈ entries, ∃ v, input.get? entry.1 = some v ∧ convert entry.2 v = .error e := by
  induction entries generalizing out with
  | nil => cases h
  | cons entry entries ih =>
    obtain ⟨key, id⟩ := entry
    unfold convertEntries at h
    split at h
    · obtain ⟨entry, hmem, hv⟩ := ih h
      exact ⟨entry, List.mem_cons_of_mem _ hmem, hv⟩
    · next v hv =>
      cases hx : convert id v with
      | error e' =>
        rw [hx] at h
        cases h
        exact ⟨(key, id), List.mem_cons_self, v, hv, hx⟩
      | ok x =>
        rw [hx] at h
        obtain ⟨entry, hmem, hv⟩ := ih h
        exact ⟨entry, List.mem_cons_of_mem _ hmem, hv⟩

end Entries

/-! ## Other members -/

theorem convertExtra_cons (convert : Convert) (extra? : Option NodeId) (m : String × Json)
    (ms out : Members) :
    convertExtra convert extra? (m :: ms) out =
      convertBy convert extra? m.2 >>= fun v => convertExtra convert extra? ms (out.insert m.1 v) := by
  cases extra? <;> rfl

theorem convertExtra_eq_ok {convert : Convert} {extra? : Option NodeId} {ms out w : Members}
    (h : convertExtra convert extra? ms out = .ok w) :
    ∃ converted : Members, List.Forall₂ (fun m m' =>
      m.1 = m'.1 ∧ convertBy convert extra? m.2 = .ok m'.2) ms converted ∧
      w = out.insertAll converted := by
  induction ms generalizing out with
  | nil =>
    cases h
    exact ⟨[], .nil, rfl⟩
  | cons m ms ih =>
    rw [convertExtra_cons] at h
    obtain ⟨v, hv, h⟩ := Except.bind_eq_ok_iff.1 h
    obtain ⟨converted, hall, rfl⟩ := ih h
    exact ⟨(m.1, v) :: converted, .cons ⟨rfl, hv⟩ hall, rfl⟩

theorem convertExtra_of_same {convert : Convert} {extra? : Option NodeId} {ms : Members}
    (h : ∀ m ∈ ms, convertBy convert extra? m.2 = .ok m.2) (out : Members) :
    convertExtra convert extra? ms out = .ok (out.insertAll ms) := by
  induction ms generalizing out with
  | nil => rfl
  | cons m ms ih =>
    obtain ⟨hm, hms⟩ := List.forall_mem_cons.1 h
    rw [convertExtra_cons, hm]
    exact ih hms _

/-! ## Objects -/

/-- Only declared members are kept before the conversion. -/
def keep (c : Context) (options : CoerceOptions) (n : Node) (ms : Members) : Members :=
  if options.dropUnknown || isStrict c.schema n then declaredMembers n ms else ms

def undeclared (n : Node) (ms : Members) : Members :=
  ms.filter fun m => !n.properties.any (·.1 == m.1)

def coerceMembers (c : Context) (options : CoerceOptions) (convert : Convert) (hops : Nat)
    (n : Node) (input : Members) : Except SchemaError Members := do
  let out ← convertEntries convert input n.properties (keep c options n input)
  if options.dropUnknown then return out
  let extra? := n.single? .additionalProperties
  if ← admitsExtra c hops extra? then convertExtra convert extra? (undeclared n input) out
  else return out

theorem coerceObject_eq (c : Context) (options : CoerceOptions) (convert : Convert) (hops : Nat)
    (n : Node) (v : Json) :
    coerceObject c options convert hops n v =
      match openText v with
      | .object input => (coerceMembers c options convert hops n input).map .object
      | other => .ok other := by
  unfold coerceObject
  cases openText v with
  | object input =>
    dsimp only
    unfold coerceMembers keep undeclared
    cases convertEntries convert input n.properties
      (if options.dropUnknown || isStrict c.schema n then declaredMembers n input else input) with
    | error e => rfl
    | ok out =>
      simp only [Except.ok_bind]
      cases options.dropUnknown with
      | true => rfl
      | false =>
        cases admitsExtra c hops (n.single? .additionalProperties) with
        | error e => rfl
        | ok admits => cases admits <;> rfl
  | _ => rfl

theorem byKind_object {n : Node} (hkind : n.kind = .object) (c : Context) (options : CoerceOptions)
    (convert : Convert) (hops : Nat) (ms : Members) :
    byKind c options convert hops n (.object ms) =
      (coerceMembers c options convert hops n ms).map .object := by
  simp only [byKind, hkind, coerceObject_eq, openText]

theorem mem_keys_keep {c : Context} {options : CoerceOptions} {n : Node} {ms : Members}
    {k : String} (hk : k ∈ n.declaredKeys) : k ∈ (keep c options n ms).keys ↔ k ∈ ms.keys := by
  unfold keep
  split
  · rw [mem_keys_declaredMembers]
    exact and_iff_right hk
  · rfl

theorem get?_keep {c : Context} {options : CoerceOptions} {n : Node} {ms : Members} {k : String}
    (hk : k ∈ n.declaredKeys) : (keep c options n ms).get? k = ms.get? k := by
  unfold keep
  split
  · rw [get?_declaredMembers, if_pos hk]
  · rfl

theorem nodup_keys_keep {c : Context} {options : CoerceOptions} {n : Node} {ms : Members}
    (h : ms.keys.Nodup) : (keep c options n ms).keys.Nodup := by
  unfold keep
  split
  · exact nodup_keys_declaredMembers
  · exact h

theorem mem_undeclared {n : Node} {ms : Members} {m : String × Json} :
    m ∈ undeclared n ms ↔ m ∈ ms ∧ m.1 ∉ n.declaredKeys := by
  rw [undeclared, List.mem_filter, ← Node.any_properties_iff_declared, Bool.not_eq_true', Bool.not_eq_true]

section Entries

variable {c : Context} {options : CoerceOptions} {convert : Convert} {n : Node} {input out : Members}
  (hout : convertEntries convert input n.properties (keep c options n input) = .ok out)
include hout

theorem keys_entries : out.keys = (keep c options n input).keys := by
  refine keys_convertEntries hout fun e he hpresent => ?_
  exact (mem_keys_keep (List.mem_map_of_mem he)).2 hpresent

theorem get?_other {key : String} (hkey : key ∉ n.declaredKeys) :
    out.get? key = if options.dropUnknown || isStrict c.schema n then none else input.get? key := by
  rcases get?_convertEntries hout key with ⟨child, _, _, hlookup, _⟩ | ⟨_, hkept⟩
  · exact absurd (List.mem_map_of_mem (List.mem_reverse.1 (mem_of_lookup hlookup))) hkey
  · rw [hkept, keep]
    split
    · rw [get?_declaredMembers, if_neg hkey]
    · rfl

end Entries

end Coercion

theorem Context.coerce_object {c : Context} {id : NodeId} {n : Node} (hn : c.schema.node? id = some n)
    (hkind : n.kind = .object) (hhooks : n.hooks = {}) (href : n.reference? = none)
    (options : CoerceOptions) (hops : Nat) (ms : Members) :
    c.coerce options hops id (.object ms) =
      (Coercion.coerceMembers c options (c.convertBelow options hops id) hops n ms).map .object := by
  have hstage : c.stage hops id = .converted hops id n := by
    rw [stage_of_node hn (by simp [hkind]), hhooks, href]
  rw [coerce_eq_stage, hstage]
  exact Coercion.byKind_object hkind ..

end JsonSchema
