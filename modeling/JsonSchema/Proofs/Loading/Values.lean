import JsonSchema.Proofs.Lists
import JsonSchema.Proofs.Loading.Siblings

/-! # The values that keywords without schemas are read from -/

namespace JsonSchema.Loader

/-! ## Values -/

theorem typeNamed_eq_ok_iff {name : String} {t : InstanceType} :
    typeNamed name = .ok t ↔ name = t.name := by
  unfold typeNamed
  constructor
  · intro h
    split at h
    · next t' ht =>
      cases h
      exact (name_of_find? InstanceType.name ht).symm
    · cases h
  · rintro rfl
    rw [InstanceType.ofName?_name]

theorem readArray_eq_ok_iff {path : Path} {v : Json} {items : List Json} :
    readArray path v = .ok items ↔ v = .array items := by
  cases v <;> simp [readArray, Json.asArray?, invalid]

theorem readObject_eq_ok_iff {path : Path} {v : Json} {ms : Members} :
    readObject path v = .ok ms ↔ v = .object ms := by
  cases v <;> simp [readObject, Json.asObject?, invalid]

theorem readString_eq_ok_iff {path : Path} {v : Json} {s : String} :
    readString path v = .ok s ↔ v = .string s := by
  cases v <;> simp [readString, Json.asString?, invalid]

theorem readNumber_eq_ok_iff {path : Path} {v : Json} {f : Float} :
    readNumber path v = .ok f ↔ ∃ n, v = .number n ∧ n.toFloat = f := by
  cases v <;> simp [readNumber, Json.asFloat?, invalid]

theorem readBool_eq_ok_iff {path : Path} {v : Json} {b : Bool} :
    readBool path v = .ok b ↔ v = .bool b := by
  cases v <;> simp [readBool, Json.asBool?, invalid]

theorem readCount_eq_ok_iff {path : Path} {v : Json} {limit : UInt64} :
    readCount path v = .ok limit ↔ countOf? v = some limit := by
  cases h : countOf? v <;> simp [readCount, h, invalid]

theorem readStrings_eq_ok_iff {path : Path} {v : Json} {texts : List String} :
    readStrings path v = .ok texts ↔ v = .strings texts := by
  unfold readStrings Json.strings
  rw [Except.bind_eq_ok_iff]
  constructor
  · rintro ⟨items, hitems, h⟩
    rw [Except.mapM_eq_ok_iff] at h
    rw [readArray_eq_ok_iff.1 hitems, Json.array.injEq, eq_map_iff_forall₂]
    exact h.imp fun _ _ h => readString_eq_ok_iff.1 h
  · rintro rfl
    refine ⟨_, readArray_eq_ok_iff.2 rfl, Except.mapM_eq_ok_iff.2 ?_⟩
    exact List.forall₂_map_left_iff.2
      (List.forall₂_same.2 fun _ _ => readString_eq_ok_iff.2 rfl)

theorem readType_eq_ok_iff {path : Path} {v : Json} {t : InstanceType} :
    (match v with
      | .string name => typeNamed name
      | _ => invalid path .typeName) = .ok t ↔ v = .string t.name := by
  cases v <;> simp [invalid, typeNamed_eq_ok_iff]

/-- A single type may stand for itself. -/
theorem readTypes_eq_ok_iff {path : Path} {v : Json} {ts : List InstanceType} :
    readTypes path v = .ok ts ↔
      v = .strings (ts.map (·.name)) ∨ ∃ t, ts = [t] ∧ v = .string t.name := by
  have harray : ∀ items : List Json,
      readTypes path (.array items) = .ok ts ↔ items = ts.map (Json.string ·.name) := by
    intro items
    rw [readTypes, Except.mapM_eq_ok_iff, eq_map_iff_forall₂]
    constructor
    · intro h; exact h.imp fun _ _ h => readType_eq_ok_iff.1 h
    · intro h; exact h.imp fun _ _ h => readType_eq_ok_iff.2 h
  cases v with
  | string name =>
    rw [readTypes, Except.map_eq_ok_iff]
    constructor
    · rintro ⟨t, ht, rfl⟩
      exact .inr ⟨t, rfl, by rw [typeNamed_eq_ok_iff.1 ht]⟩
    · rintro (h | ⟨t, rfl, h⟩)
      · cases h
      · cases h; exact ⟨t, typeNamed_eq_ok_iff.2 rfl, rfl⟩
  | array items =>
    rw [harray, Json.strings, List.map_map]
    constructor
    · rintro rfl; exact .inl rfl
    · rintro (h | ⟨t, _, h⟩)
      · cases h; rfl
      · cases h
  | null | bool | number | object =>
    constructor
    · intro h; cases h
    · rintro (h | ⟨t, _, h⟩) <;> cases h

theorem readDependents_eq_ok_iff {path : Path} {v : Json} {entries : List (String × List String)} :
    readDependents path v = .ok entries ↔
      v = .object (entries.map fun e => (e.1, .strings e.2)) := by
  have hentry : ∀ (m : String × Json) (e : String × List String),
      (do return (m.1, ← readStrings (path ++ [.key m.1]) m.2) : Except SchemaError _) = .ok e ↔
        m = (e.1, .strings e.2) := by
    intro m e
    rw [Except.bind_eq_ok_iff]
    constructor
    · rintro ⟨texts, htexts, h⟩
      cases h
      rw [← readStrings_eq_ok_iff.1 htexts]
    · rintro rfl
      exact ⟨e.2, readStrings_eq_ok_iff.2 rfl, rfl⟩
  unfold readDependents
  rw [Except.bind_eq_ok_iff]
  constructor
  · rintro ⟨ms, hms, h⟩
    rw [Except.mapM_eq_ok_iff] at h
    rw [readObject_eq_ok_iff.1 hms, Json.object.injEq, eq_map_iff_forall₂]
    exact h.imp fun m e h => (hentry m e).1 h
  · rintro rfl
    refine ⟨_, readObject_eq_ok_iff.2 rfl, Except.mapM_eq_ok_iff.2 ?_⟩
    exact List.forall₂_map_left_iff.2 (List.forall₂_same.2 fun e _ => (hentry _ e).2 rfl)

/-! ## Keywords -/

/-- The keyword of the name that the value is read as. -/
inductive Says : String → Json → Leaf → Prop where
  | types {v : Json} {ts : List InstanceType}
      (h : v = .strings (ts.map (·.name)) ∨ ∃ t, ts = [t] ∧ v = .string t.name) :
      Says "type" v (.types ts)
  | const (v : Json) : Says "const" v (.const v)
  | default (v : Json) : Says "default" v (.default v)
  | enum (options : List Json) : Says "enum" (.array options) (.enum options)
  | multipleOf (n : Number) : Says "multipleOf" (.number n) (.multipleOf n.toFloat)
  | pattern {source : String} {p : Pattern} (h : Pattern.compile? source = some p) :
      Says "pattern" (.string source) (.pattern p)
  | format (name : String) : Says "format" (.string name) (.format name)
  | ref (reference : String) : Says "$ref" (.string reference) (.ref reference)
  | id (id : String) : Says "$id" (.string id) (.id id)
  | uniqueItems (unique : Bool) : Says "uniqueItems" (.bool unique) (.uniqueItems unique)
  | required (keys : List String) : Says "required" (.strings keys) (.required keys)
  | dependentRequired (entries : List (String × List String)) :
      Says "dependentRequired" (.object (entries.map fun e => (e.1, .strings e.2)))
        (.dependentRequired entries)
  | count {which : Count} {v : Json} {limit : UInt64} (h : countOf? v = some limit) :
      Says which.name v (.count which limit)
  | bound (which : Bound) (n : Number) : Says which.name (.number n) (.bound which n.toFloat)
  | note {name : String} {v : Json} (h : ∀ path v, readLeaf path name v = .ok (.note name v)) :
      Says name v (.note name v)

theorem readLeaf_bound (path : Path) (which : Bound) (v : Json) :
    readLeaf path which.name v = (readNumber path v).map (.bound which) := by
  cases which <;> rfl

theorem compile_eq_ok_iff {source : String} {p : Pattern} :
    Schema.compile source = .ok p ↔ Pattern.compile? source = some p := by
  unfold Schema.compile
  cases Pattern.compile? source <;> simp

theorem says_of_readLeaf {path : Path} {name : String} {v : Json} {l : Leaf}
    (h : readLeaf path name v = .ok l) : Says name v l := by
  unfold readLeaf at h
  -- The cases are those of the reader: one for each name, and the last one for all other names.
  split at h
  case h_1 =>
    obtain ⟨ts, hts, rfl⟩ := Except.map_eq_ok_iff.1 h
    exact .types (readTypes_eq_ok_iff.1 hts)
  case h_2 => cases h; exact .const v
  case h_3 => cases h; exact .default v
  case h_4 =>
    obtain ⟨options, hv, rfl⟩ := Except.map_eq_ok_iff.1 h
    rw [readArray_eq_ok_iff.1 hv]
    exact .enum options
  case h_5 =>
    obtain ⟨f, hv, rfl⟩ := Except.map_eq_ok_iff.1 h
    obtain ⟨n, rfl, rfl⟩ := readNumber_eq_ok_iff.1 hv
    exact .multipleOf n
  case h_6 =>
    obtain ⟨source, hv, h⟩ := Except.bind_eq_ok_iff.1 h
    obtain ⟨p, hp, h⟩ := Except.bind_eq_ok_iff.1 h
    cases h
    rw [readString_eq_ok_iff.1 hv]
    exact .pattern (compile_eq_ok_iff.1 hp)
  case h_7 | h_8 | h_9 =>
    obtain ⟨text, hv, rfl⟩ := Except.map_eq_ok_iff.1 h
    rw [readString_eq_ok_iff.1 hv]
    constructor
  case h_10 =>
    obtain ⟨unique, hv, rfl⟩ := Except.map_eq_ok_iff.1 h
    rw [readBool_eq_ok_iff.1 hv]
    exact .uniqueItems unique
  case h_11 =>
    obtain ⟨keys, hv, rfl⟩ := Except.map_eq_ok_iff.1 h
    rw [readStrings_eq_ok_iff.1 hv]
    exact .required keys
  case h_12 =>
    obtain ⟨entries, hv, rfl⟩ := Except.map_eq_ok_iff.1 h
    rw [readDependents_eq_ok_iff.1 hv]
    exact .dependentRequired entries
  case h_13 =>
    split at h
    · next which hwhich =>
      obtain ⟨limit, hv, rfl⟩ := Except.map_eq_ok_iff.1 h
      rw [← name_of_find? Count.name hwhich]
      exact .count (readCount_eq_ok_iff.1 hv)
    · next which _ hwhich =>
      obtain ⟨f, hv, rfl⟩ := Except.map_eq_ok_iff.1 h
      obtain ⟨n, rfl, rfl⟩ := readNumber_eq_ok_iff.1 hv
      rw [← name_of_find? Bound.name hwhich]
      exact .bound which n
    · next hcount hbound =>
      cases h
      refine .note fun path v => ?_
      unfold readLeaf
      split <;> simp_all

theorem readLeaf_of_says {name : String} {v : Json} {l : Leaf} (h : Says name v l) (path : Path) :
    readLeaf path name v = .ok l := by
  cases h with
  | const | default | enum | multipleOf | format | ref | id | uniqueItems => rfl
  | types h =>
    have hread : readTypes path v = .ok _ := readTypes_eq_ok_iff.2 h
    exact Except.map_eq_ok_iff.2 ⟨_, hread, rfl⟩
  | @pattern source p h =>
    have hread : readString path (.string source) = .ok source := readString_eq_ok_iff.2 rfl
    refine Except.bind_eq_ok_iff.2 ⟨source, hread, ?_⟩
    exact Except.bind_eq_ok_iff.2 ⟨p, compile_eq_ok_iff.2 h, rfl⟩
  | required keys =>
    have hread : readStrings path (.strings keys) = .ok keys := readStrings_eq_ok_iff.2 rfl
    exact Except.map_eq_ok_iff.2 ⟨_, hread, rfl⟩
  | dependentRequired entries =>
    have hread : readDependents path (.object _) = .ok entries := readDependents_eq_ok_iff.2 rfl
    exact Except.map_eq_ok_iff.2 ⟨_, hread, rfl⟩
  | count h =>
    rw [readLeaf_count]
    exact Except.map_eq_ok_iff.2 ⟨_, readCount_eq_ok_iff.2 h, rfl⟩
  | bound which n =>
    rw [readLeaf_bound]
    exact Except.map_eq_ok_iff.2 ⟨_, readNumber_eq_ok_iff.2 ⟨n, rfl, rfl⟩, rfl⟩
  | note h => exact h path v

theorem readLeaf_eq_ok_iff {path : Path} {name : String} {v : Json} {l : Leaf} :
    readLeaf path name v = .ok l ↔ Says name v l := ⟨says_of_readLeaf, fun h => readLeaf_of_says h path⟩

end JsonSchema.Loader

namespace JsonSchema.Node

open Loader

variable {R : NodeId → Json → Prop} {ms : Members} {n : Node}
  (h : List.Forall₂ (Keyword.Reads R) ms n.keywords)
include h

theorem rel_reference? :
    Option.Rel (fun reference d => d = .string reference) n.reference? (ms.get? "$ref") := by
  refine rel_findSome? ?_ ?_ h
  · intro k a hk
    split at hk
    · rfl
    · cases hk
  · intro k d hk
    cases hk with
    | @leaf _ _ path l role read =>
      have hread : (readString path d).map .ref = .ok l := read
      obtain ⟨reference, hd, rfl⟩ := Except.map_eq_ok_iff.1 hread
      exact ⟨reference, rfl, readString_eq_ok_iff.1 hd⟩
    | single role | listed role | keyed role | patterns role => cases role

theorem rel_id? : Option.Rel (fun id d => d = .string id) n.id? (ms.get? "$id") := by
  refine rel_findSome? ?_ ?_ h
  · intro k a hk
    split at hk
    · rfl
    · cases hk
  · intro k d hk
    cases hk with
    | @leaf _ _ path l role read =>
      have hread : (readString path d).map .id = .ok l := read
      obtain ⟨id, hd, rfl⟩ := Except.map_eq_ok_iff.1 hread
      exact ⟨id, rfl, readString_eq_ok_iff.1 hd⟩
    | single role | listed role | keyed role | patterns role => cases role

theorem reference?_eq_none (href : "$ref" ∉ ms.keys) : n.reference? = none := by
  have hrel := rel_reference? h
  rw [Members.get?_eq_none_of_not_mem ms _ href] at hrel
  generalize n.reference? = reference? at hrel ⊢
  cases hrel
  rfl

theorem declares_iff (name : String) : n.declares name = true ↔ name ∈ ms.keys := by
  rw [← keys_eq_names h, declares, List.any_eq_true, List.mem_map]
  simp only [beq_iff_eq]

end JsonSchema.Node
