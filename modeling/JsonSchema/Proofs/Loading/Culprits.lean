import JsonSchema.Proofs.Loading.Grammar
import JsonSchema.Proofs.Places.Pointers

/-!
# Where a document is wrong

The error of a document that is no schema names a place of it. What stands at that place is not what
the place asks for.
-/

namespace JsonSchema

open Loader

namespace Json

/-! ## Positions -/

/-- What is asked for at a place of a schema's document. -/
inductive Position where
  | schema
  | value (keyword : String)
  /-- The keys that a key depends on. -/
  | keys

/-- The value is what is asked for, as far as that is seen without looking into the schemas in it. -/
def Position.Fits : Position → Json → Prop
  | schema, d => (∃ accepts, d = .bool accepts) ∨ ∃ ms, d = .object ms
  | value keyword, v => ∀ form, formOf? keyword = some form → form.Fits (fun _ => True) v
  | keys, v => v.IsTexts

/-- At the path the document has the value, and in the position. -/
inductive Occupies (d : Json) : Path → Position → Json → Prop where
  | root : Occupies d [] .schema d
  | keyword {path : Path} {ms : Members} {name : String} {v : Json}
      (owner : Occupies d path .schema (.object ms)) (get : ms.get? name = some v) :
      Occupies d (path ++ [.key name]) (.value name) v
  | single {path : Path} {name : String} {v : Json} (owner : Occupies d path (.value name) v)
      (form : formOf? name = some .schema) : Occupies d path .schema v
  | item {path : Path} {name : String} {items : List Json} {i : Nat} {v : Json}
      (owner : Occupies d path (.value name) (.array items)) (form : formOf? name = some .schemas)
      (get : items[i]? = some v) : Occupies d (path ++ [.ofPosition i]) .schema v
  | entry {path : Path} {name : String} {ms : Members} {key : String} {v : Json}
      (owner : Occupies d path (.value name) (.object ms))
      (form : formOf? name = some .keyed ∨ formOf? name = some .patterns)
      (get : ms.get? key = some v) : Occupies d (path ++ [.key key]) .schema v
  | keys {path : Path} {name : String} {ms : Members} {key : String} {v : Json}
      (owner : Occupies d path (.value name) (.object ms)) (form : formOf? name = some .dependents)
      (get : ms.get? key = some v) : Occupies d (path ++ [.key key]) .keys v

theorem Occupies.get?_eq {d : Json} {path : Path} {position : Position} {v : Json}
    (h : d.Occupies path position v) : d.get? path = some v := by
  have hstep {path : Path} {owner v : Json} {s : Segment} (howner : d.get? path = some owner)
      (hchild : owner.child? s = some v) : d.get? (path ++ [s]) = some v := by
    rw [get?_append, howner, Option.bind_some, get?, hchild]
    rfl
  induction h with
  | root => rfl
  | keyword _ get ih => exact hstep ih get
  | single _ _ ih => exact ih
  | item _ _ get ih =>
    refine hstep ih ?_
    rw [child?, Segment.position?_ofPosition, Option.bind_some, get]
  | entry _ _ get ih => exact hstep ih get
  | keys _ _ get ih => exact hstep ih get

/-- At the location stands something that is not what the location asks for. -/
def Culprit (d : Json) (location : Path) : Prop :=
  ∃ position v, d.Occupies location position v ∧ ¬position.Fits v

end Json

/-! ## What readers blame -/

namespace Loader

open Json

/-- What is called invalid stands at a location with the property. -/
def Blames (P : Path → Prop) (x : Except SchemaError α) : Prop :=
  ∀ location expected, x = .error (.invalidSchema location expected) → P location

namespace Blames

variable {P : Path → Prop} {x : Except SchemaError α}

theorem ok (a : α) : Blames P (Except.ok a) := by
  rintro _ _ ⟨⟩

theorem invalid {path : Path} (h : P path) (expected : Expected) :
    Blames P (Loader.invalid path expected : Except SchemaError α) := by
  rintro _ _ ⟨⟩
  exact h

theorem bind {f : α → Except SchemaError β} (hx : Blames P x) (hf : ∀ a, Blames P (f a)) :
    Blames P (x >>= f) := by
  cases x with
  | error e =>
    rintro location expected ⟨⟩
    exact hx location expected rfl
  | ok a => exact hf a

theorem map {f : α → β} (hx : Blames P x) : Blames P (x.map f) := by
  cases x with
  | error e =>
    rintro location expected ⟨⟩
    exact hx location expected rfl
  | ok a => exact .ok _

theorem mapM {f : α → Except SchemaError β} {as : List α} (h : ∀ a ∈ as, Blames P (f a)) :
    Blames P (as.mapM f) := by
  induction as with
  | nil => exact .ok []
  | cons a as ih =>
    obtain ⟨ha, has⟩ := List.forall_mem_cons.1 h
    rw [List.mapM_cons]
    exact ha.bind fun b => (ih has).bind fun bs => .ok (b :: bs)

theorem elim {a? : Option α} {path : Path} (h : P path) (expected : Expected) :
    Blames P (a?.elim (Loader.invalid path expected) .ok) := by
  cases a? with
  | none => exact .invalid h expected
  | some a => exact .ok a

end Blames

/-! ## Keywords without schemas -/

variable {P : Path → Prop} {path : Path} {v : Json}

theorem blames_typeNamed (name : String) : Blames P (typeNamed name) := by
  unfold typeNamed
  split
  · exact .ok _
  · rintro _ _ ⟨⟩

theorem blames_compile (source : String) : Blames P (Schema.compile source) := by
  unfold Schema.compile
  split
  · exact .ok _
  · rintro _ _ ⟨⟩

theorem blames_kindOf (ms : Members) : Blames P (kindOf ms) := by
  unfold kindOf
  split
  · exact (blames_typeNamed _).map
  · exact (blames_typeNamed _).map
  · exact .ok _
  · exact .ok _

theorem blames_setPatterns (s : Schema) (entries : List (String × Schema)) :
    Blames P (s.setPatterns entries) :=
  (Blames.mapM fun e _ => blames_compile e.1).bind fun _ => .ok _

theorem blames_readTypes (h : P path) : Blames P (readTypes path v) := by
  unfold readTypes
  split
  · exact (blames_typeNamed _).map
  · refine .mapM fun item _ => ?_
    split
    · exact blames_typeNamed _
    · exact .invalid h _
  · exact .invalid h _

theorem blames_readStrings (h : P path) : Blames P (readStrings path v) :=
  (Blames.elim h _).bind fun _ => .mapM fun _ _ => .elim h _

theorem blames_readLeaf {name : String} (hname : name ≠ "dependentRequired") (h : P path) :
    Blames P (readLeaf path name v) := by
  unfold readLeaf
  split
  case h_1 => exact (blames_readTypes h).map
  case h_2 | h_3 => exact .ok _
  case h_6 => exact (Blames.elim h _).bind fun _ => (blames_compile _).bind fun _ => .ok _
  case h_11 => exact (blames_readStrings h).map
  case h_12 => exact absurd rfl hname
  case h_13 =>
    split
    · exact (Blames.elim h _).map
    · exact (Blames.elim h _).map
    · exact .ok _
  all_goals exact (Blames.elim h _).map

/-! ## Culprits -/

variable {d : Json} {name : String}

theorem culprit_of_not_fits {position : Position} (h : d.Occupies path position v)
    (hfits : ¬position.Fits v) : d.Culprit path := ⟨position, v, h, hfits⟩

theorem blames_form {form : Form} (hv : d.Occupies path (.value name) v)
    (hform : formOf? name = some form) (h : ¬form.Fits (fun _ => True) v) (expected : Expected) :
    Blames d.Culprit (invalid path expected : Except SchemaError α) :=
  .invalid (culprit_of_not_fits hv fun hfits => h (hfits form hform)) expected

theorem culprit_of_readDependents (hv : d.Occupies path (.value name) v)
    (form : formOf? name = some .dependents) (hkeys : v.keysDistinct = true) :
    Blames d.Culprit (readDependents path v) := by
  cases v with
  | object ms =>
    have hnodup := ((keysDistinct_object ms).1 hkeys).1
    change Blames d.Culprit (ms.mapM _)
    refine .mapM fun m hm => .bind ?_ fun _ => .ok _
    intro location expected h
    have hlocation : location = path ++ [.key m.1] :=
      blames_readStrings (P := (· = path ++ [.key m.1])) rfl _ _ h
    subst hlocation
    have hget := Members.get?_eq_some_of_mem ms hnodup m hm
    refine culprit_of_not_fits (.keys hv form hget) fun hfits => ?_
    obtain ⟨texts, htexts⟩ := exists_readStrings_iff.2 hfits
    rw [htexts] at h
    cases h
  | _ =>
    refine blames_form hv form ?_ .object
    rintro ⟨_, ⟨⟩, _⟩

theorem culprit_of_readLeaf (hv : d.Occupies path (.value name) v) (role : roleOf name = .leaf)
    (hkeys : v.keysDistinct = true) : Blames d.Culprit (readLeaf path name v) := by
  by_cases hname : name = "dependentRequired"
  · subst hname
    exact (culprit_of_readDependents hv rfl hkeys).map
  · intro location expected h
    have hlocation : location = path := blames_readLeaf (P := (· = path)) hname rfl _ _ h
    subst hlocation
    refine culprit_of_not_fits hv fun hfits => ?_
    obtain ⟨l, hl⟩ := (exists_readLeaf_iff role).2 hfits
    rw [hl] at h
    cases h

theorem blames_loadItems {items : List Json} {i : Nat}
    (h : ∀ j v, items[j]? = some v → Blames P (load (path ++ [.ofPosition (i + j)]) v)) :
    Blames P (loadItems path i items) := by
  induction items generalizing i with
  | nil =>
    rw [loadItems]
    exact .ok []
  | cons v vs ih =>
    rw [loadItems]
    refine (h 0 v rfl).bind fun child => (ih fun j w hw => ?_).bind fun _ => .ok _
    rw [Nat.add_assoc, Nat.add_comm 1 j]
    exact h (j + 1) w hw

theorem blames_loadEntries {ms : Members}
    (h : ∀ m ∈ ms, Blames P (load (path ++ [.key m.1]) m.2)) :
    Blames P (loadEntries path ms) := by
  induction ms with
  | nil =>
    rw [loadEntries]
    exact .ok []
  | cons m ms ih =>
    obtain ⟨hm, hms⟩ := List.forall_mem_cons.1 h
    rw [loadEntries]
    exact hm.bind fun _ => (ih hms).bind fun _ => .ok _

theorem blames_loadMembers {ms : Members} {s : Schema}
    (h : ∀ m ∈ ms, ∀ s, Blames P (addMember (path ++ [.key m.1]) s m.1 m.2)) :
    Blames P (loadMembers path s ms) := by
  induction ms generalizing s with
  | nil =>
    rw [loadMembers]
    exact .ok s
  | cons m ms ih =>
    obtain ⟨hm, hms⟩ := List.forall_mem_cons.1 h
    rw [loadMembers_cons]
    exact (hm s).bind fun _ => ih hms

theorem culprit_of_loadEntries {ms : Members} (hv : d.Occupies path (.value name) (.object ms))
    (form : formOf? name = some .keyed ∨ formOf? name = some .patterns)
    (hkeys : (Json.object ms).keysDistinct = true)
    (ih : ∀ m ∈ ms, ∀ path, d.Occupies path .schema m.2 → m.2.keysDistinct = true →
      Blames d.Culprit (load path m.2)) : Blames d.Culprit (loadEntries path ms) := by
  obtain ⟨hnodup, hvalues⟩ := (keysDistinct_object ms).1 hkeys
  refine blames_loadEntries fun m hm => ih m hm _ (.entry hv form ?_) (hvalues m hm)
  exact Members.get?_eq_some_of_mem ms hnodup m hm

theorem culprit_of_addMember {s : Schema} (hv : d.Occupies path (.value name) v)
    (hkeys : v.keysDistinct = true)
    (ih : ∀ e, sizeOf e ≤ sizeOf v → ∀ path, d.Occupies path .schema e → e.keysDistinct = true →
      Blames d.Culprit (load path e)) : Blames d.Culprit (addMember path s name v) := by
  unfold addMember
  cases role : roleOf name with
  | single slot =>
    exact (ih v (Nat.le_refl _) path (.single hv (formOf?_of_single role)) hkeys).map
  | listed slot =>
    have hform := formOf?_of_listed role
    cases v with
    | array items =>
      refine (blames_loadItems fun j v hget => ?_).map
      have hmem := List.mem_of_getElem? hget
      rw [Nat.zero_add]
      exact ih v (Nat.le_of_lt (sizeOf_lt_of_mem_items hmem)) _ (.item hv hform hget)
        ((keysDistinct_array items).1 hkeys v hmem)
    | _ =>
      refine blames_form hv hform ?_ _
      rintro ⟨_, ⟨⟩, _⟩
  | keyed slot =>
    have hform := formOf?_of_keyed role
    cases v with
    | object ms =>
      refine (culprit_of_loadEntries hv (.inl hform) hkeys fun m hm => ?_).map
      exact ih m.2 (Nat.le_of_lt (sizeOf_lt_of_mem_entries hm))
    | _ =>
      refine blames_form hv hform ?_ _
      rintro ⟨_, ⟨⟩, _⟩
  | patterns =>
    have hform := formOf?_of_patterns role
    cases v with
    | object ms =>
      refine (culprit_of_loadEntries hv (.inr hform) hkeys fun m hm => ?_).bind fun _ =>
        blames_setPatterns s _
      exact ih m.2 (Nat.le_of_lt (sizeOf_lt_of_mem_entries hm))
    | _ =>
      refine blames_form hv hform ?_ _
      rintro ⟨_, ⟨⟩, _⟩
  | leaf => exact (culprit_of_readLeaf hv role hkeys).map

theorem culprit_of_load (x : Json) (path : Path) (hx : d.Occupies path .schema x)
    (hkeys : x.keysDistinct = true) : Blames d.Culprit (load path x) := by
  induction hn : sizeOf x using Nat.strongRecOn generalizing x path with | ind n ih
  subst hn
  cases x with
  | bool accepts =>
    rw [load]
    exact .ok _
  | object ms =>
    obtain ⟨hnodup, hvalues⟩ := (keysDistinct_object ms).1 hkeys
    rw [load]
    refine (blames_kindOf ms).bind fun kind => (blames_loadMembers fun m hm s => ?_).bind fun _ => .ok _
    have hget := Members.get?_eq_some_of_mem ms hnodup m hm
    refine culprit_of_addMember (.keyword hx hget) (hvalues m hm) fun e he path hpath he' => ?_
    exact ih _ (Nat.lt_of_le_of_lt he (sizeOf_lt_of_mem_entries hm)) e path hpath he' rfl
  | null | number | string | array =>
    rw [load]
    · refine .invalid (culprit_of_not_fits hx ?_) _
      rintro (⟨_, ⟨⟩⟩ | ⟨_, ⟨⟩⟩)
    · rintro _ ⟨⟩
    · rintro _ ⟨⟩

end Loader

namespace Schema

/-- The location of the error can be read as a path, the path leads to a value in the document, and
this value is not what its position asks for. -/
theorem ofJson_error_location {d : Json} (hd : d.keysDistinct = true) {location : Path}
    {expected : Expected} (h : ofJson d = .error (.invalidSchema location expected)) :
    ∃ path position v, Pointer.parse (Pointer.render location) = .ok path ∧
      d.get? path = some v ∧ d.Occupies location position v ∧ ¬position.Fits v := by
  obtain ⟨position, v, hv, hfits⟩ := culprit_of_load d [] .root hd location expected h
  refine ⟨_, position, v, Pointer.parse_render location, ?_, hv, hfits⟩
  rw [Json.get?_reread, hv.get?_eq]

/-- A schema behind a key with a slash depends on something that is no key. -/
theorem ofJson_error_dependents :
    let d : Json := .object [("properties", .object [("a/b", .object [("anyOf", .array [.bool true,
      .object [("dependentRequired", .object [("k", .array [.string "x", .null])])]])])])]
    let location : Path := [.key "properties", .key "a/b", .key "anyOf", .index 1,
      .key "dependentRequired", .key "k"]
    d.keysDistinct = true ∧ ofJson d = .error (.invalidSchema location .string) ∧
      ∃ path position v, Pointer.parse (Pointer.render location) = .ok path ∧
        d.get? path = some v ∧ d.Occupies location position v ∧ ¬position.Fits v := by
  intro d location
  have hd : d.keysDistinct = true := by decide
  have herror : ofJson d = .error (.invalidSchema location .string) := by with_unfolding_all rfl
  exact ⟨hd, herror, ofJson_error_location hd herror⟩

end Schema

end JsonSchema
