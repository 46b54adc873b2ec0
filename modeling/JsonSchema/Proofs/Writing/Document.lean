import JsonSchema.Proofs.Decimal.Double
import JsonSchema.Proofs.Loading.Parts
import JsonSchema.Proofs.Loading.Values
import JsonSchema.Proofs.Writing.Sameness
import JsonSchema.Schema.Document

/-!
# The document that a loaded schema writes

A document as it is written back has the same keywords, each with its value in the form that the schema holds.
-/

namespace JsonSchema

open Loader

/-! ## Values of keywords -/

/-- A list of one type is written as the type, counts as words, and limits on numbers as doubles. -/
def Leaf.rewritten (name : String) (v : Json) : Json :=
  match name, v with
  | "type", .array [.string t] => .string t
  | "multipleOf", .number n => numberJson n.toFloat
  | _, _ =>
    match Count.ofName? name, Bound.ofName? name with
    | some _, _ => ((countOf? v).map Json.ofNat).getD v
    | none, some _ => (v.asFloat?.map numberJson).getD v
    | none, none => v

namespace Json

mutual

/-- Keywords keep their names, their order and the schemas that they hold. -/
def rewritten : Json → Json
  | .object ms => .object (rewrittenMembers ms)
  | v => v

def rewrittenMembers : List (String × Json) → List (String × Json)
  | [] => []
  | (name, v) :: ms =>
    let value := match roleOf name, v with
      | .single _, v => rewritten v
      | .listed _, .array items => .array (rewrittenItems items)
      | .keyed _, .object entries => .object (rewrittenEntries entries)
      | .patterns, .object entries => .object (rewrittenEntries entries)
      | .leaf, v => Leaf.rewritten name v
      | _, v => v
    (name, value) :: rewrittenMembers ms

def rewrittenItems : List Json → List Json
  | [] => []
  | v :: vs => rewritten v :: rewrittenItems vs

def rewrittenEntries : List (String × Json) → List (String × Json)
  | [] => []
  | (key, v) :: ms => (key, rewritten v) :: rewrittenEntries ms

end

theorem rewrittenItems_eq_map (vs : List Json) : rewrittenItems vs = vs.map rewritten := by
  induction vs with
  | nil => rfl
  | cons v vs ih => rw [rewrittenItems, ih, List.map_cons]

theorem rewrittenEntries_eq_map (ms : Members) :
    rewrittenEntries ms = ms.map fun m => (m.1, m.2.rewritten) := by
  induction ms with
  | nil => rfl
  | cons m ms ih =>
    obtain ⟨key, v⟩ := m
    rw [rewrittenEntries, ih, List.map_cons]

/-- The value under a name. -/
def rewrittenValue (name : String) (v : Json) : Json :=
  match roleOf name, v with
  | .single _, v => v.rewritten
  | .listed _, .array items => .array (items.map rewritten)
  | .keyed _, .object entries => .object (entries.map fun m => (m.1, m.2.rewritten))
  | .patterns, .object entries => .object (entries.map fun m => (m.1, m.2.rewritten))
  | .leaf, v => Leaf.rewritten name v
  | _, v => v

theorem rewrittenMembers_eq_map (ms : Members) :
    rewrittenMembers ms = ms.map fun m => (m.1, rewrittenValue m.1 m.2) := by
  induction ms with
  | nil => rfl
  | cons m ms ih =>
    obtain ⟨name, v⟩ := m
    rw [rewrittenMembers.eq_def, List.map_cons, ← ih]
    dsimp only
    unfold rewrittenValue
    simp only [rewrittenItems_eq_map, rewrittenEntries_eq_map]

section Value

variable {name : String}

theorem rewrittenValue_single {slot : Slot} (role : roleOf name = .single slot) (v : Json) :
    rewrittenValue name v = v.rewritten := by
  simp only [rewrittenValue, role]

theorem rewrittenValue_listed {slot : ListSlot} (role : roleOf name = .listed slot)
    (items : List Json) : rewrittenValue name (.array items) = .array (items.map rewritten) := by
  simp only [rewrittenValue, role]

theorem rewrittenValue_keyed {slot : KeyedSlot} (role : roleOf name = .keyed slot)
    (entries : Members) :
    rewrittenValue name (.object entries) = .object (entries.map fun m => (m.1, m.2.rewritten)) := by
  simp only [rewrittenValue, role]

theorem rewrittenValue_patterns (role : roleOf name = .patterns) (entries : Members) :
    rewrittenValue name (.object entries) = .object (entries.map fun m => (m.1, m.2.rewritten)) := by
  simp only [rewrittenValue, role]

theorem rewrittenValue_leaf (role : roleOf name = .leaf) (v : Json) :
    rewrittenValue name v = Leaf.rewritten name v := by
  simp only [rewrittenValue, role]

end Value

theorem keys_rewrittenMembers (ms : Members) : Members.keys (rewrittenMembers ms) = ms.keys := by
  rw [rewrittenMembers_eq_map]
  exact List.map_map

theorem get?_rewrittenMembers (ms : Members) (name : String) :
    Members.get? (rewrittenMembers ms) name = (ms.get? name).map (rewrittenValue name) := by
  rw [rewrittenMembers_eq_map]
  induction ms with
  | nil => rfl
  | cons m ms ih =>
    obtain ⟨key, v⟩ := m
    rw [List.map_cons, Members.get?, Members.get?, List.lookup_cons, List.lookup_cons]
    by_cases heq : name = key
    · subst heq
      rw [beq_self_eq_true]
      rfl
    · have hne : (name == key) = false := beq_false_of_ne heq
      rw [hne]
      exact ih

end Json

/-! ## Keywords without schemas -/

namespace Leaf

theorem toJson_dependentRequired {entries : List (String × List String)}
    (h : (entries.map (·.1)).Nodup) :
    (dependentRequired entries).toJson = .object (entries.map fun e => (e.1, .strings e.2)) := by
  rw [toJson, Members.ofList_of_nodup]
  rwa [Members.keys, List.map_map]

theorem nodup_dependents {entries : List (String × List String)}
    (h : (Json.object (entries.map fun e => (e.1, .strings e.2))).keysDistinct = true) :
    (entries.map (·.1)).Nodup := by
  have hnodup := ((Json.keysDistinct_object _).1 h).1
  rwa [Members.keys, List.map_map] at hnodup

theorem rewritten_note {name : String}
    (h : ∀ path v, readLeaf path name v = .ok (.note name v)) (v : Json) : rewritten name v = v := by
  have hnull := h [] .null
  unfold rewritten
  split
  · cases hnull
  · cases hnull
  · split
    · next which hwhich =>
      rw [← name_of_find? Count.name hwhich, readLeaf_count] at hnull
      cases hnull
    · next which _ hwhich =>
      rw [← name_of_find? Bound.name hwhich, readLeaf_bound] at hnull
      cases hnull
    · rfl

theorem toJson_eq_rewritten {name : String} {v : Json} {l : Leaf} (hv : v.keysDistinct = true)
    (h : Says name v l) : l.toJson = rewritten name v := by
  cases h with
  | @types _ ts h =>
    rcases h with rfl | ⟨t, rfl, rfl⟩
    · rcases ts with _ | ⟨t, _ | ⟨t', ts⟩⟩ <;> rfl
    · rfl
  | @count which v limit h =>
    have hwritten : rewritten which.name v = ((countOf? v).map Json.ofNat).getD v := by
      cases which <;> rfl
    rw [hwritten, h]
    rfl
  | bound which n => cases which <;> rfl
  | pattern h => exact congrArg Json.string (Pattern.source_of_compile? h)
  | dependentRequired entries => exact toJson_dependentRequired (nodup_dependents hv)
  | note h => exact (rewritten_note h v).symm
  | _ => rfl

theorem numberJson_eq {f : Float} (h : f.isFinite = true) :
    ∃ n, numberJson f = .number n ∧ (n.toFloat == f) = true := by
  obtain ⟨n, hn, hback⟩ := Number.toFloat_ofDouble? h
  exact ⟨n, by rw [numberJson, hn]; rfl, hback⟩

theorem countOf?_ofNat (limit : UInt64) : countOf? (.ofNat limit) = some limit := by
  have hnat : UInt64.ofNat (limit.toNat : Int).toNat = limit := UInt64.ofNat_toNat
  show (if 0 ≤ (limit.toNat : Int) then some (UInt64.ofNat (limit.toNat : Int).toNat) else none) = _
  rw [if_pos (by omega), hnat]

/-- What the keyword writes can be read. -/
def IsReadable : Leaf → Prop
  | bound _ limit | multipleOf limit => limit.isFinite = true
  | pattern p => Pattern.compile? p.source = some p
  | dependentRequired entries => (entries.map (·.1)).Nodup
  | note name _ => ∀ path v, readLeaf path name v = .ok (.note name v)
  | _ => True

/-- What a keyword writes is read as the same keyword. -/
theorem exists_says {l : Leaf} (h : l.IsReadable) : ∃ l', Says l.name l.toJson l' ∧ l.Same l' := by
  cases l with
  | types ts =>
    refine ⟨.types ts, .types ?_, .refl _⟩
    rcases ts with _ | ⟨t, _ | ⟨t', ts⟩⟩
    · exact .inl rfl
    · exact .inr ⟨t, rfl, rfl⟩
    · exact .inl rfl
  | multipleOf divisor =>
    obtain ⟨n, hn, hback⟩ := numberJson_eq h
    refine ⟨.multipleOf n.toFloat, ?_, .multipleOf (BEq.symm hback)⟩
    rw [toJson, hn]
    exact .multipleOf n
  | bound which limit =>
    obtain ⟨n, hn, hback⟩ := numberJson_eq h
    refine ⟨.bound which n.toFloat, ?_, .bound which (BEq.symm hback)⟩
    rw [toJson, hn]
    exact .bound which n
  | count which limit => exact ⟨_, .count (countOf?_ofNat limit), .refl _⟩
  | pattern p => exact ⟨_, .pattern h, .refl _⟩
  | dependentRequired entries =>
    refine ⟨.dependentRequired entries, ?_, .refl _⟩
    rw [toJson_dependentRequired h]
    exact .dependentRequired entries
  | note name v => exact ⟨_, .note h, .refl _⟩
  | _ => exact ⟨_, by constructor, .refl _⟩

theorem isReadable_of_says {name : String} {v : Json} {l : Leaf} (hv : v.keysDistinct = true)
    (h : Says name v l) : l.IsReadable := by
  cases h with
  | multipleOf n => exact n.isFinite_toFloat
  | bound which n => exact n.isFinite_toFloat
  | @pattern source p h =>
    have hsource := Pattern.source_of_compile? h
    subst hsource
    exact h
  | dependentRequired entries => exact nodup_dependents hv
  | note h => exact h
  | _ => exact trivial

theorem name_of_says {name : String} {v : Json} {l : Leaf} (h : Says name v l) : l.name = name := by
  cases h <;> rfl

theorem says_toJson {name : String} {v : Json} {l : Leaf} (hv : v.keysDistinct = true)
    (h : Says name v l) : ∃ l', Says name l.toJson l' ∧ l.Same l' := by
  have hreadable : l.IsReadable := isReadable_of_says hv h
  rw [← name_of_says h]
  exact exists_says hreadable

end Leaf

/-! ## All keywords -/

theorem ofList_rewritten {f : α → String × Json} {as : List α} {ms : Members}
    (hms : (Json.object ms).keysDistinct = true)
    (h : List.Forall₂ (fun a m => f a = (m.1, m.2.rewritten)) as ms) :
    Members.ofList (as.map f) = ms.map fun m => (m.1, m.2.rewritten) := by
  rw [map_eq_map_of_forall₂ h]
  refine Members.ofList_of_nodup _ ?_
  rw [Members.keys, List.map_map]
  exact ((Json.keysDistinct_object ms).1 hms).1

theorem Keyword.toJson_eq_rewrittenValue {R : NodeId → Json → Prop} {write : NodeId → Json}
    (hwrite : ∀ id d, R id d → write id = d.rewritten) {m : String × Json} {k : Keyword}
    (hv : m.2.keysDistinct = true) (h : k.Reads R m) :
    k.toJson write = Json.rewrittenValue m.1 m.2 := by
  cases h with
  | leaf role read =>
    rw [Json.rewrittenValue_leaf role]
    exact Leaf.toJson_eq_rewritten hv (readLeaf_eq_ok_iff.1 read)
  | single role held =>
    rw [Json.rewrittenValue_single role]
    exact hwrite _ _ held
  | listed role held =>
    rw [Json.rewrittenValue_listed role]
    exact congrArg Json.array (map_eq_map_of_forall₂ (held.imp hwrite))
  | keyed role held =>
    rw [Json.rewrittenValue_keyed role]
    refine congrArg Json.object (ofList_rewritten hv (held.imp ?_))
    rintro e m ⟨hkey, hheld⟩
    rw [hkey, hwrite _ _ hheld]
  | patterns role held =>
    rw [Json.rewrittenValue_patterns role]
    refine congrArg Json.object (ofList_rewritten hv (held.imp ?_))
    rintro e m ⟨hpattern, hheld⟩
    rw [Pattern.source_of_compile? hpattern, hwrite _ _ hheld]

/-! ## All nodes -/

namespace Schema

variable {s : Schema} {docs : List Json}

/-- The induction goes down the array of nodes, as writing does. -/
theorem document_eq_rewritten (hlabels : s.Labels docs) (ix : Index) {id : NodeId} {d : Json}
    (hd : docs[id]? = some d) (hkeys : d.keysDistinct = true) :
    s.document ix id = d.rewritten := by
  induction hsize : s.size - id using Nat.strongRecOn generalizing id d with
  | ind size ih
  subst hsize
  obtain ⟨n, hn, hreads⟩ := hlabels.exists_reads hd
  rw [document, hn]
  dsimp only
  cases hreads with
  | constant kind => rw [kind]; rfl
  | @object ms _ kind keywords hooks =>
    obtain ⟨hconstant, hlink, _⟩ := ne_of_kindOf kind
    obtain ⟨hnodup, hvalues⟩ := (Json.keysDistinct_object ms).1 hkeys
    split
    · next accepts hkind => exact absurd hkind (hconstant accepts)
    · next target hkind => exact absurd hkind (hlink target)
    · have hwritten : List.Forall₂ (fun k m => (k.name, k.toJson fun child =>
          if _ : s.Below id child then s.document ix child else .null) =
            (m.1, Json.rewrittenValue m.1 m.2)) n.keywords ms := by
        refine List.Forall₂.flip ((forall₂_and_mem keywords).imp ?_)
        rintro m k ⟨hk, hm, _⟩
        have hparts := hk.and fun e he => keysDistinct_of_mem_parts (hvalues m hm) he
        refine congrArg₂ Prod.mk hk.name_eq ?_
        refine Keyword.toJson_eq_rewrittenValue ?_ (hvalues m hm) hparts
        rintro child e ⟨⟨hbelow, he⟩, hkeys⟩
        rw [dif_pos hbelow]
        exact ih _ hbelow.size_sub_lt he hkeys rfl
      have hmembers := map_eq_map_of_forall₂ hwritten
      rw [hmembers, ← Json.rewrittenMembers_eq_map, Json.rewritten, Members.ofList_of_nodup]
      rw [Json.keys_rewrittenMembers]
      exact hnodup

theorem toJson_eq_rewritten {d : Json} (hkeys : d.keysDistinct = true)
    (h : Schema.ofJson d = .ok s) : s.toJson = d.rewritten := by
  obtain ⟨docs, hlabels, hd⟩ := loads_of_load d [] s hkeys h
  exact document_eq_rewritten hlabels _ hd hkeys

end Schema

end JsonSchema
