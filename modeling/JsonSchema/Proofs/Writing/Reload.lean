import JsonSchema.Proofs.Writing.Document

/-! # Loading a written document again -/

namespace JsonSchema

open Loader

/-! ## Kinds -/

theorem Leaf.rewritten_type (v : Json) :
    (∃ t, v = .array [.string t] ∧ rewritten "type" v = .string t) ∨ rewritten "type" v = v := by
  unfold rewritten
  split
  case h_1 t _ => exact .inl ⟨t, rfl, rfl⟩
  case h_2 h => exact absurd h (by decide)
  case h_3 => exact .inr rfl

namespace Json

theorem hasKey_rewrittenMembers (ms : Members) (key : String) :
    Members.hasKey (rewrittenMembers ms) key = ms.hasKey key := by
  rw [Bool.eq_iff_iff, Members.hasKey_iff, Members.hasKey_iff, keys_rewrittenMembers]

theorem kindOf_rewrittenMembers (ms : Members) : kindOf (rewrittenMembers ms) = kindOf ms := by
  unfold kindOf
  rw [get?_rewrittenMembers, hasKey_rewrittenMembers, hasKey_rewrittenMembers]
  cases ms.get? "type" with
  | none => rfl
  | some v =>
    rw [Option.map_some, rewrittenValue_leaf rfl]
    rcases Leaf.rewritten_type v with ⟨t, rfl, hv⟩ | hv
    · rw [hv]
    · rw [hv]

end Json

/-! ## Members, one at a time -/

namespace Loader

variable {path : Path} {s : Schema} {name : String} {ms : Members}

theorem loadMembers_single {slot : Slot} {v : Json} {child : Schema}
    (role : roleOf name = .single slot) (h : load (path ++ [.key name]) v = .ok child) :
    loadMembers path s ((name, v) :: ms) = loadMembers path (s.setSingle slot child) ms := by
  rw [loadMembers.eq_def]
  simp only [role, h]
  rfl

theorem loadMembers_listed {slot : ListSlot} {items : List Json} {children : List Schema}
    (role : roleOf name = .listed slot)
    (h : loadItems (path ++ [.key name]) 0 items = .ok children) :
    loadMembers path s ((name, .array items) :: ms) =
      loadMembers path (s.setListed slot children) ms := by
  rw [loadMembers.eq_def]
  simp only [role, h]
  rfl

theorem loadMembers_keyed {slot : KeyedSlot} {entries : Members}
    {children : List (String × Schema)} (role : roleOf name = .keyed slot)
    (h : loadEntries (path ++ [.key name]) entries = .ok children) :
    loadMembers path s ((name, .object entries) :: ms) =
      loadMembers path (s.setKeyed slot children) ms := by
  rw [loadMembers.eq_def]
  simp only [role, h]
  rfl

theorem loadMembers_patterns {entries : Members} {children : List (String × Schema)} {t : Schema}
    (role : roleOf name = .patterns)
    (h : loadEntries (path ++ [.key name]) entries = .ok children)
    (ht : s.setPatterns children = .ok t) :
    loadMembers path s ((name, .object entries) :: ms) = loadMembers path t ms := by
  rw [loadMembers.eq_def]
  simp only [role, h, Except.ok_bind, ht]

theorem loadMembers_leaf {v : Json} {l : Leaf} (role : roleOf name = .leaf)
    (h : readLeaf (path ++ [.key name]) name v = .ok l) :
    loadMembers path s ((name, v) :: ms) = loadMembers path (s.setLeaf l) ms := by
  rw [loadMembers.eq_def]
  simp only [role, h]
  rfl

/-! ## The way back -/

/-- Loading what is written for the document gives the same schema, wherever the document stands. -/
def Reloads (d : Json) (s : Schema) : Prop :=
  ∀ path, ∃ s', load path d.rewritten = .ok s' ∧ s.Same s'

theorem loadItems_of_reloads {items : List Json} {children : List Schema}
    (h : List.Forall₂ (fun child v => Reloads v child) children items) (path : Path) (i : Nat) :
    ∃ children', loadItems path i (items.map Json.rewritten) = .ok children' ∧
      List.Forall₂ Schema.Same children children' := by
  induction h generalizing i with
  | nil => exact ⟨[], rfl, .nil⟩
  | cons hchild _ ih =>
    obtain ⟨child', hload, hsame⟩ := hchild (path ++ [.ofPosition i])
    obtain ⟨children', hloads, hsames⟩ := ih (i + 1)
    refine ⟨child' :: children', ?_, .cons hsame hsames⟩
    rw [List.map_cons, loadItems, hload, Except.ok_bind, hloads]
    rfl

theorem loadEntries_of_reloads {ms : Members} {entries : List (String × Schema)}
    (h : List.Forall₂ (fun e m => e.1 = m.1 ∧ Reloads m.2 e.2) entries ms) (path : Path) :
    ∃ entries', loadEntries path (ms.map fun m => (m.1, m.2.rewritten)) = .ok entries' ∧
      Schema.SameEntries entries entries' := by
  induction h with
  | nil => exact ⟨[], rfl, .nil⟩
  | @cons e m _ _ hentry _ ih =>
    obtain ⟨hkey, hreloads⟩ := hentry
    obtain ⟨child', hload, hsame⟩ := hreloads (path ++ [.key m.1])
    obtain ⟨entries', hloads, hsames⟩ := ih
    refine ⟨(m.1, child') :: entries', ?_, .cons ⟨hkey, hsame⟩ hsames⟩
    rw [List.map_cons, loadEntries, hload, Except.ok_bind, hloads]
    rfl

theorem entriesReload_of_loadEntries {path : Path} {ms : Members}
    {entries : List (String × Schema)} {size : Nat}
    (ih : ∀ d, sizeOf d < size → ∀ path u, d.keysDistinct = true → load path d = .ok u →
      Reloads d u)
    (hlt : sizeOf (Json.object ms) < size) (hd : (Json.object ms).keysDistinct = true)
    (h : loadEntries path ms = .ok entries) :
    List.Forall₂ (fun e m => e.1 = m.1 ∧ Reloads m.2 e.2) entries ms := by
  refine (forall₂_and_mem (forall₂_of_loadEntries h)).imp ?_
  rintro e m ⟨⟨hkey, path, hload⟩, _, hmem⟩
  exact ⟨hkey, ih m.2 (Nat.lt_trans (sizeOf_lt_of_mem_entries hmem) hlt) path e.2
    (((Json.keysDistinct_object ms).1 hd).2 m hmem) hload⟩

/-- One more member, read from what is written for it. -/
theorem loadMembers_of_adds {s t u : Schema} {m : String × Json} {size : Nat}
    (ih : ∀ d, sizeOf d < size → ∀ path u, d.keysDistinct = true → load path d = .ok u →
      Reloads d u)
    (hlt : sizeOf m.2 < size) (hd : m.2.keysDistinct = true) (hsame : s.Same t)
    (h : Adds s m u) (path : Path) :
    ∃ u', u.Same u' ∧ ∀ ms,
      loadMembers path t ((m.1, Json.rewrittenValue m.1 m.2) :: ms) = loadMembers path u' ms := by
  cases h with
  | @single name v slot _ child role read =>
    obtain ⟨child', hload, hchild⟩ := ih v hlt _ _ hd read (path ++ [.key name])
    refine ⟨_, hsame.setSingle hchild slot, fun ms => ?_⟩
    rw [Json.rewrittenValue_single role]
    exact loadMembers_single role hload
  | @listed name items slot _ children role read =>
    have hchildren : List.Forall₂ (fun child v => Reloads v child) children items := by
      refine (forall₂_and_mem (forall₂_of_loadItems read)).imp ?_
      rintro child v ⟨⟨place, hload⟩, _, hmem⟩
      exact ih v (Nat.lt_trans (sizeOf_lt_of_mem_items hmem) hlt) place child
        ((Json.keysDistinct_array _).1 hd v hmem) hload
    obtain ⟨children', hload, hsames⟩ := loadItems_of_reloads hchildren (path ++ [.key name]) 0
    refine ⟨_, hsame.setListed hsames slot, fun ms => ?_⟩
    rw [Json.rewrittenValue_listed role]
    exact loadMembers_listed role hload
  | @keyed name entries slot _ children role read =>
    obtain ⟨children', hload, hsames⟩ := loadEntries_of_reloads
      (entriesReload_of_loadEntries ih hlt hd read) (path ++ [.key name])
    refine ⟨_, hsame.setKeyed hsames slot, fun ms => ?_⟩
    rw [Json.rewrittenValue_keyed role]
    exact loadMembers_keyed role hload
  | @patterns name entries _ children _ role read set =>
    obtain ⟨children', hload, hsames⟩ := loadEntries_of_reloads
      (entriesReload_of_loadEntries ih hlt hd read) (path ++ [.key name])
    obtain ⟨u', hu', husame⟩ := hsame.setPatterns hsames set
    refine ⟨u', husame, fun ms => ?_⟩
    rw [Json.rewrittenValue_patterns role]
    exact loadMembers_patterns role hload hu'
  | @leaf name v _ l role read =>
    have hsays := readLeaf_eq_ok_iff.1 read
    obtain ⟨l', hl', hlsame⟩ := Leaf.says_toJson hd hsays
    refine ⟨_, hsame.setKeyword (.leaf hlsame), fun ms => ?_⟩
    rw [Json.rewrittenValue_leaf role, ← Leaf.toJson_eq_rewritten hd hsays]
    exact loadMembers_leaf role (readLeaf_eq_ok_iff.2 hl')

/-- Children are smaller documents, so that the induction is on the size of the document. -/
theorem loadMembers_reloads {path place : Path} {ms : Members} {s t u : Schema}
    (ih : ∀ d, sizeOf d < sizeOf ms → ∀ path u, d.keysDistinct = true → load path d = .ok u →
      Reloads d u)
    (hd : ∀ m ∈ ms, m.2.keysDistinct = true) (hsame : s.Same t)
    (h : loadMembers path s ms = .ok u) :
    ∃ u', loadMembers place t (Json.rewrittenMembers ms) = .ok u' ∧ u.Same u' := by
  induction ms generalizing s t with
  | nil =>
    rw [loadMembers] at h
    cases h
    exact ⟨t, rfl, hsame⟩
  | cons m ms ihms =>
    obtain ⟨next, hnext, h⟩ := adds_of_loadMembers_cons h
    obtain ⟨hv, hms⟩ := List.forall_mem_cons.1 hd
    have hlt : sizeOf m.2 < sizeOf (m :: ms) := sizeOf_lt_of_mem_members List.mem_cons_self
    have hsize : sizeOf (m :: ms) = 1 + sizeOf m + sizeOf ms := List.cons.sizeOf_spec m ms
    obtain ⟨next', hnextSame, hload⟩ := loadMembers_of_adds ih hlt hv hsame hnext place
    obtain ⟨u', hu', husame⟩ := ihms (fun d hlt => ih d (by omega)) hms hnextSame h
    refine ⟨u', ?_, husame⟩
    rw [Json.rewrittenMembers_eq_map, List.map_cons, hload, ← Json.rewrittenMembers_eq_map, hu']

theorem reloads_of_load (d : Json) (path : Path) (s : Schema) (hd : d.keysDistinct = true)
    (h : load path d = .ok s) : Reloads d s := by
  induction hn : sizeOf d using Nat.strongRecOn generalizing d path s with | ind n ih
  subst hn
  intro place
  rcases load_cases h with ⟨accepts, rfl, rfl⟩ | ⟨ms, kind, t, rfl, hkind, ht, rfl⟩
  · exact ⟨_, rfl, .ofNode ⟨rfl, .nil, rfl, rfl⟩⟩
  · obtain ⟨_, hvalues⟩ := (Json.keysDistinct_object ms).1 hd
    have hlt : sizeOf ms < sizeOf (Json.object ms) := by rw [Json.object.sizeOf_spec]; omega
    have hstart : (Schema.ofNode (.ofKind kind)).Same (.ofNode (.ofKind kind)) :=
      .ofNode ⟨rfl, .nil, rfl, rfl⟩
    obtain ⟨t', ht', hsame⟩ := loadMembers_reloads
      (fun d hd path u hkeys hload => ih _ (Nat.lt_trans hd hlt) d path u hkeys hload rfl)
      hvalues hstart ht
    refine ⟨markOptional t', ?_, hsame.markOptional⟩
    rw [Json.rewritten, load, Json.kindOf_rewrittenMembers, hkind, Except.ok_bind, ht']
    rfl

end Loader

/-! ## Round trips -/

namespace Schema

/-- A loaded schema writes its document, and the written document is loaded as the same schema. -/
theorem reload (d : Json) (s : Schema) (hkeys : d.keysDistinct = true)
    (h : Schema.ofJson d = .ok s) :
    s.toJson = d.rewritten ∧ ∃ t, Schema.ofJson s.toJson = .ok t ∧ s.Same t := by
  have hwritten := toJson_eq_rewritten hkeys h
  refine ⟨hwritten, ?_⟩
  rw [hwritten]
  exact Loader.reloads_of_load d [] s hkeys h []

theorem reload_number :
    let d : Json := .object [("type", .array [.string "number"]),
      ("maximum", .number (.int 5 (by decide))), ("properties", .object [("a", .bool true)])]
    d.keysDistinct = true ∧ ∃ s, Schema.ofJson d = .ok s ∧
      s.toJson = d.rewritten ∧ ∃ t, Schema.ofJson s.toJson = .ok t ∧ s.Same t := by
  intro d
  have hkeys : d.keysDistinct = true := by decide
  exact ⟨hkeys, _, rfl, reload d _ hkeys rfl⟩

end Schema

end JsonSchema
