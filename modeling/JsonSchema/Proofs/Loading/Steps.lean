import JsonSchema.Proofs.Except
import JsonSchema.Proofs.Lists
import JsonSchema.Schema.Loader

/-!
# What the readers of documents can do

A reader that succeeds did one of a few things. Where a document stands has no part in it, since
paths are only named in errors.
-/

namespace JsonSchema

namespace Loader

/-- A schema with one more member read. -/
inductive Adds (s : Schema) : String × Json → Schema → Prop where
  | single {name : String} {v : Json} {slot : Slot} {path : Path} {child : Schema}
      (role : roleOf name = .single slot) (read : load path v = .ok child) :
      Adds s (name, v) (s.setSingle slot child)
  | listed {name : String} {items : List Json} {slot : ListSlot} {path : Path}
      {children : List Schema} (role : roleOf name = .listed slot)
      (read : loadItems path 0 items = .ok children) :
      Adds s (name, .array items) (s.setListed slot children)
  | keyed {name : String} {ms : Members} {slot : KeyedSlot} {path : Path}
      {entries : List (String × Schema)} (role : roleOf name = .keyed slot)
      (read : loadEntries path ms = .ok entries) :
      Adds s (name, .object ms) (s.setKeyed slot entries)
  | patterns {name : String} {ms : Members} {path : Path} {entries : List (String × Schema)}
      {t : Schema} (role : roleOf name = .patterns) (read : loadEntries path ms = .ok entries)
      (set : s.setPatterns entries = .ok t) : Adds s (name, .object ms) t
  | leaf {name : String} {v : Json} {path : Path} {l : Leaf} (role : roleOf name = .leaf)
      (read : readLeaf path name v = .ok l) : Adds s (name, v) (s.setLeaf l)

theorem adds_of_loadMembers_cons {path : Path} {s t : Schema} {m : String × Json} {ms : Members}
    (h : loadMembers path s (m :: ms) = .ok t) :
    ∃ u, Adds s m u ∧ loadMembers path u ms = .ok t := by
  obtain ⟨name, v⟩ := m
  rw [loadMembers.eq_def] at h
  dsimp only at h
  split at h
  · next slot role =>
    obtain ⟨u, hu, h⟩ := Except.bind_eq_ok_iff.1 h
    obtain ⟨child, hchild, rfl⟩ := Except.map_eq_ok_iff.1 hu
    exact ⟨_, .single role hchild, h⟩
  · next slot role =>
    split at h
    · obtain ⟨u, hu, h⟩ := Except.bind_eq_ok_iff.1 h
      obtain ⟨children, hchildren, rfl⟩ := Except.map_eq_ok_iff.1 hu
      exact ⟨_, .listed role hchildren, h⟩
    · cases h
  · next slot role =>
    split at h
    · obtain ⟨u, hu, h⟩ := Except.bind_eq_ok_iff.1 h
      obtain ⟨entries, hentries, rfl⟩ := Except.map_eq_ok_iff.1 hu
      exact ⟨_, .keyed role hentries, h⟩
    · cases h
  · next role =>
    split at h
    · obtain ⟨entries, hentries, h⟩ := Except.bind_eq_ok_iff.1 h
      obtain ⟨u, hu, h⟩ := Except.bind_eq_ok_iff.1 h
      exact ⟨u, .patterns role hentries hu, h⟩
    · cases h
  · next role =>
    obtain ⟨u, hu, h⟩ := Except.bind_eq_ok_iff.1 h
    obtain ⟨l, hl, rfl⟩ := Except.map_eq_ok_iff.1 hu
    exact ⟨_, .leaf role hl, h⟩

theorem forall₂_of_loadItems {path : Path} {i : Nat} {items : List Json} {children : List Schema}
    (h : loadItems path i items = .ok children) :
    List.Forall₂ (fun child v => ∃ path, load path v = .ok child) children items := by
  induction items generalizing i children with
  | nil =>
    rw [loadItems] at h
    cases h
    exact .nil
  | cons v vs ih =>
    rw [loadItems] at h
    obtain ⟨child, hchild, h⟩ := Except.bind_eq_ok_iff.1 h
    obtain ⟨rest, hrest, h⟩ := Except.bind_eq_ok_iff.1 h
    cases h
    exact .cons ⟨_, hchild⟩ (ih hrest)

theorem forall₂_of_loadEntries {path : Path} {ms : Members} {entries : List (String × Schema)}
    (h : loadEntries path ms = .ok entries) :
    List.Forall₂ (fun e m => e.1 = m.1 ∧ ∃ path, load path m.2 = .ok e.2) entries ms := by
  induction ms generalizing entries with
  | nil =>
    rw [loadEntries] at h
    cases h
    exact .nil
  | cons m ms ih =>
    rw [loadEntries] at h
    obtain ⟨child, hchild, h⟩ := Except.bind_eq_ok_iff.1 h
    obtain ⟨rest, hrest, h⟩ := Except.bind_eq_ok_iff.1 h
    cases h
    exact .cons ⟨rfl, _, hchild⟩ (ih hrest)

theorem load_cases {path : Path} {d : Json} {s : Schema} (h : load path d = .ok s) :
    (∃ accepts, d = .bool accepts ∧ s = .ofNode (.ofKind (.constant accepts))) ∨
      ∃ ms kind t, d = .object ms ∧ kindOf ms = .ok kind ∧
        loadMembers path (.ofNode (.ofKind kind)) ms = .ok t ∧ s = markOptional t := by
  cases d with
  | bool accepts =>
    rw [load] at h
    cases h
    exact .inl ⟨accepts, rfl, rfl⟩
  | object ms =>
    rw [load] at h
    obtain ⟨kind, hkind, h⟩ := Except.bind_eq_ok_iff.1 h
    obtain ⟨t, ht, h⟩ := Except.bind_eq_ok_iff.1 h
    cases h
    exact .inr ⟨ms, kind, t, rfl, hkind, ht, rfl⟩
  | null | number | string | array =>
    rw [load] at h
    · cases h
    · intro accepts h; cases h
    · intro ms h; cases h

/-! ## Sizes -/

theorem sizeOf_lt_of_mem_items {v : Json} {items : List Json} (h : v ∈ items) :
    sizeOf v < sizeOf (Json.array items) := by
  have := List.sizeOf_lt_of_mem h
  rw [Json.array.sizeOf_spec]
  omega

theorem sizeOf_lt_of_mem_members {m : String × Json} {ms : Members} (h : m ∈ ms) :
    sizeOf m.2 < sizeOf ms := by
  have hmem := List.sizeOf_lt_of_mem h
  have hpair : sizeOf m = 1 + sizeOf m.1 + sizeOf m.2 := Prod.mk.sizeOf_spec m.1 m.2
  omega

theorem sizeOf_lt_of_mem_entries {m : String × Json} {ms : Members} (h : m ∈ ms) :
    sizeOf m.2 < sizeOf (Json.object ms) := by
  have := sizeOf_lt_of_mem_members h
  rw [Json.object.sizeOf_spec]
  omega

end Loader

end JsonSchema
