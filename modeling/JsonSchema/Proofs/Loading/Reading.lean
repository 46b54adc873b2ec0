import JsonSchema.Proofs.Except
import JsonSchema.Proofs.Json.Keys
import JsonSchema.Schema.Loader

/-! # Documents and the nodes that stand for them -/

namespace JsonSchema

open Loader

/-! ## Names -/

theorem name_of_find? (name : α → String) {all : List α} {s : String} {a : α}
    (h : all.find? (name · == s) = some a) : name a = s := by
  have hname := List.find?_some h
  exact beq_iff_eq.1 hname

theorem Pattern.source_of_compile? {source : String} {p : Pattern}
    (h : Pattern.compile? source = some p) : p.source = source := by
  obtain ⟨_, _, rfl⟩ := Option.map_eq_some_iff.1 h
  rfl

namespace Loader

theorem name_of_roleOf_single {name : String} {slot : Slot} (h : roleOf name = .single slot) :
    slot.name = name := by
  unfold roleOf at h
  split at h
  · next hslot => cases h; exact name_of_find? Slot.name hslot
  · cases h
  · cases h
  · split at h <;> cases h

theorem name_of_roleOf_listed {name : String} {slot : ListSlot} (h : roleOf name = .listed slot) :
    slot.name = name := by
  unfold roleOf at h
  split at h
  · cases h
  · next hslot => cases h; exact name_of_find? ListSlot.name hslot
  · cases h
  · split at h <;> cases h

theorem name_of_roleOf_keyed {name : String} {slot : KeyedSlot} (h : roleOf name = .keyed slot) :
    slot.name = name := by
  unfold roleOf at h
  split at h
  · cases h
  · cases h
  · next hslot => cases h; exact name_of_find? KeyedSlot.name hslot
  · split at h <;> cases h

theorem name_of_roleOf_patterns {name : String} (h : roleOf name = .patterns) :
    name = "patternProperties" := by
  unfold roleOf at h
  split at h
  · cases h
  · cases h
  · cases h
  · split at h
    · assumption
    · cases h

theorem name_of_readLeaf {path : Path} {name : String} {v : Json} {l : Leaf}
    (h : readLeaf path name v = .ok l) : l.name = name := by
  unfold readLeaf at h
  split at h
  case h_13 =>
    split at h
    · next which hwhich =>
      obtain ⟨limit, _, rfl⟩ := Except.map_eq_ok_iff.1 h
      exact name_of_find? Count.name hwhich
    · next which _ hwhich =>
      obtain ⟨limit, _, rfl⟩ := Except.map_eq_ok_iff.1 h
      exact name_of_find? Bound.name hwhich
    · cases h; rfl
  case h_2 | h_3 => cases h; rfl
  case h_6 =>
    obtain ⟨source, _, h⟩ := Except.bind_eq_ok_iff.1 h
    obtain ⟨p, _, h⟩ := Except.bind_eq_ok_iff.1 h
    cases h
    rfl
  all_goals
    obtain ⟨read, _, rfl⟩ := Except.map_eq_ok_iff.1 h
    rfl

theorem ne_of_kindOf {ms : Members} {kind : Kind} (h : kindOf ms = .ok kind) :
    (∀ accepts, kind ≠ .constant accepts) ∧ (∀ target, kind ≠ .link target) ∧
      ∀ token, kind ≠ .hole token := by
  unfold kindOf at h
  split at h
  · obtain ⟨t, _, rfl⟩ := Except.map_eq_ok_iff.1 h
    cases t <;> simp [Kind.ofType]
  · obtain ⟨t, _, rfl⟩ := Except.map_eq_ok_iff.1 h
    cases t <;> simp [Kind.ofType]
  · cases h; simp
  · split at h <;> cases h <;> simp

theorem mapIds_of_kindOf {ms : Members} {kind : Kind} (h : kindOf ms = .ok kind)
    (f : NodeId → NodeId) : kind.mapIds f = kind := by
  cases kind with
  | link target => exact absurd rfl ((ne_of_kindOf h).2.1 target)
  | _ => rfl

end Loader

/-! ## Keywords -/

/-- The keyword says what the member of the document says. Which nodes stand for which documents is
told by `R`. -/
inductive Keyword.Reads (R : NodeId → Json → Prop) : String × Json → Keyword → Prop where
  | leaf {name : String} {v : Json} {path : Path} {l : Leaf} (role : roleOf name = .leaf)
      (read : readLeaf path name v = .ok l) : Reads R (name, v) (.leaf l)
  | single {name : String} {v : Json} {slot : Slot} {child : NodeId}
      (role : roleOf name = .single slot) (held : R child v) : Reads R (name, v) (.single slot child)
  | listed {name : String} {items : List Json} {slot : ListSlot} {ids : List NodeId}
      (role : roleOf name = .listed slot) (held : List.Forall₂ R ids items) :
      Reads R (name, .array items) (.listed slot ids)
  | keyed {name : String} {ms : Members} {slot : KeyedSlot} {entries : List (String × NodeId)}
      (role : roleOf name = .keyed slot)
      (held : List.Forall₂ (fun e m => e.1 = m.1 ∧ R e.2 m.2) entries ms) :
      Reads R (name, .object ms) (.keyed slot entries)
  | patterns {name : String} {ms : Members} {entries : List (Pattern × NodeId)}
      (role : roleOf name = .patterns)
      (held : List.Forall₂ (fun e m => Pattern.compile? m.1 = some e.1 ∧ R e.2 m.2) entries ms) :
      Reads R (name, .object ms) (.patternProperties entries)

namespace Keyword

variable {R R' : NodeId → Json → Prop} {m : String × Json} {k : Keyword}

theorem Reads.name_eq (h : k.Reads R m) : k.name = m.1 := by
  cases h with
  | leaf role read => exact name_of_readLeaf read
  | single role held => exact name_of_roleOf_single role
  | listed role held => exact name_of_roleOf_listed role
  | keyed role held => exact name_of_roleOf_keyed role
  | patterns role held => exact (name_of_roleOf_patterns role).symm

theorem Reads.mapIds (h : k.Reads R m) (f : NodeId → NodeId)
    (hR : ∀ id d, R id d → R' (f id) d) : (k.mapIds f).Reads R' m := by
  cases h with
  | leaf role read => exact .leaf role read
  | single role held => exact .single role (hR _ _ held)
  | listed role held =>
    exact .listed role (List.forall₂_map_left_iff.2 (held.imp hR))
  | keyed role held =>
    refine .keyed role (List.forall₂_map_left_iff.2 (held.imp ?_))
    rintro e m ⟨hkey, h⟩
    exact ⟨hkey, hR _ _ h⟩
  | patterns role held =>
    refine .patterns role (List.forall₂_map_left_iff.2 (held.imp ?_))
    rintro e m ⟨hkey, h⟩
    exact ⟨hkey, hR _ _ h⟩

theorem mapIds_id (k : Keyword) : k.mapIds (fun id => id) = k := by
  cases k <;> simp [mapIds]

theorem Reads.imp (h : k.Reads R m) (hR : ∀ id d, R id d → R' id d) : k.Reads R' m := by
  rw [← mapIds_id k]
  exact h.mapIds (fun id => id) hR

end Keyword

/-- Keywords that are read from members of one name: they have the same form. -/
inductive Keyword.ReadsBoth (R R' : NodeId → Json → Prop) (name : String) :
    Json → Json → Keyword → Keyword → Prop where
  | leaf {v v' : Json} {path path' : Path} {l l' : Leaf} (read : readLeaf path name v = .ok l)
      (read' : readLeaf path' name v' = .ok l') : ReadsBoth R R' name v v' (.leaf l) (.leaf l')
  | single {v v' : Json} {slot : Slot} {child child' : NodeId} (held : R child v) (held' : R' child' v') :
      ReadsBoth R R' name v v' (.single slot child) (.single slot child')
  | listed {items items' : List Json} {slot : ListSlot} {ids ids' : List NodeId}
      (held : List.Forall₂ R ids items) (held' : List.Forall₂ R' ids' items') :
      ReadsBoth R R' name (.array items) (.array items') (.listed slot ids) (.listed slot ids')
  | keyed {ms ms' : Members} {slot : KeyedSlot} {entries entries' : List (String × NodeId)}
      (held : List.Forall₂ (fun e m => e.1 = m.1 ∧ R e.2 m.2) entries ms)
      (held' : List.Forall₂ (fun e m => e.1 = m.1 ∧ R' e.2 m.2) entries' ms') :
      ReadsBoth R R' name (.object ms) (.object ms') (.keyed slot entries) (.keyed slot entries')
  | patterns {ms ms' : Members} {entries entries' : List (Pattern × NodeId)}
      (held : List.Forall₂ (fun e m => Pattern.compile? m.1 = some e.1 ∧ R e.2 m.2) entries ms)
      (held' : List.Forall₂ (fun e m => Pattern.compile? m.1 = some e.1 ∧ R' e.2 m.2) entries' ms') :
      ReadsBoth R R' name (.object ms) (.object ms') (.patternProperties entries) (.patternProperties entries')

/-- The name alone says which role a member has. -/
theorem Keyword.Reads.both {R R' : NodeId → Json → Prop} {name : String} {v v' : Json} {k k' : Keyword}
    (h : k.Reads R (name, v)) (h' : k'.Reads R' (name, v')) : ReadsBoth R R' name v v' k k' := by
  cases h with
  | leaf role read =>
    cases h' with
    | leaf _ read' => exact .leaf read read'
    | single role' | listed role' | keyed role' | patterns role' => cases role.symm.trans role'
  | single role held =>
    cases h' with
    | single role' held' =>
      cases role.symm.trans role'
      exact .single held held'
    | leaf role' | listed role' | keyed role' | patterns role' => cases role.symm.trans role'
  | listed role held =>
    cases h' with
    | listed role' held' =>
      cases role.symm.trans role'
      exact .listed held held'
    | leaf role' | single role' | keyed role' | patterns role' => cases role.symm.trans role'
  | keyed role held =>
    cases h' with
    | keyed role' held' =>
      cases role.symm.trans role'
      exact .keyed held held'
    | leaf role' | single role' | listed role' | patterns role' => cases role.symm.trans role'
  | patterns role held =>
    cases h' with
    | patterns _ held' => exact .patterns held held'
    | leaf role' | single role' | listed role' | keyed role' => cases role.symm.trans role'

/-! ## Nodes -/

/-- Hooks are no part of a document, and whether a node is optional is said by its owner. -/
inductive Node.Reads (R : NodeId → Json → Prop) : Json → Node → Prop where
  | constant {accepts : Bool} {n : Node} (kind : n.kind = .constant accepts)
      (keywords : n.keywords = []) (hooks : n.hooks = {}) : Reads R (.bool accepts) n
  | object {ms : Members} {n : Node} (kind : kindOf ms = .ok n.kind)
      (keywords : List.Forall₂ (Keyword.Reads R) ms n.keywords) (hooks : n.hooks = {}) :
      Reads R (.object ms) n

namespace Node

variable {R R' : NodeId → Json → Prop} {d : Json} {n : Node}

theorem Reads.mapIds (h : n.Reads R d) (f : NodeId → NodeId)
    (hR : ∀ id d, R id d → R' (f id) d) : (n.mapIds f).Reads R' d := by
  cases h with
  | constant kind keywords hooks =>
    refine .constant ?_ ?_ hooks
    · rw [Node.mapIds, kind]; rfl
    · rw [Node.mapIds, keywords]; rfl
  | object kind keywords hooks =>
    refine .object ?_ ?_ hooks
    · rw [Node.mapIds, mapIds_of_kindOf kind]; exact kind
    · exact List.forall₂_map_right_iff.2 (keywords.imp fun _ _ h => h.mapIds f hR)

theorem Reads.hooks_eq (h : n.Reads R d) : n.hooks = {} := by
  cases h with
  | constant kind keywords hooks => exact hooks
  | object kind keywords hooks => exact hooks

theorem Reads.congr {n' : Node} (h : n.Reads R d) (hkind : n'.kind = n.kind)
    (hkeywords : n'.keywords = n.keywords) (hhooks : n'.hooks = n.hooks)
    (hR : ∀ id d, R id d → R' id d) : n'.Reads R' d := by
  cases h with
  | constant kind keywords hooks =>
    exact .constant (hkind.trans kind) (hkeywords.trans keywords) (hhooks.trans hooks)
  | object kind keywords hooks =>
    refine .object (by rw [hkind]; exact kind) ?_ (hhooks.trans hooks)
    rw [hkeywords]
    exact keywords.imp fun _ _ h => h.imp hR

theorem keys_eq_names {ms : Members} {ks : List Keyword}
    (h : List.Forall₂ (Keyword.Reads R) ms ks) : ks.map (·.name) = ms.keys := by
  induction h with
  | nil => rfl
  | cons h _ ih => rw [List.map_cons, h.name_eq, ih]; rfl

end Node

end JsonSchema
