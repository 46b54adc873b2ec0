import JsonSchema.Proofs.Building.Lookup

/-!
# The roots of schemas

What a root is apart from its keywords, and which reference it is: both are the same whatever stands
in the holes below.
-/

namespace JsonSchema

/-! ## References of nodes -/

def Keyword.reference? : Keyword → Option String
  | .leaf (.ref reference) => some reference
  | _ => none

namespace Node

theorem partOf_reference? : PartOf "$ref" Keyword.reference? := by
  intro k reference h
  cases k with
  | leaf l =>
    cases l with
    | ref => rfl
    | _ => cases h
  | _ => cases h

theorem reference?_setKeyword {n : Node} (hn : (n.keywords.map (·.name)).Nodup) (k : Keyword) :
    (n.setKeyword k).reference? = if k.name = "$ref" then k.reference? else n.reference? := by
  split
  · next hk => exact find?_setKeyword partOf_reference? hn hk
  · next hk => exact find?_setKeyword_of_ne partOf_reference? hk

theorem reference?_removeKeyword {name : String} (hname : name ≠ "$ref") (n : Node) :
    (n.removeKeyword name).reference? = n.reference? :=
  find?_removeKeyword_of_ne partOf_reference? hname

end Node

namespace Schema

/-! ## Roots -/

/-- What a root is apart from its keywords, and its reference. -/
def top (s : Schema) : Option (Kind × Hooks × Option String) :=
  (s.node? root).map fun n => (n.kind, n.hooks, n.reference?)

theorem kind?_root (s : Schema) : s.kind? root = s.top.map (·.1) := by
  rw [kind?, top, Option.map_map]
  rfl

section Top

variable {s : Schema}

theorem top_modifyRoot (f : Node → Node) :
    (s.modifyRoot f).top = (s.node? root).map fun n => ((f n).kind, (f n).hooks, (f n).reference?) := by
  rw [top, modifyRoot, node?_modify, if_pos rfl, Option.map_map]
  rfl

theorem top_modify_of_ne {id : NodeId} (h : id ≠ root) (f : Node → Node) :
    (s.modify id f).top = s.top := by
  rw [top, node?_modify, if_neg h, top]

theorem top_setKeyword (h : s.Orderly) (k : Keyword) :
    (s.setKeyword k).top =
      s.top.map fun e => (e.1, e.2.1, if k.name = "$ref" then k.reference? else e.2.2) := by
  obtain ⟨n, hn⟩ := h.exists_root
  rw [setKeyword, top_modifyRoot, top, hn, Option.map_some, Option.map_some, Option.map_some,
    Node.reference?_setKeyword (h.names root n hn)]
  rfl

theorem top_setKeyword_of_ne (h : s.Orderly) {k : Keyword} (hk : k.name ≠ "$ref") :
    (s.setKeyword k).top = s.top := by
  rw [top_setKeyword h]
  simp only [if_neg hk, Option.map_id_fun', id]

theorem top_adoptAll (hpos : root < s.size) (children : List Schema) :
    (s.adoptAll children).1.top = s.top := by
  induction children generalizing s with
  | nil => rfl
  | cons c children ih =>
    have hlt : root < (s.adopt c).1.size := by rw [size_adopt]; exact Nat.lt_add_right _ hpos
    rw [Orderly.adoptAll_cons]
    dsimp only
    rw [ih hlt, top, node?_adopt_left s c hpos, top]

theorem top_syncRequired (h : s.Orderly) : (s.syncRequired root).top = s.top := by
  unfold syncRequired
  cases hn : s.node? root with
  | none => rfl
  | some n =>
    dsimp only
    split
    · have hroot : (s.modifyRoot (·.removeKeyword "required")).top = s.top := by
        rw [top_modifyRoot, top]
        congr 1
        funext n
        rw [Node.reference?_removeKeyword (by decide)]
        rfl
      exact hroot
    · exact top_setKeyword_of_ne h (by simp [Keyword.name, Leaf.name])

theorem top_setSingle (h : s.Orderly) {child : Schema} (hc : child.Orderly) (slot : Slot) :
    (s.setSingle slot child).top = s.top := by
  have hadopt := h.adopt hc
  have hname : (Keyword.single slot s.size).name ≠ "$ref" := by
    cases slot <;> simp [Keyword.name, Slot.name]
  have htop := top_setKeyword_of_ne hadopt hname
  refine htop.trans ?_
  have hpos : root < s.size := h.nonempty
  rw [top, node?_adopt_left s child hpos, top]

theorem orderly_constant (accepts : Bool) :
    (Schema.ofNode (.ofKind (.constant accepts))).Orderly :=
  .ofNode rfl (by simp [Node.ofKind]) (by simp [Node.ofKind])

theorem top_close (h : s.Orderly) : s.close.top = s.top := by
  unfold close
  dsimp only
  split
  · exact top_syncRequired h
  · rw [top_setSingle h.syncRequired (orderly_constant false), top_syncRequired h]

theorem top_foldl_optional (entries : List (String × NodeId)) :
    (entries.foldl (fun s e => s.modify e.2 fun n => { n with optional := true }) s).top = s.top := by
  induction entries generalizing s with
  | nil => rfl
  | cons e entries ih =>
    rw [List.foldl_cons, ih]
    by_cases he : e.2 = root
    · rw [he]
      exact top_modifyRoot _
    · exact top_modify_of_ne he _

theorem top_loosen (h : s.Orderly) : s.loosen.top = s.top := by
  unfold loosen
  dsimp only
  rw [top_syncRequired (h.foldl_optional _), top_foldl_optional]

theorem top_tie (token : Nat) :
    (s.tie token).top =
      s.top.map fun e => (if e.1 = .hole token then .any else e.1, e.2.1, e.2.2) := by
  rw [top, node?_tie, top, Option.map_map, Option.map_map]
  cases hn : s.node? root with
  | none => rfl
  | some n =>
    have hkind : s.kind? root = some n.kind := by rw [kind?, hn, Option.map_some]
    rw [Option.map_some, Option.map_some, Function.comp_apply, Function.comp_apply, hkind]
    by_cases hhole : n.kind = .hole token
    · rw [if_pos hhole, if_pos (by rw [hhole]), if_pos hhole]
      rfl
    · rw [if_neg hhole, if_neg hhole]

end Top

end Schema

end JsonSchema
