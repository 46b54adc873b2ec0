import JsonSchema.Proofs.Building.Everywhere
import JsonSchema.Proofs.Building.Induction
import JsonSchema.Proofs.Recursion.Substitution

/-!
# Schemas that can be made

A schema is read from a document, built from an expression without free names, or changed at its
root. Whatever is done, and whether or not it succeeds, the schema is orderly and has no placeholder.
-/

namespace JsonSchema

/-! ## Edits -/

/-- The schemas that an edit brings with it. -/
def Edit.parts : Edit α → List α
  | .single _ child => [child]
  | .prefixItems children => children
  | .patternProperties entries | .dependentSchemas entries => entries.map (·.2)
  | .branches condition consequent alternative =>
    condition :: (consequent.toList ++ alternative.toList)
  | .keyword _ | .const _ | .enum _ | .default _ | .note _ _ | .id _ | .ref _ | .count _ _ | .bound _ _
  | .multipleOf _ | .pattern _ | .format _ | .uniqueItems _ | .dependentRequired _
  | .validateHook _ | .coerceHook _ | .templateHook _ | .optional | .strict | .partialObject => []

namespace Schema

/-- An edit that fails leaves the schema as it is. -/
def attempt (s : Schema) (e : Edit Schema) : Schema :=
  match s.apply e with
  | .ok t => t
  | .error _ => s

/-- A property that every change at the root keeps which brings such parts. -/
structure LastingWith (Part Q : Schema → Prop) : Prop where
  leaf : ∀ {s}, Q s → ∀ l, Q (s.setLeaf l)
  single : ∀ {s c}, Q s → Part c → ∀ slot, Q (s.setSingle slot c)
  listed : ∀ {s cs}, Q s → (∀ c ∈ cs, Part c) → ∀ slot, Q (s.setListed slot cs)
  keyed : ∀ {s} {es : List (String × Schema)}, Q s → (∀ e ∈ es, Part e.2) → ∀ slot,
    Q (s.setKeyed slot es)
  patterns : ∀ {s es t}, Q s → (∀ e ∈ es, Part e.2) → s.setPatterns es = .ok t → Q t
  root : ∀ {s}, Q s → ∀ f : Node → Node, (∀ n, (f n).kind = n.kind) →
    (∀ n, (f n).keywords = n.keywords) → Q (s.modifyRoot f)
  close : ∀ {s}, Q s → Q s.close
  loosen : ∀ {s}, Q s → Q s.loosen

/-- A property that every change at the root keeps. -/
abbrev Lasting (Q : Schema → Prop) : Prop := LastingWith Q Q

namespace LastingWith

variable {Part Q : Schema → Prop} (hQ : LastingWith Part Q) {s : Schema}
include hQ

theorem optionalSingle (hs : Q s) {c? : Option Schema} (hc : ∀ c ∈ c?, Part c) (slot : Slot) :
    Q (c?.elim s (s.setSingle slot)) := by
  cases c? with
  | none => exact hs
  | some c => exact hQ.single hs (hc c rfl) slot

omit hQ in
theorem ifObject {operation : String} {changed t : Schema} (hchanged : Q changed)
    (h : s.ifObject operation changed = .ok t) : Q t := by
  unfold Schema.ifObject at h
  split at h
  · cases h
    exact hchanged
  · cases h

theorem apply (hs : Q s) {e : Edit Schema} (hparts : ∀ c ∈ e.parts, Part c) {t : Schema}
    (h : s.apply e = .ok t) : Q t := by
  cases e with
  | single slot child =>
    cases h
    exact hQ.single hs (hparts child (List.mem_singleton.2 rfl)) slot
  | prefixItems children =>
    cases h
    exact hQ.listed hs hparts _
  | patternProperties entries =>
    exact hQ.patterns hs (fun e he => hparts e.2 (List.mem_map_of_mem he)) h
  | dependentSchemas entries =>
    cases h
    exact hQ.keyed hs (fun e he => hparts e.2 (List.mem_map_of_mem he)) _
  | branches condition consequent alternative =>
    cases h
    have hcondition := hQ.single hs (hparts condition List.mem_cons_self) .condition
    have hconsequent : ∀ c ∈ consequent, Part c := fun c hc =>
      hparts c (List.mem_cons_of_mem _ (List.mem_append_left _ (Option.mem_toList.2 hc)))
    have halternative : ∀ c ∈ alternative, Part c := fun c hc =>
      hparts c (List.mem_cons_of_mem _ (List.mem_append_right _ (Option.mem_toList.2 hc)))
    exact hQ.optionalSingle (hQ.optionalSingle hcondition hconsequent _) halternative _
  | pattern source =>
    obtain ⟨p, _, rfl⟩ := Except.map_eq_ok_iff.1 h
    exact hQ.leaf hs _
  | validateHook | coerceHook | templateHook | optional =>
    cases h
    exact hQ.root hs _ (fun _ => rfl) fun _ => rfl
  | strict => exact ifObject (hQ.close hs) h
  | partialObject => exact ifObject (hQ.loosen hs) h
  | _ =>
    cases h
    exact hQ.leaf hs _

theorem attempt (hs : Q s) {e : Edit Schema} (hparts : ∀ c ∈ e.parts, Part c) : Q (s.attempt e) := by
  unfold Schema.attempt
  split
  · next t h => exact hQ.apply hs hparts h
  · exact hs

end LastingWith

theorem lasting_orderly : Lasting Orderly where
  leaf := Orderly.setLeaf
  single := Orderly.setSingle
  listed := fun h hcs slot => h.setListed hcs slot
  keyed := fun h hes slot => h.setKeyed hes slot
  patterns := fun h hes ht => h.setPatterns hes ht
  root := fun h _ hkind hkeywords => h.modify_same root hkind hkeywords
  close := Orderly.close
  loosen := Orderly.loosen

/-! ## Placeholders -/

/-- All placeholders stand for recursions from one depth up to another. -/
def HolesWithin (low high : Nat) : Schema → Prop :=
  Everywhere fun n => ∀ token, n.kind = .hole token → low ≤ token ∧ token < high

section Holes

variable {low high : Nat} {s : Schema}

theorem HolesWithin.mono {high' : Nat} (hle : high ≤ high') (h : s.HolesWithin low high) :
    s.HolesWithin low high' := by
  intro id n hn token hhole
  obtain ⟨hlow, hhigh⟩ := h id n hn token hhole
  exact ⟨hlow, Nat.lt_of_lt_of_le hhigh hle⟩

theorem HolesWithin.holeFree (h : s.HolesWithin low low) : s.HoleFree := by
  intro id n hn token hhole
  obtain ⟨hlow, hhigh⟩ := h id n hn token hhole
  exact Nat.not_lt.2 hlow hhigh

theorem HoleFree.holesWithin (h : s.HoleFree) : s.HolesWithin low high :=
  fun id n hn token hhole => absurd hhole (h id n hn token)

theorem HolesWithin.setChildren (hs : s.HolesWithin low high) {children : List Schema}
    (hc : ∀ c ∈ children, c.HolesWithin low high) (k : Keyword) :
    ((s.adoptAll children).1.setKeyword k).HolesWithin low high :=
  Everywhere.setChildren hs hc
    (fun _ _ hn token hhole => hn token (Node.kind_mapIds_eq_hole_iff.1 hhole)) fun _ hn => hn

theorem HolesWithin.modify (h : s.HolesWithin low high) (id : NodeId) {f : Node → Node}
    (hkind : ∀ n, (f n).kind = n.kind) : (s.modify id f).HolesWithin low high := by
  refine Everywhere.modify h id fun n _ hn => ?_
  rw [hkind]
  exact hn

theorem HolesWithin.setSingle {c : Schema} (hs : s.HolesWithin low high)
    (hc : c.HolesWithin low high) (slot : Slot) : (s.setSingle slot c).HolesWithin low high := by
  have hchildren : ∀ d ∈ [c], d.HolesWithin low high := List.forall_mem_singleton.2 hc
  exact hs.setChildren hchildren (.single slot s.size)

theorem holesWithin_constant (accepts : Bool) :
    (ofNode (.ofKind (.constant accepts))).HolesWithin low high :=
  HoleFree.holesWithin (holeFree_ofNode (by simp [Node.ofKind]))

theorem HolesWithin.syncRequired (h : s.HolesWithin low high) :
    (s.syncRequired root).HolesWithin low high := by
  unfold Schema.syncRequired
  split
  · exact h
  · refine h.modify root fun n => ?_
    split <;> rfl

theorem HolesWithin.close (h : s.HolesWithin low high) : s.close.HolesWithin low high := by
  unfold Schema.close
  dsimp only
  split
  · exact h.syncRequired
  · exact h.syncRequired.setSingle (holesWithin_constant false) _

theorem HolesWithin.loosen (h : s.HolesWithin low high) : s.loosen.HolesWithin low high :=
  HolesWithin.syncRequired (Everywhere.foldl_optional _ h fun _ hn => hn)

theorem HolesWithin.tie (h : s.HolesWithin low (high + 1)) : (s.tie high).HolesWithin low high := by
  intro id n hn token hhole
  obtain ⟨old, hold, _, _, _, hcases⟩ := node?_tie_cases hn
  rcases hcases with ⟨hne, hkind⟩ | ⟨_, _, hkind⟩ | ⟨_, _, hkind⟩
  · rw [hkind] at hhole
    have hother : token ≠ high := fun heq => hne (heq ▸ hhole)
    have := h id old hold token hhole
    omega
  · rw [hkind] at hhole
    cases hhole
  · rw [hkind] at hhole
    cases hhole

theorem lasting_holesWithin (low high : Nat) : Lasting (HolesWithin low high) where
  leaf := fun h _ => h.modify root fun _ => rfl
  single := HolesWithin.setSingle
  listed := fun h hcs _ => h.setChildren hcs _
  keyed := fun h hes _ => h.setChildren (forall_mem_schemas hes) _
  patterns := by
    intro s es t h hes ht
    obtain ⟨_, _, ht⟩ := Except.bind_eq_ok_iff.1 ht
    cases ht
    exact h.setChildren (forall_mem_schemas hes) _
  root := fun h _ hkind _ => h.modify root hkind
  close := HolesWithin.close
  loosen := HolesWithin.loosen

end Holes

end Schema

/-! ## Expressions without free names -/

namespace Expr

mutual

/-- Every name is one of these or that of a recursion around it. -/
def ClosedIn (names : List String) : Expr → Prop
  | object _ properties => ClosedEntries names properties
  | array items => items.ClosedIn names
  | anyOf parts | oneOf parts | allOf parts => ClosedList names parts
  | negated of_ => of_.ClosedIn names
  | recursive name body => body.ClosedIn (name :: names)
  | this name => name ∈ names
  | edited base edits => base.ClosedIn names ∧ ClosedEdits names edits
  | any | constant _ | typed _ | literal _ | stringConst _ | reference _ | document _ => True

def ClosedList (names : List String) : List Expr → Prop
  | [] => True
  | e :: es => e.ClosedIn names ∧ ClosedList names es

def ClosedEntries (names : List String) : List (String × Expr) → Prop
  | [] => True
  | (_, e) :: es => e.ClosedIn names ∧ ClosedEntries names es

def ClosedOption (names : List String) : Option Expr → Prop
  | none => True
  | some e => e.ClosedIn names

def ClosedEdits (names : List String) : List (Edit Expr) → Prop
  | [] => True
  | edit :: edits => ClosedEdit names edit ∧ ClosedEdits names edits

def ClosedEdit (names : List String) : Edit Expr → Prop
  | .single _ child => child.ClosedIn names
  | .prefixItems children => ClosedList names children
  | .patternProperties entries | .dependentSchemas entries => ClosedEntries names entries
  | .branches condition consequent alternative =>
    condition.ClosedIn names ∧ ClosedOption names consequent ∧ ClosedOption names alternative
  | .keyword _ | .const _ | .enum _ | .default _ | .note _ _ | .id _ | .ref _ | .count _ _ | .bound _ _
  | .multipleOf _ | .pattern _ | .format _ | .uniqueItems _ | .dependentRequired _
  | .validateHook _ | .coerceHook _ | .templateHook _ | .optional | .strict | .partialObject => True

end

end Expr

namespace Expr

open Schema

/-- What the names stand for has no placeholders but those of the recursions around. -/
structure Scoped (low : Nat) (scope : List (String × Schema)) : Prop where
  depth : low ≤ scope.length
  holes : ∀ e ∈ scope, e.2.HolesWithin low scope.length

namespace Scoped

variable {low : Nat} {scope : List (String × Schema)} (h : Scoped low scope)
include h

theorem cons (name : String) : Scoped low ((name, .placeholder scope.length) :: scope) where
  depth := Nat.le_succ_of_le h.depth
  holes := by
    refine List.forall_mem_cons.2 ⟨?_, fun e he => (h.holes e he).mono (Nat.le_succ _)⟩
    refine everywhere_ofNode fun token hhole => ?_
    cases hhole
    exact ⟨h.depth, Nat.lt_succ_self _⟩

theorem lookup {name : String} (hname : name ∈ scope.map (·.1)) :
    ((scope.lookup name).getD (.placeholder scope.length)).HolesWithin low scope.length := by
  cases hfound : scope.lookup name with
  | some s => exact h.holes (name, s) (mem_of_lookup hfound)
  | none =>
    obtain ⟨e, he, rfl⟩ := List.mem_map.1 hname
    exact absurd (List.lookup_eq_none_iff.1 hfound e he) (by simp)

end Scoped

theorem holesWithin_object {low high : Nat} (shape : Shape) {es : List (String × Schema)}
    (h : ∀ e ∈ es, e.2.HolesWithin low high) : (Schema.object shape es).HolesWithin low high := by
  have htyped : (Schema.typed .object).HolesWithin low high :=
    HoleFree.holesWithin (holeFree_ofNode (by simp [Node.typed, Kind.ofType]))
  have hplain := ((lasting_holesWithin low high).keyed htyped h .properties).syncRequired
  cases shape with
  | plain => exact hplain
  | closed => exact hplain.close
  | loose => exact hplain.loosen

theorem holesWithin_composed {low high : Nat} {kind : Kind} (hkind : ∀ token, kind ≠ .hole token)
    (slot : ListSlot) {cs : List Schema} (h : ∀ c ∈ cs, c.HolesWithin low high) :
    (Schema.composed kind slot cs).HolesWithin low high :=
  HolesWithin.setChildren (HoleFree.holesWithin (holeFree_ofNode hkind)) h _

mutual

/-- What is built leaves open no more recursions than there are around it. -/
theorem build_holesWithin {low : Nat} {scope : List (String × Schema)} (hscope : Scoped low scope) :
    ∀ (e : Expr), e.ClosedIn (scope.map (·.1)) → ∀ {s : Schema}, e.buildIn scope = .ok s →
      s.HolesWithin low scope.length
  | .any, _, _, hs | .constant _, _, _, hs => by
    cases hs
    exact HoleFree.holesWithin (holeFree_ofNode (by simp [Node.ofKind]))
  | .typed t, _, _, hs => by
    cases hs
    exact HoleFree.holesWithin (holeFree_ofNode (by cases t <;> simp [Node.typed, Kind.ofType]))
  | .object shape properties, hclosed, _, hs => by
    obtain ⟨es, hes, hs⟩ := Except.bind_eq_ok_iff.1 hs
    cases hs
    exact holesWithin_object shape (buildEntries_holesWithin hscope properties hclosed hes)
  | .array items, hclosed, _, hs => by
    obtain ⟨c, hc, hs⟩ := Except.bind_eq_ok_iff.1 hs
    cases hs
    have htyped : (Schema.typed .array).HolesWithin low scope.length :=
      HoleFree.holesWithin (holeFree_ofNode (by simp [Node.typed, Kind.ofType]))
    exact htyped.setSingle (build_holesWithin hscope items hclosed hc) _
  | .anyOf parts, hclosed, _, hs | .oneOf parts, hclosed, _, hs | .allOf parts, hclosed, _, hs => by
    obtain ⟨cs, hcs, hs⟩ := Except.bind_eq_ok_iff.1 hs
    cases hs
    exact holesWithin_composed (by simp) _ (buildList_holesWithin hscope parts hclosed hcs)
  | .negated part, hclosed, _, hs => by
    obtain ⟨c, hc, hs⟩ := Except.bind_eq_ok_iff.1 hs
    cases hs
    have hany : Schema.any.HolesWithin low scope.length :=
      HoleFree.holesWithin (holeFree_ofNode (by simp [Node.ofKind]))
    exact hany.setSingle (build_holesWithin hscope part hclosed hc) _
  | .literal _, _, _, hs | .reference _, _, _, hs => by
    cases hs
    have hany : Schema.any.HolesWithin low scope.length :=
      HoleFree.holesWithin (holeFree_ofNode (by simp [Node.ofKind]))
    exact hany.modify root fun _ => rfl
  | .stringConst text, _, _, hs => by
    cases hs
    have htyped : (Schema.typed .string).HolesWithin low scope.length :=
      HoleFree.holesWithin (holeFree_ofNode (by simp [Node.typed, Kind.ofType]))
    have hset := lasting_holesWithin low scope.length
    exact hset.root (hset.leaf (hset.leaf (hset.leaf htyped _) _) _) _ (fun _ => rfl) fun _ => rfl
  | .document d, _, _, hs => HoleFree.holesWithin (closed_holeFree.load d [] _ hs)
  | .recursive name body, hclosed, _, hs => by
    obtain ⟨b, hb, hs⟩ := Except.bind_eq_ok_iff.1 hs
    cases hs
    -- Inside there is one recursion more, and to tie it closes its placeholders.
    exact (build_holesWithin (hscope.cons name) body hclosed hb).tie
  | .this name, hclosed, _, hs => by
    cases hs
    exact hscope.lookup hclosed
  | .edited base edits, hclosed, _, hs => by
    obtain ⟨b, hb, hs⟩ := Except.bind_eq_ok_iff.1 hs
    exact buildEdits_holesWithin hscope edits hclosed.2 (build_holesWithin hscope base hclosed.1 hb) hs

theorem buildList_holesWithin {low : Nat} {scope : List (String × Schema)} (hscope : Scoped low scope) :
    ∀ (es : List Expr), ClosedList (scope.map (·.1)) es → ∀ {cs : List Schema},
      buildList scope es = .ok cs → ∀ c ∈ cs, c.HolesWithin low scope.length
  | [], _, _, hcs => by
    cases hcs
    exact nofun
  | e :: es, hclosed, _, hcs => by
    obtain ⟨c, hc, hcs⟩ := Except.bind_eq_ok_iff.1 hcs
    obtain ⟨cs, hrest, hcs⟩ := Except.bind_eq_ok_iff.1 hcs
    cases hcs
    exact List.forall_mem_cons.2
      ⟨build_holesWithin hscope e hclosed.1 hc, buildList_holesWithin hscope es hclosed.2 hrest⟩

theorem buildEntries_holesWithin {low : Nat} {scope : List (String × Schema)}
    (hscope : Scoped low scope) :
    ∀ (es : List (String × Expr)), ClosedEntries (scope.map (·.1)) es →
      ∀ {entries : List (String × Schema)}, buildEntries scope es = .ok entries →
      ∀ e ∈ entries, e.2.HolesWithin low scope.length
  | [], _, _, hes => by
    cases hes
    exact nofun
  | (key, e) :: es, hclosed, _, hes => by
    obtain ⟨c, hc, hes⟩ := Except.bind_eq_ok_iff.1 hes
    obtain ⟨rest, hrest, hes⟩ := Except.bind_eq_ok_iff.1 hes
    cases hes
    exact List.forall_mem_cons.2
      ⟨build_holesWithin hscope e hclosed.1 hc, buildEntries_holesWithin hscope es hclosed.2 hrest⟩

theorem buildOption_holesWithin {low : Nat} {scope : List (String × Schema)}
    (hscope : Scoped low scope) :
    ∀ (e? : Option Expr), ClosedOption (scope.map (·.1)) e? → ∀ {c? : Option Schema},
      buildOption scope e? = .ok c? → ∀ c ∈ c?, c.HolesWithin low scope.length
  | none, _, _, hc => by
    cases hc
    exact nofun
  | some e, hclosed, _, hc => by
    obtain ⟨c, hbuild, hc⟩ := Except.bind_eq_ok_iff.1 hc
    cases hc
    rintro _ ⟨⟩
    exact build_holesWithin hscope e hclosed hbuild

theorem buildEdits_holesWithin {low : Nat} {scope : List (String × Schema)}
    (hscope : Scoped low scope) :
    ∀ (edits : List (Edit Expr)), ClosedEdits (scope.map (·.1)) edits → ∀ {s t : Schema},
      s.HolesWithin low scope.length → buildEdits scope s edits = .ok t →
      t.HolesWithin low scope.length
  | [], _, _, _, hs, ht => by
    cases ht
    exact hs
  | edit :: edits, hclosed, _, _, hs, ht => by
    obtain ⟨e, he, ht⟩ := Except.bind_eq_ok_iff.1 ht
    obtain ⟨u, hu, ht⟩ := Except.bind_eq_ok_iff.1 ht
    have hparts := buildEdit_holesWithin hscope edit hclosed.1 he
    exact buildEdits_holesWithin hscope edits hclosed.2
      ((lasting_holesWithin low scope.length).apply hs hparts hu) ht

theorem buildEdit_holesWithin {low : Nat} {scope : List (String × Schema)}
    (hscope : Scoped low scope) :
    ∀ (edit : Edit Expr), ClosedEdit (scope.map (·.1)) edit → ∀ {e : Edit Schema},
      buildEdit scope edit = .ok e → ∀ c ∈ e.parts, c.HolesWithin low scope.length
  | .single slot child, hclosed, _, he => by
    obtain ⟨c, hc, he⟩ := Except.bind_eq_ok_iff.1 he
    cases he
    exact List.forall_mem_singleton.2 (build_holesWithin hscope child hclosed hc)
  | .prefixItems children, hclosed, _, he => by
    obtain ⟨cs, hcs, he⟩ := Except.bind_eq_ok_iff.1 he
    cases he
    exact buildList_holesWithin hscope children hclosed hcs
  | .patternProperties entries, hclosed, _, he | .dependentSchemas entries, hclosed, _, he => by
    obtain ⟨es, hes, he⟩ := Except.bind_eq_ok_iff.1 he
    cases he
    exact forall_mem_schemas (buildEntries_holesWithin hscope entries hclosed hes)
  | .branches condition consequent alternative, hclosed, _, he => by
    obtain ⟨c, hc, he⟩ := Except.bind_eq_ok_iff.1 he
    obtain ⟨t?, ht, he⟩ := Except.bind_eq_ok_iff.1 he
    obtain ⟨f?, hf, he⟩ := Except.bind_eq_ok_iff.1 he
    cases he
    refine List.forall_mem_cons.2 ⟨build_holesWithin hscope condition hclosed.1 hc, ?_⟩
    refine List.forall_mem_append.2 ⟨fun d hd => ?_, fun d hd => ?_⟩
    · exact buildOption_holesWithin hscope consequent hclosed.2.1 ht d (Option.mem_toList.1 hd)
    · exact buildOption_holesWithin hscope alternative hclosed.2.2 hf d (Option.mem_toList.1 hd)
  | .keyword _, _, _, he | .const _, _, _, he | .enum _, _, _, he | .default _, _, _, he
  | .note _ _, _, _, he | .id _, _, _, he | .ref _, _, _, he | .count _ _, _, _, he | .bound _ _, _, _, he | .multipleOf _, _, _, he
  | .pattern _, _, _, he | .format _, _, _, he | .uniqueItems _, _, _, he | .dependentRequired _, _, _, he
  | .validateHook _, _, _, he | .coerceHook _, _, _, he | .templateHook _, _, _, he | .optional, _, _, he
  | .strict, _, _, he | .partialObject, _, _, he => by
    cases he
    exact nofun

end

end Expr

/-! ## Constructions -/

namespace Schema

/-- The schemas that can be made: from documents, from expressions over schemas that have been made,
and by edits that bring such schemas with them. -/
inductive Constructed : Schema → Prop where
  | loaded {d : Json} {s : Schema} (h : ofJson d = .ok s) : Constructed s
  | built {scope : List (String × Schema)} {e : Expr} {s : Schema}
      (hscope : ∀ entry ∈ scope, Constructed entry.2) (hclosed : e.ClosedIn (scope.map (·.1)))
      (h : e.buildIn scope = .ok s) : Constructed s
  | changed {s : Schema} {e : Edit Schema} (h : Constructed s)
      (hparts : ∀ part ∈ e.parts, Constructed part) : Constructed (s.attempt e)

namespace Constructed

variable {s : Schema}

theorem orderly (h : s.Constructed) : s.Orderly := by
  induction h with
  | loaded h => exact orderly_ofJson h
  | built _ _ h ih => exact orderly_buildIn ih h
  | changed _ _ ih ihparts => exact lasting_orderly.attempt ih ihparts

theorem holeFree (h : s.Constructed) : s.HoleFree := by
  induction h with
  | @loaded d s h => exact closed_holeFree.load d [] s h
  | built _ hclosed h ih =>
    have hscoped : Expr.Scoped _ _ := ⟨Nat.le_refl _, fun entry he => (ih entry he).holesWithin⟩
    exact (Expr.build_holesWithin hscoped _ hclosed h).holeFree
  | changed _ _ ih ihparts =>
    have hkept := (lasting_holesWithin 0 0).attempt ih.holesWithin fun part hpart =>
      (ihparts part hpart).holesWithin
    exact hkept.holeFree

end Constructed

/-- The schemas that can be made when names may be left without a schema around them, so that
placeholders may stay. -/
inductive Assembled : Schema → Prop where
  | loaded {d : Json} {s : Schema} (h : ofJson d = .ok s) : Assembled s
  | built {scope : List (String × Schema)} {e : Expr} {s : Schema}
      (hscope : ∀ entry ∈ scope, Assembled entry.2) (h : e.buildIn scope = .ok s) : Assembled s
  | changed {s : Schema} {e : Edit Schema} (h : Assembled s)
      (hparts : ∀ part ∈ e.parts, Assembled part) : Assembled (s.attempt e)

/-! ### What builders preserve -/

theorem relatedEntries_self {R : Schema → Schema → Prop} {es : List (String × Schema)}
    (h : ∀ c ∈ es.map (·.2), R c c) : RelatedEntries R es es :=
  List.forall₂_same.2 fun e he => ⟨rfl, h e.2 (List.mem_map_of_mem he)⟩

theorem related_self {R : Schema → Schema → Prop} {e : Edit Schema} (h : ∀ c ∈ e.parts, R c c) :
    e.Related (fun _ => True) R e := by
  have hoption : ∀ c? : Option Schema, (∀ c ∈ c?, R c c) → Option.Rel R c? c? := by
    intro c? hc
    cases c? with
    | none => exact .none
    | some c => exact .some (hc c rfl)
  cases e with
  | single slot child => exact .single (h child (List.mem_singleton.2 rfl))
  | prefixItems children => exact .prefixItems (List.forall₂_same.2 h)
  | patternProperties entries => exact .patternProperties (relatedEntries_self h)
  | dependentSchemas entries => exact .dependentSchemas (relatedEntries_self h)
  | branches condition consequent alternative =>
    refine .branches (h condition List.mem_cons_self) (hoption _ fun c hc => ?_) (hoption _ fun c hc => ?_)
    · exact h c (List.mem_cons_of_mem _ (List.mem_append_left _ (Option.mem_toList.2 hc)))
    · exact h c (List.mem_cons_of_mem _ (List.mem_append_right _ (Option.mem_toList.2 hc)))
  | _ => exact .plain trivial

theorem Preserved.attempt {P : Json → Prop} {Q : Schema → Prop} (hQ : Preserved P (fun _ => True) Q) {s : Schema}
    (hs : Q s) {e : Edit Schema} (hparts : ∀ part ∈ e.parts, Q part) : Q (s.attempt e) := by
  unfold Schema.attempt
  split
  · next t ht =>
    obtain ⟨_, _, hkept, _⟩ :=
      hQ.congruence.apply ⟨hs, rfl⟩ (related_self fun c hc => ⟨hparts c hc, rfl⟩) ht
    exact hkept
  · exact hs

namespace Assembled

variable {s : Schema}

theorem preserved (h : s.Assembled) {Q : Schema → Prop} (hQ : Preserved (fun _ => True) (fun _ => True) Q) : Q s := by
  induction h with
  | loaded h => exact hQ.document trivial h
  | @built _ e _ _ h ih => exact hQ.buildIn ih e.ingredients_true h
  | changed _ _ ih ihparts => exact hQ.attempt ih ihparts

theorem orderly (h : s.Assembled) : s.Orderly := h.preserved preserved_orderly

end Assembled

end Schema

end JsonSchema
