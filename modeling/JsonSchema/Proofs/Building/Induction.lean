import JsonSchema.Proofs.Building.Orderly
import JsonSchema.Proofs.Loading.Values

/-!
# Induction on how a schema is put together

Loading and building change schemas at their roots in a few ways. What all of these ways keep holds
of every schema that is loaded or built. For building it is a relation that is kept, between what an
expression makes where its names stand for one thing and where they stand for another.
-/

namespace JsonSchema

/-! ## Loading -/

namespace Loader

/-- `Part` holds of a schema whose root has read some members, `Whole` of one that has read all. -/
structure Closed (Part Whole : Schema → Prop) : Prop where
  constant : ∀ accepts, Whole (.ofNode (.ofKind (.constant accepts)))
  start : ∀ kind, (∀ target, kind ≠ .link target) → (∀ token, kind ≠ .hole token) →
    Part (.ofNode (.ofKind kind))
  leaf : ∀ {s}, Part s → ∀ l, Part (s.setLeaf l)
  single : ∀ {s child}, Part s → Whole child → ∀ slot, Part (s.setSingle slot child)
  listed : ∀ {s children}, Part s → (∀ c ∈ children, Whole c) → ∀ slot,
    Part (s.setListed slot children)
  keyed : ∀ {s entries}, Part s → (∀ e ∈ entries, Whole e.2) → ∀ slot,
    Part (s.setKeyed slot entries)
  patterns : ∀ {s entries t}, Part s → (∀ e ∈ entries, Whole e.2) → s.setPatterns entries = .ok t →
    Part t
  mark : ∀ {s}, Part s → Whole (markOptional s)

namespace Closed

variable {Part Whole : Schema → Prop} (hclosed : Closed Part Whole)
include hclosed

theorem loadMembers {path : Path} {ms : Members} {s t : Schema}
    (ih : ∀ d, sizeOf d < sizeOf ms → ∀ path u, load path d = .ok u → Whole u) (hs : Part s)
    (h : loadMembers path s ms = .ok t) : Part t := by
  induction ms generalizing s with
  | nil =>
    rw [Loader.loadMembers] at h
    cases h
    exact hs
  | cons m ms ihms =>
    obtain ⟨u, hu, h⟩ := adds_of_loadMembers_cons h
    have hlt : sizeOf m.2 < sizeOf (m :: ms) := sizeOf_lt_of_mem_members List.mem_cons_self
    have hentries : ∀ {entries : List (String × Schema)} {ds : Members} {path : Path},
        m.2 = .object ds → loadEntries path ds = .ok entries → ∀ e ∈ entries, Whole e.2 := by
      intro entries ds path hds read e he
      obtain ⟨d, hd, _, place, hload⟩ := exists_of_forall₂ (forall₂_of_loadEntries read) he
      refine ih d.2 (Nat.lt_trans (sizeOf_lt_of_mem_entries hd) ?_) place e.2 hload
      rw [← hds]
      exact hlt
    have hnext : Part u := by
      cases hu with
      | single role read => exact hclosed.single hs (ih _ hlt _ _ read) _
      | listed role read =>
        refine hclosed.listed hs (fun c hc => ?_) _
        obtain ⟨d, hd, place, hload⟩ := exists_of_forall₂ (forall₂_of_loadItems read) hc
        exact ih d (Nat.lt_trans (sizeOf_lt_of_mem_items hd) hlt) place c hload
      | keyed role read => exact hclosed.keyed hs (hentries rfl read) _
      | patterns role read set => exact hclosed.patterns hs (hentries rfl read) set
      | leaf role read => exact hclosed.leaf hs _
    have hsize : sizeOf (m :: ms) = 1 + sizeOf m + sizeOf ms := List.cons.sizeOf_spec m ms
    exact ihms (fun d hlt => ih d (by omega)) hnext h

theorem load (d : Json) (path : Path) (s : Schema) (h : load path d = .ok s) : Whole s := by
  induction hn : sizeOf d using Nat.strongRecOn generalizing d path s with | ind n ih
  subst hn
  rcases load_cases h with ⟨accepts, rfl, rfl⟩ | ⟨ms, kind, t, rfl, hkind, ht, rfl⟩
  · exact hclosed.constant accepts
  · obtain ⟨_, hlink, hhole⟩ := ne_of_kindOf hkind
    have hlt : sizeOf ms < sizeOf (Json.object ms) := by rw [Json.object.sizeOf_spec]; omega
    refine hclosed.mark (hclosed.loadMembers ?_ (hclosed.start kind hlink hhole) ht)
    exact fun d hd path u hload => ih _ (Nat.lt_trans hd hlt) d path u hload rfl

end Closed

end Loader

/-! ## Building -/

/-- An edit that brings no schemas with it, and no keywords but those that may be set as they are. -/
def Edit.IsPlain (L : Leaf → Prop) : Edit α → Prop
  | .single _ _ | .prefixItems _ | .patternProperties _ | .dependentSchemas _ | .branches _ _ _ =>
    False
  | .keyword l => L l
  | _ => True

/-- The edits are the same but for the schemas that they bring. -/
inductive Edit.Related (L : Leaf → Prop) (R : Schema → Schema → Prop) : Edit Schema → Edit Schema → Prop where
  | plain {e : Edit Schema} (h : e.IsPlain L) : Related L R e e
  | single {slot : Slot} {c c' : Schema} (h : R c c') : Related L R (.single slot c) (.single slot c')
  | prefixItems {cs cs' : List Schema} (h : List.Forall₂ R cs cs') :
      Related L R (.prefixItems cs) (.prefixItems cs')
  | patternProperties {es es' : List (String × Schema)}
      (h : List.Forall₂ (fun e e' => e.1 = e'.1 ∧ R e.2 e'.2) es es') :
      Related L R (.patternProperties es) (.patternProperties es')
  | dependentSchemas {es es' : List (String × Schema)}
      (h : List.Forall₂ (fun e e' => e.1 = e'.1 ∧ R e.2 e'.2) es es') :
      Related L R (.dependentSchemas es) (.dependentSchemas es')
  | branches {c c' : Schema} {t t' e e' : Option Schema} (condition : R c c')
      (consequent : Option.Rel R t t') (alternative : Option.Rel R e e') :
      Related L R (.branches c t e) (.branches c' t' e')

/-- A keyword that has an edit of its own. The types are set with the kind and the required keys with the
properties, and a pattern is compiled from its text. -/
def Leaf.HasEdit : Leaf → Prop
  | types _ | required _ => False
  | pattern p => Pattern.compile? p.source = some p
  | _ => True

namespace Expr

mutual

/-- What holds of all documents that an expression loads, and of all keywords that it sets as they are. -/
def Ingredients (P : Json → Prop) (L : Leaf → Prop) : Expr → Prop
  | document d => P d
  | object _ properties => IngredientsOfEntries P L properties
  | array items => items.Ingredients P L
  | anyOf parts | oneOf parts | allOf parts => IngredientsOfList P L parts
  | negated of_ => of_.Ingredients P L
  | recursive _ body => body.Ingredients P L
  | edited base edits => base.Ingredients P L ∧ IngredientsOfEdits P L edits
  | any | constant _ | typed _ | literal _ | stringConst _ | reference _ | this _ => True

def IngredientsOfList (P : Json → Prop) (L : Leaf → Prop) : List Expr → Prop
  | [] => True
  | e :: es => e.Ingredients P L ∧ IngredientsOfList P L es

def IngredientsOfEntries (P : Json → Prop) (L : Leaf → Prop) : List (String × Expr) → Prop
  | [] => True
  | (_, e) :: es => e.Ingredients P L ∧ IngredientsOfEntries P L es

def IngredientsOfOption (P : Json → Prop) (L : Leaf → Prop) : Option Expr → Prop
  | none => True
  | some e => e.Ingredients P L

def IngredientsOfEdits (P : Json → Prop) (L : Leaf → Prop) : List (Edit Expr) → Prop
  | [] => True
  | edit :: edits => IngredientsOfEdit P L edit ∧ IngredientsOfEdits P L edits

def IngredientsOfEdit (P : Json → Prop) (L : Leaf → Prop) : Edit Expr → Prop
  | .single _ child => child.Ingredients P L
  | .prefixItems children => IngredientsOfList P L children
  | .patternProperties entries | .dependentSchemas entries => IngredientsOfEntries P L entries
  | .branches condition consequent alternative =>
    condition.Ingredients P L ∧ IngredientsOfOption P L consequent ∧ IngredientsOfOption P L alternative
  | .keyword l => L l
  | .const _ | .enum _ | .default _ | .note _ _ | .id _ | .ref _ | .count _ _ | .bound _ _
  | .multipleOf _ | .pattern _ | .format _ | .uniqueItems _ | .dependentRequired _
  | .validateHook _ | .coerceHook _ | .templateHook _ | .optional | .strict | .partialObject => True

end

end Expr

namespace Schema

/-- The same schemas, up to a relation, under the same keys. -/
def RelatedEntries (R : Schema → Schema → Prop) (es es' : List (String × Schema)) : Prop :=
  List.Forall₂ (fun e e' => e.1 = e'.1 ∧ R e.2 e'.2) es es'

/-- A relation that is kept by everything that a builder does below so many names, with documents
and keywords that satisfy a predicate each. -/
structure Congruence (P : Json → Prop) (L : Leaf → Prop) (depth : Nat) (R : Schema → Schema → Prop) : Prop where
  isObject : ∀ {s s'}, R s s' → s.kind? root = some .object → s'.kind? root = some .object
  any : R .any .any
  constant : ∀ accepts, R (.ofKind (.constant accepts)) (.ofKind (.constant accepts))
  typed : ∀ t, R (.typed t) (.typed t)
  placeholder : ∀ token, depth ≤ token → R (.placeholder token) (.placeholder token)
  document : ∀ {d s}, P d → Schema.ofJson d = .ok s → R s s
  hasEdit : ∀ {l : Leaf}, l.HasEdit → L l
  leaf : ∀ {s s'}, R s s' → ∀ {l : Leaf}, L l → R (s.setLeaf l) (s'.setLeaf l)
  single : ∀ {s s' c c'}, R s s' → R c c' → ∀ slot, R (s.setSingle slot c) (s'.setSingle slot c')
  listed : ∀ {s s' cs cs'}, R s s' → List.Forall₂ R cs cs' → ∀ {slot : ListSlot}, slot ≠ .anyOf →
    slot ≠ .oneOf → R (s.setListed slot cs) (s'.setListed slot cs')
  union : ∀ {cs cs'}, List.Forall₂ R cs cs' → ∀ {slot : ListSlot}, slot = .anyOf ∨ slot = .oneOf →
    R (composed .union slot cs) (composed .union slot cs')
  object : ∀ {es es'}, RelatedEntries R es es' →
    R (((Schema.typed .object).setKeyed .properties es).syncRequired root)
      (((Schema.typed .object).setKeyed .properties es').syncRequired root)
  dependents : ∀ {s s' es es'}, R s s' → RelatedEntries R es es' →
    R (s.setKeyed .dependentSchemas es) (s'.setKeyed .dependentSchemas es')
  patterns : ∀ {s s' es es' t}, R s s' → RelatedEntries R es es' → s.setPatterns es = .ok t →
    ∃ t', s'.setPatterns es' = .ok t' ∧ R t t'
  hooks : ∀ {s s'}, R s s' → ∀ f : Hooks → Hooks, (∀ hooks, f hooks ≠ {}) →
    R (s.modifyRoot fun n => { n with hooks := f n.hooks })
      (s'.modifyRoot fun n => { n with hooks := f n.hooks })
  optional : ∀ {s s'}, R s s' →
    R (s.modifyRoot fun n => { n with optional := true })
      (s'.modifyRoot fun n => { n with optional := true })
  close : ∀ {s s'}, R s s' → s.kind? root = some .object → R s.close s'.close
  loosen : ∀ {s s'}, R s s' → s.kind? root = some .object → R s.loosen s'.loosen
  tie : ∀ {s s'}, R s s' → ∀ token, depth ≤ token → R (s.tie token) (s'.tie token)

namespace Congruence

variable {P : Json → Prop} {L : Leaf → Prop} {depth : Nat} {R : Schema → Schema → Prop}
  (hR : Congruence P L depth R)
include hR

theorem objectOf (shape : Shape) {es es' : List (String × Schema)} (h : RelatedEntries R es es') :
    R (.object shape es) (.object shape es') := by
  have hkind : (((Schema.typed .object).setKeyed .properties es).syncRequired root).kind? root =
      some .object := by
    rw [kind?_syncRequired, setKeyed, kind?_setKeyword, kind?_adoptAll _ _ Nat.one_pos]
    rfl
  unfold Schema.object
  cases shape with
  | plain => exact hR.object h
  | closed => exact hR.close (hR.object h) hkind
  | loose => exact hR.loosen (hR.object h) hkind

theorem optionalSingle {s s' : Schema} (h : R s s') {c? c?' : Option Schema}
    (hc : Option.Rel R c? c?') (slot : Slot) :
    R (c?.elim s (s.setSingle slot)) (c?'.elim s' (s'.setSingle slot)) := by
  cases hc with
  | none => exact h
  | some hc => exact hR.single h hc slot

theorem ifObject {s s' changed changed' t : Schema} {operation : String} (h : R s s')
    (hchanged : s.kind? root = some .object → R changed changed')
    (ht : s.ifObject operation changed = .ok t) : ∃ t', s'.ifObject operation changed' = .ok t' ∧ R t t' := by
  unfold Schema.ifObject at ht ⊢
  split at ht
  · next hkind =>
    cases ht
    rw [if_pos (hR.isObject h hkind)]
    exact ⟨_, rfl, hchanged hkind⟩
  · cases ht

/-- An edit without schemas is the same on both sides. -/
theorem applyPlain {s s' t : Schema} (h : R s s') {e : Edit Schema} (he : e.IsPlain L)
    (ht : s.apply e = .ok t) : ∃ t', s'.apply e = .ok t' ∧ R t t' := by
  cases e with
  | single | prefixItems | patternProperties | dependentSchemas | branches => cases he
  | keyword l =>
    cases ht
    exact ⟨_, rfl, hR.leaf h he⟩
  | pattern source =>
    obtain ⟨p, hp, rfl⟩ := Except.map_eq_ok_iff.1 ht
    have hcompiled : Pattern.compile? p.source = some p := by
      have hp := Loader.compile_eq_ok_iff.1 hp
      rw [Pattern.source_of_compile? hp, hp]
    exact ⟨_, Except.map_eq_ok_iff.2 ⟨p, hp, rfl⟩, hR.leaf h (l := .pattern p) (hR.hasEdit hcompiled)⟩
  | validateHook hook =>
    cases ht
    exact ⟨_, rfl, hR.hooks h (fun hooks => { hooks with validate := some hook })
      fun _ heq => by cases congrArg Hooks.validate heq⟩
  | coerceHook hook =>
    cases ht
    exact ⟨_, rfl, hR.hooks h (fun hooks => { hooks with coerce := some hook })
      fun _ heq => by cases congrArg Hooks.coerce heq⟩
  | templateHook hook =>
    cases ht
    exact ⟨_, rfl, hR.hooks h (fun hooks => { hooks with template := some hook })
      fun _ heq => by cases congrArg Hooks.template heq⟩
  | optional =>
    cases ht
    exact ⟨_, rfl, hR.optional h⟩
  | strict => exact hR.ifObject h (hR.close h) ht
  | partialObject => exact hR.ifObject h (hR.loosen h) ht
  | _ =>
    cases ht
    exact ⟨_, rfl, hR.leaf h (hR.hasEdit trivial)⟩

theorem apply {s s' t : Schema} (h : R s s') {e e' : Edit Schema} (he : e.Related L R e')
    (ht : s.apply e = .ok t) : ∃ t', s'.apply e' = .ok t' ∧ R t t' := by
  cases he with
  | single hc =>
    cases ht
    exact ⟨_, rfl, hR.single h hc _⟩
  | prefixItems hcs =>
    cases ht
    exact ⟨_, rfl, hR.listed h hcs (by simp) (by simp)⟩
  | patternProperties hes => exact hR.patterns h hes ht
  | dependentSchemas hes =>
    cases ht
    exact ⟨_, rfl, hR.dependents h hes⟩
  | branches condition consequent alternative =>
    cases ht
    have hcondition := hR.single h condition .condition
    exact ⟨_, rfl, hR.optionalSingle (hR.optionalSingle hcondition consequent _) alternative _⟩
  | plain hplain => exact hR.applyPlain h hplain ht

end Congruence

end Schema

/-! ### Expressions -/

namespace Expr

open Schema

variable {P : Json → Prop} {L : Leaf → Prop} {depth : Nat} {R : Schema → Schema → Prop}
  (hR : Congruence P L depth R)

include hR in
theorem lookup_related {scope scope' : List (String × Schema)} (h : RelatedEntries R scope scope')
    (hdepth : depth ≤ scope.length) (name : String) :
    R ((scope.lookup name).getD (.placeholder scope.length))
      ((scope'.lookup name).getD (.placeholder scope'.length)) := by
  have hdefault := hR.placeholder scope.length hdepth
  have hrel := rel_lookup_of_forall₂ h name
  rw [← h.length_eq]
  generalize scope.lookup name = s? at hrel ⊢
  generalize scope'.lookup name = s'? at hrel ⊢
  cases hrel with
  | none => exact hdefault
  | some hs => exact hs

mutual

/-- What an expression makes under related names is related. -/
theorem build_related {P : Json → Prop} {L : Leaf → Prop} {depth : Nat} {R : Schema → Schema → Prop}
    (hR : Congruence P L depth R) {scope scope' : List (String × Schema)} (h : RelatedEntries R scope scope')
    (hdepth : depth ≤ scope.length) :
    ∀ (e : Expr), e.Ingredients P L → ∀ {s : Schema}, e.buildIn scope = .ok s →
      ∃ s', e.buildIn scope' = .ok s' ∧ R s s'
  | .any, _, _, hs => by
    cases hs
    exact ⟨_, rfl, hR.any⟩
  | .constant accepts, _, _, hs => by
    cases hs
    exact ⟨_, rfl, hR.constant accepts⟩
  | .typed t, _, _, hs => by
    cases hs
    exact ⟨_, rfl, hR.typed t⟩
  | .object shape properties, hd, _, hs => by
    obtain ⟨es, hes, hs⟩ := Except.bind_eq_ok_iff.1 hs
    cases hs
    obtain ⟨es', hes', hrel⟩ := buildEntries_related hR h hdepth properties hd hes
    exact ⟨_, Except.bind_eq_ok_iff.2 ⟨es', hes', rfl⟩, hR.objectOf shape hrel⟩
  | .array items, hd, _, hs => by
    obtain ⟨c, hc, hs⟩ := Except.bind_eq_ok_iff.1 hs
    cases hs
    obtain ⟨c', hc', hrel⟩ := build_related hR h hdepth items hd hc
    exact ⟨_, Except.bind_eq_ok_iff.2 ⟨c', hc', rfl⟩, hR.single (hR.typed .array) hrel _⟩
  | .anyOf parts, hd, _, hs => by
    obtain ⟨cs, hcs, hs⟩ := Except.bind_eq_ok_iff.1 hs
    cases hs
    obtain ⟨cs', hcs', hrel⟩ := buildList_related hR h hdepth parts hd hcs
    exact ⟨_, Except.bind_eq_ok_iff.2 ⟨cs', hcs', rfl⟩, hR.union hrel (.inl rfl)⟩
  | .oneOf parts, hd, _, hs => by
    obtain ⟨cs, hcs, hs⟩ := Except.bind_eq_ok_iff.1 hs
    cases hs
    obtain ⟨cs', hcs', hrel⟩ := buildList_related hR h hdepth parts hd hcs
    exact ⟨_, Except.bind_eq_ok_iff.2 ⟨cs', hcs', rfl⟩, hR.union hrel (.inr rfl)⟩
  | .allOf parts, hd, _, hs => by
    obtain ⟨cs, hcs, hs⟩ := Except.bind_eq_ok_iff.1 hs
    cases hs
    obtain ⟨cs', hcs', hrel⟩ := buildList_related hR h hdepth parts hd hcs
    exact ⟨_, Except.bind_eq_ok_iff.2 ⟨cs', hcs', rfl⟩, hR.listed hR.any hrel (by simp) (by simp)⟩
  | .negated part, hd, _, hs => by
    obtain ⟨c, hc, hs⟩ := Except.bind_eq_ok_iff.1 hs
    cases hs
    obtain ⟨c', hc', hrel⟩ := build_related hR h hdepth part hd hc
    exact ⟨_, Except.bind_eq_ok_iff.2 ⟨c', hc', rfl⟩, hR.single hR.any hrel _⟩
  | .literal value, _, _, hs => by
    cases hs
    exact ⟨_, rfl, hR.leaf hR.any (hR.hasEdit trivial)⟩
  | .stringConst text, _, _, hs => by
    cases hs
    have hconst := hR.leaf (hR.typed .string) (l := .const (.string text)) (hR.hasEdit trivial)
    have hdefault := hR.leaf hconst (l := .default (.string text)) (hR.hasEdit trivial)
    have hleaves := hR.leaf hdefault (l := .note "readOnly" (.bool true)) (hR.hasEdit trivial)
    exact ⟨_, rfl, hR.hooks hleaves
      (fun hooks => { hooks with coerce := some (Hooks.constant (.string text)) })
      fun _ heq => by cases congrArg Hooks.coerce heq⟩
  | .reference r, _, _, hs => by
    cases hs
    exact ⟨_, rfl, hR.leaf hR.any (hR.hasEdit trivial)⟩
  | .document d, hd, _, hs => ⟨_, hs, hR.document hd hs⟩
  | .recursive name body, hd, _, hs => by
    obtain ⟨b, hb, hs⟩ := Except.bind_eq_ok_iff.1 hs
    cases hs
    have hscope : RelatedEntries R ((name, .placeholder scope.length) :: scope)
        ((name, .placeholder scope'.length) :: scope') := by
      rw [← h.length_eq]
      exact .cons ⟨rfl, hR.placeholder _ hdepth⟩ h
    obtain ⟨b', hb', hrel⟩ := build_related hR hscope (Nat.le_succ_of_le hdepth) body hd hb
    refine ⟨_, Except.bind_eq_ok_iff.2 ⟨b', hb', rfl⟩, ?_⟩
    rw [← h.length_eq]
    exact hR.tie hrel _ hdepth
  | .this name, _, _, hs => by
    cases hs
    exact ⟨_, rfl, lookup_related hR h hdepth name⟩
  | .edited base edits, hd, _, hs => by
    obtain ⟨b, hb, hs⟩ := Except.bind_eq_ok_iff.1 hs
    obtain ⟨b', hb', hrel⟩ := build_related hR h hdepth base hd.1 hb
    obtain ⟨s', hs', hrel⟩ := buildEdits_related hR h hdepth edits hd.2 hrel hs
    exact ⟨s', Except.bind_eq_ok_iff.2 ⟨b', hb', hs'⟩, hrel⟩

theorem buildList_related {P : Json → Prop} {L : Leaf → Prop} {depth : Nat} {R : Schema → Schema → Prop}
    (hR : Congruence P L depth R) {scope scope' : List (String × Schema)} (h : RelatedEntries R scope scope')
    (hdepth : depth ≤ scope.length) :
    ∀ (es : List Expr), IngredientsOfList P L es → ∀ {cs : List Schema}, buildList scope es = .ok cs →
      ∃ cs', buildList scope' es = .ok cs' ∧ List.Forall₂ R cs cs'
  | [], _, _, hs => by
    cases hs
    exact ⟨[], rfl, .nil⟩
  | e :: es, hd, _, hs => by
    obtain ⟨c, hc, hs⟩ := Except.bind_eq_ok_iff.1 hs
    obtain ⟨cs, hcs, hs⟩ := Except.bind_eq_ok_iff.1 hs
    cases hs
    obtain ⟨c', hc', hrel⟩ := build_related hR h hdepth e hd.1 hc
    obtain ⟨cs', hcs', hrels⟩ := buildList_related hR h hdepth es hd.2 hcs
    refine ⟨c' :: cs', ?_, .cons hrel hrels⟩
    exact Except.bind_eq_ok_iff.2 ⟨c', hc', Except.bind_eq_ok_iff.2 ⟨cs', hcs', rfl⟩⟩

theorem buildEntries_related {P : Json → Prop} {L : Leaf → Prop} {depth : Nat} {R : Schema → Schema → Prop}
    (hR : Congruence P L depth R) {scope scope' : List (String × Schema)} (h : RelatedEntries R scope scope')
    (hdepth : depth ≤ scope.length) :
    ∀ (es : List (String × Expr)), IngredientsOfEntries P L es →
      ∀ {cs : List (String × Schema)}, buildEntries scope es = .ok cs →
      ∃ cs', buildEntries scope' es = .ok cs' ∧ RelatedEntries R cs cs'
  | [], _, _, hs => by
    cases hs
    exact ⟨[], rfl, .nil⟩
  | (key, e) :: es, hd, _, hs => by
    obtain ⟨c, hc, hs⟩ := Except.bind_eq_ok_iff.1 hs
    obtain ⟨cs, hcs, hs⟩ := Except.bind_eq_ok_iff.1 hs
    cases hs
    obtain ⟨c', hc', hrel⟩ := build_related hR h hdepth e hd.1 hc
    obtain ⟨cs', hcs', hrels⟩ := buildEntries_related hR h hdepth es hd.2 hcs
    refine ⟨(key, c') :: cs', ?_, .cons ⟨rfl, hrel⟩ hrels⟩
    exact Except.bind_eq_ok_iff.2 ⟨c', hc', Except.bind_eq_ok_iff.2 ⟨cs', hcs', rfl⟩⟩

theorem buildOption_related {P : Json → Prop} {L : Leaf → Prop} {depth : Nat} {R : Schema → Schema → Prop}
    (hR : Congruence P L depth R) {scope scope' : List (String × Schema)} (h : RelatedEntries R scope scope')
    (hdepth : depth ≤ scope.length) :
    ∀ (e? : Option Expr), IngredientsOfOption P L e? →
      ∀ {c? : Option Schema}, buildOption scope e? = .ok c? →
      ∃ c?', buildOption scope' e? = .ok c?' ∧ Option.Rel R c? c?'
  | none, _, _, hs => by
    cases hs
    exact ⟨none, rfl, .none⟩
  | some e, hd, _, hs => by
    obtain ⟨c, hc, hs⟩ := Except.bind_eq_ok_iff.1 hs
    cases hs
    obtain ⟨c', hc', hrel⟩ := build_related hR h hdepth e hd hc
    exact ⟨some c', Except.bind_eq_ok_iff.2 ⟨c', hc', rfl⟩, .some hrel⟩

theorem buildEdits_related {P : Json → Prop} {L : Leaf → Prop} {depth : Nat} {R : Schema → Schema → Prop}
    (hR : Congruence P L depth R) {scope scope' : List (String × Schema)} (h : RelatedEntries R scope scope')
    (hdepth : depth ≤ scope.length) :
    ∀ (edits : List (Edit Expr)), IngredientsOfEdits P L edits →
      ∀ {s s' t : Schema}, R s s' → buildEdits scope s edits = .ok t →
      ∃ t', buildEdits scope' s' edits = .ok t' ∧ R t t'
  | [], _, _, s', _, hrel, ht => by
    cases ht
    exact ⟨s', rfl, hrel⟩
  | edit :: edits, hd, _, _, _, hrel, ht => by
    obtain ⟨e, he, ht⟩ := Except.bind_eq_ok_iff.1 ht
    obtain ⟨u, hu, ht⟩ := Except.bind_eq_ok_iff.1 ht
    obtain ⟨e', he', hedit⟩ := buildEdit_related hR h hdepth edit hd.1 he
    obtain ⟨u', hu', hrel⟩ := hR.apply hrel hedit hu
    obtain ⟨t', ht', hrel⟩ := buildEdits_related hR h hdepth edits hd.2 hrel ht
    refine ⟨t', ?_, hrel⟩
    exact Except.bind_eq_ok_iff.2 ⟨e', he', Except.bind_eq_ok_iff.2 ⟨u', hu', ht'⟩⟩

theorem buildEdit_related {P : Json → Prop} {L : Leaf → Prop} {depth : Nat} {R : Schema → Schema → Prop}
    (hR : Congruence P L depth R) {scope scope' : List (String × Schema)} (h : RelatedEntries R scope scope')
    (hdepth : depth ≤ scope.length) :
    ∀ (edit : Edit Expr), IngredientsOfEdit P L edit → ∀ {e : Edit Schema},
      buildEdit scope edit = .ok e →
      ∃ e', buildEdit scope' edit = .ok e' ∧ e.Related L R e'
  | .single slot child, hd, _, he => by
    obtain ⟨c, hc, he⟩ := Except.bind_eq_ok_iff.1 he
    cases he
    obtain ⟨c', hc', hrel⟩ := build_related hR h hdepth child hd hc
    exact ⟨_, Except.bind_eq_ok_iff.2 ⟨c', hc', rfl⟩, .single hrel⟩
  | .prefixItems children, hd, _, he => by
    obtain ⟨cs, hcs, he⟩ := Except.bind_eq_ok_iff.1 he
    cases he
    obtain ⟨cs', hcs', hrel⟩ := buildList_related hR h hdepth children hd hcs
    exact ⟨_, Except.bind_eq_ok_iff.2 ⟨cs', hcs', rfl⟩, .prefixItems hrel⟩
  | .patternProperties entries, hd, _, he => by
    obtain ⟨cs, hcs, he⟩ := Except.bind_eq_ok_iff.1 he
    cases he
    obtain ⟨cs', hcs', hrel⟩ := buildEntries_related hR h hdepth entries hd hcs
    exact ⟨_, Except.bind_eq_ok_iff.2 ⟨cs', hcs', rfl⟩, .patternProperties hrel⟩
  | .dependentSchemas entries, hd, _, he => by
    obtain ⟨cs, hcs, he⟩ := Except.bind_eq_ok_iff.1 he
    cases he
    obtain ⟨cs', hcs', hrel⟩ := buildEntries_related hR h hdepth entries hd hcs
    exact ⟨_, Except.bind_eq_ok_iff.2 ⟨cs', hcs', rfl⟩, .dependentSchemas hrel⟩
  | .branches condition consequent alternative, hd, _, he => by
    obtain ⟨c, hc, he⟩ := Except.bind_eq_ok_iff.1 he
    obtain ⟨t, ht, he⟩ := Except.bind_eq_ok_iff.1 he
    obtain ⟨f, hf, he⟩ := Except.bind_eq_ok_iff.1 he
    cases he
    obtain ⟨c', hc', hcrel⟩ := build_related hR h hdepth condition hd.1 hc
    obtain ⟨t', ht', htrel⟩ := buildOption_related hR h hdepth consequent hd.2.1 ht
    obtain ⟨f', hf', hfrel⟩ := buildOption_related hR h hdepth alternative hd.2.2 hf
    refine ⟨_, ?_, .branches hcrel htrel hfrel⟩
    exact Except.bind_eq_ok_iff.2 ⟨c', hc', Except.bind_eq_ok_iff.2
      ⟨t', ht', Except.bind_eq_ok_iff.2 ⟨f', hf', rfl⟩⟩⟩
  | .keyword _, hd, _, he => by
    cases he
    exact ⟨_, rfl, .plain hd⟩
  | .const _, _, _, he | .enum _, _, _, he | .default _, _, _, he | .note _ _, _, _, he | .id _, _, _, he
  | .ref _, _, _, he | .count _ _, _, _, he | .bound _ _, _, _, he | .multipleOf _, _, _, he
  | .pattern _, _, _, he | .format _, _, _, he | .uniqueItems _, _, _, he | .dependentRequired _, _, _, he
  | .validateHook _, _, _, he | .coerceHook _, _, _, he | .templateHook _, _, _, he | .optional, _, _, he
  | .strict, _, _, he | .partialObject, _, _, he => by
    cases he
    exact ⟨_, rfl, .plain trivial⟩

end

mutual

/-- Nothing need be known of the documents and the keywords. -/
theorem ingredients_true : ∀ e : Expr, e.Ingredients (fun _ => True) fun _ => True
  | .document _ => trivial
  | .object _ properties => ingredientsOfEntries_true properties
  | .array items => ingredients_true items
  | .anyOf parts | .oneOf parts | .allOf parts => ingredientsOfList_true parts
  | .negated part => ingredients_true part
  | .recursive _ body => ingredients_true body
  | .edited base edits => ⟨ingredients_true base, ingredientsOfEdits_true edits⟩
  | .any | .constant _ | .typed _ | .literal _ | .stringConst _ | .reference _ | .this _ => trivial

theorem ingredientsOfList_true : ∀ es : List Expr, IngredientsOfList (fun _ => True) (fun _ => True) es
  | [] => trivial
  | e :: es => ⟨ingredients_true e, ingredientsOfList_true es⟩

theorem ingredientsOfEntries_true : ∀ es : List (String × Expr), IngredientsOfEntries (fun _ => True) (fun _ => True) es
  | [] => trivial
  | (_, e) :: es => ⟨ingredients_true e, ingredientsOfEntries_true es⟩

theorem ingredientsOfOption_true : ∀ e? : Option Expr, IngredientsOfOption (fun _ => True) (fun _ => True) e?
  | none => trivial
  | some e => ingredients_true e

theorem ingredientsOfEdits_true : ∀ edits : List (Edit Expr), IngredientsOfEdits (fun _ => True) (fun _ => True) edits
  | [] => trivial
  | edit :: edits => ⟨ingredientsOfEdit_true edit, ingredientsOfEdits_true edits⟩

theorem ingredientsOfEdit_true : ∀ edit : Edit Expr, IngredientsOfEdit (fun _ => True) (fun _ => True) edit
  | .single _ child => ingredients_true child
  | .prefixItems children => ingredientsOfList_true children
  | .patternProperties entries | .dependentSchemas entries => ingredientsOfEntries_true entries
  | .branches condition consequent alternative =>
    ⟨ingredients_true condition, ingredientsOfOption_true consequent, ingredientsOfOption_true alternative⟩
  | .keyword _ | .const _ | .enum _ | .default _ | .note _ _ | .id _ | .ref _ | .count _ _ | .bound _ _
  | .multipleOf _ | .pattern _ | .format _ | .uniqueItems _ | .dependentRequired _
  | .validateHook _ | .coerceHook _ | .templateHook _ | .optional | .strict | .partialObject =>
    trivial

end

end Expr

/-! ### Properties -/

namespace Schema

/-- A property that is kept by everything that a builder does, with documents and keywords that satisfy a
predicate each. -/
structure Preserved (P : Json → Prop) (L : Leaf → Prop) (Q : Schema → Prop) : Prop where
  any : Q .any
  constant : ∀ accepts, Q (.ofKind (.constant accepts))
  typed : ∀ t, Q (.typed t)
  placeholder : ∀ token, Q (.placeholder token)
  document : ∀ {d s}, P d → Schema.ofJson d = .ok s → Q s
  hasEdit : ∀ {l : Leaf}, l.HasEdit → L l
  leaf : ∀ {s}, Q s → ∀ {l : Leaf}, L l → Q (s.setLeaf l)
  single : ∀ {s c}, Q s → Q c → ∀ slot, Q (s.setSingle slot c)
  listed : ∀ {s cs}, Q s → (∀ c ∈ cs, Q c) → ∀ {slot : ListSlot}, slot ≠ .anyOf → slot ≠ .oneOf →
    Q (s.setListed slot cs)
  union : ∀ {cs}, (∀ c ∈ cs, Q c) → ∀ {slot : ListSlot}, slot = .anyOf ∨ slot = .oneOf →
    Q (composed .union slot cs)
  object : ∀ {es : List (String × Schema)}, (∀ e ∈ es, Q e.2) →
    Q (((Schema.typed .object).setKeyed .properties es).syncRequired root)
  dependents : ∀ {s} {es : List (String × Schema)}, Q s → (∀ e ∈ es, Q e.2) →
    Q (s.setKeyed .dependentSchemas es)
  patterns : ∀ {s es t}, Q s → (∀ e ∈ es, Q e.2) → s.setPatterns es = .ok t → Q t
  hooks : ∀ {s}, Q s → ∀ f : Hooks → Hooks, Q (s.modifyRoot fun n => { n with hooks := f n.hooks })
  optional : ∀ {s}, Q s → Q (s.modifyRoot fun n => { n with optional := true })
  close : ∀ {s}, Q s → s.kind? root = some .object → Q s.close
  loosen : ∀ {s}, Q s → s.kind? root = some .object → Q s.loosen
  tie : ∀ {s}, Q s → ∀ token, Q (s.tie token)

theorem forall₂_diagonal {Q : Schema → Prop} {cs cs' : List Schema}
    (h : List.Forall₂ (fun c c' => Q c ∧ c' = c) cs cs') : (∀ c ∈ cs, Q c) ∧ cs' = cs := by
  induction h with
  | nil => exact ⟨nofun, rfl⟩
  | cons hc _ ih => exact ⟨List.forall_mem_cons.2 ⟨hc.1, ih.1⟩, by rw [hc.2, ih.2]⟩

theorem relatedEntries_diagonal {Q : Schema → Prop} {es es' : List (String × Schema)}
    (h : RelatedEntries (fun c c' => Q c ∧ c' = c) es es') : (∀ e ∈ es, Q e.2) ∧ es' = es := by
  induction h with
  | nil => exact ⟨nofun, rfl⟩
  | cons he _ ih =>
    obtain ⟨hkey, hQ, hschema⟩ := he
    exact ⟨List.forall_mem_cons.2 ⟨hQ, ih.1⟩, by rw [ih.2, Prod.ext hkey hschema.symm]⟩

namespace Preserved

variable {P : Json → Prop} {L : Leaf → Prop} {Q : Schema → Prop} (hQ : Preserved P L Q)
include hQ

/-- A property of schemas is a relation between a schema and itself. -/
theorem congruence : Congruence P L 0 fun s s' => Q s ∧ s' = s where
  isObject := by rintro s _ ⟨_, rfl⟩ h; exact h
  any := ⟨hQ.any, rfl⟩
  constant := fun accepts => ⟨hQ.constant accepts, rfl⟩
  typed := fun t => ⟨hQ.typed t, rfl⟩
  placeholder := fun token _ => ⟨hQ.placeholder token, rfl⟩
  document := fun hd h => ⟨hQ.document hd h, rfl⟩
  hasEdit := hQ.hasEdit
  leaf := by rintro s _ ⟨h, rfl⟩ l hl; exact ⟨hQ.leaf h hl, rfl⟩
  single := by rintro s _ c _ ⟨h, rfl⟩ ⟨hc, rfl⟩ slot; exact ⟨hQ.single h hc slot, rfl⟩
  listed := by
    rintro s _ cs cs' ⟨h, rfl⟩ hcs slot hany hone
    obtain ⟨hcs, rfl⟩ := forall₂_diagonal hcs
    exact ⟨hQ.listed h hcs hany hone, rfl⟩
  union := by
    rintro cs cs' hcs slot hslot
    obtain ⟨hcs, rfl⟩ := forall₂_diagonal hcs
    exact ⟨hQ.union hcs hslot, rfl⟩
  object := by
    rintro es es' hes
    obtain ⟨hes, rfl⟩ := relatedEntries_diagonal hes
    exact ⟨hQ.object hes, rfl⟩
  dependents := by
    rintro s _ es es' ⟨h, rfl⟩ hes
    obtain ⟨hes, rfl⟩ := relatedEntries_diagonal hes
    exact ⟨hQ.dependents h hes, rfl⟩
  patterns := by
    rintro s _ es es' t ⟨h, rfl⟩ hes ht
    obtain ⟨hes, rfl⟩ := relatedEntries_diagonal hes
    exact ⟨t, ht, hQ.patterns h hes ht, rfl⟩
  hooks := by rintro s _ ⟨h, rfl⟩ f _; exact ⟨hQ.hooks h f, rfl⟩
  optional := by rintro s _ ⟨h, rfl⟩; exact ⟨hQ.optional h, rfl⟩
  close := by rintro s _ ⟨h, rfl⟩ hkind; exact ⟨hQ.close h hkind, rfl⟩
  loosen := by rintro s _ ⟨h, rfl⟩ hkind; exact ⟨hQ.loosen h hkind, rfl⟩
  tie := by rintro s _ ⟨h, rfl⟩ token _; exact ⟨hQ.tie h token, rfl⟩

theorem buildIn {scope : List (String × Schema)} (hscope : ∀ e ∈ scope, Q e.2) {e : Expr}
    (hd : e.Ingredients P L) {s : Schema} (h : e.buildIn scope = .ok s) : Q s := by
  have hdiagonal : RelatedEntries (fun s s' => Q s ∧ s' = s) scope scope :=
    List.forall₂_same.2 fun e he => ⟨rfl, hscope e he, rfl⟩
  obtain ⟨_, _, hs, _⟩ := Expr.build_related hQ.congruence hdiagonal (Nat.zero_le _) e hd h
  exact hs

end Preserved

/-! ### Orderly schemas -/

theorem closed_orderly : Loader.Closed Orderly Orderly where
  constant := fun _ => .ofNode rfl (by simp [Node.ofKind]) (by simp [Node.ofKind])
  start := fun _ hlink _ => .ofNode rfl hlink (by simp [Node.ofKind])
  leaf := Orderly.setLeaf
  single := Orderly.setSingle
  listed := fun h hcs slot => h.setListed hcs slot
  keyed := fun h hes slot => h.setKeyed hes slot
  patterns := fun h hes ht => h.setPatterns hes ht
  mark := Orderly.markOptional

theorem orderly_ofJson {d : Json} {s : Schema} (h : ofJson d = .ok s) : s.Orderly :=
  closed_orderly.load d [] s h

theorem preserved_orderly : Preserved (fun _ => True) (fun _ => True) Orderly where
  any := .ofNode rfl (by simp [Node.ofKind]) (by simp [Node.ofKind])
  constant := fun _ => .ofNode rfl (by simp [Node.ofKind]) (by simp [Node.ofKind])
  typed := fun t => .ofNode rfl (by cases t <;> simp [Node.typed, Kind.ofType])
    (by simp [Node.typed])
  placeholder := fun _ => .ofNode rfl (by simp [Node.ofKind]) (by simp [Node.ofKind])
  document := fun _ h => orderly_ofJson h
  hasEdit := fun _ => trivial
  leaf := fun h l _ => h.setLeaf l
  single := fun h hc slot => h.setSingle hc slot
  listed := fun h hcs slot _ _ => h.setListed hcs slot
  union := fun hcs slot _ => Orderly.setListed
    (.ofNode rfl (by simp [Node.ofKind]) (by simp [Node.ofKind])) hcs slot
  object := fun hes => (Orderly.setKeyed
    (.ofNode rfl (by simp [Node.typed, Kind.ofType]) (by simp [Node.typed])) hes _).syncRequired
  dependents := fun h hes => h.setKeyed hes _
  patterns := fun h hes ht => h.setPatterns hes ht
  hooks := fun h _ => h.modify_same root (fun _ => rfl) fun _ => rfl
  optional := fun h => h.modify_same root (fun _ => rfl) fun _ => rfl
  close := fun h _ => h.close
  loosen := fun h _ => h.loosen
  tie := Orderly.tie

theorem orderly_buildIn {scope : List (String × Schema)} (hscope : ∀ e ∈ scope, e.2.Orderly)
    {e : Expr} {s : Schema} (h : e.buildIn scope = .ok s) : s.Orderly :=
  preserved_orderly.buildIn hscope e.ingredients_true h

end Schema

end JsonSchema
