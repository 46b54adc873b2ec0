import JsonSchema.Proofs.Coercion.Shedding
import JsonSchema.Schema.Template

/-!
# What filling in makes of a value

A node puts its constant in the place of what is given, and else leaves a value that is given alone but for
the members that its properties add. A value that was filled in is therefore left alone by a second filling.
-/

namespace JsonSchema

/-! ## Members -/

namespace Template

variable {fill : NodeId → Option Json → Option Json} {base : Members} {es : List (String × NodeId)}

/-- What one property adds. -/
def put (fill : NodeId → Option Json → Option Json) (base out : Members) (e : String × NodeId) :
    Members :=
  match fill e.2 (base.get? e.1) with
  | some filled => out.insert e.1 filled
  | none => out

/-- No property is passed over where optional ones are wanted, or where there is a value to add to. -/
theorem fillMembers_eq_foldl (s : Schema) {options : TemplateOptions} {value : Option Json}
    (hwanted : options.withOptional = true ∨ value.isSome = true) :
    fillMembers s options value base fill es = es.foldl (put fill base) base := by
  unfold fillMembers
  refine List.foldl_ext _ _ _ fun out e _ => ?_
  have hput : (s.isOptional e.2 && !options.withOptional && (base.get? e.1).isNone && value.isNone) =
      false := by
    rcases hwanted with hwanted | hvalue
    · simp only [hwanted, Bool.not_true, Bool.and_false, Bool.false_and]
    · simp only [Option.isNone_eq_false_iff.2 hvalue, Bool.and_false]
  exact if_neg (ne_true_of_eq_false hput)

theorem get?_foldl_put (hnodup : (es.map (·.1)).Nodup) (out : Members) (key : String) :
    (es.foldl (put fill base) out).get? key =
      match es.lookup key with
      | some child => (fill child (base.get? key)).or (out.get? key)
      | none => out.get? key := by
  induction es generalizing out with
  | nil => rfl
  | cons e es ih =>
    obtain ⟨key', child⟩ := e
    obtain ⟨hnew, hnodup⟩ := List.nodup_cons.1 hnodup
    rw [List.foldl_cons, ih hnodup, List.lookup_cons]
    by_cases hkey : key = key'
    · subst hkey
      have hnone : es.lookup key = none := by
        refine List.lookup_eq_none_iff.2 fun e he => ?_
        have hmem : e.1 ∈ es.map (·.1) := List.mem_map_of_mem he
        have hne : key ≠ e.1 := fun heq => hnew (heq ▸ hmem)
        simpa using hne
      rw [hnone, beq_self_eq_true]
      unfold put
      dsimp only
      cases fill child (base.get? key) with
      | some w => exact Members.get?_insert_self ..
      | none => rfl
    · have hout : (put fill base out (key', child)).get? key = out.get? key := by
        unfold put
        split
        · exact Members.get?_insert_of_ne hkey _ _
        · rfl
      rw [beq_false_of_ne hkey, hout]

theorem nodup_keys_foldl_put {out : Members} (h : out.keys.Nodup) :
    (es.foldl (put fill base) out).keys.Nodup := by
  refine List.foldlRecOn (motive := fun out : Members => out.keys.Nodup) es _ h fun out hout e _ => ?_
  unfold put
  split
  · exact Members.nodup_keys_insert hout _ _
  · exact hout

theorem foldl_put_eq_self
    (h : ∀ e ∈ es, ∀ w, fill e.2 (base.get? e.1) = some w → base.get? e.1 = some w) :
    es.foldl (put fill base) base = base := by
  refine List.foldlRecOn (motive := fun out => out = base) es _ rfl ?_
  rintro _ rfl e he
  unfold put
  split
  · next w hw => exact Members.insert_eq_self (h e he w hw)
  · rfl

end Template

/-! ## Nodes -/

/-- A value without parts. -/
def Json.IsEmpty : Json → Prop
  | .object ms => ms = []
  | .array items => items = []
  | _ => True

theorem Template.isEmpty_of_blank? {kind : Kind} {v : Json} (h : blank? kind = some v) : v.IsEmpty := by
  cases kind <;> simp only [blank?, Option.some.injEq, reduceCtorEq] at h <;> subst h <;> simp [Json.IsEmpty]

namespace Schema

/-- The constant that takes the place of whatever is given. -/
def constAt? (s : Schema) (id? : Option NodeId) : Option Json := (id?.bind s.node?).bind (·.const?)

/-- What is taken where nothing is given. -/
def offerAt? (s : Schema) (options : TemplateOptions) (id? : Option NodeId) : Option Json :=
  (id?.bind s.node?).bind (·.chosen? options none)

/-- The properties that add members to an object. -/
def fieldsAt (s : Schema) (id? : Option NodeId) : List (String × NodeId) :=
  match id?.bind s.node? with
  | some n => if n.kind = .object then n.properties else []
  | none => []

/-- What stands at a place after filling in, where no schema may be known for the place. -/
def complete (s : Schema) (options : TemplateOptions) (nested : Bool) (id? : Option NodeId)
    (given : Option Json) : Option Json :=
  match id? with
  | some id => (s.templateFrom options nested id given).or given
  | none => given

def completeMembers (s : Schema) (options : TemplateOptions) (id? : Option NodeId) (base : Members) :
    Members :=
  (s.fieldsAt id?).foldl (Template.put (s.templateFrom options true) base) base

/-- A value with the members that the properties add. -/
def extended (s : Schema) (options : TemplateOptions) (id? : Option NodeId) (v : Json) : Json :=
  match v with
  | .object base => .object (s.completeMembers options id? base)
  | v => v

/-- The node has no hook, stands for itself, and so do its properties; what it offers are values as they
are read from texts. -/
inductive Fillable (s : Schema) : NodeId → Prop where
  | intro {id : NodeId} {n : Node} (node : s.node? id = some n) (hooks : n.hooks = {})
    (link : ∀ target, n.kind ≠ .link target) (hole : ∀ token, n.kind ≠ .hole token)
    (constant : ∀ accepts, n.kind = .constant accepts → n.keywords = [])
    (nodup : n.declaredKeys.Nodup)
    (distinct : ∀ options v, n.chosen? options none = some v → v.keysDistinct = true)
    (below : ∀ e ∈ n.properties, s.Below id e.2) (children : ∀ e ∈ n.properties, Fillable s e.2) :
    Fillable s id

theorem fieldsAt_of_object {s : Schema} {id : NodeId} {n : Node} (hn : s.node? id = some n)
    (hkind : n.kind = .object) : s.fieldsAt (some id) = n.properties := by
  simp [fieldsAt, hn, hkind]

theorem fieldsAt_of_ne_object {s : Schema} {id : NodeId} {n : Node} (hn : s.node? id = some n)
    (hkind : n.kind ≠ .object) : s.fieldsAt (some id) = [] := by
  simp [fieldsAt, hn, hkind]

section Node

variable {s : Schema} {options : TemplateOptions} {id : NodeId} {n : Node} (hn : s.node? id = some n)
  (hhooks : n.hooks = {}) {given : Option Json}
  (hwanted : options.withOptional = true ∨ (n.chosen? options given).isSome = true)
include hn hhooks hwanted

omit hn hhooks in
theorem not_passed_over : ((n.chosen? options given).isNone && n.optional && !options.withOptional) = false := by
  rcases hwanted with hwanted | hchosen
  · rw [hwanted, Bool.not_true, Bool.and_false]
  · rw [Option.isNone_eq_false_iff.2 hchosen, Bool.false_and, Bool.false_and]

theorem templateFrom_object (hkind : n.kind = .object) (hbelow : ∀ e ∈ n.properties, s.Below id e.2)
    (nested : Bool) :
    s.templateFrom options nested id given =
      match n.chosen? options given with
      | some (.object base) =>
        Template.fillObject.finish options nested (s.completeMembers options (some id) base)
      | some v => some v
      | none => Template.fillObject.finish options nested (s.completeMembers options (some id) []) := by
  have hfill : ∀ base, Template.fillMembers s options (n.chosen? options given) base
      (fun child current =>
        if _ : s.Below id child then s.templateFrom options true child current else current)
      n.properties = s.completeMembers options (some id) base := by
    intro base
    rw [Template.fillMembers_eq_foldl s hwanted, completeMembers, fieldsAt_of_object hn hkind]
    refine List.foldl_ext _ _ _ fun out e he => ?_
    simp only [Template.put, dif_pos (hbelow e he)]
  have hreplaced : n.replaced? options (n.chosen? options given) = n.chosen? options given := by
    rw [Node.replaced?, hhooks]
  rw [templateFrom, hn]
  dsimp only
  rw [hkind]
  dsimp only
  rw [if_neg (ne_true_of_eq_false (not_passed_over hwanted)), hreplaced]
  cases hchosen : n.chosen? options given with
  | none => exact congrArg (Template.fillObject.finish options nested) (hchosen ▸ hfill [])
  | some v =>
    cases v with
    | object base => exact congrArg (Template.fillObject.finish options nested) (hchosen ▸ hfill base)
    | _ => rfl

theorem templateFrom_other (hobject : n.kind ≠ .object) (hlink : ∀ target, n.kind ≠ .link target)
    (hhole : ∀ token, n.kind ≠ .hole token)
    (hconstant : ∀ accepts, n.kind = .constant accepts → n.keywords = []) (nested : Bool) :
    s.templateFrom options nested id given = (n.chosen? options given).or (Template.blank? n.kind) := by
  rw [templateFrom, hn]
  dsimp only
  cases hkind : n.kind with
  | object => exact absurd hkind hobject
  | link target => exact absurd hkind (hlink target)
  | hole token => exact absurd hkind (hhole token)
  | constant accepts =>
    simp [Node.chosen?, Node.const?, Node.default?, Node.enum?, Node.find?, hconstant accepts hkind,
      Template.blank?]
  | _ =>
    dsimp only
    rw [if_neg (ne_true_of_eq_false (not_passed_over hwanted)), Node.replaced?, hhooks]

end Node

/-! ## What stands at a place -/

section Place

variable {s : Schema} {options : TemplateOptions} {id? : Option NodeId}

theorem complete_at (nested : Bool) (id : NodeId) (given : Option Json) :
    s.complete options nested (some id) given = (s.templateFrom options nested id given).or given := rfl

theorem complete_some (s : Schema) (options : TemplateOptions) (nested : Bool) (id? : Option NodeId)
    (v : Json) : ∃ w, s.complete options nested id? (some v) = some w := by
  cases id? with
  | none => exact ⟨v, rfl⟩
  | some id =>
    rw [complete_at]
    cases s.templateFrom options nested id (some v) with
    | some w => exact ⟨w, rfl⟩
    | none => exact ⟨v, rfl⟩

theorem given_of_complete_none {nested : Bool} {given : Option Json}
    (h : s.complete options nested id? given = none) : given = none := by
  cases given with
  | none => rfl
  | some v =>
    obtain ⟨w, hw⟩ := complete_some s options nested id? v
    rw [hw] at h
    cases h

theorem extended_of_fields {v : Json} (h : s.fieldsAt id? = []) : s.extended options id? v = v := by
  cases v with
  | object base => simp [extended, completeMembers, h]
  | _ => rfl

theorem completeMembers_eq_nil {base : Members} (h : s.completeMembers options id? base = []) :
    base = [] := by
  by_contra hne
  refine List.foldlRecOn (motive := fun out => out ≠ []) (s.fieldsAt id?)
    (Template.put (s.templateFrom options true) base) hne (fun out hout e _ => ?_) h
  unfold Template.put
  split
  · next w _ =>
    intro hnil
    have hget := Members.get?_insert_self out e.1 w
    rw [hnil] at hget
    cases hget
  · exact hout

end Place

/-! ## Places where nodes are filled in -/

theorem fillable_induction {s : Schema} {motive : Option NodeId → Prop}
    (step : ∀ id?, (∀ id ∈ id?, s.Fillable id) → (∀ e ∈ s.fieldsAt id?, motive (some e.2)) → motive id?)
    {id? : Option NodeId} (hid : ∀ id ∈ id?, s.Fillable id) : motive id? := by
  cases id? with
  | none => exact step none hid nofun
  | some id =>
    have hfillable := hid id rfl
    clear hid
    induction hfillable with
    | @intro id n node hooks link hole constant nodup distinct below children ih =>
      refine step (some id) ?_ fun e he => ?_
      · rintro _ ⟨⟩
        exact .intro node hooks link hole constant nodup distinct below children
      · simp only [fieldsAt, Option.bind_some, node] at he
        split at he
        · exact ih e he
        · exact absurd he List.not_mem_nil

section Fillable

variable {s : Schema} {options : TemplateOptions} (hwanted : options.withOptional = true)
  {id? : Option NodeId} (hid : ∀ id ∈ id?, s.Fillable id)
include hwanted hid

omit hwanted in
theorem fillable_fieldsAt : ((s.fieldsAt id?).map (·.1)).Nodup ∧
    ∀ e ∈ s.fieldsAt id?, s.Fillable e.2 := by
  cases id? with
  | none => exact ⟨.nil, nofun⟩
  | some id =>
    obtain @⟨_, n, node, _, _, _, _, nodup, _, _, children⟩ := hid id rfl
    by_cases hkind : n.kind = .object
    · rw [fieldsAt_of_object node hkind]
      exact ⟨nodup, children⟩
    · rw [fieldsAt_of_ne_object node hkind]
      exact ⟨.nil, nofun⟩

omit hwanted in
theorem fillable_lookup (key : String) :
    ∀ child ∈ (s.fieldsAt id?).lookup key, s.Fillable child := by
  intro child hchild
  exact (fillable_fieldsAt hid).2 _ (mem_of_lookup hchild)

omit hwanted in
theorem get?_completeMembers (options : TemplateOptions) (base : Members) (key : String) :
    (s.completeMembers options id? base).get? key =
      s.complete options true ((s.fieldsAt id?).lookup key) (base.get? key) := by
  rw [completeMembers, Template.get?_foldl_put (fillable_fieldsAt hid).1]
  cases (s.fieldsAt id?).lookup key <;> rfl

omit hwanted in
theorem get?_completeMembers_of_mem (options : TemplateOptions) (base : Members) {e : String × NodeId}
    (he : e ∈ s.fieldsAt id?) :
    (s.completeMembers options id? base).get? e.1 =
      s.complete options true (some e.2) (base.get? e.1) := by
  rw [get?_completeMembers hid, lookup_eq_some_of_mem (fillable_fieldsAt hid).1 he]

omit hwanted in
/-- A value that no constant takes the place of is only added to. -/
theorem complete_of_given {v : Json} (hconst : s.constAt? id? = none ∨ s.constAt? id? = some v)
    (nested : Bool) :
    s.complete options nested id? (some v) = some (s.extended options id? v) := by
  cases id? with
  | none => exact congrArg some (extended_of_fields rfl).symm
  | some id =>
    obtain @⟨_, n, node, hooks, link, hole, constant, _, _, below, _⟩ := hid id rfl
    have hchosen : n.chosen? options (some v) = some v := by
      simp only [constAt?, Option.bind_some, node] at hconst
      unfold Node.chosen?
      rcases hconst with hconst | hconst <;> rw [hconst] <;> rfl
    have hstarted : (n.chosen? options (some v)).isSome = true := by rw [hchosen]; rfl
    rw [complete_at]
    by_cases hkind : n.kind = .object
    · rw [templateFrom_object node hooks (.inr hstarted) hkind below, hchosen]
      cases v with
      | object base =>
        unfold extended Template.fillObject.finish
        dsimp only
        split
        · next hdropped =>
          simp only [Bool.and_eq_true, List.isEmpty_iff] at hdropped
          rw [hdropped.1.1, completeMembers_eq_nil hdropped.1.1]
          rfl
        · rfl
      | _ => rfl
    · rw [templateFrom_other node hooks (.inr hstarted) hkind link hole constant, hchosen,
        extended_of_fields (fieldsAt_of_ne_object node hkind)]
      rfl

omit hwanted in
/-- A constant takes the place of whatever is given, unless it is an empty object that is left out. -/
theorem complete_of_const {v : Json} (hconst : s.constAt? id? = some v) (nested : Bool) :
    (∀ given, s.complete options nested id? given = some (s.extended options id? v)) ∨
      ∀ given, s.complete options nested id? given = given := by
  cases id? with
  | none => cases hconst
  | some id =>
    obtain @⟨_, n, node, hooks, link, hole, constant, _, _, below, _⟩ := hid id rfl
    have hchosen : ∀ given, n.chosen? options given = some v := by
      intro given
      simp only [constAt?, Option.bind_some, node] at hconst
      unfold Node.chosen?
      rw [hconst]
      rfl
    have hstarted : ∀ given, (n.chosen? options given).isSome = true := by
      intro given
      rw [hchosen]
      rfl
    simp only [complete_at]
    by_cases hkind : n.kind = .object
    · simp only [templateFrom_object node hooks (.inr (hstarted _)) hkind below, hchosen]
      cases v with
      | object base =>
        unfold extended Template.fillObject.finish
        dsimp only
        split
        -- The empty object is dropped, which leaves whatever was given.
        · exact .inr fun given => rfl
        · exact .inl fun given => rfl
      | _ => exact .inl fun given => rfl
    · simp only [templateFrom_other node hooks (.inr (hstarted _)) hkind link hole constant, hchosen,
        extended_of_fields (fieldsAt_of_ne_object node hkind)]
      exact .inl fun given => rfl

/-- Where nothing is given, the members are added to what is offered, or to nothing. -/
theorem complete_of_none (hconst : s.constAt? id? = none) {nested : Bool} {w : Json}
    (h : s.complete options nested id? none = some w) :
    ∃ start, w = s.extended options id? start ∧
      (s.offerAt? options id? = some start ∨ s.offerAt? options id? = none ∧ start.IsEmpty) := by
  cases id? with
  | none => cases h
  | some id =>
    obtain @⟨_, n, node, hooks, link, hole, constant, _, _, below, _⟩ := hid id rfl
    have hoffer : s.offerAt? options (some id) = n.chosen? options none := by
      simp only [offerAt?, Option.bind_some, node]
    have hfinish : ∀ out, Template.fillObject.finish options nested out = some w → w = .object out := by
      intro out hout
      unfold Template.fillObject.finish at hout
      split at hout
      · cases hout
      · exact (Option.some.inj hout).symm
    rw [hoffer]
    rw [complete_at, Option.or_none] at h
    by_cases hkind : n.kind = .object
    · rw [templateFrom_object node hooks (.inl hwanted) hkind below] at h
      cases hchosen : n.chosen? options none with
      | none =>
        rw [hchosen] at h
        exact ⟨.object [], hfinish _ h, .inr ⟨rfl, rfl⟩⟩
      | some start =>
        rw [hchosen] at h
        refine ⟨start, ?_, .inl rfl⟩
        cases start with
        | object base => exact hfinish _ h
        | _ => exact (Option.some.inj h).symm
    · rw [templateFrom_other node hooks (.inl hwanted) hkind link hole constant] at h
      have hfields : s.extended options (some id) w = w :=
        extended_of_fields (fieldsAt_of_ne_object node hkind)
      refine ⟨w, hfields.symm, ?_⟩
      rcases Option.or_eq_some_iff.1 h with hchosen | ⟨hnone, hblank⟩
      · exact .inl hchosen
      · exact .inr ⟨hnone, Template.isEmpty_of_blank? hblank⟩

/-- Where nothing is put in, at most an empty object is offered, and no property adds a member to it. -/
theorem nothing_offered {nested : Bool} (h : s.complete options nested id? none = none) :
    (s.offerAt? options id?).getD (.object []) = .object [] ∧ s.completeMembers options id? [] = [] := by
  cases id? with
  | none => exact ⟨rfl, rfl⟩
  | some id =>
    obtain @⟨_, n, node, hooks, link, hole, constant, _, _, below, _⟩ := hid id rfl
    have hoffer : s.offerAt? options (some id) = n.chosen? options none := by
      simp only [offerAt?, Option.bind_some, node]
    rw [hoffer]
    rw [complete_at, Option.or_none] at h
    by_cases hkind : n.kind = .object
    · rw [templateFrom_object node hooks (.inl hwanted) hkind below] at h
      have hfinish : ∀ out, Template.fillObject.finish options nested out = none → out = [] := by
        intro out hout
        unfold Template.fillObject.finish at hout
        split at hout
        · next hdropped =>
          simp only [Bool.and_eq_true, List.isEmpty_iff] at hdropped
          exact hdropped.1.1
        · cases hout
      split at h
      · next base hchosen =>
        obtain rfl : base = [] := completeMembers_eq_nil (hfinish _ h)
        exact ⟨by rw [hchosen, Option.getD_some], hfinish _ h⟩
      · cases h
      · next hchosen => exact ⟨by rw [hchosen, Option.getD_none], hfinish _ h⟩
    · rw [templateFrom_other node hooks (.inl hwanted) hkind link hole constant] at h
      have hmembers : s.completeMembers options (some id) [] = [] := by
        rw [completeMembers, fieldsAt_of_ne_object node hkind, List.foldl_nil]
      exact ⟨by rw [(Option.or_eq_none_iff.1 h).1, Option.getD_none], hmembers⟩

/-! ### Where a value comes from -/

/-- A value that stands at a place is the same whatever is given there, or is what is given, or is what is
given or offered, with members added. -/
theorem complete_cases {nested : Bool} {given : Option Json} {w : Json}
    (h : s.complete options nested id? given = some w) :
    (∀ given, s.complete options nested id? given = some w) ∨
      (∀ given, s.complete options nested id? given = given) ∨
      s.constAt? id? = none ∧ ∃ start, w = s.extended options id? start ∧
        (given = some start ∨ given = none ∧
          (s.offerAt? options id? = some start ∨ s.offerAt? options id? = none ∧ start.IsEmpty)) := by
  cases hconst : s.constAt? id? with
  | some v =>
    refine (complete_of_const hid hconst nested).imp (fun hfixed => ?_) .inl
    rw [hfixed] at h
    cases h
    exact hfixed
  | none =>
    refine .inr (.inr ⟨rfl, ?_⟩)
    cases given with
    | some v =>
      rw [complete_of_given hid (.inl hconst)] at h
      cases h
      exact ⟨v, rfl, .inl rfl⟩
    | none =>
      obtain ⟨start, hw, hstart⟩ := complete_of_none hwanted hid hconst h
      exact ⟨start, hw, .inr ⟨rfl, hstart⟩⟩

omit hwanted in
theorem extended_extended (hchildren : ∀ e ∈ s.fieldsAt id?, ∀ given w,
      s.complete options true (some e.2) given = some w →
      s.complete options true (some e.2) (some w) = some w) (v : Json) :
    s.extended options id? (s.extended options id? v) = s.extended options id? v := by
  cases v with
  | object base =>
    refine congrArg Json.object (Template.foldl_put_eq_self fun e he filled hfilled => ?_)
    have hget := get?_completeMembers_of_mem hid options base he
    cases hw : s.complete options true (some e.2) (Members.get? base e.1) with
    | none =>
      rw [hget, hw] at hfilled
      rw [given_of_complete_none hw, complete_at, Option.or_none, hfilled] at hw
      cases hw
    | some w =>
      rw [hget, hw] at hfilled ⊢
      have hagain := hchildren e he _ _ hw
      rw [complete_at, hfilled] at hagain
      exact hagain.symm
  | _ => rfl

end Fillable

theorem complete_complete {s : Schema} {options : TemplateOptions} (hwanted : options.withOptional = true)
    {id? : Option NodeId} (hid : ∀ id ∈ id?, s.Fillable id) {nested : Bool} {given : Option Json}
    {w : Json} (h : s.complete options nested id? given = some w) :
    s.complete options nested id? (some w) = some w := by
  refine fillable_induction (motive := fun id? => ∀ nested given w,
    s.complete options nested id? given = some w → s.complete options nested id? (some w) = some w)
    ?_ hid nested given w h
  intro id? hid ih nested given w h
  rcases complete_cases hwanted hid h with hfixed | hkept | ⟨hconst, start, rfl, -⟩
  · exact hfixed _
  · exact hkept _
  · rw [complete_of_given hid (.inl hconst),
      extended_extended hid fun e he => ih e he true]

end Schema

end JsonSchema
