import JsonSchema.Proofs.Comparison.Twins
import JsonSchema.Proofs.Parsing.Completion
import JsonSchema.Proofs.Reloading.Templates
import JsonSchema.Proofs.Writing.Reload
import JsonSchema.Schema.Parse

/-!
# How a loaded schema prepares values

A loaded schema and the copy that is read back from its document differ in the sign of zeros at most. They
have the same places and convert and fill in alike, so that it makes no difference which prepares a value:
it is coerced and completed by the schema itself.
-/

namespace JsonSchema

/-! ## Copies -/

theorem Node.Same.children_eq {n n' : Node} (h : n.Same n') : n.children = n'.children := by
  have hkeywords := h.keywords
  unfold children
  generalize n.keywords = ks at hkeywords
  generalize n'.keywords = ks' at hkeywords
  induction hkeywords with
  | nil => rfl
  | cons hk _ ih =>
    rw [List.flatMap_cons, List.flatMap_cons, ih]
    cases hk <;> rfl

theorem Node.Same.id?_eq {n n' : Node} (h : n.Same n') : n.id? = n'.id? := by
  refine h.find?_eq fun l l' hl => ?_
  cases hl <;> rfl

namespace Schema

namespace Same

variable {s t : Schema} (h : s.Same t)
include h

theorem children_eq (id : NodeId) : s.children id = t.children id := by
  have hrel := h.rel_node? id
  unfold children
  generalize s.node? id = n? at hrel ⊢
  generalize t.node? id = n?' at hrel ⊢
  cases hrel with
  | none => rfl
  | some hn => rw [Option.map_some, Option.map_some, hn.children_eq]

theorem entriesFrom_eq (path : Path) (id : NodeId) : s.entriesFrom path id = t.entriesFrom path id := by
  induction hsize : s.size - id using Nat.strongRecOn generalizing path id with | ind size ih
  subst hsize
  rw [entriesFrom, entriesFrom, h.children_eq]
  refine congrArg (List.cons _) (List.flatMap_congr fun e _ => ?_)
  exact dite_congr (propext h.below_iff) (fun hbelow => ih _ (h.below_iff.2 hbelow).size_sub_lt _ _ rfl)
    fun _ => rfl

theorem declares_eq (id : NodeId) : (s.node? id).bind (·.id?) = (t.node? id).bind (·.id?) := by
  have hrel := h.rel_node? id
  generalize s.node? id = n? at hrel ⊢
  generalize t.node? id = n?' at hrel ⊢
  cases hrel with
  | none => rfl
  | some hn => rw [Option.bind_some, Option.bind_some, hn.id?_eq]

theorem index_eq : Index.ofSchema s = Index.ofSchema t := by
  simp only [Index.ofSchema, h.entriesFrom_eq, h.declares_eq]

theorem twin_lenientContext (shared : FormatRegistry) :
    (s.lenientContext shared).Twin (t.lenientContext shared) := ⟨h, h.index_eq, rfl, rfl⟩

theorem coerce_eq (shared : FormatRegistry) (v : Json) (options : CoerceOptions) :
    s.coerce shared v options = t.coerce shared v options :=
  (h.twin_lenientContext shared).coerce_eq options 0 root v

theorem templateFrom_eq {options : TemplateOptions} (hwanted : options.withOptional = true)
    (nested : Bool) (id : NodeId) (given : Option Json) :
    s.templateFrom options nested id given = t.templateFrom options nested id given := by
  induction hsize : s.size - id using Nat.strongRecOn generalizing nested id given with | ind size ih
  subst hsize
  have hrel := h.rel_node? id
  rw [templateFrom, templateFrom]
  generalize s.node? id = n? at hrel ⊢
  generalize t.node? id = n?' at hrel ⊢
  cases hrel with
  | none => rfl
  | @some n n' hn =>
    have hproperties : List.Forall₂ (fun e e' => e.1 = e'.1 ∧ e.2 = e'.2) n.properties n'.properties :=
      hn.properties_eq ▸ List.forall₂_same.2 fun _ _ => ⟨rfl, rfl⟩
    have hfill : ∀ value, Template.fillObject s options nested n
        (fun child current =>
          if _ : s.Below id child then s.templateFrom options true child current else current) value =
      Template.fillObject t options nested n'
        (fun child current =>
          if _ : t.Below id child then t.templateFrom options true child current else current) value := by
      refine Template.fillObject_eq hwanted ?_ hproperties nested
      rintro child _ rfl current
      exact dite_congr (propext h.below_iff)
        (fun hbelow => ih _ (h.below_iff.2 hbelow).size_sub_lt true child current rfl) fun _ => rfl
    have hreplaced : ∀ value, n.replaced? options value = n'.replaced? options value := by
      intro value
      rw [Node.replaced?, Node.replaced?, hn.hooks]
    dsimp only
    rw [← hn.kind, hwanted, Node.chosen?_eq_of_alike hn.alike.keywords]
    simp only [Bool.not_true, Bool.and_false, hreplaced, hfill]

end Same

section Loaded

variable {d : Json} {s : Schema} (hd : d.keysDistinct = true) (h : ofJson d = .ok s)
  (shared : FormatRegistry) (v : Json) (options : ParseOptions)
include hd h

theorem prepare_clone :
    s.prepare shared v options = s.prepare shared v { options with clone := false } := by
  obtain ⟨t, ht, hsame⟩ := Loader.reloads_of_load d [] s hd h []
  have hload : ofJson s.toJson = .ok t := by
    rw [toJson_eq_rewritten hd h]
    exact ht
  have htemplate : ∀ seed extended,
      t.template seed { withOptional := true, withExtendedOptional := extended } =
        s.template seed { withOptional := true, withExtendedOptional := extended } := fun seed extended =>
    (hsame.templateFrom_eq rfl false root seed).symm
  unfold prepare working
  split
  · simp only [hload, Except.ok_bind, ← hsame.coerce_eq shared, htemplate, Bool.false_eq_true, if_false]
  · rfl

end Loaded

end Schema

/-! ## Steps -/

def ParseOptions.forCoercion (options : ParseOptions) : CoerceOptions where
  dropUnknown := options.coerceDropUnknown

def ParseOptions.forTemplate (options : ParseOptions) : TemplateOptions where
  withOptional := true
  withExtendedOptional := options.withExtendedDefaults

namespace Schema

/-- The value that is filled in: what is given, coerced if that is wanted. -/
def supplied (s : Schema) (shared : FormatRegistry) (v : Json) (options : ParseOptions) :
    Except SchemaError Json :=
  if options.coerce then s.coerce shared v options.forCoercion else .ok v

def completed (s : Schema) (options : ParseOptions) (v : Json) : Json :=
  if options.withDefaults then
    (s.complete options.forTemplate false (some root) (some v)).getD v
  else v

/-- The value if it is valid. -/
def admitted (s : Schema) (shared : FormatRegistry) (v : Json) : Except ParseError Json := do
  let verdict ← (s.validate shared v { shortCircuit := true, ignoreUnsupported := true }).mapError .schema
  if verdict.valid then return v else throw (.invalid v verdict.failures)

section Steps

variable {s : Schema} {options : ParseOptions}

theorem supplied_of_coerce (h : options.coerce = true) (shared : FormatRegistry) (v : Json) :
    s.supplied shared v options = s.coerce shared v options.forCoercion := if_pos h

theorem supplied_of_not_coerce (h : options.coerce = false) (shared : FormatRegistry) (v : Json) :
    s.supplied shared v options = .ok v := if_neg (ne_true_of_eq_false h)

theorem complete_root (h : options.withDefaults = true) (v : Json) :
    s.complete options.forTemplate false (some root) (some v) = some (s.completed options v) := by
  obtain ⟨w, hw⟩ := complete_some s options.forTemplate false (some root) v
  rw [completed, if_pos h, hw, Option.getD_some]

theorem completed_of_not_filled (h : options.withDefaults = false) (v : Json) :
    s.completed options v = v := if_neg (ne_true_of_eq_false h)

end Steps

theorem admitted_eq_ok_iff {s : Schema} {shared : FormatRegistry} {v w : Json} :
    s.admitted shared v = .ok w ↔ v = w ∧ ∃ r,
      s.validate shared v { shortCircuit := true, ignoreUnsupported := true } = .ok r ∧ r.valid = true := by
  unfold admitted
  cases s.validate shared v { shortCircuit := true, ignoreUnsupported := true } with
  | error e => exact ⟨nofun, fun ⟨_, _, hr, _⟩ => nomatch hr⟩
  | ok r =>
    cases hvalid : r.valid with
    | false =>
      simp only [Except.mapError, Except.ok_bind, hvalid, Bool.false_eq_true, if_false]
      refine ⟨nofun, fun ⟨_, r', hr, hvalid'⟩ => ?_⟩
      cases hr
      rw [hvalid] at hvalid'
      cases hvalid'
    | true =>
      simp only [Except.mapError, Except.ok_bind, hvalid, if_true]
      exact ⟨fun h => ⟨Except.ok.inj h, r, rfl, hvalid⟩, fun ⟨h, _⟩ => congrArg Except.ok h⟩

section Loaded

variable {d : Json} {s : Schema} (hd : d.keysDistinct = true) (h : ofJson d = .ok s)
  {shared : FormatRegistry} {v : Json} {options : ParseOptions}
include hd h

/-- What is supplied is completed, and then judged. -/
theorem parse_eq : s.parse shared v options =
    (s.supplied shared v options).mapError .schema >>= fun c =>
      s.admitted shared (s.completed options c) := by
  have hcompleted : ∀ c, (s.complete options.forTemplate false (some root) (some c)).getD c =
      (s.template (some c) options.forTemplate).getD c := by
    intro c
    rw [complete_at, template]
    cases s.templateFrom options.forTemplate false root (some c) <;> rfl
  have hprepare : s.prepare shared v options =
      (s.supplied shared v options).map (s.completed options) := by
    have hcomplete : s.completed options = fun c =>
        if options.withDefaults then (s.template (some c) options.forTemplate).getD c else c := by
      funext c
      rw [completed, hcompleted]
    rw [prepare_clone hd h, prepare, working, if_neg Bool.false_ne_true, Except.ok_bind, supplied,
      hcomplete]
    obtain ⟨coerce, dropUnknown, withDefaults, _, _⟩ := options
    cases coerce with
    | false => cases withDefaults <;> rfl
    | true =>
      simp only [if_true, ParseOptions.forCoercion]
      cases s.coerce shared v { dropUnknown := dropUnknown } with
      | error e => rfl
      | ok c => cases withDefaults <;> rfl
  unfold parse
  rw [hprepare]
  cases s.supplied shared v options <;> rfl

theorem parse_of_supplied {c : Json} (hc : s.supplied shared v options = .ok c) :
    s.parse shared v options = s.admitted shared (s.completed options c) := by
  rw [parse_eq hd h, hc]
  rfl

theorem parse_of_supplied_error {e : SchemaError} (he : s.supplied shared v options = .error e) :
    s.parse shared v options = .error (.schema e) := by
  rw [parse_eq hd h, he]
  rfl

theorem parse_eq_ok {w : Json} (hw : s.parse shared v options = .ok w) :
    ∃ c, s.supplied shared v options = .ok c ∧ s.completed options c = w ∧ s.admitted shared w = .ok w := by
  cases hc : s.supplied shared v options with
  | error e =>
    rw [parse_of_supplied_error hd h hc] at hw
    cases hw
  | ok c =>
    rw [parse_of_supplied hd h hc] at hw
    obtain ⟨rfl, -⟩ := admitted_eq_ok_iff.1 hw
    exact ⟨c, rfl, rfl, hw⟩

end Loaded

end Schema

end JsonSchema
