import JsonSchema.Proofs.Canonical.Texts
import JsonSchema.Proofs.Loading.Values
import JsonSchema.Proofs.Reloading.Limits
import JsonSchema.Proofs.Reloading.Plain
import JsonSchema.Proofs.Writing.Reload

/-!
# The documents that are schemas

A table says what the value of each keyword has to look like. A document is read as a schema if all
values in it look like that, and otherwise it is not.
-/

namespace JsonSchema

open Loader

/-! ## Natural numbers -/

/-- The exact value is a natural number. -/
def Number.IsNatural (n : Number) : Prop := ∃ k : Nat, n.units = k * Nat.pow 2 1074

namespace Decimal.Binary

theorem exists_signed_eq_iff (b : Binary) (n unit : Nat) (hunit : 0 < unit) :
    (∃ k : Nat, b.signed n = k * unit) ↔ (b.negative = false ∨ n = 0) ∧ unit ∣ n := by
  constructor
  · rintro ⟨k, hk⟩
    unfold signed at hk
    split at hk
    · have hn : (n : Int) = 0 := by
        have : (0 : Int) ≤ k * unit := by positivity
        omega
      obtain rfl : n = 0 := by exact_mod_cast hn
      exact ⟨.inr rfl, Nat.dvd_zero unit⟩
    · next hsign =>
      have hn : n = k * unit := by exact_mod_cast hk
      exact ⟨.inl (Bool.eq_false_of_not_eq_true hsign), hn ▸ Nat.dvd_mul_left unit k⟩
  · rintro ⟨hsign, k, rfl⟩
    refine ⟨k, ?_⟩
    have hpos : b.signed (unit * k) = (unit * k : Nat) := by
      unfold signed
      rcases hsign with hsign | hzero
      · rw [hsign]
        rfl
      · rw [hzero]
        split <;> rfl
    rw [hpos, Nat.mul_comm]
    push_cast
    rfl

end Decimal.Binary

namespace Double

open Float.Model Float.Model.UnpackedFloat

theorem zero_le_iff {f : Float} (h : f.isFinite = true) :
    (0.0 : Float) ≤ f ↔ (Decimal.binary f).negative = false ∨ (Decimal.binary f).mantissa = 0 := by
  have hzero : (0.0 : Float).toModel.unpack = .zero .positive := rfl
  have hdescribes := describes_binary h
  rw [← decide_eq_true_iff (p := (0.0 : Float) ≤ f), decide_le, hzero]
  generalize f.toModel.unpack = u at hdescribes
  cases hdescribes with
  | zero s hm => exact iff_of_true rfl (.inr hm)
  | finite s m e hm hsign hmantissa hexponent =>
    rw [hsign, hmantissa]
    cases s with
    | positive => exact iff_of_true rfl (.inl rfl)
    | negative =>
      refine iff_of_false Bool.false_ne_true ?_
      rintro (h | h)
      · cases h
      · omega

end Double

namespace Number

theorem isNatural_int_iff (n : Int) (fits : FitsWord n) : (int n fits).IsNatural ↔ 0 ≤ n := by
  have hpos : ∀ e, 0 < Nat.pow 2 e := Nat.two_pow_pos
  have hpos := hpos 1074
  unfold IsNatural units
  generalize Nat.pow 2 1074 = unit at hpos ⊢
  constructor
  · rintro ⟨k, hk⟩
    rw [Int.eq_of_mul_eq_mul_right (by omega) hk]
    exact Int.natCast_nonneg k
  · intro h
    exact ⟨n.toNat, by rw [Int.toNat_of_nonneg h]⟩

theorem isNatural_double_iff (f : Float) (finite : f.isFinite = true) :
    (double f finite).IsNatural ↔ 0.0 ≤ f ∧ Decimal.isIntegral f = true := by
  have hscaled : ∀ e, 0 < Nat.pow 2 e := Nat.two_pow_pos
  obtain ⟨k, hk, hscale, hexponent⟩ := Decimal.Binary.exists_least_exponent f
  have hzero (m e : Nat) : m * Nat.pow 2 e = 0 ↔ m = 0 := by
    have := hscaled e
    rw [Nat.mul_eq_zero]
    omega
  unfold IsNatural units
  rw [hk, hscale, Decimal.isIntegral, finite, Bool.true_and, Double.zero_le_iff finite,
    Decimal.Binary.isIntegral_iff_dvd hexponent]
  dsimp only
  rw [Decimal.Binary.exists_signed_eq_iff _ _ _ (hscaled k), hzero]

end Number

/-! ## The grammar -/

namespace Json

/-- What the value of a keyword has to look like. -/
inductive Form where
  | schema
  | schemas
  /-- Schemas under keys. -/
  | keyed
  /-- Schemas under patterns. -/
  | patterns
  | types
  | list
  | count
  | number
  | pattern
  | text
  | truth
  | texts
  /-- Lists of texts under keys. -/
  | dependents
deriving DecidableEq

def forms : List (String × Form) :=
  [("not", .schema), ("if", .schema), ("then", .schema), ("else", .schema), ("items", .schema),
    ("contains", .schema), ("additionalProperties", .schema), ("propertyNames", .schema),
    ("allOf", .schemas), ("anyOf", .schemas), ("oneOf", .schemas), ("prefixItems", .schemas),
    ("properties", .keyed), ("dependentSchemas", .keyed), ("$defs", .keyed),
    ("patternProperties", .patterns), ("type", .types), ("enum", .list),
    ("minLength", .count), ("maxLength", .count), ("minProperties", .count),
    ("maxProperties", .count), ("minItems", .count), ("maxItems", .count),
    ("minContains", .count), ("maxContains", .count), ("minimum", .number), ("maximum", .number),
    ("exclusiveMinimum", .number), ("exclusiveMaximum", .number), ("multipleOf", .number),
    ("pattern", .pattern), ("format", .text), ("$ref", .text), ("$id", .text),
    ("uniqueItems", .truth), ("required", .texts), ("dependentRequired", .dependents)]

/-- A keyword without a form may hold anything. -/
def formOf? (name : String) : Option Form := forms.lookup name

def IsTypeName (v : Json) : Prop := ∃ t : InstanceType, v = .string t.name

def IsTexts (v : Json) : Prop := ∃ items, v = .array items ∧ ∀ item ∈ items, ∃ s, item = .string s

/-- The value has the form, where `good` says which values are schemas. -/
def Form.Fits (good : Json → Prop) (form : Form) (v : Json) : Prop :=
  match form with
  | schema => good v
  | schemas => ∃ items, v = .array items ∧ ∀ item ∈ items, good item
  | keyed => ∃ ms : Members, v = .object ms ∧ ∀ m ∈ ms, good m.2
  | patterns =>
    ∃ ms : Members, v = .object ms ∧ ∀ m ∈ ms, (∃ p, Pattern.compile? m.1 = some p) ∧ good m.2
  | types => v.IsTypeName ∨ ∃ items, v = .array items ∧ ∀ item ∈ items, item.IsTypeName
  | list => ∃ items, v = .array items
  | count => ∃ n : Number, v = .number n ∧ n.IsNatural
  | number => ∃ n, v = .number n
  | pattern => ∃ source p, v = .string source ∧ Pattern.compile? source = some p
  | text => ∃ s, v = .string s
  | truth => ∃ b, v = .bool b
  | texts => v.IsTexts
  | dependents => ∃ ms : Members, v = .object ms ∧ ∀ m ∈ ms, m.2.IsTexts

/-- Every keyword holds what it has to. The schemas in it are smaller, which is asked here so that
there is an end to it. -/
def WellFormed (d : Json) : Prop :=
  match d with
  | .bool _ => True
  | .object ms =>
    ∀ m ∈ ms, ∀ form, formOf? m.1 = some form →
      form.Fits (fun e => ∃ _ : sizeOf e < sizeOf (Json.object ms), WellFormed e) m.2
  | _ => False
termination_by sizeOf d
decreasing_by exact ‹sizeOf e < sizeOf (Json.object ms)›

theorem Form.fits_congr {good good' : Json → Prop} {v : Json}
    (h : ∀ e, sizeOf e ≤ sizeOf v → (good e ↔ good' e)) (form : Form) :
    form.Fits good v ↔ form.Fits good' v := by
  have hentry {ms : Members} (hv : v = .object ms) {m : String × Json} (hm : m ∈ ms) :
      good m.2 ↔ good' m.2 :=
    h m.2 (Nat.le_of_lt (hv ▸ sizeOf_lt_of_mem_entries hm))
  cases form with
  | schema => exact h v (Nat.le_refl _)
  | schemas =>
    refine exists_congr fun items => and_congr_right fun hv => forall₂_congr fun item hitem => ?_
    exact h item (Nat.le_of_lt (hv ▸ sizeOf_lt_of_mem_items hitem))
  | keyed =>
    exact exists_congr fun ms => and_congr_right fun hv => forall₂_congr fun m hm => hentry hv hm
  | patterns =>
    refine exists_congr fun ms => and_congr_right fun hv => forall₂_congr fun m hm => ?_
    exact and_congr_right fun _ => hentry hv hm
  | _ => exact Iff.rfl

theorem wellFormed_object (ms : Members) :
    WellFormed (.object ms) ↔
      ∀ m ∈ ms, ∀ form, formOf? m.1 = some form → form.Fits WellFormed m.2 := by
  rw [WellFormed]
  refine forall₄_congr fun m hm form _ => Form.fits_congr (fun e he => ?_) form
  have hlt := Nat.lt_of_le_of_lt he (sizeOf_lt_of_mem_entries hm)
  exact ⟨fun h => h.2, fun h => ⟨hlt, h⟩⟩

theorem wellFormed_bool (b : Bool) : WellFormed (.bool b) := by
  rw [WellFormed]
  trivial

end Json

/-! ## Reading values -/

namespace Loader

open Json

theorem exists_eq_map_iff {f : β → α} {as : List α} :
    (∃ bs : List β, as = bs.map f) ↔ ∀ a ∈ as, ∃ b, a = f b := by
  induction as with
  | nil => exact iff_of_true ⟨[], rfl⟩ (List.forall_mem_nil _)
  | cons a as ih =>
    rw [List.forall_mem_cons, ← ih]
    constructor
    · rintro ⟨_ | ⟨b, bs⟩, h⟩
      · cases h
      · cases h
        exact ⟨⟨b, rfl⟩, bs, rfl⟩
    · rintro ⟨⟨b, rfl⟩, bs, rfl⟩
      exact ⟨b :: bs, rfl⟩

theorem isTexts_iff {v : Json} : v.IsTexts ↔ ∃ texts, v = .strings texts := by
  unfold IsTexts Json.strings
  simp only [← exists_eq_map_iff]
  constructor
  · rintro ⟨_, rfl, texts, rfl⟩
    exact ⟨texts, rfl⟩
  · rintro ⟨texts, rfl⟩
    exact ⟨_, rfl, texts, rfl⟩

theorem exists_countOf?_iff (v : Json) :
    (∃ limit, countOf? v = some limit) ↔ ∃ n : Number, v = .number n ∧ n.IsNatural := by
  cases v with
  | number n =>
    simp only [Json.number.injEq, exists_eq_left']
    cases n with
    | int n fits =>
      rw [Number.isNatural_int_iff, countOf?]
      split <;> simp [*]
    | double f finite =>
      rw [Number.isNatural_double_iff, countOf?]
      simp
  | null | bool | string | array | object => simp [countOf?]

variable {good : Json → Prop} {path : Path} {v : Json}

theorem exists_readNumber_iff : (∃ f, readNumber path v = .ok f) ↔ Form.number.Fits good v := by
  simp only [readNumber_eq_ok_iff]
  constructor
  · rintro ⟨_, n, hv, _⟩
    exact ⟨n, hv⟩
  · rintro ⟨n, hv⟩
    exact ⟨_, n, hv, rfl⟩

theorem exists_readStrings_iff : (∃ texts, readStrings path v = .ok texts) ↔ v.IsTexts := by
  simp only [readStrings_eq_ok_iff]
  exact isTexts_iff.symm

theorem exists_readTypes_iff : (∃ ts, readTypes path v = .ok ts) ↔ Form.types.Fits good v := by
  simp only [readTypes_eq_ok_iff]
  constructor
  · rintro ⟨ts, rfl | ⟨t, rfl, rfl⟩⟩
    · refine .inr ⟨_, rfl, exists_eq_map_iff.1 ⟨ts, ?_⟩⟩
      rw [List.map_map]
      rfl
    · exact .inl ⟨t, rfl⟩
  · rintro (⟨t, rfl⟩ | ⟨items, rfl, hitems⟩)
    · exact ⟨[t], .inr ⟨t, rfl, rfl⟩⟩
    · obtain ⟨ts, rfl⟩ := exists_eq_map_iff.2 hitems
      refine ⟨ts, .inl ?_⟩
      rw [Json.strings, List.map_map]
      rfl

theorem exists_readDependents_iff :
    (∃ entries, readDependents path v = .ok entries) ↔ Form.dependents.Fits good v := by
  simp only [readDependents_eq_ok_iff]
  constructor
  · rintro ⟨entries, rfl⟩
    refine ⟨_, rfl, fun m hm => ?_⟩
    obtain ⟨e, _, rfl⟩ := List.mem_map.1 hm
    exact isTexts_iff.2 ⟨e.2, rfl⟩
  · rintro ⟨ms, rfl, hms⟩
    obtain ⟨entries, rfl⟩ : ∃ entries : List (String × List String),
        ms = entries.map fun e => (e.1, .strings e.2) := by
      refine exists_eq_map_iff.2 fun m hm => ?_
      obtain ⟨texts, htexts⟩ := isTexts_iff.1 (hms m hm)
      exact ⟨(m.1, texts), Prod.ext rfl htexts⟩
    exact ⟨entries, rfl⟩

/-! ## Reading keywords -/

theorem forall_formOf?_iff {name : String} {form : Form} (h : formOf? name = some form) :
    (∀ form, formOf? name = some form → form.Fits good v) ↔ form.Fits good v := by
  rw [h]
  simp only [Option.some.injEq, forall_eq']

section Roles

variable {name : String}

theorem formOf?_of_single {slot : Slot} (role : roleOf name = .single slot) :
    formOf? name = some .schema := by
  rw [← name_of_roleOf_single role]
  cases slot <;> rfl

theorem formOf?_of_listed {slot : ListSlot} (role : roleOf name = .listed slot) :
    formOf? name = some .schemas := by
  rw [← name_of_roleOf_listed role]
  cases slot <;> rfl

theorem formOf?_of_keyed {slot : KeyedSlot} (role : roleOf name = .keyed slot) :
    formOf? name = some .keyed := by
  rw [← name_of_roleOf_keyed role]
  cases slot <;> rfl

theorem formOf?_of_patterns (role : roleOf name = .patterns) : formOf? name = some .patterns := by
  rw [name_of_roleOf_patterns role]
  rfl

end Roles

theorem formOf?_of_not_interpreted {name : String} (h : name ∉ interpreted) :
    formOf? name = none := by
  have hnames : ∀ e ∈ forms, e.1 ∈ interpreted := by decide
  unfold formOf?
  rw [List.lookup_eq_none_iff]
  intro e he
  rw [bne_iff_ne]
  rintro rfl
  exact h (hnames e he)

theorem exists_readPattern_iff :
    (∃ l, readLeaf path "pattern" v = .ok l) ↔ Form.pattern.Fits good v := by
  constructor
  · rintro ⟨l, h⟩
    obtain ⟨source, hv, h⟩ := Except.bind_eq_ok_iff.1 h
    obtain ⟨p, hp, _⟩ := Except.bind_eq_ok_iff.1 h
    exact ⟨source, p, readString_eq_ok_iff.1 hv, compile_eq_ok_iff.1 hp⟩
  · rintro ⟨source, p, rfl, hp⟩
    refine ⟨.pattern p, Except.bind_eq_ok_iff.2 ⟨source, rfl, ?_⟩⟩
    exact Except.bind_eq_ok_iff.2 ⟨p, compile_eq_ok_iff.2 hp, rfl⟩

theorem exists_readLeaf_of_map {name : String} {form : Form} {x : Except SchemaError α}
    {f : α → Leaf} (hform : formOf? name = some form) (hread : readLeaf path name v = x.map f)
    (hx : (∃ a, x = .ok a) ↔ form.Fits good v) :
    (∃ l, readLeaf path name v = .ok l) ↔ ∀ form, formOf? name = some form → form.Fits good v := by
  rw [forall_formOf?_iff hform, hread, Except.exists_map_eq_ok_iff, hx]

/-- Whether a keyword without schemas is read is told by its form. -/
theorem exists_readLeaf_iff {name : String} (role : roleOf name = .leaf) :
    (∃ l, readLeaf path name v = .ok l) ↔ ∀ form, formOf? name = some form → form.Fits good v := by
  have harray : (∃ items, readArray path v = .ok items) ↔ Form.list.Fits good v :=
    exists_congr fun _ => readArray_eq_ok_iff
  have htext : (∃ s, readString path v = .ok s) ↔ Form.text.Fits good v :=
    exists_congr fun _ => readString_eq_ok_iff
  have htruth : (∃ b, readBool path v = .ok b) ↔ Form.truth.Fits good v :=
    exists_congr fun _ => readBool_eq_ok_iff
  by_cases hname : name ∈ interpreted
  · simp only [interpreted, List.mem_append, List.mem_map] at hname
    rcases hname with ((((hname | ⟨which, _, rfl⟩) | ⟨which, _, rfl⟩) | ⟨slot, _, rfl⟩) |
      ⟨slot, _, rfl⟩) | ⟨slot, _, rfl⟩
    · -- one case for each name, in the order in which `interpreted` lists them
      simp only [List.mem_cons, List.not_mem_nil, or_false] at hname
      rcases hname with rfl | rfl | rfl | rfl | rfl | rfl | rfl | rfl | rfl | rfl | rfl | rfl | rfl
      · exact exists_readLeaf_of_map rfl rfl exists_readTypes_iff
      · exact iff_of_true ⟨.const v, rfl⟩ (by rintro form ⟨⟩)
      · exact iff_of_true ⟨.default v, rfl⟩ (by rintro form ⟨⟩)
      · exact exists_readLeaf_of_map rfl rfl harray
      · exact exists_readLeaf_of_map rfl rfl exists_readNumber_iff
      · exact exists_readPattern_iff.trans (forall_formOf?_iff rfl).symm
      · exact exists_readLeaf_of_map rfl rfl htext
      · exact exists_readLeaf_of_map rfl rfl htext
      · exact exists_readLeaf_of_map rfl rfl htext
      · exact exists_readLeaf_of_map rfl rfl htruth
      · exact exists_readLeaf_of_map rfl rfl exists_readStrings_iff
      · exact exists_readLeaf_of_map rfl rfl exists_readDependents_iff
      · cases role
    · have hform : formOf? which.name = some .count := by cases which <;> rfl
      refine exists_readLeaf_of_map hform (readLeaf_count path which v) ?_
      exact (exists_congr fun _ => readCount_eq_ok_iff).trans (exists_countOf?_iff v)
    · have hform : formOf? which.name = some .number := by cases which <;> rfl
      exact exists_readLeaf_of_map hform (readLeaf_bound path which v) exists_readNumber_iff
    · cases slot <;> cases role
    · cases slot <;> cases role
    · cases slot <;> cases role
  · rw [readLeaf_of_not_interpreted hname, formOf?_of_not_interpreted hname]
    simp

/-! ## Reading schemas -/

theorem exists_loadItems_iff (path : Path) {items : List Json}
    (ih : ∀ v ∈ items, ∀ path, (∃ s, load path v = .ok s) ↔ good v) (i : Nat) :
    (∃ children, loadItems path i items = .ok children) ↔ ∀ v ∈ items, good v := by
  induction items generalizing i with
  | nil => exact iff_of_true ⟨[], by rw [loadItems]⟩ (List.forall_mem_nil _)
  | cons v vs ihvs =>
    obtain ⟨hv, hvs⟩ := List.forall_mem_cons.1 ih
    rw [loadItems, Except.exists_both_eq_ok_iff, hv, ihvs hvs, List.forall_mem_cons]

theorem exists_loadEntries_iff (path : Path) {ms : Members}
    (ih : ∀ m ∈ ms, ∀ path, (∃ s, load path m.2 = .ok s) ↔ good m.2) :
    (∃ entries, loadEntries path ms = .ok entries) ↔ ∀ m ∈ ms, good m.2 := by
  induction ms with
  | nil => exact iff_of_true ⟨[], by rw [loadEntries]⟩ (List.forall_mem_nil _)
  | cons m ms ihms =>
    obtain ⟨hm, hms⟩ := List.forall_mem_cons.1 ih
    rw [loadEntries, Except.exists_both_eq_ok_iff, hm, ihms hms, List.forall_mem_cons]

theorem exists_setPatterns_iff {s : Schema} {entries : List (String × Schema)} :
    (∃ t, s.setPatterns entries = .ok t) ↔ ∀ e ∈ entries, ∃ p, Pattern.compile? e.1 = some p := by
  simp only [← compile_eq_ok_iff, ← Except.exists_mapM_eq_ok_iff]
  constructor
  · rintro ⟨t, h⟩
    obtain ⟨patterns, hpatterns, _⟩ := Except.bind_eq_ok_iff.1 h
    exact ⟨patterns, hpatterns⟩
  · rintro ⟨patterns, hpatterns⟩
    exact ⟨_, Except.bind_eq_ok_iff.2 ⟨patterns, hpatterns, rfl⟩⟩

theorem exists_addPatterns_iff {s : Schema} {ms : Members}
    (ih : ∀ m ∈ ms, ∀ path, (∃ s, load path m.2 = .ok s) ↔ good m.2) :
    (∃ t, (do s.setPatterns (← loadEntries path ms)) = .ok t) ↔
      ∀ m ∈ ms, (∃ p, Pattern.compile? m.1 = some p) ∧ good m.2 := by
  have hentries := exists_loadEntries_iff path ih
  constructor
  · rintro ⟨t, h⟩ m hm
    obtain ⟨entries, hload, hset⟩ := Except.bind_eq_ok_iff.1 h
    obtain ⟨e, he, hkey, _⟩ := exists_of_forall₂ (forall₂_of_loadEntries hload).flip hm
    exact ⟨hkey ▸ exists_setPatterns_iff.1 ⟨t, hset⟩ e he, hentries.1 ⟨entries, hload⟩ m hm⟩
  · intro h
    obtain ⟨entries, hload⟩ := hentries.2 fun m hm => (h m hm).2
    have hpatterns : ∀ e ∈ entries, ∃ p, Pattern.compile? e.1 = some p := by
      intro e he
      obtain ⟨m, hm, hkey, _⟩ := exists_of_forall₂ (forall₂_of_loadEntries hload) he
      exact hkey ▸ (h m hm).1
    obtain ⟨t, ht⟩ := exists_setPatterns_iff (s := s).2 hpatterns
    exact ⟨t, Except.bind_eq_ok_iff.2 ⟨entries, hload, ht⟩⟩

/-- The schema with one member more; `loadMembers` reads one member after the other. -/
def addMember (place : Path) (s : Schema) (name : String) (v : Json) : Except SchemaError Schema :=
  match roleOf name with
  | .single slot => (load place v).map (s.setSingle slot)
  | .listed slot =>
    match v with
    | .array items => (loadItems place 0 items).map (s.setListed slot)
    | _ => invalid place .array
  | .keyed slot =>
    match v with
    | .object entries => (loadEntries place entries).map (s.setKeyed slot)
    | _ => invalid place .object
  | .patterns =>
    match v with
    | .object entries => do s.setPatterns (← loadEntries place entries)
    | _ => invalid place .object
  | .leaf => (readLeaf place name v).map s.setLeaf

theorem loadMembers_cons (path : Path) (s : Schema) (m : String × Json) (ms : Members) :
    loadMembers path s (m :: ms) =
      addMember (path ++ [.key m.1]) s m.1 m.2 >>= fun s => loadMembers path s ms := by
  obtain ⟨name, v⟩ := m
  rw [loadMembers.eq_def]
  unfold addMember
  dsimp only
  cases roleOf name with
  | single | leaf => rfl
  | listed | keyed => cases v <;> rfl
  | patterns =>
    cases v with
    | object entries =>
      dsimp only
      cases loadEntries (path ++ [.key name]) entries <;> rfl
    | _ => rfl

theorem exists_addMember_iff {s : Schema} {name : String}
    (ih : ∀ e, sizeOf e ≤ sizeOf v → ∀ path, (∃ s, load path e = .ok s) ↔ good e) :
    (∃ t, addMember path s name v = .ok t) ↔
      ∀ form, formOf? name = some form → form.Fits good v := by
  unfold addMember
  cases role : roleOf name with
  | single slot =>
    rw [forall_formOf?_iff (formOf?_of_single role)]
    exact Except.exists_map_eq_ok_iff.trans (ih v (Nat.le_refl _) path)
  | listed slot =>
    rw [forall_formOf?_iff (formOf?_of_listed role)]
    cases v with
    | array items =>
      simp only [Form.Fits, Json.array.injEq, exists_eq_left']
      have hitems := exists_loadItems_iff path
        (fun v hv => ih v (Nat.le_of_lt (sizeOf_lt_of_mem_items hv))) 0
      exact Except.exists_map_eq_ok_iff.trans hitems
    | _ => exact iff_of_false (by rintro ⟨_, ⟨⟩⟩) (by rintro ⟨_, ⟨⟩, _⟩)
  | keyed slot =>
    rw [forall_formOf?_iff (formOf?_of_keyed role)]
    cases v with
    | object entries =>
      simp only [Form.Fits, Json.object.injEq, exists_eq_left']
      have hentries := exists_loadEntries_iff path fun m hm =>
        ih m.2 (Nat.le_of_lt (sizeOf_lt_of_mem_entries hm))
      exact Except.exists_map_eq_ok_iff.trans hentries
    | _ => exact iff_of_false (by rintro ⟨_, ⟨⟩⟩) (by rintro ⟨_, ⟨⟩, _⟩)
  | patterns =>
    rw [forall_formOf?_iff (formOf?_of_patterns role)]
    cases v with
    | object entries =>
      simp only [Form.Fits, Json.object.injEq, exists_eq_left']
      exact exists_addPatterns_iff fun m hm => ih m.2 (Nat.le_of_lt (sizeOf_lt_of_mem_entries hm))
    | _ => exact iff_of_false (by rintro ⟨_, ⟨⟩⟩) (by rintro ⟨_, ⟨⟩, _⟩)
  | leaf => exact Except.exists_map_eq_ok_iff.trans (exists_readLeaf_iff role)

theorem exists_loadMembers_iff {ms : Members} {s : Schema}
    (ih : ∀ m ∈ ms, ∀ e, sizeOf e ≤ sizeOf m.2 → ∀ path, (∃ s, load path e = .ok s) ↔ good e) :
    (∃ t, loadMembers path s ms = .ok t) ↔
      ∀ m ∈ ms, ∀ form, formOf? m.1 = some form → form.Fits good m.2 := by
  induction ms generalizing s with
  | nil => exact iff_of_true ⟨s, by rw [loadMembers]⟩ (List.forall_mem_nil _)
  | cons m ms ihms =>
    obtain ⟨hm, hms⟩ := List.forall_mem_cons.1 ih
    rw [List.forall_mem_cons, ← exists_addMember_iff hm, loadMembers_cons]
    constructor
    · rintro ⟨t, h⟩
      obtain ⟨u, hu, ht⟩ := Except.bind_eq_ok_iff.1 h
      exact ⟨⟨u, hu⟩, (ihms hms).1 ⟨t, ht⟩⟩
    · rintro ⟨⟨u, hu⟩, hrest⟩
      obtain ⟨t, ht⟩ := (ihms hms).2 hrest
      exact ⟨t, Except.bind_eq_ok_iff.2 ⟨u, hu, ht⟩⟩

theorem exists_typeNamed {name : String} (h : (Json.string name).IsTypeName) :
    ∃ kind, (typeNamed name).map Kind.ofType = .ok kind := by
  obtain ⟨t, ht⟩ := h
  cases ht
  exact Except.exists_map_eq_ok_iff.2 ⟨t, typeNamed_eq_ok_iff.2 rfl⟩

theorem exists_kindOf {ms : Members} (h : ∀ v, ms.get? "type" = some v → Form.types.Fits good v) :
    ∃ kind, kindOf ms = .ok kind := by
  unfold kindOf
  split
  · next name hget =>
    rcases h _ hget with hname | ⟨_, ⟨⟩, _⟩
    exact exists_typeNamed hname
  · next name hget =>
    rcases h _ hget with ⟨_, ⟨⟩⟩ | ⟨_, ⟨⟩, hnames⟩
    exact exists_typeNamed (hnames _ List.mem_cons_self)
  · exact ⟨_, rfl⟩
  · exact ⟨_, rfl⟩

end Loader

namespace Json

/-- The path has no part in it; that all members are read is what the induction on sizes is for. -/
theorem exists_load_iff (d : Json) (path : Path) : (∃ s, load path d = .ok s) ↔ d.WellFormed := by
  induction hn : sizeOf d using Nat.strongRecOn generalizing d path with | ind n ih
  subst hn
  cases d with
  | bool b => exact iff_of_true ⟨_, by rw [load]⟩ (wellFormed_bool b)
  | object ms =>
    have hmembers (s : Schema) : (∃ t, loadMembers path s ms = .ok t) ↔
        ∀ m ∈ ms, ∀ form, formOf? m.1 = some form → form.Fits WellFormed m.2 := by
      refine exists_loadMembers_iff fun m hm e he path => ih _ ?_ e path rfl
      exact Nat.lt_of_le_of_lt he (sizeOf_lt_of_mem_entries hm)
    rw [wellFormed_object, load]
    -- The kind is read from the type, which the grammar has as a member.
    constructor
    · rintro ⟨s, h⟩
      obtain ⟨kind, _, h⟩ := Except.bind_eq_ok_iff.1 h
      obtain ⟨t, ht, _⟩ := Except.bind_eq_ok_iff.1 h
      exact (hmembers _).1 ⟨t, ht⟩
    · intro h
      obtain ⟨kind, hkind⟩ := exists_kindOf fun v hv =>
        h _ (Members.mem_of_get?_eq_some ms "type" v hv) .types rfl
      obtain ⟨t, ht⟩ := (hmembers (.ofNode (.ofKind kind))).2 h
      exact ⟨markOptional t, by rw [hkind, Except.ok_bind, ht, Except.ok_bind]; rfl⟩
  | null | number | string | array =>
    rw [WellFormed]
    · simp [load, invalid]
    all_goals simp

end Json

/-- A schema is made of exactly the documents that are well-formed. -/
theorem Schema.ofJson_accepts_iff (d : Json) : (∃ s, Schema.ofJson d = .ok s) ↔ d.WellFormed :=
  Json.exists_load_iff d []

end JsonSchema
