import JsonSchema.Proofs.Decimal.Units
import JsonSchema.Proofs.Loading.Parts
import JsonSchema.Format.Registry

/-!
# What a document asks of a value

This is read off the document alone: there are no nodes, no failures and no order of keywords here.
-/

namespace JsonSchema

open Loader

/-! ## Numbers -/

namespace Number

/-- The double nearest to the number. -/
def rounded (x : Number) : Number := .double x.toFloat x.isFinite_toFloat

/-- The quotient of the nearest doubles, rounded to a double, is as near to an integer as one step of its own
size, or of the size of one. -/
def IsNearMultiple (x divisor : Number) : Prop :=
  (x.toFloat / divisor.toFloat).isFinite = true ∧
    ∃ k : Int, |Double.value (x.toFloat / divisor.toFloat) - k| ≤
      max |Double.value (x.toFloat / divisor.toFloat)| 1 / 4503599627370496

end Number

/-- Whether a limit on numbers lets a number pass. -/
abbrev LimitReading := Bound → Number → Number → Prop

namespace LimitReading

def exact : LimitReading
  | .minimum, limit, x => limit.units ≤ x.units
  | .maximum, limit, x => x.units ≤ limit.units
  | .exclusiveMinimum, limit, x => limit.units < x.units
  | .exclusiveMaximum, limit, x => x.units < limit.units

/-- The doubles nearest to the limit and to the number are compared. -/
def nearest : LimitReading := fun which limit x => exact which limit.rounded x.rounded

end LimitReading

/-! ## Keywords -/

open Classical in
/-- How many items have the property. -/
noncomputable def countWhere (P : α → Prop) (as : List α) : Nat := as.countP fun a => decide (P a)

theorem countWhere_congr {P Q : α → Prop} {as : List α} (h : ∀ a ∈ as, P a ↔ Q a) :
    countWhere P as = countWhere Q as := by
  unfold countWhere
  refine List.countP_congr fun a ha => ?_
  simpa only [decide_eq_true_eq] using h a ha

namespace Members

/-- The limit that a schema's own keyword sets. -/
def limit? (ms : Members) (which : Count) : Option UInt64 := (ms.get? which.name).bind countOf?

/-- The key is neither declared as a property nor matched by a pattern. -/
def IsExtra (ms : Members) (key : String) : Prop :=
  (∀ entries : Members, ms.get? "properties" = some (.object entries) → key ∉ entries.keys) ∧
    ∀ entries, ms.get? "patternProperties" = some (.object entries) →
      ∀ e ∈ entries, ∀ p, Pattern.compile? e.1 = some p → p.occursIn key = false

/-- How many schemas stand before those for the other items. -/
def prefixLength (ms : Members) : Nat :=
  match ms.get? "prefixItems" with
  | some (.array items) => items.length
  | _ => 0

end Members

namespace Json

def HasType (v : Json) : InstanceType → Prop
  | .string => ∃ s, v = .string s
  | .number => ∃ x, v = .number x
  | .integer => ∃ x, v = .number x ∧ x.IsIntegral
  | .boolean => ∃ b, v = .bool b
  | .object => ∃ ms, v = .object ms
  | .array => ∃ items, v = .array items
  | .null => v = .null

def NamesType (d : Json) (t : InstanceType) : Prop :=
  d = .string t.name ∨ ∃ items, d = .array items ∧ .string t.name ∈ items

/-- Keywords that limit a length or a count; `minContains` and `maxContains` say nothing alone. The length of a text
is the number of characters of its composed form. -/
def CountRule (which : Count) (limit : Nat) (v : Json) : Prop :=
  match which, v with
  | .minLength, .string s => limit ≤ (Text.composed s.toList).length
  | .maxLength, .string s => (Text.composed s.toList).length ≤ limit
  | .minProperties, .object ms => limit ≤ ms.length
  | .maxProperties, .object ms => ms.length ≤ limit
  | .minItems, .array items => limit ≤ items.length
  | .maxItems, .array items => items.length ≤ limit
  | _, _ => True

/-- What a keyword without schemas asks, where `d` is its value. -/
def LeafRule (limits : LimitReading) (formats : FormatRegistry) (name : String) (d v : Json) : Prop :=
  match name with
  | "type" => ∃ t, d.NamesType t ∧ v.HasType t
  | "const" => v.same d = true
  | "enum" => ∃ options, d = .array options ∧ ∃ option ∈ options, option.same v = true
  | "multipleOf" =>
    ∀ divisor x, d = .number divisor → v = .number x → x.IsNearMultiple divisor
  | "pattern" =>
    ∀ source p s, d = .string source → Pattern.compile? source = some p → v = .string s →
      p.occursIn s = true
  | "format" => ∀ format s, d = .string format → v = .string s → formats.check format s = true
  | "uniqueItems" =>
    d = .bool true → ∀ items, v = .array items → items.Pairwise fun a b => a.same b = false
  | "required" =>
    ∀ keys (ms : Members), d = .array keys → v = .object ms → ∀ key, .string key ∈ keys → ms.hasKey key = true
  | "dependentRequired" =>
    ∀ entries (ms : Members), d = .object entries → v = .object ms → ∀ e ∈ entries, ms.hasKey e.1 = true →
      ∀ keys, e.2 = .array keys → ∀ key, .string key ∈ keys → ms.hasKey key = true
  | _ =>
    match Count.ofName? name, Bound.ofName? name with
    | some which, _ => ∀ limit, countOf? d = some limit → CountRule which limit.toNat v
    | none, some which => ∀ limit x, d = .number limit → v = .number x → limits which limit x
    | none, none => True

/-- What a keyword of the schema `ms` asks of a value, given what schemas ask. -/
def Rule (limits : LimitReading) (formats : FormatRegistry) (holds : Json → Json → Prop)
    (ms : Members) (name : String) (d v : Json) : Prop :=
  match name with
  | "allOf" => ∀ ds, d = .array ds → ∀ e ∈ ds, holds e v
  | "anyOf" => ∀ ds, d = .array ds → ∃ e ∈ ds, holds e v
  | "oneOf" => ∀ ds, d = .array ds → countWhere (fun e => holds e v) ds = 1
  | "not" => ¬holds d v
  | "if" =>
    (holds d v → ∀ e, ms.get? "then" = some e → holds e v) ∧
      (¬holds d v → ∀ e, ms.get? "else" = some e → holds e v)
  | "properties" =>
    ∀ entries (vs : Members), d = .object entries → v = .object vs →
      ∀ e ∈ entries, ∀ m ∈ vs, m.1 = e.1 → holds e.2 m.2
  | "patternProperties" =>
    ∀ entries (vs : Members), d = .object entries → v = .object vs →
      ∀ e ∈ entries, ∀ m ∈ vs, ∀ p, Pattern.compile? e.1 = some p → p.occursIn m.1 = true →
        holds e.2 m.2
  | "additionalProperties" => ∀ vs, v = .object vs → ∀ m ∈ vs, ms.IsExtra m.1 → holds d m.2
  | "propertyNames" => ∀ vs, v = .object vs → ∀ m ∈ vs, holds d (.string m.1)
  | "dependentSchemas" =>
    ∀ entries (vs : Members), d = .object entries → v = .object vs →
      ∀ e ∈ entries, vs.hasKey e.1 = true → holds e.2 v
  | "prefixItems" => ∀ ds items, d = .array ds → v = .array items → ∀ e ∈ ds.zip items, holds e.1 e.2
  | "items" => ∀ items, v = .array items → ∀ item ∈ items.drop ms.prefixLength, holds d item
  | "contains" =>
    ∀ items, v = .array items →
      ((ms.limit? .minContains).getD 1).toNat ≤ countWhere (holds d) items ∧
        ∀ most, ms.limit? .maxContains = some most → countWhere (holds d) items ≤ most.toNat
  | _ => LeafRule limits formats name d v

/-! ## Schemas -/

/-- A value satisfies a schema if it satisfies each of its keywords. The schemas that a keyword
holds are smaller, which is asked here so that there is an end to it. -/
def Satisfies (limits : LimitReading) (formats : FormatRegistry) (d v : Json) : Prop :=
  match d with
  | .bool accepts => accepts = true
  | .object ms =>
    ∀ m ∈ ms,
      Rule limits formats
        (fun e w => ∃ _ : sizeOf e < sizeOf (Json.object ms), Satisfies limits formats e w)
        ms m.1 m.2 v
  | _ => False
termination_by sizeOf d
decreasing_by exact ‹sizeOf e < sizeOf (Json.object ms)›

/-- A keyword asks only for the schemas that it holds, and a condition for those beside it. -/
theorem rule_congr {limits : LimitReading} {formats : FormatRegistry}
    {holds holds' : Json → Json → Prop} {ms : Members}
    (h : ∀ m ∈ ms, ∀ e ∈ parts m.1 m.2, ∀ w, holds e w ↔ holds' e w) (m : String × Json)
    (hm : m ∈ ms) (v : Json) :
    Rule limits formats holds ms m.1 m.2 v ↔ Rule limits formats holds' ms m.1 m.2 v := by
  obtain ⟨name, d⟩ := m
  have hown : ∀ e ∈ parts name d, ∀ w, holds e w ↔ holds' e w := h _ hm
  unfold Rule
  dsimp only
  split
  case h_1 =>
    refine forall₂_congr fun ds hd => forall₂_congr fun e he => ?_
    subst hd
    exact hown e he v
  case h_2 =>
    refine forall₂_congr fun ds hd => exists_congr fun e => and_congr_right fun he => ?_
    subst hd
    exact hown e he v
  case h_3 =>
    refine forall₂_congr fun ds hd => ?_
    subst hd
    have hcount : countWhere (fun e => holds e v) ds = countWhere (fun e => holds' e v) ds :=
      countWhere_congr fun e he => hown e he v
    rw [hcount]
  case h_4 => exact not_congr (hown d List.mem_cons_self v)
  case h_5 =>
    have hif : holds d v ↔ holds' d v := hown d List.mem_cons_self v
    refine and_congr (imp_congr hif ?_) (imp_congr (not_congr hif) ?_)
    · refine forall₂_congr fun e he => ?_
      exact h _ (Members.mem_of_get?_eq_some ms _ e he) e List.mem_cons_self v
    · refine forall₂_congr fun e he => ?_
      exact h _ (Members.mem_of_get?_eq_some ms _ e he) e List.mem_cons_self v
  case h_6 =>
    refine forall₄_congr fun entries vs hd hv => forall₂_congr fun e he => ?_
    subst hd
    exact forall₃_congr fun m _ _ => hown e.2 (List.mem_map_of_mem he) m.2
  case h_7 =>
    refine forall₄_congr fun entries vs hd hv => forall₂_congr fun e he => ?_
    subst hd
    exact forall₅_congr fun m _ _ _ _ => hown e.2 (List.mem_map_of_mem he) m.2
  case h_8 =>
    exact forall₂_congr fun vs _ => forall₃_congr fun m _ _ => hown d List.mem_cons_self m.2
  case h_9 =>
    exact forall₄_congr fun vs _ m _ => hown d List.mem_cons_self (.string m.1)
  case h_10 =>
    refine forall₄_congr fun entries vs hd hv => forall₃_congr fun e he _ => ?_
    subst hd
    exact hown e.2 (List.mem_map_of_mem he) v
  case h_11 =>
    refine forall₄_congr fun ds items hd hv => forall₂_congr fun e he => ?_
    subst hd
    exact hown e.1 (List.of_mem_zip he).1 e.2
  case h_12 => exact forall₄_congr fun items _ item _ => hown d List.mem_cons_self item
  case h_13 =>
    have hcount : ∀ items, countWhere (holds d) items = countWhere (holds' d) items :=
      fun items => countWhere_congr fun item _ => hown d List.mem_cons_self item
    refine forall₂_congr fun items _ => ?_
    rw [hcount]
  case h_14 => exact Iff.rfl

theorem satisfies_bool (limits : LimitReading) (formats : FormatRegistry) (accepts : Bool)
    (v : Json) : Satisfies limits formats (.bool accepts) v ↔ accepts = true := by
  rw [Satisfies]

theorem satisfies_object (limits : LimitReading) (formats : FormatRegistry) (ms : Members)
    (v : Json) :
    Satisfies limits formats (.object ms) v ↔
      ∀ m ∈ ms, Rule limits formats (Satisfies limits formats) ms m.1 m.2 v := by
  rw [Satisfies]
  refine forall₂_congr fun m hm => rule_congr ?_ m hm v
  intro m hm e he w
  exact ⟨fun h => h.2, fun hholds => ⟨sizeOf_part_lt hm he, hholds⟩⟩

end Json

end JsonSchema
