import JsonSchema.Proofs.Decimal.Units
import JsonSchema.Proofs.Json.Quoting
import JsonSchema.Proofs.Meaning.Satisfaction
import JsonSchema.Proofs.Reordering.Values

/-!
# The canonical texts of unambiguous values

Where no two keys of an object compose to one, normalizing loses no member. Then the canonical text of a
value is put together from those of its parts.
-/

namespace JsonSchema

/-! ## Whole numbers -/

namespace Number

/-- An integer, or a double without a fraction up to the magnitude to which doubles hold all integers. -/
def IsWhole : Number → Prop
  | int _ _ => True
  | double f _ => Decimal.isIntegral f = true ∧ f.abs ≤ maxExact

theorem normalize_of_isWhole {n : Number} (h : n.IsWhole) :
    ∃ k fits, n.normalize = .int k fits ∧ (int k fits).units = n.units := by
  cases n with
  | int k fits => exact ⟨k, fits, rfl, rfl⟩
  | double f finite =>
    obtain ⟨hintegral, hexact⟩ := h
    have hinteger : (double f finite).integer? = some (Decimal.truncate f) := by
      rw [integer?, hintegral, decide_eq_true hexact]
      rfl
    obtain ⟨fits, hnormalize⟩ := normalize_of_integer? hinteger
    exact ⟨_, fits, hnormalize, units_double_of_isIntegral (Bool.and_eq_true_iff.1 hintegral).2 fits⟩

theorem isInteger_of_isWhole {n : Number} (h : n.IsWhole) : n.isInteger = true := by
  cases n with
  | int k fits => rfl
  | double f finite => exact h.1

end Number

/-! ## Members in the order of their texts -/

namespace Json

/-- The entry of a member in the text of its object. -/
def entryText (m : String × Json) : String × String := (quote (composedString m.1), m.2.canonical)

theorem sortedItems_eq_map (vs : List Json) : sortedItems vs = vs.map sortedText := by
  induction vs with
  | nil => rfl
  | cons v vs ih => rw [sortedItems, ih, List.map_cons]

theorem sortedMembers_eq_map (ms : List (String × Json)) :
    sortedMembers ms = ms.map fun m => (quote m.1, m.2.sortedText) := by
  induction ms with
  | nil => rfl
  | cons m ms ih => rw [sortedMembers, ih, List.map_cons]

theorem canonical_array (vs : List Json) :
    (array vs).canonical = "[" ++ ",".intercalate (vs.map canonical) ++ "]" := by
  rw [canonical, normalize, sortedText, normalizeItems_eq_map, sortedItems_eq_map, List.map_map]
  rfl

section Object

variable {ms : Members} (h : (ms.map fun m => composedString m.1).Nodup)
include h

theorem nodup_entryTexts : ((ms.map entryText).map (·.1)).Nodup := by
  have hquoted := h.map quote_injective
  rw [List.map_map] at hquoted ⊢
  exact hquoted

/-- The order in which normalizing leaves the members does not matter, because they are sorted again. -/
theorem canonical_object :
    (object ms).canonical = "\x7b" ++ ",".intercalate
      (((ms.map entryText).mergeSort fun a b => decide (a.1 ≤ b.1)).map fun e => e.1 ++ ":" ++ e.2)
      ++ "\x7d" := by
  rw [canonical, normalize, normalizeMembers_eq_map]
  have hperm := List.mergeSort_perm (ms.map fun m => (m.1, m.2.normalize)) fun a b => decide (a.1 ≤ b.1)
  generalize (ms.map fun m => (m.1, m.2.normalize)).mergeSort (fun a b => decide (a.1 ≤ b.1)) = sorted
    at hperm ⊢
  have hkeys : Members.keys (sorted.map fun e => (composedString e.1, e.2)) =
      sorted.map fun e => composedString e.1 := by
    rw [Members.keys, List.map_map]
    rfl
  have hnodup : (Members.keys (sorted.map fun e => (composedString e.1, e.2))).Nodup := by
    rw [hkeys]
    have hcomposed := (hperm.map fun e => composedString e.1).nodup_iff
    rw [List.map_map] at hcomposed
    exact hcomposed.2 h
  have htexts : (sortedMembers (sorted.map fun e => (composedString e.1, e.2))).Perm
      (ms.map entryText) := by
    have htexts := hperm.map fun e => (quote (composedString e.1), e.2.sortedText)
    rw [List.map_map] at htexts
    rw [sortedMembers_eq_map, List.map_map]
    exact htexts
  rw [Members.ofList_of_nodup _ hnodup, sortedText,
    mergeSort_eq_of_perm ((htexts.map _).nodup_iff.2 (nodup_entryTexts h)) htexts]

end Object

end Json

end JsonSchema
