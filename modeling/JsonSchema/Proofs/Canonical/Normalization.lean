import JsonSchema.Proofs.Canonical.Texts
import JsonSchema.Proofs.Json.Insertion
import JsonSchema.Proofs.Reordering.Documents

/-!
# Values in normal form

Normalizing a value in normal form only sorts its members, and the canonical text does not depend on their order.
Members are sorted before their keys are composed, so a normal form need not have them in order.
-/

namespace JsonSchema

/-! ## Numbers -/

theorem Number.normalize_normalize (n : Number) : n.normalize.normalize = n.normalize := by
  cases n with
  | int k fits => rfl
  | double f finite =>
    by_cases hexact : (Decimal.isIntegral f && f.abs ≤ maxExact) = true
    · cases hk : ofInt? (Decimal.truncate f) with
      | none =>
        have hstays : (double f finite).normalize = double f finite := by
          rw [normalize, if_pos hexact, hk, Option.getD_none]
        rw [hstays, hstays]
      | some k =>
        have hinteger : (double f finite).normalize = k := by
          rw [normalize, if_pos hexact, hk, Option.getD_some]
        obtain ⟨fits, rfl⟩ : ∃ fits, Number.int (Decimal.truncate f) fits = k := by
          simpa [ofInt?] using hk
        rw [hinteger, normalize]
    · have hstays : (double f finite).normalize = double f finite := by
        rw [normalize, if_neg hexact]
      rw [hstays, hstays]

/-! ## Members that were put in -/

namespace Members

theorem mem_of_mem_insert {ms : Members} {key : String} {value : Json} {m : String × Json}
    (h : m ∈ ms.insert key value) : m = (key, value) ∨ m ∈ ms := by
  induction ms with
  | nil => exact .inl (List.mem_singleton.1 h)
  | cons e ms ih =>
    rw [insert] at h
    split at h
    · exact (List.mem_cons.1 h).imp_right (List.mem_cons_of_mem _)
    · rcases List.mem_cons.1 h with rfl | hm
      · exact .inr List.mem_cons_self
      · exact (ih hm).imp_right (List.mem_cons_of_mem _)

theorem mem_of_mem_insertAll {ms entries : Members} {m : String × Json} (h : m ∈ ms.insertAll entries) :
    m ∈ ms ∨ m ∈ entries := by
  induction entries generalizing ms with
  | nil => exact .inl h
  | cons e entries ih =>
    rw [insertAll_cons] at h
    rcases ih h with hm | hm
    · rcases mem_of_mem_insert hm with rfl | hm
      · exact .inr List.mem_cons_self
      · exact .inl hm
    · exact .inr (List.mem_cons_of_mem _ hm)

theorem mem_of_mem_ofList {entries : Members} {m : String × Json} (h : m ∈ ofList entries) : m ∈ entries :=
  (mem_of_mem_insertAll (h : m ∈ insertAll [] entries)).resolve_left List.not_mem_nil

theorem nodup_keys_ofList (entries : Members) : (ofList entries).keys.Nodup :=
  nodup_keys_insertAll (show (keys []).Nodup from List.nodup_nil) entries

end Members

namespace Json

/-! ## Texts of a value -/

mutual

/-- The strings and the keys in the value. -/
def texts : Json → List String
  | string s => [s]
  | array items => itemsTexts items
  | object ms => membersTexts ms
  | _ => []

def itemsTexts : List Json → List String
  | [] => []
  | v :: vs => v.texts ++ itemsTexts vs

def membersTexts : List (String × Json) → List String
  | [] => []
  | (key, v) :: ms => key :: v.texts ++ membersTexts ms

end

theorem forall_itemsTexts {p : String → Prop} {vs : List Json} :
    (∀ s ∈ itemsTexts vs, p s) ↔ ∀ v ∈ vs, ∀ s ∈ v.texts, p s := by
  induction vs with
  | nil => simp [itemsTexts]
  | cons v vs ih => rw [itemsTexts, List.forall_mem_append, ih, List.forall_mem_cons]

theorem forall_membersTexts {p : String → Prop} {ms : Members} :
    (∀ s ∈ membersTexts ms, p s) ↔ ∀ m ∈ ms, p m.1 ∧ ∀ s ∈ m.2.texts, p s := by
  induction ms with
  | nil => simp [membersTexts]
  | cons m ms ih => rw [membersTexts, List.forall_mem_append, List.forall_mem_cons, ih, List.forall_mem_cons]

/-! ## Normal forms -/

/-- The value is as normalizing leaves it, but for the order of members. -/
inductive Normal : Json → Prop where
  | null : Normal null
  | bool (b : Bool) : Normal (bool b)
  | number {n : Number} (kept : n.normalize = n) : Normal (number n)
  | string {s : String} (kept : composedString s = s) : Normal (string s)
  | array {vs : List Json} (items : ∀ v ∈ vs, Normal v) : Normal (array vs)
  | object {ms : Members} (distinct : ms.keys.Nodup) (kept : ∀ m ∈ ms, composedString m.1 = m.1)
      (members : ∀ m ∈ ms, Normal m.2) : Normal (object ms)

theorem exists_normalize_object (ms : Members) :
    ∃ members : Members, (object ms).normalize = object members ∧ members.keys.Nodup ∧
      ∀ e ∈ members, ∃ m ∈ ms, e = (composedString m.1, m.2.normalize) := by
  refine ⟨_, by rw [normalize, normalizeMembers_eq_map], Members.nodup_keys_ofList _, fun e he => ?_⟩
  obtain ⟨e, hsorted, rfl⟩ := List.mem_map.1 (Members.mem_of_mem_ofList he)
  obtain ⟨m, hm, rfl⟩ := List.mem_map.1 (List.mem_mergeSort.1 hsorted)
  exact ⟨m, hm, rfl⟩

theorem keysDistinct_normalize (v : Json) : v.normalize.keysDistinct = true := by
  induction hsize : sizeOf v using Nat.strongRecOn generalizing v with | ind size ih
  subst hsize
  cases v with
  | null | bool | number | string => rfl
  | array vs =>
    rw [normalize, normalizeItems_eq_map, keysDistinct_array]
    refine List.forall_mem_map.2 fun v hv => ?_
    exact ih _ (Loader.sizeOf_lt_of_mem_items hv) v rfl
  | object ms =>
    obtain ⟨members, hmembers, hnodup, hfrom⟩ := exists_normalize_object ms
    rw [hmembers, keysDistinct_object]
    refine ⟨hnodup, fun e he => ?_⟩
    obtain ⟨m, hm, rfl⟩ := hfrom e he
    exact ih _ (Loader.sizeOf_lt_of_mem_entries hm) m.2 rfl

theorem normal_normalize {v : Json} (h : ∀ s ∈ v.texts, composedString (composedString s) = composedString s) :
    v.normalize.Normal := by
  induction hsize : sizeOf v using Nat.strongRecOn generalizing v with | ind size ih
  subst hsize
  cases v with
  | null => exact .null
  | bool b => exact .bool b
  | number n => exact .number n.normalize_normalize
  | string s => exact .string (h s (List.mem_singleton_self s))
  | array vs =>
    have htexts := forall_itemsTexts.1 h
    rw [normalize, normalizeItems_eq_map]
    refine .array (List.forall_mem_map.2 fun v hv => ?_)
    exact ih _ (Loader.sizeOf_lt_of_mem_items hv) (htexts v hv) rfl
  | object ms =>
    have htexts := forall_membersTexts.1 h
    obtain ⟨members, hmembers, hnodup, hfrom⟩ := exists_normalize_object ms
    rw [hmembers]
    refine .object hnodup (fun e he => ?_) fun e he => ?_
    · obtain ⟨m, hm, rfl⟩ := hfrom e he
      exact (htexts m hm).1
    · obtain ⟨m, hm, rfl⟩ := hfrom e he
      exact ih _ (Loader.sizeOf_lt_of_mem_entries hm) (htexts m hm).2 rfl

/-! ## Normalizing once more -/

theorem Normal.keysDistinct {v : Json} (h : v.Normal) : v.keysDistinct = true := by
  induction h with
  | null | bool | number | string => rfl
  | array _ ih => exact (keysDistinct_array _).2 ih
  | object distinct _ _ ih => exact (keysDistinct_object _).2 ⟨distinct, ih⟩

theorem normalize_object_of_kept {ms : Members} (distinct : ms.keys.Nodup)
    (kept : ∀ m ∈ ms, composedString m.1 = m.1) :
    ∃ sorted : Members, (object ms).normalize = object sorted ∧
      sorted.Perm (ms.map fun m => (m.1, m.2.normalize)) := by
  rw [normalize, normalizeMembers_eq_map]
  have hperm := List.mergeSort_perm (ms.map fun m => (m.1, m.2.normalize)) fun a b => decide (a.1 ≤ b.1)
  generalize (ms.map fun m => (m.1, m.2.normalize)).mergeSort (fun a b => decide (a.1 ≤ b.1)) = sorted
    at hperm ⊢
  have hcomposed : sorted.map (fun e => (composedString e.1, e.2)) = sorted := by
    refine (List.map_congr_left fun e he => ?_).trans (List.map_id sorted)
    obtain ⟨m, hm, rfl⟩ := List.mem_map.1 (hperm.mem_iff.1 he)
    exact Prod.ext (kept m hm) rfl
  have hkeys : (Members.keys sorted).Nodup := by
    have hkeys := hperm.map (·.1)
    rw [List.map_map] at hkeys
    exact hkeys.nodup_iff.2 distinct
  exact ⟨sorted, by rw [hcomposed, Members.ofList_of_nodup _ hkeys], hperm⟩

theorem reordered_object {numbers : Number → Number → Bool} {ms ms' : Members} (hkeys : ms.keys.Perm ms'.keys)
    (h : ∀ m ∈ ms, ∃ w, ms'.get? m.1 = some w ∧ m.2.reordered numbers w = true) :
    (object ms).reordered numbers (object ms') = true := by
  rw [reordered, Bool.and_eq_true, List.isPerm_iff]
  exact ⟨hkeys, (membersReordered_iff numbers).2 h⟩

theorem Normal.permutes {v : Json} (h : v.Normal) : v.normalize.Permutes v := by
  refine ⟨keysDistinct_normalize v, h.keysDistinct, ?_⟩
  induction h with
  | null => rfl
  | bool b => exact beq_self_eq_true b
  | @number n kept =>
    rw [normalize, kept]
    exact decide_eq_true rfl
  | @string s kept =>
    rw [normalize, kept]
    exact beq_self_eq_true s
  | @array vs _ ih =>
    rw [normalize, normalizeItems_eq_map, reordered, itemsReordered_iff]
    exact List.forall₂_map_left_iff.2 (List.forall₂_same.2 ih)
  | @object ms distinct kept _ ih =>
    obtain ⟨sorted, hsorted, hperm⟩ := normalize_object_of_kept distinct kept
    rw [hsorted]
    have hkeys := hperm.map (·.1)
    rw [List.map_map] at hkeys
    refine reordered_object hkeys fun e he => ?_
    obtain ⟨m, hm, rfl⟩ := List.mem_map.1 (hperm.mem_iff.1 he)
    exact ⟨m.2, Members.get?_eq_some_of_mem ms distinct m hm, ih m hm⟩

/-! ## Texts and the order of members -/

theorem sortedText_eq_of_permutes {v w : Json} (h : v.Permutes w) : v.sortedText = w.sortedText := by
  induction hsize : sizeOf v using Nat.strongRecOn generalizing v w with | ind size ih
  subst hsize
  cases h.shape with
  | null | bool | string => rfl
  | number hn => rw [of_decide_eq_true hn]
  | @array vs ws hvs =>
    have htexts : vs.map sortedText = ws.map sortedText := by
      rw [← List.forall₂_eq_eq_eq, List.forall₂_map_left_iff, List.forall₂_map_right_iff]
      refine (forall₂_and_mem hvs).imp ?_
      rintro v w ⟨hvw, hv, _⟩
      exact ih _ (Loader.sizeOf_lt_of_mem_items hv) hvw rfl
    rw [sortedText, sortedText, sortedItems_eq_map, sortedItems_eq_map, htexts]
  | @object ms ms' _ hms =>
    have hquoted : ∀ ms : Members, ms.keys.Nodup →
        ((ms.map fun m => (quote m.1, m.2.sortedText)).map (·.1)).Nodup := by
      intro ms hnodup
      have hquoted := hnodup.map quote_injective
      rw [Members.keys, List.map_map] at hquoted
      rwa [List.map_map]
    have hnodup := hquoted ms ((keysDistinct_object ms).1 h.distinct).1
    have hnodup' := hquoted ms' ((keysDistinct_object ms').1 h.distinct').1
    rw [sortedText, sortedText, sortedMembers_eq_map, sortedMembers_eq_map]
    rw [mergeSort_eq_of_perm hnodup]
    refine perm_map_of_corresponds (hnodup.of_map _) (hnodup'.of_map _) hms ?_
    rintro m hm m' ⟨hkey, hvalue⟩
    rw [hkey, ih _ (Loader.sizeOf_lt_of_mem_entries hm) hvalue rfl]

/-- Normalizing once more leaves a normal form as it is but for the order of members, and neither normalizing nor
that order is seen in the canonical text. -/
theorem normalize_invisible {v : Json}
    (h : ∀ s ∈ v.texts, composedString (composedString s) = composedString s) :
    v.normalize.normalize.Permutes v.normalize ∧ v.normalize.canonical = v.canonical ∧
      ∀ w, v.Permutes w → w.canonical = v.canonical := by
  have hpermutes := (normal_normalize h).permutes
  exact ⟨hpermutes, sortedText_eq_of_permutes hpermutes, fun w hw => hw.canonical_eq.symm⟩

/-- Members that are not in the order of their keys, and an integral double below one of them. -/
theorem normalize_invisible_unsorted :
    let v := object [("b", array [number (.double 1.0 (by decide)), null]), ("\u00e9", string "\n")]
    let w := object [("\u00e9", string "\n"), ("b", array [number (.double 1.0 (by decide)), null])]
    (∀ s ∈ v.texts, composedString (composedString s) = composedString s) ∧ v.Permutes w ∧
      v.normalize.normalize.Permutes v.normalize ∧ v.normalize.canonical = v.canonical ∧
      w.canonical = v.canonical := by
  intro v w
  have htexts : ∀ s ∈ v.texts, composedString (composedString s) = composedString s := by decide +kernel
  have hpermutes : v.Permutes w := ⟨by decide, by decide, by decide +kernel⟩
  obtain ⟨hagain, hsame, hordered⟩ := normalize_invisible htexts
  exact ⟨htexts, hpermutes, hagain, hsame, hordered w hpermutes⟩

end Json

end JsonSchema
