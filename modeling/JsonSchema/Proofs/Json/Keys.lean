import JsonSchema.Json.Basic

/-! # Objects whose keys are distinct -/

namespace JsonSchema

/-! ## Values -/

namespace Json

mutual

/-- No object in the value has a key twice, as in every value that was read from a text. -/
def keysDistinct : Json → Bool
  | array items => itemsKeysDistinct items
  | object ms => decide (ms.map (·.1)).Nodup && membersKeysDistinct ms
  | _ => true

def itemsKeysDistinct : List Json → Bool
  | [] => true
  | v :: vs => v.keysDistinct && itemsKeysDistinct vs

def membersKeysDistinct : List (String × Json) → Bool
  | [] => true
  | (_, v) :: ms => v.keysDistinct && membersKeysDistinct ms

end

theorem itemsKeysDistinct_iff (items : List Json) :
    itemsKeysDistinct items = true ↔ ∀ v ∈ items, v.keysDistinct = true := by
  induction items with
  | nil => simp [itemsKeysDistinct]
  | cons v vs ih => rw [itemsKeysDistinct, Bool.and_eq_true, ih, List.forall_mem_cons]

theorem membersKeysDistinct_iff (ms : Members) :
    membersKeysDistinct ms = true ↔ ∀ m ∈ ms, m.2.keysDistinct = true := by
  induction ms with
  | nil => simp [membersKeysDistinct]
  | cons m ms ih => rw [membersKeysDistinct, Bool.and_eq_true, ih, List.forall_mem_cons]

theorem keysDistinct_array (items : List Json) :
    (array items).keysDistinct = true ↔ ∀ v ∈ items, v.keysDistinct = true := by
  rw [keysDistinct, itemsKeysDistinct_iff]

theorem keysDistinct_object (ms : Members) :
    (object ms).keysDistinct = true ↔ ms.keys.Nodup ∧ ∀ m ∈ ms, m.2.keysDistinct = true := by
  rw [keysDistinct, Bool.and_eq_true, decide_eq_true_iff, membersKeysDistinct_iff, Members.keys]

end Json

/-! ## Members -/

theorem mem_of_lookup [BEq α] [LawfulBEq α] {entries : List (α × β)} {a : α} {b : β}
    (h : entries.lookup a = some b) : (a, b) ∈ entries := by
  obtain ⟨before, after, rfl, _⟩ := List.lookup_eq_some_iff.1 h
  exact List.mem_append_right _ List.mem_cons_self

namespace Members

theorem hasKey_iff (ms : Members) (key : String) : ms.hasKey key = true ↔ key ∈ ms.keys := by
  simp [hasKey, keys]

theorem insert_of_not_mem (ms : Members) (key : String) (value : Json) (h : key ∉ ms.keys) :
    ms.insert key value = ms ++ [(key, value)] := by
  induction ms with
  | nil => rfl
  | cons m ms ih =>
    obtain ⟨hne, hrest⟩ := not_or.1 (mt List.mem_cons.2 h)
    rw [insert, if_neg (Ne.symm hne), ih hrest, List.cons_append]

theorem foldl_insert (ms entries : Members) (h : (ms ++ entries).keys.Nodup) :
    entries.foldl (fun ms e => ms.insert e.1 e.2) ms = ms ++ entries := by
  induction entries generalizing ms with
  | nil => simp
  | cons e entries ih =>
    have hnew : e.1 ∉ ms.keys := by
      intro hmem
      rw [keys, List.map_append, List.nodup_append] at h
      exact h.2.2 e.1 hmem e.1 (by simp) rfl
    rw [List.foldl_cons, insert_of_not_mem ms e.1 e.2 hnew, ih _ (by simpa using h)]
    simp

theorem ofList_of_nodup (ms : Members) (h : ms.keys.Nodup) : ofList ms = ms := foldl_insert [] ms h

theorem get?_eq_some_of_mem (ms : Members) (h : ms.keys.Nodup) (m : String × Json) (hm : m ∈ ms) :
    ms.get? m.1 = some m.2 := by
  induction ms with
  | nil => cases hm
  | cons e ms ih =>
    rw [keys, List.map_cons, List.nodup_cons] at h
    rw [get?, List.lookup_cons]
    rcases List.mem_cons.1 hm with rfl | hm
    · simp
    · have hne : m.1 ≠ e.1 := fun heq => h.1 (heq ▸ List.mem_map_of_mem hm)
      rw [beq_false_of_ne hne]
      exact ih h.2 hm

theorem mem_of_get?_eq_some (ms : Members) (key : String) (v : Json)
    (h : ms.get? key = some v) : (key, v) ∈ ms := mem_of_lookup h

theorem mem_keys_of_get? {ms : Members} {key : String} {v : Json} (h : ms.get? key = some v) :
    key ∈ ms.keys := List.mem_map_of_mem (mem_of_get?_eq_some ms key v h)

theorem get?_eq_none_of_not_mem (ms : Members) (key : String) (h : key ∉ ms.keys) :
    ms.get? key = none := by
  cases hv : ms.get? key with
  | none => rfl
  | some v => exact absurd (mem_keys_of_get? hv) h

end Members

end JsonSchema
