import JsonSchema.Proofs.Json.Keys
import JsonSchema.Json.Reader

/-! # Members that are put into an object -/

namespace JsonSchema

theorem lookup_eq_some_of_mem [BEq α] [LawfulBEq α] {entries : List (α × β)}
    (h : (entries.map (·.1)).Nodup) {a : α} {b : β} (hm : (a, b) ∈ entries) :
    entries.lookup a = some b := by
  obtain ⟨before, after, rfl⟩ := List.append_of_mem hm
  refine List.lookup_eq_some_iff.2 ⟨before, after, rfl, fun e he => ?_⟩
  rw [List.map_append, List.nodup_append] at h
  have hne := h.2.2 e.1 (List.mem_map_of_mem he) a (by simp)
  simpa using Ne.symm hne

namespace Members

/-! ## One member -/

theorem get?_insert_of_ne {k key : String} (h : k ≠ key) (ms : Members) (value : Json) :
    (ms.insert key value).get? k = ms.get? k := by
  have hne : (k == key) = false := by simpa using h
  induction ms with
  | nil => simp [insert, get?, List.lookup_cons, hne]
  | cons e ms ih =>
    obtain ⟨k', v⟩ := e
    unfold insert
    split
    · next heq => simp [get?, List.lookup_cons, heq, hne]
    · simp only [get?, List.lookup_cons] at ih ⊢
      rw [ih]

theorem get?_insert (ms : Members) (key : String) (value : Json) (k : String) :
    (ms.insert key value).get? k = if k = key then some value else ms.get? k := by
  split
  · next h => rw [h, get?_insert_self]
  · next h => exact get?_insert_of_ne h ms value

theorem mem_keys_iff (ms : Members) (key : String) :
    key ∈ ms.keys ↔ ∃ v, ms.get? key = some v := by
  constructor
  · intro h
    cases hv : ms.get? key with
    | some v => exact ⟨v, rfl⟩
    | none =>
      obtain ⟨m, hm, rfl⟩ := List.mem_map.1 h
      have := List.lookup_eq_none_iff.1 hv m hm
      simp at this
  · rintro ⟨v, hv⟩
    exact mem_keys_of_get? hv

theorem keys_insert_of_mem {ms : Members} {key : String} (h : key ∈ ms.keys) (value : Json) :
    (ms.insert key value).keys = ms.keys := by
  rw [keys_insert, if_pos h]

theorem nodup_keys_insert {ms : Members} (h : ms.keys.Nodup) (key : String) (value : Json) :
    (ms.insert key value).keys.Nodup := by
  rw [keys_insert]
  split
  · exact h
  · next hnew =>
    refine List.nodup_append.2 ⟨h, by simp, ?_⟩
    rintro k hk k' hk' rfl
    exact hnew (List.mem_singleton.1 hk' ▸ hk)

theorem insert_eq_self {ms : Members} {key : String} {value : Json}
    (h : ms.get? key = some value) : ms.insert key value = ms := by
  induction ms with
  | nil => simp [get?] at h
  | cons e ms ih =>
    obtain ⟨k, v⟩ := e
    unfold insert
    rw [get?, List.lookup_cons] at h
    split
    · next heq =>
      rw [beq_iff_eq.2 heq.symm] at h
      cases h
      rw [heq]
    · next hne =>
      rw [beq_false_of_ne (Ne.symm hne)] at h
      rw [ih h]

theorem eq_of_get? {a b : Members} (ha : a.keys.Nodup) (hkeys : a.keys = b.keys)
    (hget : ∀ k ∈ a.keys, a.get? k = b.get? k) : a = b := by
  have hb : b.keys.Nodup := hkeys ▸ ha
  refine List.ext_getElem (by simpa [keys] using congrArg List.length hkeys) fun i hi hi' => ?_
  have hkey : (a[i]).1 = (b[i]).1 := by
    have := List.getElem_of_eq hkeys (i := i) (by simpa [keys] using hi)
    simpa [keys] using this
  have hvalue := hget _ (List.mem_map_of_mem (List.getElem_mem hi))
  rw [get?_eq_some_of_mem a ha _ (List.getElem_mem hi), hkey,
    get?_eq_some_of_mem b hb _ (List.getElem_mem hi'), Option.some.injEq] at hvalue
  exact Prod.ext hkey hvalue

/-! ## Many members -/

def insertAll (ms entries : Members) : Members := entries.foldl (fun ms e => ms.insert e.1 e.2) ms

theorem insertAll_cons (ms : Members) (e : String × Json) (entries : Members) :
    ms.insertAll (e :: entries) = (ms.insert e.1 e.2).insertAll entries := rfl

theorem insertAll_append {ms entries : Members} (h : (ms ++ entries).keys.Nodup) :
    ms.insertAll entries = ms ++ entries := foldl_insert ms entries h

theorem nodup_keys_insertAll {ms : Members} (h : ms.keys.Nodup) (entries : Members) :
    (ms.insertAll entries).keys.Nodup := by
  induction entries generalizing ms with
  | nil => exact h
  | cons e entries ih => exact ih (nodup_keys_insert h e.1 e.2)

theorem keys_insertAll_congr {ms ms' entries entries' : Members} (hms : ms.keys = ms'.keys)
    (h : entries.keys = entries'.keys) :
    (ms.insertAll entries).keys = (ms'.insertAll entries').keys := by
  induction entries generalizing ms ms' entries' with
  | nil =>
    cases entries' with
    | nil => exact hms
    | cons => simp [keys] at h
  | cons e entries ih =>
    cases entries' with
    | nil => simp [keys] at h
    | cons e' entries' =>
      obtain ⟨hkey, h⟩ : e.1 = e'.1 ∧ keys entries = keys entries' := List.cons.inj h
      rw [insertAll_cons, insertAll_cons]
      refine ih ?_ h
      simp only [keys_insert, hms, hkey]

theorem get?_insertAll {entries : Members} {value? : String → Option Json}
    (h : ∀ m ∈ entries, value? m.1 = some m.2) (ms : Members) (k : String) :
    (ms.insertAll entries).get? k = if k ∈ entries.keys then value? k else ms.get? k := by
  induction entries generalizing ms with
  | nil => rfl
  | cons e entries ih =>
    obtain ⟨he, h⟩ := List.forall_mem_cons.1 h
    rw [insertAll_cons, ih h, get?_insert]
    have hcons : k ∈ keys (e :: entries) ↔ k = e.1 ∨ k ∈ keys entries := List.mem_cons
    by_cases heq : k = e.1
    · subst heq
      simp [hcons, he]
    · simp [hcons, heq]

theorem get?_insertAll_of_not_mem {entries : Members} {k : String} (h : k ∉ entries.keys)
    (ms : Members) : (ms.insertAll entries).get? k = ms.get? k := by
  induction entries generalizing ms with
  | nil => rfl
  | cons e entries ih =>
    obtain ⟨hne, hrest⟩ := not_or.1 (mt List.mem_cons.2 h)
    rw [insertAll_cons, ih hrest, get?_insert_of_ne hne]

theorem insertAll_eq_self {ms entries : Members} (h : ∀ m ∈ entries, ms.get? m.1 = some m.2) :
    ms.insertAll entries = ms := by
  induction entries with
  | nil => rfl
  | cons e entries ih =>
    obtain ⟨he, h⟩ := List.forall_mem_cons.1 h
    rw [insertAll_cons, insert_eq_self he, ih h]

end Members

end JsonSchema
