import JsonSchema.Proofs.Building.Orderly

/-! # Looking keywords up after a change -/

namespace JsonSchema

namespace Node

/-- The parts that are looked for are parts of keywords of one name. -/
def PartOf (name : String) (part? : Keyword → Option α) : Prop :=
  ∀ k a, part? k = some a → k.name = name

variable {part? : Keyword → Option α} {name : String} (hpart : PartOf name part?) {n : Node}
include hpart

theorem PartOf.eq_none {k : Keyword} (hk : k.name ≠ name) : part? k = none :=
  Option.eq_none_iff_forall_ne_some.2 fun a ha => hk (hpart k a ha)

theorem find?_setKeyword_of_ne {k : Keyword} (hk : k.name ≠ name) :
    (n.setKeyword k).find? part? = n.find? part? := by
  unfold find? setKeyword
  dsimp only
  induction n.keywords with
  | nil => rw [setKeyword.replace, List.findSome?_cons, hpart.eq_none hk]
  | cons old ks ih =>
    rw [setKeyword.replace]
    split
    · next hsame =>
      rw [List.findSome?_cons, List.findSome?_cons, hpart.eq_none hk,
        hpart.eq_none (hsame ▸ hk)]
    · rw [List.findSome?_cons, List.findSome?_cons, ih]

theorem find?_setKeyword (hn : (n.keywords.map (·.name)).Nodup) {k : Keyword} (hk : k.name = name) :
    (n.setKeyword k).find? part? = part? k := by
  unfold find? setKeyword
  dsimp only
  generalize n.keywords = ks at hn ⊢
  induction ks with
  | nil =>
    rw [setKeyword.replace, List.findSome?_cons, List.findSome?_nil]
    cases part? k <;> rfl
  | cons old ks ih =>
    obtain ⟨hold, hks⟩ := List.nodup_cons.1 hn
    rw [setKeyword.replace]
    split
    · next hsame =>
      have hrest : ks.findSome? part? = none := by
        refine List.findSome?_eq_none_iff.2 fun k' hk' => hpart.eq_none fun hname => ?_
        exact hold (List.mem_map.2 ⟨k', hk', hname.trans (hsame.trans hk).symm⟩)
      rw [List.findSome?_cons, hrest]
      cases part? k <;> rfl
    · next hne =>
      rw [List.findSome?_cons, hpart.eq_none fun hname => hne (hname.trans hk.symm), ih hks]

theorem find?_removeKeyword_of_ne {removed : String} (hne : removed ≠ name) :
    (n.removeKeyword removed).find? part? = n.find? part? := by
  unfold find? removeKeyword
  dsimp only
  induction n.keywords with
  | nil => rfl
  | cons k ks ih =>
    rw [List.filter_cons]
    split
    · rw [List.findSome?_cons, List.findSome?_cons, ih]
    · next hk =>
      have hname : k.name ≠ name := by
        rintro rfl
        exact hk (by simpa using Ne.symm hne)
      rw [List.findSome?_cons, hpart.eq_none hname, ih]

theorem find?_removeKeyword (n : Node) : (n.removeKeyword name).find? part? = none := by
  refine List.findSome?_eq_none_iff.2 fun k hk => hpart.eq_none ?_
  obtain ⟨_, hne⟩ := List.mem_filter.1 hk
  simpa using hne

omit hpart in
theorem mem_setKeyword {k k' : Keyword} (h : k' ∈ (n.setKeyword k).keywords) :
    k' = k ∨ k' ∈ n.keywords := by
  unfold setKeyword at h
  dsimp only at h
  generalize n.keywords = ks at h ⊢
  induction ks with
  | nil => exact .inl (List.mem_singleton.1 h)
  | cons old ks ih =>
    rw [setKeyword.replace] at h
    split at h
    · rcases List.mem_cons.1 h with h | h
      · exact .inl h
      · exact .inr (List.mem_cons_of_mem _ h)
    · rcases List.mem_cons.1 h with h | h
      · exact .inr (h ▸ List.mem_cons_self)
      · exact (ih h).imp id (List.mem_cons_of_mem _)

omit hpart in
theorem mem_setKeyword_self (n : Node) (k : Keyword) : k ∈ (n.setKeyword k).keywords := by
  unfold setKeyword
  dsimp only
  induction n.keywords with
  | nil => exact List.mem_cons_self
  | cons old ks ih =>
    rw [setKeyword.replace]
    split
    · exact List.mem_cons_self
    · exact List.mem_cons_of_mem _ ih

omit hpart in
theorem mem_setKeyword_of_mem {k k' : Keyword} (h : k' ∈ n.keywords) (hne : k'.name ≠ k.name) :
    k' ∈ (n.setKeyword k).keywords := by
  unfold setKeyword
  dsimp only
  generalize n.keywords = ks at h ⊢
  induction ks with
  | nil => cases h
  | cons old ks ih =>
    rw [setKeyword.replace]
    rcases List.mem_cons.1 h with rfl | h
    · rw [if_neg hne]
      exact List.mem_cons_self
    · split
      · exact List.mem_cons_of_mem _ h
      · exact List.mem_cons_of_mem _ (ih h)

omit hpart in
theorem mem_setKeyword_iff (hn : (n.keywords.map (·.name)).Nodup) {k k' : Keyword} :
    k' ∈ (n.setKeyword k).keywords ↔ k' = k ∨ k' ∈ n.keywords ∧ k'.name ≠ k.name := by
  constructor
  · intro h
    by_cases hname : k'.name = k.name
    · have hnames : ((n.setKeyword k).keywords.map (·.name)).Nodup := nodup_names_setKeyword hn k
      exact .inl (List.inj_on_of_nodup_map hnames h (mem_setKeyword_self n k) hname)
    · rcases mem_setKeyword h with rfl | h
      · exact absurd rfl hname
      · exact .inr ⟨h, hname⟩
  · rintro (rfl | ⟨h, hname⟩)
    · exact mem_setKeyword_self n k'
    · exact mem_setKeyword_of_mem h hname

end Node

end JsonSchema
