import Mathlib.Data.List.Forall2

/-!
# Lists that are related item by item

The children of a node stand beside the parts of its document, and the nodes of one schema beside
those of another. What follows from that for lists in general is collected here.
-/

namespace JsonSchema

variable {R : α → β → Prop} {as : List α} {bs : List β}

/-! ## Single items -/

theorem exists_of_forall₂ (h : List.Forall₂ R as bs) {a : α} (ha : a ∈ as) : ∃ b ∈ bs, R a b := by
  induction h with
  | nil => cases ha
  | cons hr _ ih =>
    rcases List.mem_cons.1 ha with rfl | ha
    · exact ⟨_, List.mem_cons_self, hr⟩
    · obtain ⟨b, hb, hr⟩ := ih ha
      exact ⟨b, List.mem_cons_of_mem _ hb, hr⟩

theorem getElem?_of_forall₂ (h : List.Forall₂ R as bs) {i : Nat} {a : α} (ha : as[i]? = some a) :
    ∃ b, bs[i]? = some b ∧ R a b := by
  obtain ⟨hlen, hget⟩ := List.forall₂_iff_get.1 h
  obtain ⟨hlt, rfl⟩ := List.getElem?_eq_some_iff.1 ha
  have hlt' : i < bs.length := hlen ▸ hlt
  exact ⟨bs[i], List.getElem?_eq_getElem hlt', hget i hlt hlt'⟩

theorem forall₂_and_mem (h : List.Forall₂ R as bs) :
    List.Forall₂ (fun a b => R a b ∧ a ∈ as ∧ b ∈ bs) as bs := by
  induction h with
  | nil => exact .nil
  | cons hr _ ih =>
    refine .cons ⟨hr, List.mem_cons_self, List.mem_cons_self⟩ (ih.imp ?_)
    rintro a b ⟨h, ha, hb⟩
    exact ⟨h, List.mem_cons_of_mem _ ha, List.mem_cons_of_mem _ hb⟩

theorem forall₂_self {P : α → Prop} (h : ∀ a ∈ as, P a) :
    List.Forall₂ (fun a b => a = b ∧ P a) as as := List.forall₂_same.2 fun a ha => ⟨rfl, h a ha⟩

theorem forall_iff_of_forall₂ {P : α → Prop} {Q : β → Prop} (h : List.Forall₂ R as bs)
    (hiff : ∀ a b, R a b → (P a ↔ Q b)) : (∀ a ∈ as, P a) ↔ ∀ b ∈ bs, Q b := by
  induction h with
  | nil => exact iff_of_true (List.forall_mem_nil _) (List.forall_mem_nil _)
  | cons hab _ ih => rw [List.forall_mem_cons, List.forall_mem_cons, hiff _ _ hab, ih]

theorem forall₂_iff_forall_mem {S : α → β → Prop} {P : α → Prop} (h : List.Forall₂ R as bs)
    (hiff : ∀ a ∈ as, ∀ b, R a b → (S a b ↔ P a)) : List.Forall₂ S as bs ↔ ∀ a ∈ as, P a := by
  induction h with
  | nil => exact iff_of_true .nil (List.forall_mem_nil _)
  | cons hab _ ih =>
    rw [List.forall_mem_cons] at hiff ⊢
    rw [List.forall₂_cons, hiff.1 _ hab, ih hiff.2]

/-! ## Maps and lookups -/

theorem map_eq_map_of_forall₂ {f : α → γ} {g : β → γ} (h : List.Forall₂ (fun a b => f a = g b) as bs) :
    as.map f = bs.map g := by
  rw [← List.forall₂_eq_eq_eq, List.forall₂_map_left_iff, List.forall₂_map_right_iff]
  exact h

theorem eq_map_iff_forall₂ {f : β → α} : as = bs.map f ↔ List.Forall₂ (fun a b => a = f b) as bs := by
  rw [← List.forall₂_map_right_iff, List.forall₂_eq_eq_eq]

theorem keys_of_forall₂ {R : α → β → Prop} {es : List (String × α)} {es' : List (String × β)}
    (h : List.Forall₂ (fun e e' => e.1 = e'.1 ∧ R e.2 e'.2) es es') : es.map (·.1) = es'.map (·.1) :=
  map_eq_map_of_forall₂ (h.imp fun _ _ he => he.1)

theorem rel_lookup_of_forall₂ {R : α → β → Prop} {es : List (String × α)} {es' : List (String × β)}
    (h : List.Forall₂ (fun e e' => e.1 = e'.1 ∧ R e.2 e'.2) es es') (key : String) :
    Option.Rel R (es.lookup key) (es'.lookup key) := by
  induction h with
  | nil => exact .none
  | cons h _ ih =>
    rw [List.lookup_cons, List.lookup_cons, h.1]
    split
    · exact .some h.2
    · exact ih

/-! ## Several lists -/

theorem forall₂_of_common {P : α → γ → Prop} {Q : β → γ → Prop}
    (hR : ∀ a b c, P a c → Q b c → R a b) {cs : List γ} (h : List.Forall₂ P as cs)
    (h' : List.Forall₂ Q bs cs) : List.Forall₂ R as bs := by
  induction h generalizing bs with
  | nil => cases h'; exact .nil
  | cons hP _ ih =>
    cases h' with
    | cons hQ hrest => exact .cons (hR _ _ _ hP hQ) (ih hrest)

theorem forall₂_trans {P : α → γ → Prop} {Q : γ → β → Prop} (hR : ∀ a c b, P a c → Q c b → R a b)
    {cs : List γ} (h : List.Forall₂ P as cs) (h' : List.Forall₂ Q cs bs) : List.Forall₂ R as bs :=
  forall₂_of_common (fun a b c hP hQ => hR a c b hP hQ) h h'.flip

theorem forall₂_comp {S : α → γ → Prop} {S' : β → δ → Prop} {T : γ → δ → Prop}
    (hR : ∀ a c d b, S a c → T c d → S' b d → R a b) {cs : List γ} {ds : List δ}
    (hS : List.Forall₂ S as cs) (hT : List.Forall₂ T cs ds) (hS' : List.Forall₂ S' bs ds) :
    List.Forall₂ R as bs :=
  forall₂_of_common (P := fun a d => ∃ c, S a c ∧ T c d)
    (fun a b d ⟨c, hac, hcd⟩ hbd => hR a c d b hac hcd hbd)
    (forall₂_trans (fun _ c _ hac hcd => ⟨c, hac, hcd⟩) hS hT) hS'

theorem forall₂_zip {S : γ → δ → Prop} {cs : List γ} {ds : List δ} (h : List.Forall₂ R as bs)
    (h' : List.Forall₂ S cs ds) :
    List.Forall₂ (fun e e' => R e.1 e'.1 ∧ S e.2 e'.2) (as.zip cs) (bs.zip ds) := by
  induction h generalizing cs ds with
  | nil => exact .nil
  | cons hr _ ih =>
    cases h' with
    | nil => exact .nil
    | cons hs hrest => exact .cons ⟨hr, hs⟩ (ih hrest)

theorem forall₂_zip_right (h : List.Forall₂ R as bs) (cs : List γ) :
    List.Forall₂ (fun e e' => R e.1 e'.1 ∧ e.2 = e'.2) (as.zip cs) (bs.zip cs) :=
  forall₂_zip h (List.forall₂_same.2 fun _ _ => rfl)

theorem forall₂_zip_left {P : γ → β → Prop} {cs : List γ} (h : List.Forall₂ R as bs)
    (h' : List.Forall₂ P cs bs) :
    List.Forall₂ (fun e b => R e.1 b ∧ P e.2 b) (as.zip cs) bs := by
  induction h generalizing cs with
  | nil => cases h'; exact .nil
  | cons hr _ ih =>
    cases h' with
    | cons hp hrest => exact .cons ⟨hr, hp⟩ (ih hrest)

theorem forall₂_zipIdx (h : List.Forall₂ R as bs) (start : Nat) :
    List.Forall₂ (fun e e' => R e.1 e'.1 ∧ e.2 = e'.2) (as.zipIdx start) (bs.zipIdx start) := by
  induction h generalizing start with
  | nil => exact .nil
  | cons hr _ ih =>
    rw [List.zipIdx_cons, List.zipIdx_cons]
    exact .cons ⟨hr, rfl⟩ (ih (start + 1))

end JsonSchema
