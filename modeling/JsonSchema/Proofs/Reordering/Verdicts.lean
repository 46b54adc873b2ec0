import JsonSchema.Proofs.Coercion.Acceptance
import JsonSchema.Proofs.Places.Failures

/-!
# Runs over items in another order

Two runs over the same items in different orders may stop at different items, and with different errors.
Where both of them answer, their verdicts are the same.
-/

namespace JsonSchema

/-! ## Lists in another order -/

/-- Each item of either list has partners in the other one. -/
structure Corresponds (R : α → β → Prop) (as : List α) (bs : List β) : Prop where
  left : ∀ a ∈ as, ∃ b ∈ bs, R a b
  right : ∀ b ∈ bs, ∃ a ∈ as, R a b

namespace Corresponds

variable {R : α → β → Prop} {as : List α} {bs : List β}

theorem same {R : α → α → Prop} {as : List α} (h : ∀ a ∈ as, R a a) : Corresponds R as as :=
  ⟨fun a ha => ⟨a, ha, h a ha⟩, fun a ha => ⟨a, ha, h a ha⟩⟩

theorem imp {R' : α → β → Prop} (h : Corresponds R as bs) (hR : ∀ a b, R a b → R' a b) :
    Corresponds R' as bs where
  left a ha := by
    obtain ⟨b, hb, hab⟩ := h.left a ha
    exact ⟨b, hb, hR a b hab⟩
  right b hb := by
    obtain ⟨a, ha, hab⟩ := h.right b hb
    exact ⟨a, ha, hR a b hab⟩

theorem map {R' : γ → δ → Prop} {f : α → γ} {g : β → δ} (h : Corresponds R as bs)
    (hR : ∀ a b, R a b → R' (f a) (g b)) : Corresponds R' (as.map f) (bs.map g) where
  left c hc := by
    obtain ⟨a, ha, rfl⟩ := List.mem_map.1 hc
    obtain ⟨b, hb, hab⟩ := h.left a ha
    exact ⟨g b, List.mem_map_of_mem hb, hR a b hab⟩
  right d hd := by
    obtain ⟨b, hb, rfl⟩ := List.mem_map.1 hd
    obtain ⟨a, ha, hab⟩ := h.right b hb
    exact ⟨f a, List.mem_map_of_mem ha, hR a b hab⟩

theorem filter {p : α → Bool} {q : β → Bool} (h : Corresponds R as bs)
    (hpq : ∀ a b, R a b → p a = q b) : Corresponds R (as.filter p) (bs.filter q) where
  left a ha := by
    obtain ⟨ha, hp⟩ := List.mem_filter.1 ha
    obtain ⟨b, hb, hab⟩ := h.left a ha
    exact ⟨b, List.mem_filter.2 ⟨hb, hpq a b hab ▸ hp⟩, hab⟩
  right b hb := by
    obtain ⟨hb, hq⟩ := List.mem_filter.1 hb
    obtain ⟨a, ha, hab⟩ := h.right b hb
    exact ⟨a, List.mem_filter.2 ⟨ha, hpq a b hab ▸ hq⟩, hab⟩

theorem filterMap {R' : γ → δ → Prop} {f : α → Option γ} {g : β → Option δ} (h : Corresponds R as bs)
    (hR : ∀ a b, R a b → Option.Rel R' (f a) (g b)) :
    Corresponds R' (as.filterMap f) (bs.filterMap g) where
  left c hc := by
    obtain ⟨a, ha, hfa⟩ := List.mem_filterMap.1 hc
    obtain ⟨b, hb, hab⟩ := h.left a ha
    have hrel := hR a b hab
    rw [hfa] at hrel
    generalize hgb : g b = d? at hrel
    cases hrel with
    | some hcd => exact ⟨_, List.mem_filterMap.2 ⟨b, hb, hgb⟩, hcd⟩
  right d hd := by
    obtain ⟨b, hb, hgb⟩ := List.mem_filterMap.1 hd
    obtain ⟨a, ha, hab⟩ := h.right b hb
    have hrel := hR a b hab
    rw [hgb] at hrel
    generalize hfa : f a = c? at hrel
    cases hrel with
    | some hcd => exact ⟨_, List.mem_filterMap.2 ⟨a, ha, hfa⟩, hcd⟩

theorem and_mem (h : Corresponds R as bs) : Corresponds (fun a b => R a b ∧ a ∈ as ∧ b ∈ bs) as bs where
  left a ha := by
    obtain ⟨b, hb, hab⟩ := h.left a ha
    exact ⟨b, hb, hab, ha, hb⟩
  right b hb := by
    obtain ⟨a, ha, hab⟩ := h.right b hb
    exact ⟨a, ha, hab, ha, hb⟩

theorem any_eq {p : α → Bool} {q : β → Bool} (h : Corresponds R as bs)
    (hpq : ∀ a b, R a b → p a = q b) : as.any p = bs.any q := by
  rw [Bool.eq_iff_iff, List.any_eq_true, List.any_eq_true]
  constructor
  · rintro ⟨a, ha, hp⟩
    obtain ⟨b, hb, hab⟩ := h.left a ha
    exact ⟨b, hb, hpq a b hab ▸ hp⟩
  · rintro ⟨b, hb, hq⟩
    obtain ⟨a, ha, hab⟩ := h.right b hb
    exact ⟨a, ha, hpq a b hab ▸ hq⟩

theorem isEmpty_eq (h : Corresponds R as bs) : as.isEmpty = bs.isEmpty := by
  have hany := h.any_eq (p := fun _ => true) (q := fun _ => true) fun _ _ _ => rfl
  cases as <;> cases bs <;> simp_all

end Corresponds

/-! ## Answers of two runs -/

/-- Where both runs answer, their answers are related. -/
def Consistent (r : α → β → Prop) (x : Except SchemaError α) (y : Except SchemaError β) : Prop :=
  ∀ a b, x = .ok a → y = .ok b → r a b

namespace Consistent

variable {r : α → β → Prop}

theorem ok {a : α} {b : β} (h : r a b) : Consistent r (.ok a) (.ok b) := by
  rintro _ _ ⟨⟩ ⟨⟩
  exact h

theorem error_left (e : SchemaError) (y : Except SchemaError β) : Consistent r (.error e) y := by
  rintro _ _ ⟨⟩

theorem error_right (x : Except SchemaError α) (e : SchemaError) : Consistent r x (.error e) := by
  rintro _ _ _ ⟨⟩

theorem bind {r' : γ → δ → Prop} {x : Except SchemaError α} {y : Except SchemaError β}
    {f : α → Except SchemaError γ} {g : β → Except SchemaError δ} (h : Consistent r x y)
    (hfg : ∀ a b, r a b → Consistent r' (f a) (g b)) : Consistent r' (x >>= f) (y >>= g) := by
  intro c d hc hd
  obtain ⟨a, ha, hc⟩ := Except.bind_eq_ok_iff.1 hc
  obtain ⟨b, hb, hd⟩ := Except.bind_eq_ok_iff.1 hd
  exact hfg a b (h a b ha hb) c d hc hd

theorem map {r' : γ → δ → Prop} {x : Except SchemaError α} {y : Except SchemaError β} {f : α → γ}
    {g : β → δ} (h : Consistent r x y) (hfg : ∀ a b, r a b → r' (f a) (g b)) :
    Consistent r' (x.map f) (y.map g) := by
  intro c d hc hd
  obtain ⟨a, ha, rfl⟩ := Except.map_eq_ok_iff.1 hc
  obtain ⟨b, hb, rfl⟩ := Except.map_eq_ok_iff.1 hd
  exact hfg a b (h a b ha hb)

end Consistent

/-- The one outcome has failures exactly if the other one has, unless there is an error. -/
abbrev SameVerdict (o o' : Outcome) : Prop :=
  Consistent (fun found found' => found = [] ↔ found' = []) o o'

theorem SameVerdict.symm {o o' : Outcome} (h : SameVerdict o o') : SameVerdict o' o :=
  fun found found' hfound hfound' => (h found' found hfound' hfound).symm

namespace Outcome

theorem sameVerdict_pass : SameVerdict pass pass := .ok Iff.rfl

theorem sameVerdict_require {holds holds' : Bool} (hholds : holds = holds') (p q : Location)
    (keyword keyword' : String) (complaint complaint' : Complaint) (v w : Json) :
    SameVerdict (require holds p keyword complaint v) (require holds' q keyword' complaint' w) := by
  subst hholds
  refine .ok ?_
  cases holds <;> simp

/-! ## Outcomes of items in another order -/

/-- The outcome passes only if all items pass, and its failures are failures of items. -/
structure Gathers (o : Outcome) (f : α → Outcome) (as : List α) : Prop where
  passes : o = .ok [] → ∀ a ∈ as, f a = .ok []
  fails : ∀ found, o = .ok found → ∀ failure ∈ found,
    ∃ a ∈ as, ∃ part, f a = .ok part ∧ failure ∈ part

theorem gathers_ofFirst (f : α → Outcome) (as : List α) : Gathers (ofFirst f as) f as where
  passes := eq_pass_of_ofFirst
  fails := every_ofFirst fun a ha part hpart _ hfailure => ⟨a, ha, part, hpart, hfailure⟩

theorem gathers_ofAll (stop : Bool) (f : α → Outcome) (as : List α) :
    Gathers (ofAll stop f as) f as where
  passes := eq_pass_of_ofAll
  fails := every_ofAll stop fun a ha part hpart _ hfailure => ⟨a, ha, part, hpart, hfailure⟩

variable {R : α → β → Prop} {f : α → Outcome} {g : β → Outcome} {as : List α} {bs : List β}
  {o o' : Outcome}

theorem Gathers.eq_nil (ho : Gathers o f as) (ho' : Gathers o' g bs) (hR : ∀ b ∈ bs, ∃ a ∈ as, R a b)
    (h : ∀ a b, R a b → SameVerdict (f a) (g b)) (hpass : o = .ok []) {found : List Failure}
    (hfound : o' = .ok found) : found = [] := by
  rw [List.eq_nil_iff_forall_not_mem]
  intro failure hfailure
  obtain ⟨b, hb, part, hpart, hmem⟩ := ho'.fails found hfound failure hfailure
  obtain ⟨a, ha, hab⟩ := hR b hb
  have hempty := (h a b hab [] part (ho.passes hpass a ha) hpart).1 rfl
  rw [hempty] at hmem
  cases hmem

theorem Gathers.sameVerdict (ho : Gathers o f as) (ho' : Gathers o' g bs) (hR : Corresponds R as bs)
    (h : ∀ a b, R a b → SameVerdict (f a) (g b)) : SameVerdict o o' := by
  intro found found' hfound hfound'
  constructor
  · rintro rfl
    exact ho.eq_nil ho' hR.right h hfound hfound'
  · rintro rfl
    exact ho'.eq_nil ho hR.left (fun b a hab => (h a b hab).symm) hfound' hfound

theorem sameVerdict_ofFirst (hR : Corresponds R as bs) (h : ∀ a b, R a b → SameVerdict (f a) (g b)) :
    SameVerdict (ofFirst f as) (ofFirst g bs) :=
  (gathers_ofFirst f as).sameVerdict (gathers_ofFirst g bs) hR h

theorem sameVerdict_ofAll (stop stop' : Bool) (hR : Corresponds R as bs)
    (h : ∀ a b, R a b → SameVerdict (f a) (g b)) :
    SameVerdict (ofAll stop f as) (ofAll stop' g bs) :=
  (gathers_ofAll stop f as).sameVerdict (gathers_ofAll stop' g bs) hR h

end Outcome

/-! ## Counting -/

namespace Keyword

theorem consistent_accepts {judge judge' : Judge} {v w : Json} {p q : Location} {x y : NodeId}
    (h : SameVerdict (judge x v p) (judge' y w q)) :
    Consistent Eq (accepts judge v p x) (accepts judge' w q y) := by
  refine h.map fun found found' hfound => ?_
  rw [Bool.eq_iff_iff, List.isEmpty_iff, List.isEmpty_iff]
  exact hfound

variable {R : α → β → Prop} {f : α → Except SchemaError Bool} {g : β → Except SchemaError Bool}
  (h : ∀ a b, R a b → Consistent Eq (f a) (g b)) {as : List α} {bs : List β}
include h

theorem consistent_countAccepted (hab : List.Forall₂ R as bs) :
    Consistent Eq (countAccepted f as) (countAccepted g bs) := by
  induction hab with
  | nil => exact .ok rfl
  | @cons a b as bs hr _ ih =>
    refine (h a b hr).bind fun accepted _ haccepted => ih.bind fun n _ hn => ?_
    subst haccepted hn
    exact .ok rfl

theorem consistent_anyAccepted (hab : List.Forall₂ R as bs) :
    Consistent Eq (anyAccepted f as) (anyAccepted g bs) := by
  induction hab with
  | nil => exact .ok rfl
  | @cons a b as bs hr _ ih =>
    refine (h a b hr).bind fun accepted _ haccepted => ?_
    subst haccepted
    cases accepted with
    | true => exact .ok rfl
    | false => exact ih

end Keyword

end JsonSchema
