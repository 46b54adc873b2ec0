import JsonSchema.Proofs.Except
import JsonSchema.Proofs.Json.Keys
import JsonSchema.Schema.Evaluation

/-!
# Two runs that agree

The second run has to answer what the first one answers, up to a relation between the answers. What
it has to do where the first one has an error is told by a tolerance.
-/

namespace JsonSchema

/-- What may come of the second run where the first one has an error. -/
structure Tolerance where
  /-- After such an error anything may. -/
  forgiving : SchemaError → Prop
  errors : SchemaError → SchemaError → Prop
  refl : ∀ e, errors e e

namespace Tolerance

variable {T : Tolerance}

def Agree (T : Tolerance) (r : α → β → Prop) (x : Except SchemaError α)
    (y : Except SchemaError β) : Prop :=
  match x with
  | .ok a => ∃ b, y = .ok b ∧ r a b
  | .error e => T.forgiving e ∨ ∃ e', y = .error e' ∧ T.errors e e'

theorem Agree.ok {r : α → β → Prop} {a : α} {b : β} (h : r a b) : T.Agree r (.ok a) (.ok b) :=
  ⟨b, rfl, h⟩

theorem Agree.error {r : α → β → Prop} (e : SchemaError) : T.Agree r (.error e) (.error e) :=
  .inr ⟨e, rfl, T.refl e⟩

theorem Agree.same {r : α → α → Prop} (hr : ∀ a, r a a) (x : Except SchemaError α) : T.Agree r x x := by
  cases x with
  | error e => exact .error e
  | ok a => exact .ok (hr a)

theorem Agree.bind {r : α → β → Prop} {r' : γ → δ → Prop} {x : Except SchemaError α}
    {y : Except SchemaError β} {f : α → Except SchemaError γ} {g : β → Except SchemaError δ}
    (h : T.Agree r x y) (hfg : ∀ a b, r a b → T.Agree r' (f a) (g b)) :
    T.Agree r' (x >>= f) (y >>= g) := by
  cases x with
  | error e =>
    rcases h with h | ⟨e', rfl, he⟩
    · exact .inl h
    · exact .inr ⟨e', rfl, he⟩
  | ok a =>
    obtain ⟨b, rfl, hab⟩ := h
    exact hfg a b hab

theorem Agree.map {r : α → β → Prop} {r' : γ → δ → Prop} {x : Except SchemaError α}
    {y : Except SchemaError β} {f : α → γ} {g : β → δ} (h : T.Agree r x y)
    (hfg : ∀ a b, r a b → r' (f a) (g b)) : T.Agree r' (x.map f) (y.map g) := by
  cases x with
  | error e =>
    rcases h with h | ⟨e', rfl, he⟩
    · exact .inl h
    · exact .inr ⟨e', rfl, he⟩
  | ok a =>
    obtain ⟨b, rfl, hab⟩ := h
    exact ⟨g b, rfl, hfg a b hab⟩

theorem Agree.mapM {R : α → β → Prop} {r : γ → δ → Prop} {f : α → Except SchemaError γ}
    {g : β → Except SchemaError δ} (h : ∀ a b, R a b → T.Agree r (f a) (g b)) {as : List α}
    {bs : List β} (hab : List.Forall₂ R as bs) :
    T.Agree (List.Forall₂ r) (as.mapM f) (bs.mapM g) := by
  induction hab with
  | nil => exact .ok .nil
  | @cons a b as bs hr _ ih =>
    rw [List.mapM_cons, List.mapM_cons]
    refine (h a b hr).bind fun c d hcd => ih.bind fun cs ds hcds => ?_
    exact .ok (.cons hcd hcds)

end Tolerance

/-! ## Outcomes -/

/-- How the judgements of two runs are compared. -/
structure Comparison extends Tolerance where
  failures : List Failure → List Failure → Prop
  locations : Location → Location → Prop
  leaves : Leaf → Leaf → Prop
  /-- The values that are judged. -/
  values : Json → Prop
  nil : failures [] []
  nil_iff : ∀ {found found'}, failures found found' → (found = [] ↔ found' = [])
  append : ∀ {found found' more more'}, failures found found' → failures more more' →
    failures (found ++ more) (found' ++ more')
  failure : ∀ {p q} (keyword complaint v), locations p q →
    failures [p.failure keyword complaint v] [q.failure keyword complaint v]
  descend : ∀ {p q} (keywords instances), locations p q →
    locations (p.descend keywords instances) (q.descend keywords instances)
  items : ∀ {items}, values (.array items) → ∀ v ∈ items, values v
  members : ∀ {ms}, values (.object ms) → ∀ m ∈ ms, values m.2 ∧ values (.string m.1)

namespace Comparison

variable {C : Comparison} {R : α → β → Prop}

theorem agree_require {holds holds' : Bool} (hholds : holds = holds') {p q : Location}
    (hat : C.locations p q) (keyword : String) (complaint : Complaint) (v : Json) :
    C.Agree C.failures (Outcome.require holds p keyword complaint v)
      (Outcome.require holds' q keyword complaint v) := by
  subst hholds
  refine .ok ?_
  split
  · exact C.nil
  · exact C.failure _ _ _ hat

theorem agree_pass : C.Agree C.failures Outcome.pass Outcome.pass := .ok C.nil

theorem agree_ofFirst {f : α → Outcome} {g : β → Outcome}
    (h : ∀ a b, R a b → C.Agree C.failures (f a) (g b)) {as : List α} {bs : List β}
    (hab : List.Forall₂ R as bs) :
    C.Agree C.failures (Outcome.ofFirst f as) (Outcome.ofFirst g bs) := by
  induction hab with
  | nil => exact agree_pass
  | @cons a b as bs hr _ ih =>
    refine (h a b hr).bind fun found found' hfound => ?_
    have hnil := C.nil_iff hfound
    by_cases hempty : found = []
    · rw [hempty, hnil.1 hempty]
      exact ih
    · have hempty' : found' ≠ [] := mt hnil.2 hempty
      simp only [List.isEmpty_iff, hempty, hempty', if_false]
      exact .ok hfound

theorem agree_ofAll (stop : Bool) {f : α → Outcome} {g : β → Outcome}
    (h : ∀ a b, R a b → C.Agree C.failures (f a) (g b)) {as : List α} {bs : List β}
    (hab : List.Forall₂ R as bs) :
    C.Agree C.failures (Outcome.ofAll stop f as) (Outcome.ofAll stop g bs) := by
  induction hab with
  | nil => exact agree_pass
  | @cons a b as bs hr _ ih =>
    refine (h a b hr).bind fun found found' hfound => ?_
    have hempty : found.isEmpty = found'.isEmpty := by
      rw [Bool.eq_iff_iff, List.isEmpty_iff, List.isEmpty_iff]
      exact C.nil_iff hfound
    have hrest : C.Agree C.failures (Outcome.ofAll stop f as >>= fun more => .ok (found ++ more))
        (Outcome.ofAll stop g bs >>= fun more => .ok (found' ++ more)) :=
      ih.bind fun more more' hmore => .ok (C.append hfound hmore)
    rw [hempty]
    split
    · exact .ok hfound
    · exact hrest

theorem agree_countAccepted {f : α → Except SchemaError Bool} {g : β → Except SchemaError Bool}
    (h : ∀ a b, R a b → C.Agree Eq (f a) (g b)) {as : List α} {bs : List β}
    (hab : List.Forall₂ R as bs) :
    C.Agree Eq (Keyword.countAccepted f as) (Keyword.countAccepted g bs) := by
  induction hab with
  | nil => exact .ok rfl
  | @cons a b as bs hr _ ih =>
    refine (h a b hr).bind fun accepted _ haccepted => ih.bind fun n _ hn => ?_
    subst haccepted hn
    exact .ok rfl

theorem agree_anyAccepted {f : α → Except SchemaError Bool} {g : β → Except SchemaError Bool}
    (h : ∀ a b, R a b → C.Agree Eq (f a) (g b)) {as : List α} {bs : List β}
    (hab : List.Forall₂ R as bs) :
    C.Agree Eq (Keyword.anyAccepted f as) (Keyword.anyAccepted g bs) := by
  induction hab with
  | nil => exact .ok rfl
  | @cons a b as bs hr _ ih =>
    refine (h a b hr).bind fun accepted _ haccepted => ?_
    subst haccepted
    cases accepted with
    | true => exact .ok rfl
    | false => exact ih

end Comparison

end JsonSchema
