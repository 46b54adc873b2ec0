import JsonSchema.Proofs.Coercion.Members
import JsonSchema.Proofs.Json.Reading

/-!
# The text of an object begins with a brace

Text is read as an object only after a look at its first character. Nothing is missed by that: behind
the white space, text of an object begins with a brace.
-/

namespace JsonSchema

/-! ## The first token -/

namespace Token

variable {c : Char} {cs rest : List Char} {t : Token}

/-- Only braces and brackets tell of objects and arrays. -/
theorem next?_cases (h : next? c cs = some (t, rest)) :
    punctuation? c = some t ∨ (∃ s, t = .text s) ∨ ∃ v, t = .scalar v ∧ ∀ ms, v ≠ .object ms := by
  unfold next? at h
  split at h
  · next hpunctuation =>
    cases h
    exact .inl hpunctuation
  · split at h
    · obtain ⟨_, _, heq⟩ := Option.map_eq_some_iff.1 h
      cases heq
      exact .inr (.inl ⟨_, rfl⟩)
    · split at h
      · obtain ⟨_, _, heq⟩ := Option.map_eq_some_iff.1 h
        cases heq
        exact .inr (.inr ⟨_, rfl, nofun⟩)
      · obtain ⟨_, hname, heq⟩ := Option.map_eq_some_iff.1 h
        cases heq
        refine .inr (.inr ⟨_, rfl, ?_⟩)
        unfold name? at hname
        split at hname <;> cases hname <;> nofun

theorem eq_brace_of_next? (h : next? c cs = some (.openObject, rest)) : c = '{' := by
  rcases next?_cases h with hpunctuation | ⟨_, heq⟩ | ⟨_, heq, _⟩
  · unfold punctuation? at hpunctuation
    split at hpunctuation <;> cases hpunctuation
    rfl
  · cases heq
  · cases heq

theorem ne_object_of_next? (h : next? c cs = some (t, rest)) (ms : Members) : t ≠ .scalar (.object ms) := by
  rintro rfl
  rcases next?_cases h with hpunctuation | ⟨_, heq⟩ | ⟨_, heq, hother⟩
  · unfold punctuation? at hpunctuation
    split at hpunctuation <;> cases hpunctuation
  · cases heq
  · cases heq
    exact hother ms rfl

theorem isBlank_of_isBlank (h : isBlank c = true) : Text.isBlank c = true := by
  simp only [isBlank, Bool.or_eq_true, beq_iff_eq] at h
  rcases h with ((rfl | rfl) | rfl) | rfl <;> decide

theorem exists_next?_of_scan? {ts : List Token} (h : scan? cs = some (t :: ts)) :
    ∃ c behind later, next? c behind = some (t, later) ∧
      (Text.isBlank c = false → Text.trimStart cs = c :: behind) := by
  fun_induction scan? cs generalizing ts with
  | case1 => cases h
  | case2 c cs hblank ih =>
    have htrim : Text.trimStart (c :: cs) = Text.trimStart cs :=
      List.dropWhile_cons_of_pos (isBlank_of_isBlank hblank)
    rw [htrim]
    exact ih h
  | case3 c cs _ t' rest hnext _ =>
    obtain ⟨_, _, heq⟩ := Option.map_eq_some_iff.1 h
    obtain ⟨rfl, rfl⟩ := List.cons.inj heq
    refine ⟨c, cs, rest, hnext, fun hbare => ?_⟩
    exact List.dropWhile_cons_of_neg (by rw [hbare]; exact Bool.false_ne_true)
  | case4 => cases h

end Token

/-! ## Runs inside an array -/

namespace Reader

/-- The outermost container is an array. -/
def InItems (stack : List Frame) : Prop := ∃ before, stack.getLast? = some (.items before)

/-- An array is read, or has been read to its end. -/
def State.InArray : State → Prop
  | .value stack | .keyOrEnd stack | .key _ stack | .colon _ _ stack => InItems stack
  | .itemOrEnd stack => stack = [] ∨ InItems stack
  | .done v stack => (stack = [] ∧ ∃ items, v = .array items) ∨ InItems stack

variable {stack : List Frame} {s s' : State} {t : Token} {v : Json}

theorem InItems.cons (h : InItems stack) (f : Frame) : InItems (f :: stack) := by
  obtain ⟨before, hlast⟩ := h
  refine ⟨before, ?_⟩
  rw [List.getLast?_cons, hlast]
  rfl

theorem inItems_items (before : List Json) (h : stack = [] ∨ InItems stack) : InItems (.items before :: stack) := by
  rcases h with rfl | h
  · exact ⟨before, rfl⟩
  · exact h.cons _

theorem InItems.of_members {before : Members} {key : String} (h : InItems (.members before key :: stack)) :
    InItems stack := by
  obtain ⟨items, hlast⟩ := h
  cases stack with
  | nil => cases hlast
  | cons f stack => exact ⟨items, by rwa [List.getLast?_cons_cons] at hlast⟩

theorem InItems.of_items {before : List Json} (h : InItems (.items before :: stack)) :
    stack = [] ∨ InItems stack := by
  obtain ⟨items, hlast⟩ := h
  cases stack with
  | nil => exact .inl rfl
  | cons f stack => exact .inr ⟨items, by rwa [List.getLast?_cons_cons] at hlast⟩

theorem inArray_begin? (h : begin? stack t = some s) (hstack : InItems stack) : s.InArray := by
  unfold begin? at h
  split at h
  · cases h
    exact .inr hstack
  · cases h
    exact .inr hstack
  · split at h <;> cases h
    exact .inr hstack
  · split at h <;> cases h
    exact hstack
  · cases h

theorem inArray_resume? (h : resume? v stack t = some s) (hstack : InItems stack) : s.InArray := by
  unfold resume? at h
  split at h
  · cases h
    exact inItems_items _ hstack.of_items
  · cases h
    exact hstack.of_items.imp_left fun hnil => ⟨hnil, _, rfl⟩
  · cases h
    exact hstack.of_members
  · cases h
    exact .inr hstack.of_members
  · cases h

theorem inArray_step? (h : step? s t = some s') (hs : s.InArray) : s'.InArray := by
  unfold step? at h
  split at h
  · exact inArray_begin? h hs
  · cases h
    exact hs.imp_left fun hnil => ⟨hnil, _, rfl⟩
  · exact inArray_begin? h (inItems_items [] hs)
  · cases h
    exact .inr hs
  · cases h
    exact hs
  · cases h
    exact hs
  · cases h
    exact InItems.cons hs _
  · rcases hs with ⟨rfl, _⟩ | hs
    · cases h
    · exact inArray_resume? h hs
  · cases h

theorem inArray_run? {ts : List Token} (h : run? s ts = some s') (hs : s.InArray) : s'.InArray := by
  induction ts generalizing s with
  | nil =>
    cases h
    exact hs
  | cons t ts ih =>
    obtain ⟨next, hstep, hrun⟩ := Option.bind_eq_some_iff.1 h
    exact ih hrun (inArray_step? hstep hs)

theorem eq_of_run?_done {w : Json} {ts : List Token} (h : run? (.done v []) ts = some (.done w [])) : w = v := by
  cases ts with
  | nil => cases h; rfl
  | cons t ts =>
    obtain ⟨next, hstep, _⟩ := Option.bind_eq_some_iff.1 h
    cases hstep

theorem eq_openObject_of_run? {ms : Members} {ts : List Token}
    (h : run? (.value []) (t :: ts) = some (.done (.object ms) [])) (hscalar : t ≠ .scalar (.object ms)) :
    t = .openObject := by
  obtain ⟨next, hstep, hrun⟩ := Option.bind_eq_some_iff.1 h
  cases t with
  | openObject => rfl
  | openArray =>
    cases hstep
    have hdone := inArray_run? hrun (.inl rfl)
    rcases hdone with ⟨_, items, heq⟩ | ⟨before, hlast⟩
    · cases heq
    · cases hlast
  | text s =>
    cases hstep
    cases eq_of_run?_done hrun
  | scalar v =>
    cases hstep
    cases eq_of_run?_done hrun
    exact absurd rfl hscalar
  | _ => cases hstep

end Reader

/-! ## Reading -/

theorem Coercion.openText_string {text : String} {ms : Members} :
    openText (.string text) = .object ms ↔ Json.parse? text = some (.object ms) := by
  constructor
  · intro h
    simp only [openText] at h
    split at h
    · split at h
      · next hparse =>
        cases h
        exact hparse
      · cases h
    · cases h
  · intro h
    have hhead : (Text.trimStart text.toList).head? = some '{' := by
      unfold Json.parse? at h
      split at h
      · next hread =>
        cases h
        obtain ⟨ts, hscan, hrun⟩ := Option.bind_eq_some_iff.1 hread
        cases ts with
        | nil => cases hrun
        | cons t ts =>
          obtain ⟨c, behind, later, hnext, htrim⟩ := Token.exists_next?_of_scan? hscan
          obtain rfl := Reader.eq_openObject_of_run? hrun (Token.ne_object_of_next? hnext ms)
          obtain rfl := Token.eq_brace_of_next? hnext
          rw [htrim (by decide), List.head?_cons]
      · cases h
    simp only [openText, hhead, if_true, h]

theorem Context.coerce_text {c : Context} {id : NodeId} {n : Node} (hn : c.schema.node? id = some n)
    (hkind : n.kind = .object) (hhooks : n.hooks = {}) (href : n.reference? = none) {text : String}
    {ms : Members} (hparse : Json.parse? text = some (.object ms)) (options : CoerceOptions) (hops : Nat) :
    c.coerce options hops id (.string text) = c.coerce options hops id (.object ms) := by
  have hopened : Coercion.openText (.string text) = .object ms := Coercion.openText_string.2 hparse
  have hstage : c.stage hops id = .converted hops id n := by
    rw [stage_of_node hn (by simp [hkind]), hhooks, href]
  rw [coerce_object hn hkind hhooks href, coerce_eq_stage, hstage]
  simp only [Coercion.byKind, hkind, Coercion.coerceObject_eq, hopened]

end JsonSchema
