import JsonSchema.Proofs.Decimal.Double
import JsonSchema.Proofs.Except
import JsonSchema.Proofs.Loading.Values
import JsonSchema.Proofs.Meaning.Satisfaction

/-!
# Keywords without schemas are judged by their rules

Such a keyword never fails with an error: it answers the question that its rule asks.
-/

namespace JsonSchema

open Loader Json

/-! ## Outcomes that answer a question -/

/-- The outcome is no error, and there are no failures exactly if the statement holds. -/
def Answers (o : Outcome) (P : Prop) : Prop := ∃ found, o = .ok found ∧ (found = [] ↔ P)

def Decides (o : Except SchemaError Bool) (P : Prop) : Prop := ∃ b, o = .ok b ∧ (b = true ↔ P)

theorem Answers.congr {o : Outcome} {P Q : Prop} (h : Answers o P) (hPQ : P ↔ Q) : Answers o Q := by
  obtain ⟨found, ho, hfound⟩ := h
  exact ⟨found, ho, hfound.trans hPQ⟩

theorem Decides.bind {o : Except SchemaError Bool} {P Q : Prop} {f : Bool → Outcome}
    (h : Decides o P) (hf : ∀ b, (b = true ↔ P) → Answers (f b) Q) : Answers (o >>= f) Q := by
  obtain ⟨b, rfl, hb⟩ := h
  exact hf b hb

namespace Outcome

theorem answers_pass {P : Prop} (h : P) : Answers pass P := ⟨[], rfl, iff_of_true rfl h⟩

theorem answers_require {holds : Bool} {P : Prop} (h : holds = true ↔ P) (at_ : Location)
    (keyword : String) (complaint : Complaint) (v : Json) :
    Answers (require holds at_ keyword complaint v) P := by
  refine ⟨_, rfl, ?_⟩
  rw [← h]
  cases holds <;> simp

theorem answers_ofFirst {f : α → Outcome} {P : β → Prop} {as : List α} {bs : List β}
    (h : List.Forall₂ (fun a b => Answers (f a) (P b)) as bs) :
    Answers (ofFirst f as) (∀ b ∈ bs, P b) := by
  induction h with
  | nil => exact answers_pass (List.forall_mem_nil P)
  | cons h _ ih =>
    obtain ⟨found, hf, hfound⟩ := h
    rw [ofFirst, hf, Except.ok_bind, List.forall_mem_cons, ← hfound]
    cases found with
    | nil => exact ih.congr (by simp)
    | cons failure failures => exact ⟨failure :: failures, rfl, by simp⟩

theorem answers_ofAll (stop : Bool) {f : α → Outcome} {P : β → Prop} {as : List α} {bs : List β}
    (h : List.Forall₂ (fun a b => Answers (f a) (P b)) as bs) :
    Answers (ofAll stop f as) (∀ b ∈ bs, P b) := by
  induction h with
  | nil => exact answers_pass (List.forall_mem_nil P)
  | cons h _ ih =>
    obtain ⟨found, hf, hfound⟩ := h
    obtain ⟨rest, hrest, hempty⟩ := ih
    rw [ofAll, hf, Except.ok_bind, List.forall_mem_cons, ← hfound, ← hempty]
    by_cases hstop : (stop && !found.isEmpty) = true
    · rw [if_pos hstop]
      refine ⟨found, rfl, ?_⟩
      simp_all
    · rw [if_neg hstop, hrest]
      exact ⟨found ++ rest, rfl, List.append_eq_nil_iff⟩

end Outcome

namespace Keyword

theorem decides_accepts {judge : Judge} {v : Json} {at_ : Location} {id : NodeId} {P : Prop}
    (h : Answers (judge id v at_) P) : Decides (accepts judge v at_ id) P := by
  obtain ⟨found, hjudge, hfound⟩ := h
  refine ⟨found.isEmpty, ?_, ?_⟩
  · rw [accepts, hjudge]; rfl
  · rw [List.isEmpty_iff, hfound]

theorem countWhere_cons (P : α → Prop) (a : α) (as : List α) :
    (P a → countWhere P (a :: as) = countWhere P as + 1) ∧
      (¬P a → countWhere P (a :: as) = countWhere P as) := by
  unfold countWhere
  constructor
  · intro h; exact List.countP_cons_of_pos (by simpa using h)
  · intro h; exact List.countP_cons_of_neg (by simpa using h)

theorem countAccepted_eq {f : α → Except SchemaError Bool} {P : β → Prop} {as : List α}
    {bs : List β} (h : List.Forall₂ (fun a b => Decides (f a) (P b)) as bs) :
    countAccepted f as = .ok (countWhere P bs) := by
  induction h with
  | nil => rfl
  | @cons a b as bs h _ ih =>
    obtain ⟨accepted, hf, haccepted⟩ := h
    rw [countAccepted, hf, Except.ok_bind, ih, Except.ok_bind]
    cases accepted with
    | true => rw [(countWhere_cons P b bs).1 (haccepted.1 rfl)]; rfl
    | false =>
      rw [(countWhere_cons P b bs).2 fun hP => Bool.false_ne_true (haccepted.2 hP)]
      rfl

theorem decides_anyAccepted {f : α → Except SchemaError Bool} {P : β → Prop} {as : List α}
    {bs : List β} (h : List.Forall₂ (fun a b => Decides (f a) (P b)) as bs) :
    Decides (anyAccepted f as) (∃ b ∈ bs, P b) := by
  induction h with
  | nil => exact ⟨false, rfl, by simp⟩
  | cons h _ ih =>
    obtain ⟨accepted, hf, haccepted⟩ := h
    rw [anyAccepted, hf, Except.ok_bind, List.exists_mem_cons_iff, ← haccepted]
    cases accepted with
    | true => exact ⟨true, rfl, by simp⟩
    | false =>
      obtain ⟨b, hb, hiff⟩ := ih
      exact ⟨b, hb, by simpa using hiff⟩

end Keyword

/-! ## Keywords -/

namespace Leaf

variable (formats : FormatRegistry) (v : Json) (at_ : Location)

theorem accepts_iff (t : InstanceType) : t.accepts v = true ↔ v.HasType t := by
  cases t with
  | integer =>
    cases v with
    | number x => simpa [InstanceType.accepts, HasType, Json.isInteger] using x.isInteger_iff
    | _ => simp [InstanceType.accepts, HasType, Json.isInteger]
  | _ => cases v <;> simp [InstanceType.accepts, HasType]

theorem isMultiple_iff_isNearMultiple (divisor x : Number) :
    isMultiple divisor.toFloat x.toFloat = true ↔ x.IsNearMultiple divisor := by
  unfold Number.IsNearMultiple
  cases hfinite : (x.toFloat / divisor.toFloat).isFinite with
  | true => rw [Double.isMultiple_iff hfinite, and_iff_right rfl]
  | false => exact iff_of_false (Double.not_isMultiple hfinite) fun h => Bool.false_ne_true h.1

theorem admits_iff_nearest (which : Bound) (limit x : Number) :
    which.admits limit.toFloat x.toFloat = true ↔ LimitReading.nearest which limit x := by
  unfold LimitReading.nearest LimitReading.exact Bound.admits Number.rounded
  cases which with
  | minimum | maximum => exact decide_eq_true_iff.trans (Number.units_le_iff _ _).symm
  | exclusiveMinimum | exclusiveMaximum => exact decide_eq_true_iff.trans (Number.units_lt_iff _ _).symm

theorem mem_types_iff {d : Json} {ts : List InstanceType}
    (h : d = .strings (ts.map (·.name)) ∨ ∃ t, ts = [t] ∧ d = .string t.name) (t : InstanceType) :
    t ∈ ts ↔ d.NamesType t := by
  have hinj : ∀ t' : InstanceType, t'.name = t.name → t' = t := by
    intro t' ht
    have hname := InstanceType.ofName?_name t'
    rw [ht, InstanceType.ofName?_name] at hname
    exact (Option.some.inj hname).symm
  unfold NamesType
  rcases h with rfl | ⟨t', rfl, rfl⟩
  · constructor
    · intro ht
      exact .inr ⟨_, rfl, List.mem_map_of_mem (List.mem_map_of_mem ht)⟩
    · rintro (h | ⟨items, h, hmem⟩)
      · cases h
      · cases h
        obtain ⟨name, hname, heq⟩ := List.mem_map.1 hmem
        obtain ⟨t', ht', rfl⟩ := List.mem_map.1 hname
        rw [← hinj t' (Json.string.inj heq)]
        exact ht'
  · rw [List.mem_singleton]
    constructor
    · rintro rfl; exact .inl rfl
    · rintro (h | ⟨items, h, _⟩)
      · exact (hinj t' (Json.string.inj h)).symm
      · cases h

theorem eraseDups_length_le [BEq α] [LawfulBEq α] (as : List α) :
    as.eraseDups.length ≤ as.length := by
  induction hn : as.length using Nat.strongRecOn generalizing as with | ind n ih
  subst hn
  cases as with
  | nil => exact Nat.le_refl _
  | cons a as =>
    rw [List.eraseDups_cons, List.length_cons, List.length_cons]
    have hfilter := List.length_filter_le (fun b => !b == a) as
    have hrest := ih _ (Nat.lt_succ_of_le hfilter) _ rfl
    omega

theorem eraseDups_length_eq_iff [BEq α] [LawfulBEq α] (as : List α) :
    as.eraseDups.length = as.length ↔ as.Nodup := by
  induction as with
  | nil => simp
  | cons a as ih =>
    rw [List.eraseDups_cons, List.length_cons, List.length_cons, List.nodup_cons, ← ih]
    have hfilter := List.length_filter_le (fun b => !b == a) as
    have hrest := eraseDups_length_le (as.filter fun b => !b == a)
    constructor
    · intro h
      have hall : as.filter (fun b => !b == a) = as :=
        List.filter_eq_self.2 (List.length_filter_eq_length_iff.1 (by omega))
      refine ⟨fun hmem => ?_, by rw [hall] at h; omega⟩
      have := List.filter_eq_self.1 hall a hmem
      simp at this
    · rintro ⟨hmem, h⟩
      have hall : as.filter (fun b => !b == a) = as := by
        refine List.filter_eq_self.2 fun b hb => ?_
        have hne : b ≠ a := fun heq => hmem (heq ▸ hb)
        simp [hne]
      rw [hall, h]

theorem areDistinct_iff (items : List Json) :
    areDistinct items = true ↔ items.Pairwise fun a b => a.same b = false := by
  unfold areDistinct
  dsimp only
  rw [beq_iff_eq, eraseDups_length_eq_iff, List.Nodup, List.pairwise_map]
  refine iff_of_eq (congrArg (List.Pairwise · items) ?_)
  funext a b
  simp [Json.same]

theorem missingDependent?_eq_none_iff (ms : Members) (entries : List (String × List String)) :
    missingDependent? ms entries = none ↔
      ∀ e ∈ entries, ms.hasKey e.1 = true → ∀ key ∈ e.2, ms.hasKey key = true := by
  unfold missingDependent?
  rw [List.findSome?_eq_none_iff]
  simp only [List.mem_filter, List.find?_eq_none, Bool.not_eq_true', Bool.not_eq_false, and_imp]

theorem answers_checkCount (which : Count) (limit : UInt64) :
    Answers (checkCount which limit v at_) (CountRule which limit.toNat v) := by
  unfold checkCount CountRule
  cases which <;> cases v <;>
    first
    | exact Outcome.answers_pass trivial
    | exact Outcome.answers_require decide_eq_true_iff _ _ _ _

theorem answers_checkMultiple (divisor : Number) (hpos : 0.0 < divisor.toFloat) :
    Answers (checkMultiple divisor.toFloat v at_)
      (∀ x, v = .number x → x.IsNearMultiple divisor) := by
  unfold checkMultiple
  cases v with
  | number x =>
    have hfinite : (0.0 < divisor.toFloat && divisor.toFloat.isFinite && x.toFloat.isFinite) = true := by
      rw [divisor.isFinite_toFloat, x.isFinite_toFloat]
      simpa using hpos
    dsimp only [Json.asFloat?]
    rw [if_pos hfinite]
    refine Outcome.answers_require ((isMultiple_iff_isNearMultiple divisor x).trans ?_) _ _ _ _
    constructor
    · intro h y hy; cases hy; exact h
    · intro h; exact h x rfl
  | _ =>
    refine Outcome.answers_pass ?_
    intro x hx
    cases hx

theorem leafRule_count (limits : LimitReading) (which : Count) (d : Json) :
    LeafRule limits formats which.name d v ↔
      ∀ limit, countOf? d = some limit → CountRule which limit.toNat v := by
  cases which <;> exact Iff.rfl

theorem leafRule_bound (limits : LimitReading) (which : Bound) (d : Json) :
    LeafRule limits formats which.name d v ↔
      ∀ limit x, d = .number limit → v = .number x → limits which limit x := by
  cases which <;> exact Iff.rfl

theorem leafRule_note (limits : LimitReading) {name : String}
    (h : ∀ path v, readLeaf path name v = .ok (.note name v)) (d : Json) :
    LeafRule limits formats name d v := by
  have hnull := h [] .null
  unfold LeafRule
  split
  case h_10 =>
    split
    · next which hwhich =>
      rw [← name_of_find? Count.name hwhich, readLeaf_count] at hnull
      cases hnull
    · next which _ hwhich =>
      rw [← name_of_find? Bound.name hwhich, readLeaf_bound] at hnull
      cases hnull
    · trivial
  all_goals cases hnull

theorem dependentRule_iff (entries : List (String × List String)) (ms : Members) :
    LeafRule .nearest formats "dependentRequired"
        (.object (entries.map fun e => (e.1, .strings e.2))) (.object ms) ↔
      ∀ e ∈ entries, ms.hasKey e.1 = true → ∀ key ∈ e.2, ms.hasKey key = true := by
  constructor
  · intro h e he hkey key hmem
    exact h _ ms rfl rfl _ (List.mem_map_of_mem he) hkey _ rfl key (List.mem_map_of_mem hmem)
  · intro h entries' ms' hd hv m hm hkey keys hkeys key hmem
    cases hd; cases hv
    obtain ⟨e, he, rfl⟩ := List.mem_map.1 hm
    cases hkeys
    obtain ⟨key', hkey', heq⟩ := List.mem_map.1 hmem
    rw [← Json.string.inj heq]
    exact h e he hkey key' hkey'

/-! ## Keywords for one type of values -/

theorem answers_pattern {source : String} {p : Pattern} (h : Pattern.compile? source = some p) :
    Answers ((pattern p).check formats v at_) (LeafRule .nearest formats "pattern" (.string source) v) := by
  cases v with
  | string s =>
    refine Outcome.answers_require ?_ _ _ _ _
    constructor
    · intro hs source' p' s' hd hp hv
      cases hd; cases hv
      rw [h] at hp; cases hp
      exact hs
    · intro hs; exact hs source p s rfl h rfl
  | _ =>
    refine Outcome.answers_pass ?_
    intro _ _ _ _ _ hv
    cases hv

theorem answers_format (name : String) :
    Answers ((format name).check formats v at_) (LeafRule .nearest formats "format" (.string name) v) := by
  cases v with
  | string s =>
    refine Outcome.answers_require ?_ _ _ _ _
    constructor
    · intro hs name' s' hd hv; cases hd; cases hv; exact hs
    · intro hs; exact hs name s rfl rfl
  | _ =>
    refine Outcome.answers_pass ?_
    intro _ _ _ hv
    cases hv

theorem answers_uniqueItems (unique : Bool) :
    Answers ((uniqueItems unique).check formats v at_)
      (LeafRule .nearest formats "uniqueItems" (.bool unique) v) := by
  cases unique with
  | false =>
    refine Outcome.answers_pass ?_
    intro hd
    cases hd
  | true =>
    cases v with
    | array items =>
      refine Outcome.answers_require ((areDistinct_iff items).trans ?_) _ _ _ _
      constructor
      · intro h _ items' hv; cases hv; exact h
      · intro h; exact h rfl items rfl
    | _ =>
      refine Outcome.answers_pass ?_
      intro _ _ hv
      cases hv

theorem answers_required (keys : List String) :
    Answers ((required keys).check formats v at_) (LeafRule .nearest formats "required" (.strings keys) v) := by
  cases v with
  | object ms =>
    refine Outcome.answers_require ?_ _ _ _ _
    rw [List.all_eq_true]
    constructor
    · intro h keys' ms' hd hv key hkey
      cases hd; cases hv
      obtain ⟨key', hkey', heq⟩ := List.mem_map.1 hkey
      rw [← Json.string.inj heq]
      exact h key' hkey'
    · intro h key hkey; exact h _ ms rfl rfl key (List.mem_map_of_mem hkey)
  | _ =>
    refine Outcome.answers_pass ?_
    intro _ _ _ hv
    cases hv

theorem answers_dependentRequired (entries : List (String × List String)) :
    Answers ((dependentRequired entries).check formats v at_)
      (LeafRule .nearest formats "dependentRequired"
        (.object (entries.map fun e => (e.1, .strings e.2))) v) := by
  cases v with
  | object ms =>
    refine Answers.congr ?_ (dependentRule_iff formats entries ms).symm
    rw [← missingDependent?_eq_none_iff]
    simp only [check]
    split
    · next key hkey =>
      refine Outcome.answers_require ?_ _ _ _ _
      simp [hkey]
    · next hnone => exact Outcome.answers_pass hnone
  | _ =>
    refine Outcome.answers_pass ?_
    intro _ _ _ hv
    cases hv

theorem answers_bound (which : Bound) (limit : Number) :
    Answers ((bound which limit.toFloat).check formats v at_)
      (LeafRule .nearest formats which.name (.number limit) v) := by
  refine Answers.congr ?_ (leafRule_bound formats v .nearest which _).symm
  cases v with
  | number x =>
    refine Outcome.answers_require ((admits_iff_nearest which limit x).trans ?_) _ _ _ _
    constructor
    · intro h limit' x' hd hv; cases hd; cases hv; exact h
    · intro h; exact h limit x rfl rfl
  | _ =>
    refine Outcome.answers_pass ?_
    intro _ _ _ hv
    cases hv

/-! ## All of them -/

theorem answers_check {name : String} {d : Json} {l : Leaf} (h : Says name d l)
    (hpos : ∀ n, l = .multipleOf n → 0.0 < n) :
    Answers (l.check formats v at_) (LeafRule .nearest formats name d v) := by
  cases h with
  | @types _ ts h =>
    refine Outcome.answers_require ?_ _ _ _ _
    rw [List.any_eq_true]
    exact exists_congr fun t => and_congr (mem_types_iff h t) (accepts_iff v t)
  | const expected => exact Outcome.answers_require Iff.rfl _ _ _ _
  | default | ref | id => exact Outcome.answers_pass trivial
  | enum options =>
    refine Outcome.answers_require ?_ _ _ _ _
    rw [List.any_eq_true]
    constructor
    · intro h; exact ⟨options, rfl, h⟩
    · rintro ⟨options', heq, h⟩; cases heq; exact h
  | multipleOf n =>
    refine (answers_checkMultiple v at_ n (hpos _ rfl)).congr ?_
    constructor
    · intro h divisor x hd hv; cases hd; exact h x hv
    · intro h x hv; exact h n x rfl hv
  | pattern h => exact answers_pattern formats v at_ h
  | format name => exact answers_format formats v at_ name
  | uniqueItems unique => exact answers_uniqueItems formats v at_ unique
  | required keys => exact answers_required formats v at_ keys
  | dependentRequired entries => exact answers_dependentRequired formats v at_ entries
  | @count which _ limit h =>
    refine (answers_checkCount v at_ which limit).congr ?_
    rw [leafRule_count]
    constructor
    · intro hrule limit' h'; rw [h] at h'; cases h'; exact hrule
    · intro hrule; exact hrule limit h
  | bound which limit => exact answers_bound formats v at_ which limit
  | note h => exact Outcome.answers_pass (leafRule_note formats v .nearest h d)

end Leaf

end JsonSchema
