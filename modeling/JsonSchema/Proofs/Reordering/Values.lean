import JsonSchema.Proofs.Loading.Steps
import JsonSchema.Proofs.Reloading.Limits
import JsonSchema.Proofs.Reordering.Verdicts

/-!
# Values whose members stand in another order

The order of members is no part of what a value means: values that differ in nothing else, and in the
spelling of integers, have the same canonical text. An integer may be written as such or as a double. Up to
the magnitude to which doubles hold all integers a schema does not tell the spellings apart.
-/

namespace JsonSchema

/-! ## Doubles that are equal -/

namespace Double

open Float.Model Float.Model.UnpackedFloat

theorem unpack_maxExact : maxExact.toModel.unpack = .finite .positive 9007199254740991 0 (by decide) :=
  rfl

theorem lt_limit_of_le_maxExact {f : Float} (h : f.abs ≤ maxExact) (hfinite : f.isFinite = true) :
    f.abs < 9007199254740992.0 := by
  have hle := decide_le f.abs maxExact
  rw [decide_eq_true h, unpack_abs hfinite, unpack_maxExact] at hle
  have hlt : f.toModel.unpack.abs.lt (9007199254740992.0 : Float).toModel.unpack = true := by
    rw [unpack_limit]
    have hheld := held_of_isFinite hfinite
    generalize f.toModel.unpack = u at hheld hle ⊢
    cases hheld with
    | zero s => cases s <;> rfl
    | finite s m e hm hcanonical =>
      have hcompare : ((compare e 0).then (compare m 9007199254740991)).isLE = true := by
        cases s <;> simpa [UnpackedFloat.le, UnpackedFloat.abs, UnpackedFloat.compare] using hle.symm
      have he : e ≤ 0 := by
        by_contra hpos
        have hgt : compare e 0 = .gt := Int.compare_eq_gt.2 (by omega)
        rw [hgt] at hcompare
        cases hcompare
      have hbelow : compare e 1 = .lt := Int.compare_eq_lt.2 (by omega)
      cases s <;> simp [UnpackedFloat.lt, UnpackedFloat.abs, UnpackedFloat.compare, hbelow]
  rw [← unpack_abs hfinite, ← decide_lt] at hlt
  exact of_decide_eq_true hlt

theorem beq_of_beq_left {f g k : Float} (hf : (k == f) = true) (hg : (k == g) = true) :
    (f == g) = true := by
  have hf := (beq_iff_ne_notANumber_and_eq _ _).1 hf
  have hg := (beq_iff_ne_notANumber_and_eq _ _).1 hg
  refine (beq_iff_ne_notANumber_and_eq _ _).2 ?_
  grind

variable {f g : Float} (h : (f == g) = true)
include h

theorem admits_value_of_beq (which : Bound) (limit : Float) :
    which.admits limit f = which.admits limit g := by
  obtain ⟨hleft, hright⟩ := compare_of_beq h limit.toModel.unpack
  unfold Bound.admits
  cases which with
  | minimum => simp only [decide_le, UnpackedFloat.le, hright]
  | maximum => simp only [decide_le, UnpackedFloat.le, hleft]
  | exclusiveMinimum => simp only [decide_lt, UnpackedFloat.lt, hright]
  | exclusiveMaximum => simp only [decide_lt, UnpackedFloat.lt, hleft]

/-- Both zeros are multiples of every divisor. -/
theorem isMultiple_of_beq {d : Float} (hpos : decide (0.0 < d) = true) :
    Leaf.isMultiple d f = Leaf.isMultiple d g := by
  have hdiv : ∀ x : Float, x / d = .ofModel (x.toModel.div d.toModel) := fun _ => rfl
  rcases unpack_of_beq h with heq | ⟨s, s', hf, hg⟩
  · unfold Leaf.isMultiple
    rw [hdiv, hdiv]
    unfold Float.Model.div
    rw [heq]
  · have hzero : ∀ (x : Float) (s : Sign), x.toModel.unpack = .zero s →
        Leaf.isMultiple d x = true := by
      intro x s hx
      have hquotient : x / d = .ofModel (.pack (.zero s)) := by
        rw [hdiv]
        unfold Float.Model.div
        rw [hx]
        rw [decide_lt] at hpos
        generalize d.toModel.unpack = u at hpos ⊢
        cases u with
        | notANumber => cases hpos
        | zero s' => cases s' <;> cases hpos
        | infinity s' | finite s' => cases s' <;> cases s <;> first | rfl | cases hpos
      unfold Leaf.isMultiple
      rw [hquotient]
      cases s <;> decide +kernel
    rw [hzero f s hf, hzero g s' hg]

end Double

/-! ## Numbers -/

namespace Number

/-- The integer that the number stands for, up to the magnitude to which doubles hold all integers. -/
def integer? : Number → Option Int
  | int n _ => if n.natAbs ≤ 9007199254740991 then some n else none
  | double f _ => if Decimal.isIntegral f && f.abs ≤ maxExact then some (Decimal.truncate f) else none

/-- The numbers are the same, or they are spellings of one integer. -/
def sameValue (n m : Number) : Bool := decide (n = m) || (n.integer?.isSome && n.integer? == m.integer?)

theorem sameValue_iff {n m : Number} :
    n.sameValue m = true ↔ n = m ∨ ∃ k, n.integer? = some k ∧ m.integer? = some k := by
  unfold sameValue
  rw [Bool.or_eq_true, decide_eq_true_iff, Bool.and_eq_true, beq_iff_eq, Option.isSome_iff_exists]
  refine or_congr_right ⟨?_, ?_⟩
  · rintro ⟨⟨k, hk⟩, heq⟩
    exact ⟨k, hk, heq ▸ hk⟩
  · rintro ⟨k, hk, hk'⟩
    exact ⟨⟨k, hk⟩, hk.trans hk'.symm⟩

section Exact

variable {n : Number} {k : Int} (h : n.integer? = some k)
include h

theorem normalize_of_integer? : ∃ fits, n.normalize = .int k fits := by
  cases n with
  | int n fits =>
    simp only [integer?, Option.ite_none_right_eq_some, Option.some.injEq] at h
    exact ⟨h.2 ▸ fits, by simp [normalize, h.2]⟩
  | double f finite =>
    simp only [integer?, Option.ite_none_right_eq_some, Option.some.injEq] at h
    obtain ⟨hexact, rfl⟩ := h
    obtain ⟨hintegral, hle⟩ := (Bool.and_eq_true_iff).1 hexact
    have hlt := Double.lt_limit_of_le_maxExact (of_decide_eq_true hle) finite
    obtain ⟨fits, _⟩ := Double.beq_truncate finite ((Bool.and_eq_true_iff).1 hintegral).2 hlt
    exact ⟨fits, by rw [normalize, if_pos hexact, ofInt?, dif_pos fits, Option.getD_some]⟩

theorem isInteger_of_integer? : n.isInteger = true := by
  cases n with
  | int n fits => rfl
  | double f finite =>
    simp only [integer?, Option.ite_none_right_eq_some] at h
    exact ((Bool.and_eq_true_iff).1 h.1).1

theorem toFloat_of_integer? : (Float.ofInt k == n.toFloat) = true := by
  cases n with
  | int n fits =>
    simp only [integer?, Option.ite_none_right_eq_some, Option.some.injEq] at h
    rw [← h.2]
    exact Double.beq_self (isFinite_toFloat (.int n fits))
  | double f finite =>
    simp only [integer?, Option.ite_none_right_eq_some, Option.some.injEq] at h
    obtain ⟨hexact, rfl⟩ := h
    obtain ⟨hintegral, hle⟩ := (Bool.and_eq_true_iff).1 hexact
    have hlt := Double.lt_limit_of_le_maxExact (of_decide_eq_true hle) finite
    exact (Double.beq_truncate finite ((Bool.and_eq_true_iff).1 hintegral).2 hlt).2

end Exact

section SameValue

variable {n m : Number} (h : n.sameValue m = true)
include h

theorem normalize_of_sameValue : n.normalize = m.normalize := by
  rcases sameValue_iff.1 h with rfl | ⟨k, hn, hm⟩
  · rfl
  · obtain ⟨_, hn⟩ := normalize_of_integer? hn
    obtain ⟨_, hm⟩ := normalize_of_integer? hm
    rw [hn, hm]

theorem isInteger_of_sameValue : n.isInteger = m.isInteger := by
  rcases sameValue_iff.1 h with rfl | ⟨k, hn, hm⟩
  · rfl
  · rw [isInteger_of_integer? hn, isInteger_of_integer? hm]

theorem toFloat_of_sameValue : (n.toFloat == m.toFloat) = true := by
  rcases sameValue_iff.1 h with rfl | ⟨k, hn, hm⟩
  · exact Double.beq_self n.isFinite_toFloat
  · exact Double.beq_of_beq_left (toFloat_of_integer? hn) (toFloat_of_integer? hm)

end SameValue

end Number

namespace Json

/-! ## Reordering -/

section Reordered

variable (numbers : Number → Number → Bool)

mutual

/-- The values differ in the order of members only, and in numbers as far as the test lets them. -/
def reordered : Json → Json → Bool
  | null, null => true
  | bool b, bool b' => b == b'
  | number n, number n' => numbers n n'
  | string s, string s' => s == s'
  | array vs, array ws => itemsReordered vs ws
  | object ms, object ms' => (Members.keys ms).isPerm (Members.keys ms') && membersReordered ms ms'
  | _, _ => false

def itemsReordered : List Json → List Json → Bool
  | [], [] => true
  | v :: vs, w :: ws => v.reordered w && itemsReordered vs ws
  | _, _ => false

/-- Under the key of each member the other object has a value that differs as little. -/
def membersReordered : List (String × Json) → Members → Bool
  | [], _ => true
  | (key, v) :: ms, ms' =>
    (match ms'.get? key with
      | some w => v.reordered w
      | none => false) && membersReordered ms ms'

end

theorem itemsReordered_iff {vs ws : List Json} :
    itemsReordered numbers vs ws = true ↔
      List.Forall₂ (fun v w => v.reordered numbers w = true) vs ws := by
  induction vs generalizing ws with
  | nil => cases ws <;> simp [itemsReordered]
  | cons v vs ih => cases ws <;> simp [itemsReordered, ih]

theorem membersReordered_iff {ms ms' : Members} :
    membersReordered numbers ms ms' = true ↔
      ∀ m ∈ ms, ∃ w, ms'.get? m.1 = some w ∧ m.2.reordered numbers w = true := by
  induction ms with
  | nil => simp [membersReordered]
  | cons m ms ih =>
    rw [membersReordered, Bool.and_eq_true, ih, List.forall_mem_cons]
    refine and_congr_left fun _ => ?_
    cases ms'.get? m.1 <;> simp

end Reordered

/-- Both are values as they are read from texts, and the one is the other one reordered. -/
structure Reordering (numbers : Number → Number → Bool) (v w : Json) : Prop where
  distinct : v.keysDistinct = true
  distinct' : w.keysDistinct = true
  reordered : v.reordered numbers w = true

/-! ## What reordered values look like -/

/-- What two values look like whose parts are related. -/
inductive Shaped (numbers : Number → Number → Bool) (V : Json → Json → Prop) : Json → Json → Prop where
  | null : Shaped numbers V null null
  | bool (b : Bool) : Shaped numbers V (bool b) (bool b)
  | number {n n' : Number} (h : numbers n n' = true) : Shaped numbers V (number n) (number n')
  | string (s : String) : Shaped numbers V (string s) (string s)
  | array {vs ws : List Json} (h : List.Forall₂ V vs ws) : Shaped numbers V (array vs) (array ws)
  | object {ms ms' : Members} (perm : ms.keys.Perm ms'.keys)
      (h : Corresponds (fun m m' => m.1 = m'.1 ∧ V m.2 m'.2) ms ms') :
      Shaped numbers V (object ms) (object ms')

namespace Reordering

variable {numbers : Number → Number → Bool} {v w : Json}

theorem items {vs ws : List Json} (h : Reordering numbers (array vs) (array ws)) :
    List.Forall₂ (Reordering numbers) vs ws := by
  have hdistinct := (keysDistinct_array vs).1 h.distinct
  have hdistinct' := (keysDistinct_array ws).1 h.distinct'
  have hitems := (itemsReordered_iff numbers).1 (by simpa [Json.reordered] using h.reordered)
  refine (forall₂_and_mem hitems).imp ?_
  rintro v w ⟨hvw, hv, hw⟩
  exact ⟨hdistinct v hv, hdistinct' w hw, hvw⟩

theorem perm {ms ms' : Members} (h : Reordering numbers (object ms) (object ms')) :
    ms.keys.Perm ms'.keys := by
  have hreordered := h.reordered
  rw [Json.reordered, Bool.and_eq_true, List.isPerm_iff] at hreordered
  exact hreordered.1

theorem members {ms ms' : Members} (h : Reordering numbers (object ms) (object ms')) :
    Corresponds (fun m m' => m.1 = m'.1 ∧ Reordering numbers m.2 m'.2) ms ms' := by
  obtain ⟨_, hvalues⟩ := (keysDistinct_object ms).1 h.distinct
  obtain ⟨hnodup', hvalues'⟩ := (keysDistinct_object ms').1 h.distinct'
  have hreordered := h.reordered
  rw [Json.reordered, Bool.and_eq_true, membersReordered_iff] at hreordered
  obtain ⟨_, hget⟩ := hreordered
  have hpartner : ∀ m ∈ ms, ∃ w, (m.1, w) ∈ ms' ∧ Reordering numbers m.2 w := by
    intro m hm
    obtain ⟨w, hw, hmw⟩ := hget m hm
    have hmem := Members.mem_of_get?_eq_some ms' m.1 w hw
    exact ⟨w, hmem, hvalues m hm, hvalues' _ hmem, hmw⟩
  constructor
  · intro m hm
    obtain ⟨w, hw, hmw⟩ := hpartner m hm
    exact ⟨_, hw, rfl, hmw⟩
  · intro m' hm'
    have hkey : m'.1 ∈ ms.keys := h.perm.mem_iff.2 (List.mem_map_of_mem hm')
    obtain ⟨m, hm, hkey⟩ := List.mem_map.1 hkey
    obtain ⟨w, hw, hmw⟩ := hpartner m hm
    have heq : (m.1, w) = m' := List.inj_on_of_nodup_map hnodup' hw hm' hkey
    rw [← heq]
    exact ⟨m, hm, rfl, hmw⟩

theorem shape (h : Reordering numbers v w) : Shaped numbers (Reordering numbers) v w := by
  have hreordered := h.reordered
  cases v with
  | null =>
    cases w with
    | null => exact .null
    | _ => cases hreordered
  | bool b =>
    cases w with
    | bool b' =>
      obtain rfl : b = b' := by simpa [Json.reordered] using hreordered
      exact .bool b
    | _ => cases hreordered
  | number n =>
    cases w with
    | number n' => exact .number (by simpa [Json.reordered] using hreordered)
    | _ => cases hreordered
  | string s =>
    cases w with
    | string s' =>
      obtain rfl : s = s' := by simpa [Json.reordered] using hreordered
      exact .string s
    | _ => cases hreordered
  | array vs =>
    cases w with
    | array ws => exact .array h.items
    | _ => cases hreordered
  | object ms =>
    cases w with
    | object ms' => exact .object h.perm h.members
    | _ => cases hreordered

end Reordering

/-! ## Canonical texts -/

theorem normalizeItems_eq_map (vs : List Json) : normalizeItems vs = vs.map normalize := by
  induction vs with
  | nil => rfl
  | cons v vs ih => rw [normalizeItems, ih, List.map_cons]

theorem normalizeMembers_eq_map (ms : List (String × Json)) :
    normalizeMembers ms = ms.map fun m => (m.1, m.2.normalize) := by
  induction ms with
  | nil => rfl
  | cons m ms ih => rw [normalizeMembers, ih, List.map_cons]

theorem mergeSort_eq_of_perm {es es' : List (String × α)} (h : (es.map (·.1)).Nodup)
    (hperm : es.Perm es') :
    es.mergeSort (fun a b => decide (a.1 ≤ b.1)) = es'.mergeSort fun a b => decide (a.1 ≤ b.1) := by
  have hsorted : ∀ es : List (String × α), (es.mergeSort fun a b => decide (a.1 ≤ b.1)).Pairwise
      fun a b => decide (a.1 ≤ b.1) = true := by
    intro es
    refine List.pairwise_mergeSort ?_ ?_ es
    · intro a b c hab hbc
      simp only [decide_eq_true_eq] at hab hbc ⊢
      exact String.le_trans hab hbc
    · intro a b
      simpa using String.le_total a.1 b.1
  refine List.Perm.eq_of_pairwise ?_ (hsorted es) (hsorted es')
    ((es.mergeSort_perm _).trans (hperm.trans (es'.mergeSort_perm _).symm))
  intro a b ha hb hab hba
  rw [List.mem_mergeSort] at ha hb
  simp only [decide_eq_true_eq] at hab hba
  exact List.inj_on_of_nodup_map h ha (hperm.mem_iff.2 hb) (String.le_antisymm hab hba)

theorem perm_map_of_corresponds {R : α → β → Prop} {f : α → γ} {g : β → γ} {as : List α} {bs : List β}
    (has : (as.map f).Nodup) (hbs : (bs.map g).Nodup) (h : Corresponds R as bs)
    (hR : ∀ a ∈ as, ∀ b, R a b → f a = g b) : (as.map f).Perm (bs.map g) := by
  refine (List.perm_ext_iff_of_nodup has hbs).2 fun c => ?_
  constructor
  · intro hc
    obtain ⟨a, ha, rfl⟩ := List.mem_map.1 hc
    obtain ⟨b, hb, hab⟩ := h.left a ha
    exact List.mem_map.2 ⟨b, hb, (hR a ha b hab).symm⟩
  · intro hc
    obtain ⟨b, hb, rfl⟩ := List.mem_map.1 hc
    obtain ⟨a, ha, hab⟩ := h.right b hb
    exact List.mem_map.2 ⟨a, ha, hR a ha b hab⟩

section Canonical

variable {numbers : Number → Number → Bool}
  (hnumbers : ∀ n n', numbers n n' = true → n.normalize = n'.normalize)
include hnumbers

theorem normalize_eq_of_reordering {v w : Json} (h : Reordering numbers v w) :
    v.normalize = w.normalize := by
  induction hsize : sizeOf v using Nat.strongRecOn generalizing v w with | ind size ih
  subst hsize
  cases h.shape with
  | null | bool | string => rfl
  | number hn => rw [normalize, normalize, hnumbers _ _ hn]
  | @array vs ws hvs =>
    rw [normalize, normalize, normalizeItems_eq_map, normalizeItems_eq_map, array.injEq]
    refine List.forall₂_eq_eq_eq ▸ List.forall₂_map_left_iff.2 (List.forall₂_map_right_iff.2 ?_)
    refine (forall₂_and_mem hvs).imp ?_
    rintro v w ⟨hvw, hv, _⟩
    exact ih _ (Loader.sizeOf_lt_of_mem_items hv) hvw rfl
  | @object ms ms' _ hms =>
    rw [normalize, normalize, normalizeMembers_eq_map, normalizeMembers_eq_map]
    have hkeys : ∀ ms : Members, Members.keys (ms.map fun m => (m.1, m.2.normalize)) = ms.keys := by
      intro ms
      rw [Members.keys, List.map_map]
      rfl
    have hvalue : ∀ m ∈ ms, ∀ m' : String × Json, m.1 = m'.1 ∧ Reordering numbers m.2 m'.2 →
        (m.1, m.2.normalize) = (m'.1, m'.2.normalize) := by
      rintro m hm m' ⟨hkey, hmm'⟩
      rw [hkey, ih _ (Loader.sizeOf_lt_of_mem_entries hm) hmm' rfl]
    -- Keys are distinct, so sorting ends in one order whatever was before.
    have hnodup := (hkeys ms).symm ▸ ((keysDistinct_object ms).1 h.distinct).1
    have hnodup' := (hkeys ms').symm ▸ ((keysDistinct_object ms').1 h.distinct').1
    rw [mergeSort_eq_of_perm hnodup]
    exact perm_map_of_corresponds (hnodup.of_map _) (hnodup'.of_map _) hms hvalue

theorem canonical_eq_of_reordering {v w : Json} (h : Reordering numbers v w) :
    v.canonical = w.canonical := congrArg sortedText (normalize_eq_of_reordering hnumbers h)

end Canonical

/-! ## Values that a schema does not tell apart -/

/-- A relation under which values look the same to a schema. -/
structure Resemblance (V : Json → Json → Prop) : Prop where
  shape : ∀ {v w}, V v w → Shaped Number.sameValue V v w
  canonical : ∀ {v w}, V v w → v.canonical = w.canonical
  text : ∀ s, V (string s) (string s)

theorem resemblance_eq : Resemblance Eq where
  shape := by
    rintro v _ rfl
    cases v with
    | null => exact .null
    | bool b => exact .bool b
    | number n => exact .number (Number.sameValue_iff.2 (.inl rfl))
    | string s => exact .string s
    | array vs => exact .array (List.forall₂_same.2 fun _ _ => rfl)
    | object ms => exact .object (.refl _) (.same fun _ _ => ⟨rfl, rfl⟩)
  canonical := by
    rintro v _ rfl
    rfl
  text _ := rfl

theorem resemblance_reordering : Resemblance (Reordering Number.sameValue) where
  shape := Reordering.shape
  canonical := canonical_eq_of_reordering fun _ _ => Number.normalize_of_sameValue
  text s := ⟨rfl, rfl, by simp [reordered]⟩

end Json

end JsonSchema
