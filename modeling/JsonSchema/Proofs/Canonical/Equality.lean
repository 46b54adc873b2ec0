import JsonSchema.Proofs.Canonical.Texts
import JsonSchema.Proofs.Decimal.Numerals

/-!
# Canonical texts tell values apart

The canonical text of a value can be read back: where it ends is seen from what may follow a value, and
what kind of value it holds from its first character. So two values with one text hold the same data.
-/

namespace JsonSchema

/-! ## What follows a value -/

def endsValue (c : Char) : Bool := [',', ']', '\x7d'].contains c

/-- The text is at its end, or at a character that ends a value. -/
def Follows (rest : List Char) : Prop := ∀ c ∈ rest.head?, endsValue c = true

theorem follows_nil : Follows [] := fun _ h => nomatch h

theorem follows_cons {c : Char} (h : endsValue c = true) (rest : List Char) : Follows (c :: rest) := by
  rintro _ ⟨rfl⟩
  exact h

theorem not_follows_cons {c : Char} (h : endsValue c = false) (rest : List Char) :
    ¬ Follows (c :: rest) := by
  intro hfollows
  rw [hfollows c rfl] at h
  cases h

/-- A text without a character that ends a value goes up to the first one. -/
theorem append_inj_of_follows {cs cs' rest rest' : List Char} (hcs : ∀ c ∈ cs, endsValue c = false)
    (hcs' : ∀ c ∈ cs', endsValue c = false) (hrest : Follows rest) (hrest' : Follows rest')
    (h : cs ++ rest = cs' ++ rest') : cs = cs' ∧ rest = rest' := by
  induction cs generalizing cs' with
  | nil =>
    cases cs' with
    | nil => exact ⟨rfl, h⟩
    | cons c cs' =>
      rw [List.nil_append] at h
      exact absurd (h ▸ hrest) (not_follows_cons (hcs' c List.mem_cons_self) _)
  | cons c cs ih =>
    cases cs' with
    | nil =>
      rw [List.nil_append] at h
      exact absurd (h ▸ hrest') (not_follows_cons (hcs c List.mem_cons_self) _)
    | cons c' cs' =>
      obtain ⟨rfl, htail⟩ := List.cons.inj h
      obtain ⟨rfl, hrest⟩ := ih (List.forall_mem_cons.1 hcs).2 (List.forall_mem_cons.1 hcs').2 htail
      exact ⟨rfl, hrest⟩

/-! ## Listed texts -/

theorem intercalate_cons (sep text : List Char) (texts : List (List Char)) :
    sep.intercalate (text :: texts) = text ++ texts.flatMap (sep ++ ·) := by
  induction texts generalizing text with
  | nil => simp [List.intercalate]
  | cons next texts ih => rw [List.intercalate_cons_cons, ih, List.flatMap_cons, List.append_assoc,
      List.append_assoc]

section Listed

/-- Texts behind which it is seen where they end and, up to the relation, what they stand for. -/
def TellsApart (R : α → β → Prop) (text : α → List Char) (text' : β → List Char) (a : α) (b : β) : Prop :=
  ∀ ⦃rest rest'⦄, Follows rest → Follows rest' → text a ++ rest = text' b ++ rest' →
    R a b ∧ rest = rest'

variable {R : α → β → Prop} {text : α → List Char} {text' : β → List Char} {as : List α} {bs : List β}
  {close : Char} {rest rest' : List Char} (hclose : endsValue close = true)
include hclose

theorem follows_flatMap (texts : List (List Char)) (rest : List Char) :
    Follows (texts.flatMap ([','] ++ ·) ++ close :: rest) := by
  cases texts with
  | nil => exact follows_cons hclose rest
  | cons text texts => exact follows_cons rfl _

variable (hcomma : close ≠ ',')
include hcomma

theorem forall₂_of_flatMap_eq (hR : ∀ a ∈ as, ∀ b ∈ bs, TellsApart R text text' a b)
    (h : (as.map text).flatMap ([','] ++ ·) ++ close :: rest
      = (bs.map text').flatMap ([','] ++ ·) ++ close :: rest') :
    List.Forall₂ R as bs ∧ rest = rest' := by
  induction as generalizing bs with
  | nil =>
    cases bs with
    | nil => exact ⟨.nil, (List.cons.inj h).2⟩
    | cons b bs => exact absurd (List.cons.inj h).1 hcomma
  | cons a as ih =>
    cases bs with
    | nil => exact absurd (List.cons.inj h).1.symm hcomma
    | cons b bs =>
      have htexts : text a ++ ((as.map text).flatMap ([','] ++ ·) ++ close :: rest)
          = text' b ++ ((bs.map text').flatMap ([','] ++ ·) ++ close :: rest') := by
        simpa using h
      obtain ⟨hab, hlater⟩ := hR a List.mem_cons_self b List.mem_cons_self
        (follows_flatMap hclose _ _) (follows_flatMap hclose _ _) htexts
      obtain ⟨hbs, hrest⟩ := ih (fun a ha b hb =>
        hR a (List.mem_cons_of_mem _ ha) b (List.mem_cons_of_mem _ hb)) hlater
      exact ⟨.cons hab hbs, hrest⟩

theorem forall₂_of_intercalate_eq (hR : ∀ a ∈ as, ∀ b ∈ bs, TellsApart R text text' a b)
    (has : ∀ a ∈ as, ∀ rest, (text a ++ rest).head? ≠ some close)
    (hbs : ∀ b ∈ bs, ∀ rest, (text' b ++ rest).head? ≠ some close)
    (h : [','].intercalate (as.map text) ++ close :: rest
      = [','].intercalate (bs.map text') ++ close :: rest') :
    List.Forall₂ R as bs ∧ rest = rest' := by
  cases as with
  | nil =>
    cases bs with
    | nil => exact ⟨.nil, (List.cons.inj h).2⟩
    | cons b bs =>
      rw [List.map_cons, intercalate_cons, List.append_assoc] at h
      exact absurd (congrArg List.head? h).symm (hbs b List.mem_cons_self _)
  | cons a as =>
    cases bs with
    | nil =>
      rw [List.map_cons, intercalate_cons, List.append_assoc] at h
      exact absurd (congrArg List.head? h) (has a List.mem_cons_self _)
    | cons b bs =>
      rw [List.map_cons, List.map_cons, intercalate_cons, intercalate_cons, List.append_assoc,
        List.append_assoc] at h
      obtain ⟨hab, hlater⟩ := hR a List.mem_cons_self b List.mem_cons_self
        (follows_flatMap hclose _ _) (follows_flatMap hclose _ _) h
      obtain ⟨hbs, hrest⟩ := forall₂_of_flatMap_eq hclose hcomma (fun a ha b hb =>
        hR a (List.mem_cons_of_mem _ ha) b (List.mem_cons_of_mem _ hb)) hlater
      exact ⟨.cons hab hbs, hrest⟩

end Listed

namespace Json

/-! ## The same data -/

/-- Numbers are whole, and no two keys of an object compose to one. -/
inductive Unambiguous : Json → Prop where
  | null : Unambiguous null
  | bool (b : Bool) : Unambiguous (bool b)
  | number {n : Number} (whole : n.IsWhole) : Unambiguous (number n)
  | string (s : String) : Unambiguous (string s)
  | array {vs : List Json} (items : ∀ v ∈ vs, Unambiguous v) : Unambiguous (array vs)
  | object {ms : Members} (distinct : (ms.map fun m => composedString m.1).Nodup)
      (members : ∀ m ∈ ms, Unambiguous m.2) : Unambiguous (object ms)

/-- The values are equal as data: a number is its exact value, a string what it composes to, and the
members of an object stand in no order. -/
inductive SameData : Json → Json → Prop where
  | null : SameData null null
  | bool (b : Bool) : SameData (bool b) (bool b)
  | number {n n' : Number} (value : n.units = n'.units) : SameData (number n) (number n')
  | string {s s' : String} (composed : composedString s = composedString s') :
      SameData (string s) (string s')
  | array {vs vs' : List Json} (items : List.Forall₂ SameData vs vs') : SameData (array vs) (array vs')
  /-- The partners are the members of the other object, in the order of this one. -/
  | object {ms ms' partners : Members} (perm : partners.Perm ms')
      (keys : ms.map (fun m => composedString m.1) = partners.map fun m => composedString m.1)
      (values : List.Forall₂ SameData (ms.map (·.2)) (partners.map (·.2))) :
      SameData (object ms) (object ms')

/-! ## Values of the same data have one text -/

theorem canonical_number {n : Number} (h : n.IsWhole) :
    ∃ (k : Int) (fits : FitsWord k), (number n).canonical = toString k ∧
      (Number.int k fits).units = n.units := by
  obtain ⟨k, fits, hnormalize, hunits⟩ := Number.normalize_of_isWhole h
  refine ⟨k, fits, ?_, hunits⟩
  rw [canonical, normalize, hnormalize, sortedText, Number.text]

theorem forall₂_members {R : Json → Json → Prop} {ms ms' : Members} :
    List.Forall₂ (fun m m' => composedString m.1 = composedString m'.1 ∧ R m.2 m'.2) ms ms' ↔
      ms.map (fun m => composedString m.1) = ms'.map (fun m => composedString m.1) ∧
        List.Forall₂ R (ms.map (·.2)) (ms'.map (·.2)) := by
  induction ms generalizing ms' with
  | nil => cases ms' <;> simp
  | cons m ms ih =>
    cases ms' with
    | nil => simp
    | cons m' ms' =>
      simp only [List.map_cons, List.forall₂_cons, List.cons.injEq, ih]
      exact and_and_and_comm

theorem entryText_eq_iff {m m' : String × Json} :
    entryText m = entryText m' ↔
      composedString m.1 = composedString m'.1 ∧ m.2.canonical = m'.2.canonical := by
  rw [entryText, entryText, Prod.mk.injEq, quote_injective.eq_iff]

theorem canonical_eq_of_sameData {v w : Json} (hv : v.Unambiguous) (hw : w.Unambiguous)
    (h : v.SameData w) : v.canonical = w.canonical := by
  induction hv generalizing w with
  | null =>
    cases h
    rfl
  | bool b =>
    cases h
    rfl
  | number hn =>
    cases h with
    | number hvalue =>
      cases hw with
      | number hn' =>
        obtain ⟨k, _, htext, hunits⟩ := canonical_number hn
        obtain ⟨l, _, htext', hunits'⟩ := canonical_number hn'
        have hkl : k = l := Number.units_int_injective (hunits.trans (hvalue.trans hunits'.symm))
        rw [htext, htext', hkl]
  | string s =>
    cases h with
    | string hcomposed =>
      show quote (composedString s) = quote _
      rw [hcomposed]
  | array _ ih =>
    cases h with
    | array hitems =>
      cases hw with
      | array hws =>
        rw [canonical_array, canonical_array]
        rw [map_eq_map_of_forall₂ ((forall₂_and_mem hitems).imp
          fun v w ⟨hvw, hv, hw⟩ => ih v hv (hws w hw) hvw)]
  | @object ms hdistinct _ ih =>
    cases h with
    | @object _ ms' partners hperm hkeys hvalues =>
      cases hw with
      | object hdistinct' hmembers =>
        -- The partners have the same texts, and the texts are sorted, so the order does not
        -- matter.
        have hentries : ms.map entryText = partners.map entryText := by
          refine map_eq_map_of_forall₂ ((forall₂_and_mem
            (forall₂_members.2 ⟨hkeys, hvalues⟩)).imp ?_)
          rintro m m' ⟨⟨hkey, hvalue⟩, hm, hm'⟩
          exact entryText_eq_iff.2 ⟨hkey, ih m hm (hmembers m' (hperm.mem_iff.1 hm')) hvalue⟩
        rw [canonical_object hdistinct, canonical_object hdistinct', hentries]
        rw [mergeSort_eq_of_perm (hentries ▸ nodup_entryTexts hdistinct) (hperm.map entryText)]

/-! ## Values of one text hold the same data -/

theorem toList_canonical_array (vs : List Json) :
    (array vs).canonical.toList
      = '[' :: ([','].intercalate (vs.map fun v => v.canonical.toList) ++ [']']) := by
  rw [canonical_array, String.toList_append, String.toList_append, String.toList_intercalate, List.map_map]
  rfl

def memberText (m : String × Json) : List Char :=
  (quote (composedString m.1)).toList ++ ':' :: m.2.canonical.toList

theorem exists_memberTexts {ms : Members} (h : (ms.map fun m => composedString m.1).Nodup) :
    ∃ sorted : Members, sorted.Perm ms ∧ (object ms).canonical.toList
      = '\x7b' :: ([','].intercalate (sorted.map memberText) ++ ['\x7d']) := by
  have hperm := List.mergeSort_perm (ms.map entryText) fun a b => decide (a.1 ≤ b.1)
  have hsorted := congrFun (congrFun (List.eq_map_comp_perm entryText) _) ms ▸ hperm
  obtain ⟨sorted, heq, hperm⟩ := hsorted
  refine ⟨sorted, hperm, ?_⟩
  rw [canonical_object h, heq, String.toList_append, String.toList_append, String.toList_intercalate,
    List.map_map, List.map_map]
  have htext : (String.toList ∘ fun e => e.1 ++ ":" ++ e.2) ∘ entryText = memberText := by
    funext m
    simp [entryText, memberText]
  rw [htext]
  rfl

/-- The type of the values whose texts begin with the character. -/
def typeOfLead : Char → InstanceType
  | 'n' => .null
  | 't' | 'f' => .boolean
  | '"' => .string
  | '[' => .array
  | '\x7b' => .object
  | _ => .integer

section Numerals

theorem toString_int_injective : Function.Injective (toString : Int → String) := by
  intro k l h
  have hread := congrArg String.toInt? h
  rw [Int.toString_eq_repr, Int.toString_eq_repr, Int.toInt?_repr, Int.toInt?_repr] at hread
  exact Option.some.inj hread

variable {c : Char} (h : c = '-' ∨ Decimal.isDigit c = true)
include h

theorem typeOfLead_numeral : typeOfLead c = .integer := by
  unfold typeOfLead
  split <;> first | rfl | revert h; decide

theorem endsValue_numeral : endsValue c = false := by
  rw [← Bool.not_eq_true]
  intro hends
  rw [endsValue, List.contains_iff_mem] at hends
  revert h
  fin_cases hends <;> decide

end Numerals

theorem toList_canonical_bool (b : Bool) :
    (bool b).canonical.toList = if b then ['t', 'r', 'u', 'e'] else ['f', 'a', 'l', 's', 'e'] := by
  cases b <;> rfl

theorem endsValue_bool (b : Bool) : ∀ c ∈ (bool b).canonical.toList, endsValue c = false := by
  rw [toList_canonical_bool]
  cases b <;> simp [endsValue]

theorem canonical_bool_inj {b b' : Bool}
    (h : (bool b).canonical.toList = (bool b').canonical.toList) : b = b' := by
  rw [toList_canonical_bool, toList_canonical_bool] at h
  revert h
  cases b <;> cases b' <;> decide

theorem ofValue_number {n : Number} (h : n.IsWhole) : InstanceType.ofValue (number n) = .integer := by
  rw [InstanceType.ofValue, if_pos (Number.isInteger_of_isWhole h)]

/-- The first character tells the type, and that there is a value. -/
theorem exists_lead {v : Json} (h : v.Unambiguous) :
    ∃ c cs, v.canonical.toList = c :: cs ∧ typeOfLead c = InstanceType.ofValue v ∧
      endsValue c = false := by
  cases h with
  | null => exact ⟨_, _, rfl, rfl, rfl⟩
  | bool b => cases b <;> exact ⟨_, _, rfl, rfl, rfl⟩
  | number hn =>
    obtain ⟨k, _, htext, _⟩ := canonical_number hn
    obtain ⟨c, cs, hcs⟩ := List.exists_cons_of_ne_nil (Decimal.toList_toString_ne_nil k)
    have hc := Decimal.numeral_of_mem (hcs ▸ List.mem_cons_self)
    exact ⟨c, cs, htext ▸ hcs, by rw [typeOfLead_numeral hc, ofValue_number hn], endsValue_numeral hc⟩
  | string s => exact ⟨'"', _, toList_quote (composedString s), rfl, rfl⟩
  | @array vs _ => exact ⟨'[', _, toList_canonical_array vs, rfl, rfl⟩
  | object hdistinct _ =>
    obtain ⟨sorted, _, htext⟩ := exists_memberTexts hdistinct
    exact ⟨'\x7b', _, htext, rfl, rfl⟩

inductive SameType : Json → Json → Prop where
  | null : SameType null null
  | bool (b b' : Bool) : SameType (bool b) (bool b')
  | number (n n' : Number) : SameType (number n) (number n')
  | string (s s' : String) : SameType (string s) (string s')
  | array (vs vs' : List Json) : SameType (array vs) (array vs')
  | object (ms ms' : Members) : SameType (object ms) (object ms')

theorem sameType_of_text_eq {v w : Json} (hv : v.Unambiguous) (hw : w.Unambiguous)
    {rest rest' : List Char} (h : v.canonical.toList ++ rest = w.canonical.toList ++ rest') :
    SameType v w := by
  have htype : InstanceType.ofValue v = InstanceType.ofValue w := by
    obtain ⟨c, cs, htext, htype, _⟩ := exists_lead hv
    obtain ⟨c', cs', htext', htype', _⟩ := exists_lead hw
    rw [htext, htext'] at h
    rw [← htype, ← htype', (List.cons.inj h).1]
  cases hv <;> cases hw <;>
    first
    | constructor
    | simp [InstanceType.ofValue, Number.isInteger_of_isWhole, *] at htype

theorem head?_canonical_ne {v : Json} (h : v.Unambiguous) {close : Char} (hclose : endsValue close = true)
    (rest : List Char) : (v.canonical.toList ++ rest).head? ≠ some close := by
  obtain ⟨c, cs, htext, _, hends⟩ := exists_lead h
  rw [htext]
  rintro ⟨rfl⟩
  rw [hclose] at hends
  cases hends

def Separate : Json → Json → Prop :=
  TellsApart SameData (fun v => v.canonical.toList) (fun v => v.canonical.toList)

theorem separate_bool (b b' : Bool) : Separate (bool b) (bool b') := by
  intro rest rest' hrest hrest' h
  obtain ⟨htext, hrest⟩ := append_inj_of_follows (endsValue_bool b) (endsValue_bool b') hrest hrest' h
  obtain rfl := canonical_bool_inj htext
  exact ⟨.bool b, hrest⟩

theorem separate_number {n n' : Number} (hn : n.IsWhole) (hn' : n'.IsWhole) :
    Separate (number n) (number n') := by
  obtain ⟨k, _, htext, hunits⟩ := canonical_number hn
  obtain ⟨l, _, htext', hunits'⟩ := canonical_number hn'
  intro rest rest' hrest hrest' h
  dsimp only at h
  rw [htext, htext'] at h
  obtain ⟨hnumeral, hrest⟩ := append_inj_of_follows
    (fun c hc => endsValue_numeral (Decimal.numeral_of_mem hc))
    (fun c hc => endsValue_numeral (Decimal.numeral_of_mem hc)) hrest hrest' h
  obtain rfl : k = l := toString_int_injective (String.toList_injective hnumeral)
  exact ⟨.number (hunits.symm.trans hunits'), hrest⟩

theorem separate_array {vs ws : List Json} (hvs : ∀ v ∈ vs, v.Unambiguous)
    (hws : ∀ w ∈ ws, w.Unambiguous) (hitems : ∀ v ∈ vs, ∀ w ∈ ws, Separate v w) :
    Separate (array vs) (array ws) := by
  intro rest rest' _ _ h
  dsimp only at h
  rw [toList_canonical_array, toList_canonical_array, List.cons_append, List.cons_append,
    List.append_assoc, List.append_assoc] at h
  obtain ⟨hsame, hrest⟩ := forall₂_of_intercalate_eq rfl (by decide) hitems
    (fun v hv => head?_canonical_ne (hvs v hv) rfl) (fun w hw => head?_canonical_ne (hws w hw) rfl)
    (List.cons.inj h).2
  exact ⟨.array hsame, hrest⟩

theorem head?_memberText_ne (m : String × Json) (rest : List Char) :
    (memberText m ++ rest).head? ≠ some '\x7d' := by
  rw [memberText, toList_quote]
  exact fun h => nomatch h

theorem separate_object {ms ms' : Members} (hdistinct : (ms.map fun m => composedString m.1).Nodup)
    (hdistinct' : (ms'.map fun m => composedString m.1).Nodup)
    (hvalues : ∀ m ∈ ms, ∀ m' ∈ ms', Separate m.2 m'.2) : Separate (object ms) (object ms') := by
  obtain ⟨sorted, hperm, htext⟩ := exists_memberTexts hdistinct
  obtain ⟨sorted', hperm', htext'⟩ := exists_memberTexts hdistinct'
  have hmembers : ∀ m ∈ sorted, ∀ m' ∈ sorted', TellsApart
      (fun m m' => composedString m.1 = composedString m'.1 ∧ SameData m.2 m'.2)
      memberText memberText m m' := by
    intro m hm m' hm' rest rest' hrest hrest' h
    rw [memberText, memberText, List.append_assoc, List.append_assoc] at h
    obtain ⟨hkey, hvalue⟩ := quote_append_inj h
    obtain ⟨hvalue, hrest⟩ := hvalues m (hperm.mem_iff.1 hm) m' (hperm'.mem_iff.1 hm') hrest hrest'
      (List.cons.inj hvalue).2
    exact ⟨⟨hkey, hvalue⟩, hrest⟩
  intro rest rest' _ _ h
  dsimp only at h
  rw [htext, htext', List.cons_append, List.cons_append, List.append_assoc, List.append_assoc] at h
  obtain ⟨hsorted, hrest⟩ := forall₂_of_intercalate_eq rfl (by decide) hmembers
    (fun m _ => head?_memberText_ne m) (fun m _ => head?_memberText_ne m) (List.cons.inj h).2
  obtain ⟨partners, hpartners, hpermuted⟩ := List.perm_comp_forall₂ hperm.symm hsorted
  obtain ⟨hkeys, hvalues⟩ := forall₂_members.1 hpartners
  exact ⟨.object (hpermuted.trans hperm') hkeys hvalues, hrest⟩

/-- The text of a value decides its data, and where it ends in a longer text. -/
theorem separate_of_unambiguous {v : Json} (hv : v.Unambiguous) {w : Json} (hw : w.Unambiguous) :
    Separate v w := by
  induction hv generalizing w with
  | null =>
    intro rest rest' _ _ h
    cases sameType_of_text_eq .null hw h
    exact ⟨.null, List.append_cancel_left h⟩
  | bool b =>
    intro rest rest' hrest hrest' h
    cases sameType_of_text_eq (.bool b) hw h
    exact separate_bool b _ hrest hrest' h
  | number hn =>
    intro rest rest' hrest hrest' h
    cases sameType_of_text_eq (.number hn) hw h
    cases hw with
    | number hn' => exact separate_number hn hn' hrest hrest' h
  | string s =>
    intro rest rest' _ _ h
    cases sameType_of_text_eq (.string s) hw h
    obtain ⟨hcomposed, hrest⟩ := quote_append_inj h
    exact ⟨.string hcomposed, hrest⟩
  | array hvs ih =>
    intro rest rest' hrest hrest' h
    cases sameType_of_text_eq (.array hvs) hw h
    cases hw with
    | array hws =>
      exact separate_array hvs hws (fun v hv w hw => ih v hv (hws w hw)) hrest hrest' h
  | object hdistinct hms ih =>
    intro rest rest' hrest hrest' h
    cases sameType_of_text_eq (.object hdistinct hms) hw h
    cases hw with
    | object hdistinct' hms' =>
      exact separate_object hdistinct hdistinct' (fun m hm m' hm' => ih m hm (hms' m' hm')) hrest
        hrest' h

theorem sameData_of_canonical_eq {v w : Json} (hv : v.Unambiguous) (hw : w.Unambiguous)
    (h : v.canonical = w.canonical) : v.SameData w :=
  (separate_of_unambiguous hv hw follows_nil follows_nil
    (congrArg (fun text : String => text.toList ++ []) h)).1

/-- The canonical form decides equality: two unambiguous values have one canonical text exactly if they
hold the same data. -/
theorem canonical_eq_iff_sameData {v w : Json} (hv : v.Unambiguous) (hw : w.Unambiguous) :
    v.canonical = w.canonical ↔ v.SameData w :=
  ⟨sameData_of_canonical_eq hv hw, canonical_eq_of_sameData hv hw⟩

/-- An integer spelled in two ways, and members in two orders. -/
theorem canonical_eq_reordered :
    let v := object [("b", array [number (.double 1.0 (by decide)), null]), ("\u00e9", string "\n")]
    let w := object [("\u00e9", string "\n"), ("b", array [number (.int 1 (by decide)), null])]
    v.Unambiguous ∧ w.Unambiguous ∧ v.canonical = w.canonical := by
  intro v w
  have hv : v.Unambiguous := by
    refine .object (by decide +kernel) ?_
    simp only [List.forall_mem_cons]
    refine ⟨.array ?_, .string _, List.forall_mem_nil _⟩
    simp only [List.forall_mem_cons]
    exact ⟨.number ⟨by decide +kernel, by decide +kernel⟩, .null, List.forall_mem_nil _⟩
  have hw : w.Unambiguous := by
    refine .object (by decide +kernel) ?_
    simp only [List.forall_mem_cons]
    refine ⟨.string _, .array ?_, List.forall_mem_nil _⟩
    simp only [List.forall_mem_cons]
    exact ⟨.number trivial, .null, List.forall_mem_nil _⟩
  have hsame : v.SameData w := by
    refine .object (.swap _ _ _) rfl ?_
    exact .cons (.array (.cons (.number (by decide +kernel)) (.cons .null .nil)))
      (.cons (.string rfl) .nil)
  exact ⟨hv, hw, (canonical_eq_iff_sameData hv hw).2 hsame⟩

end Json

end JsonSchema
