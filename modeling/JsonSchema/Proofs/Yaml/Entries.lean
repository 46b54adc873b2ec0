import JsonSchema.Proofs.Canonical.Normalization
import JsonSchema.Proofs.Yaml.Keys

/-!
# Entries of converted mappings

A converted value has all entries of the value exactly where no mapping in it has a string that spells another key.
Of two keys with one text only the later entry is left.
-/

namespace JsonSchema.Yaml.Value

/-! ## Mappings in a value -/

/-- Every mapping in the value is as asked. What stands inside of keys is left out. -/
inductive Everywhere (P : List (Value × Value) → Prop) : Value → Prop where
  | null : Everywhere P null
  | bool (b : Bool) : Everywhere P (bool b)
  | int (n : Int) (fits : FitsWord n) : Everywhere P (int n fits)
  | float (f : Float) : Everywhere P (float f)
  | string (s : String) : Everywhere P (string s)
  | sequence {vs : List Value} (items : ∀ v ∈ vs, Everywhere P v) : Everywhere P (sequence vs)
  | mapping {es : List (Value × Value)} (here : P es) (values : ∀ e ∈ es, Everywhere P e.2) :
      Everywhere P (mapping es)
  | tagged (tag : String) {v : Value} (h : Everywhere P v) : Everywhere P (tagged tag v)

/-- No entry has the key of an earlier one. -/
def KeysDiffer (es : List (Value × Value)) : Prop := es.Pairwise fun e e' => same e'.1 e.1 = false

/-- A key with the text of a string is that string. -/
def KeysClear (es : List (Value × Value)) : Prop :=
  ∀ e ∈ es, ∀ e' ∈ es, ∀ text, e.1 = string text → keyOf? e'.1 = some text → e'.1 = string text

/-! ## Equations of the reader -/

section Reader

variable (a : Aliases)

def ofItems? (depth : Nat) (items : List Node) (used : Nat) : Option (List Value × Nat) :=
  items.foldlM (fun (vs, used) item => do
    let (v, used) ← ofNode? a depth item used
    return (vs ++ [v], used)) ([], used)

def ofEntries? (depth : Nat) (entries : List (Node × Node)) (used : Nat) : Option (List (Value × Value) × Nat) :=
  entries.foldlM (fun (es, used) e => do
    let (k, used) ← ofNode? a depth e.1 used
    let (v, used) ← ofNode? a depth e.2 used
    return (← addEntry? es k v, used)) ([], used)

/-- The value of a node that is not followed any more. -/
def content? : Nat → Node → Nat → Option (Value × Nat)
  | _, .scalar p text plain, used =>
    (ofScalar? (if (ownTag? p.tag).isSome then none else p.tag) text plain).bind fun v =>
      some (wrap (ownTag? p.tag) v, used)
  | depth + 1, .sequence p items, used =>
    (ofItems? a depth items used).bind fun r => some (wrap (ownTag? p.tag) (sequence r.1), r.2)
  | depth + 1, .mapping p entries, used =>
    (ofEntries? a depth entries used).bind fun r => some (wrap (ownTag? p.tag) (mapping r.1), r.2)
  | _, _, _ => none

theorem ofNode?_eq (depth : Nat) (n : Node) (used : Nat) :
    ofNode? a depth n used = (a.follow? used n).bind fun r => content? a depth r.1 r.2 := by
  -- No equations are generated for a match under a bind, so that the recursion is opened by hand.
  cases depth <;> delta ofNode? <;> refine congrArg (Option.bind (a.follow? used n)) (funext fun r => ?_)
  · obtain ⟨n', used'⟩ := r
    cases n' <;> rfl
  · obtain ⟨n', used'⟩ := r
    cases n' with
    | aliasOf | scalar => rfl
    | sequence | mapping =>
      delta content? ofItems? ofEntries? ofNode?
      rfl

theorem ofNode?_scalar (depth : Nat) (text : String) (plain : Bool) (used : Nat) :
    ofNode? a depth (.scalar {} text plain) used = (ofScalar? none text plain).bind fun v => some (v, used) := by
  rw [ofNode?_eq]
  cases depth <;> rfl

theorem ofNode?_mapping (depth : Nat) (entries : List (Node × Node)) (used : Nat) :
    ofNode? a (depth + 1) (.mapping {} entries) used =
      (ofEntries? a depth entries used).bind fun r => some (mapping r.1, r.2) := by
  rw [ofNode?_eq]
  rfl

end Reader

theorem parse?_eq_some {text : String} {root : Node} {v : Value} {used : Nat}
    (hroot : (Token.ofText? text).bind Node.ofTokens? = some root)
    (hv : ofNode? (.ofRoot root) maxDepth root 0 = some (v, used)) : parse? text = some v := by
  obtain ⟨tokens, htokens, hroot⟩ := Option.bind_eq_some_iff.1 hroot
  simp only [parse?, htokens, hroot, hv, Option.bind_eq_bind, Option.bind_some, Option.pure_def]

/-! ## Parsed values -/

theorem foldlM_invariant {α β : Type} {P : β → Prop} {f : β → α → Option β} {as : List α}
    (hstep : ∀ b, P b → ∀ a ∈ as, ∀ b', f b a = some b' → P b') {b b' : β} (h : as.foldlM f b = some b') (hb : P b) :
    P b' := by
  induction as generalizing b with
  | nil => exact Option.some.inj h ▸ hb
  | cons a as ih =>
    rw [List.foldlM_cons, Option.bind_eq_bind, Option.bind_eq_some_iff] at h
    obtain ⟨b₁, hfirst, hrest⟩ := h
    exact ih (fun b hb a ha => hstep b hb a (List.mem_cons_of_mem _ ha)) hrest
      (hstep b hb a List.mem_cons_self b₁ hfirst)

section Parsed

variable {P : List (Value × Value) → Prop}

theorem Everywhere.wrap {v : Value} (h : v.Everywhere P) (tag? : Option String) : (wrap tag? v).Everywhere P := by
  cases tag? with
  | none => exact h
  | some tag => exact .tagged tag h

theorem everywhere_ofFloatText (text : String) : (ofFloatText text).Everywhere P := by
  unfold ofFloatText
  split_ifs
  · exact .string text
  · cases readFloat? text.toList with
    | none => exact .string text
    | some f => exact .float f

theorem everywhere_ofInteger? {n : Int} {v : Value} (h : ofInteger? n = some (some v)) : v.Everywhere P := by
  unfold ofInteger? at h
  split_ifs at h with hfits
  · cases h
    exact .int n hfits
  · cases h

theorem everywhere_ofPlain? {text : String} {v : Value} (h : ofPlain? text = some v) : v.Everywhere P := by
  unfold ofPlain? at h
  split_ifs at h
  · cases h
    exact .null
  · split at h
    · cases h
      exact .bool _
    · cases h
    · next hinteger =>
      cases h
      obtain ⟨n, _, hn⟩ := Option.map_eq_some_iff.1 hinteger
      exact everywhere_ofInteger? hn
    · cases h
      exact everywhere_ofFloatText text

theorem everywhere_ofScalar? {tag : Option (List UInt8)} {text : String} {plain : Bool} {v : Value}
    (h : ofScalar? tag text plain = some v) : v.Everywhere P := by
  unfold ofScalar? at h
  split at h
  · split_ifs at h
    · exact everywhere_ofPlain? h
    · cases h
      exact .string text
  · split_ifs at h
    · obtain ⟨b, _, rfl⟩ := Option.map_eq_some_iff.1 h
      exact .bool b
    · obtain ⟨v', hv', rfl⟩ := Option.bind_eq_some_iff.1 h
      obtain ⟨n, _, hn⟩ := Option.bind_eq_some_iff.1 hv'
      exact everywhere_ofInteger? hn
    · obtain ⟨f, _, rfl⟩ := Option.map_eq_some_iff.1 h
      exact .float f
    · cases h
      exact .null
    · exact everywhere_ofPlain? h
    · cases h
      exact .string text

end Parsed

theorem addEntry?_eq_some {es es' : List (Value × Value)} {k v : Value} (h : addEntry? es k v = some es')
    (hes : KeysDiffer es) : es' = es ++ [(k, v)] ∧ KeysDiffer es' := by
  unfold addEntry? at h
  rw [Option.ite_none_left_eq_some] at h
  obtain ⟨hnew, rfl⟩ := h.imp_right Option.some.inj
  refine ⟨rfl, List.pairwise_append.2 ⟨hes, List.pairwise_singleton _ _, fun e he e' he' => ?_⟩⟩
  rw [List.mem_singleton.1 he']
  rw [List.any_eq_true, not_exists] at hnew
  exact Bool.eq_false_iff.2 fun hsame => hnew e ⟨he, hsame⟩

theorem everywhere_ofItems? {a : Aliases} {depth : Nat} {items : List Node} {used : Nat} {r : List Value × Nat}
    {P : List (Value × Value) → Prop}
    (hnode : ∀ n used r, ofNode? a depth n used = some r → r.1.Everywhere P)
    (h : ofItems? a depth items used = some r) : ∀ v ∈ r.1, v.Everywhere P := by
  refine foldlM_invariant (P := fun r : List Value × Nat => ∀ v ∈ r.1, v.Everywhere P) ?_ h (List.forall_mem_nil _)
  rintro ⟨vs, used⟩ hvs item _ r hr
  obtain ⟨r', hr', heq⟩ := Option.bind_eq_some_iff.1 hr
  cases heq
  exact List.forall_mem_append.2 ⟨hvs, List.forall_mem_singleton.2 (hnode _ _ _ hr')⟩

/-- Entries differ in their keys, since one whose key is there already is refused. -/
theorem everywhere_ofEntries? {a : Aliases} {depth : Nat} {entries : List (Node × Node)} {used : Nat}
    {r : List (Value × Value) × Nat}
    (hnode : ∀ n used r, ofNode? a depth n used = some r → r.1.Everywhere KeysDiffer)
    (h : ofEntries? a depth entries used = some r) : KeysDiffer r.1 ∧ ∀ e ∈ r.1, e.2.Everywhere KeysDiffer := by
  refine foldlM_invariant
    (P := fun r : List (Value × Value) × Nat => KeysDiffer r.1 ∧ ∀ e ∈ r.1, e.2.Everywhere KeysDiffer) ?_ h
    ⟨List.Pairwise.nil, List.forall_mem_nil _⟩
  rintro ⟨es, used⟩ ⟨hdiffer, hes⟩ e _ r hr
  obtain ⟨k, _, hr⟩ := Option.bind_eq_some_iff.1 hr
  obtain ⟨v, hv, hr⟩ := Option.bind_eq_some_iff.1 hr
  obtain ⟨es', hes', heq⟩ := Option.bind_eq_some_iff.1 hr
  cases heq
  obtain ⟨rfl, hdiffer'⟩ := addEntry?_eq_some hes' hdiffer
  exact ⟨hdiffer', List.forall_mem_append.2 ⟨hes, List.forall_mem_singleton.2 (hnode _ _ _ hv)⟩⟩

theorem everywhere_ofNode? {a : Aliases} {depth : Nat} {n : Node} {used : Nat} {r : Value × Nat}
    (h : ofNode? a depth n used = some r) : r.1.Everywhere KeysDiffer := by
  induction depth generalizing n used r with
  | zero =>
    rw [ofNode?_eq] at h
    obtain ⟨⟨n', used'⟩, _, h⟩ := Option.bind_eq_some_iff.1 h
    cases n' with
    | aliasOf | sequence | mapping => cases h
    | scalar p text plain =>
      obtain ⟨v, hv, heq⟩ := Option.bind_eq_some_iff.1 h
      cases heq
      exact (everywhere_ofScalar? hv).wrap _
  | succ depth ih =>
    have hnode := fun n used r => @ih n used r
    rw [ofNode?_eq] at h
    obtain ⟨⟨n', used'⟩, _, h⟩ := Option.bind_eq_some_iff.1 h
    cases n' with
    | aliasOf => cases h
    | scalar p text plain =>
      obtain ⟨v, hv, heq⟩ := Option.bind_eq_some_iff.1 h
      cases heq
      exact (everywhere_ofScalar? hv).wrap _
    | sequence p items =>
      obtain ⟨vs, hvs, heq⟩ := Option.bind_eq_some_iff.1 h
      cases heq
      exact (Everywhere.sequence (everywhere_ofItems? hnode hvs)).wrap _
    | mapping p entries =>
      obtain ⟨es, hes, heq⟩ := Option.bind_eq_some_iff.1 h
      cases heq
      obtain ⟨hdiffer, hvalues⟩ := everywhere_ofEntries? hnode hes
      exact (Everywhere.mapping hdiffer hvalues).wrap _

theorem everywhere_parse? {text : String} {v : Value} (h : parse? text = some v) : v.Everywhere KeysDiffer := by
  simp only [parse?, Option.bind_eq_bind, Option.bind_eq_some_iff] at h
  obtain ⟨tokens, _, root, _, ⟨v', used⟩, hvalue, heq⟩ := h
  cases heq
  exact everywhere_ofNode? hvalue

/-! ## Conversion -/

/-- The JSON value has all of the value: items one by one, and in the same order for each entry a member that is found
under the text of its key. -/
inductive Mirrors : Value → Json → Prop where
  | null : Mirrors null .null
  | bool (b : Bool) : Mirrors (bool b) (.bool b)
  | int (n : Int) (fits : FitsWord n) : Mirrors (int n fits) (.number (.int n fits))
  | float (f : Float) (finite : f.isFinite = true) : Mirrors (float f) (.number (.double f finite))
  | string (s : String) : Mirrors (string s) (.string s)
  | sequence {vs : List Value} {js : List Json} (items : List.Forall₂ Mirrors vs js) :
      Mirrors (sequence vs) (.array js)
  | mapping {es : List (Value × Value)} {ms : Members} (keys : es.map (fun e => keyOf? e.1) = ms.keys.map some)
      (values : List.Forall₂ Mirrors (es.map (·.2)) (ms.map (·.2))) (found : ∀ m ∈ ms, ms.get? m.1 = some m.2) :
      Mirrors (mapping es) (.object ms)
  | tagged (tag : String) {v : Value} {j : Json} (h : Mirrors v j) : Mirrors (tagged tag v) j

theorem itemsToJson_eq_ok {vs : List Value} {js : List Json} (h : itemsToJson vs = .ok js) :
    List.Forall₂ (fun v j => v.toJson = .ok j) vs js := by
  induction vs generalizing js with
  | nil =>
    cases h
    exact .nil
  | cons v vs ih =>
    rw [itemsToJson] at h
    obtain ⟨j, hj, h⟩ := Except.bind_eq_ok_iff.1 h
    obtain ⟨rest, hrest, h⟩ := Except.bind_eq_ok_iff.1 h
    cases h
    exact .cons hj (ih hrest)

theorem entriesToJson_eq_ok {es : List (Value × Value)} {ms : Members} (h : entriesToJson es = .ok ms) :
    es.map (fun e => keyOf? e.1) = ms.keys.map some ∧
      List.Forall₂ (fun v j => v.toJson = .ok j) (es.map (·.2)) (ms.map (·.2)) := by
  induction es generalizing ms with
  | nil =>
    cases h
    exact ⟨rfl, .nil⟩
  | cons e es ih =>
    obtain ⟨k, v⟩ := e
    rw [entriesToJson] at h
    cases hkey : keyOf? k with
    | none =>
      rw [hkey] at h
      cases h
    | some key =>
      rw [hkey] at h
      obtain ⟨j, hj, h⟩ := Except.bind_eq_ok_iff.1 h
      obtain ⟨rest, hrest, h⟩ := Except.bind_eq_ok_iff.1 h
      cases h
      obtain ⟨hkeys, hvalues⟩ := ih hrest
      exact ⟨congrArg₂ List.cons hkey hkeys, .cons hj hvalues⟩

theorem keysClear_iff {es : List (Value × Value)} {keys : List String} (hdiffer : KeysDiffer es)
    (hkeys : es.map (fun e => keyOf? e.1) = keys.map some) : KeysClear es ↔ keys.Nodup := by
  have hnodup : (es.map fun e => keyOf? e.1).Nodup ↔ keys.Nodup := by
    rw [hkeys, List.nodup_map_iff (Option.some_injective _)]
  rw [← hnodup]
  constructor
  · intro hclear
    refine List.pairwise_map.2 (hdiffer.imp_of_mem fun {e e'} he he' hsame heq => ?_)
    obtain ⟨text, _, htext⟩ := List.mem_map.1 (hkeys ▸ List.mem_map_of_mem he : keyOf? e.1 ∈ keys.map some)
    refine Bool.false_ne_true (hsame.symm.trans ?_)
    by_cases hstring : e.1 = string text ∨ e'.1 = string text
    · obtain ⟨hk, hk'⟩ : e.1 = string text ∧ e'.1 = string text := by
        rcases hstring with hk | hk'
        · exact ⟨hk, hclear e he e' he' text hk (heq.symm.trans htext.symm)⟩
        · exact ⟨hclear e' he' e he text hk' htext.symm, hk'⟩
      rw [hk, hk', same]
      exact beq_self_eq_true text
    · rw [not_or] at hstring
      exact same_of_keyOf?_eq (heq.symm.trans htext.symm) htext.symm hstring.2 hstring.1
  · intro hnodup e he e' he' text hstring htext
    have heq : e' = e := List.inj_on_of_nodup_map hnodup he' he (by rw [htext, hstring, keyOf?])
    rw [heq, hstring]

theorem everywhere_sequence {P : List (Value × Value) → Prop} {vs : List Value} :
    (sequence vs).Everywhere P ↔ ∀ v ∈ vs, v.Everywhere P :=
  ⟨fun h => by cases h; assumption, .sequence⟩

theorem everywhere_mapping {P : List (Value × Value) → Prop} {es : List (Value × Value)} :
    (mapping es).Everywhere P ↔ P es ∧ ∀ v ∈ es.map (·.2), v.Everywhere P := by
  rw [List.forall_mem_map]
  exact ⟨fun h => by cases h; exact ⟨‹_›, ‹_›⟩, fun h => .mapping h.1 h.2⟩

theorem mirrors_sequence {vs : List Value} {js : List Json} :
    (sequence vs).Mirrors (.array js) ↔ List.Forall₂ Mirrors vs js :=
  ⟨fun h => by cases h; assumption, .sequence⟩

theorem mirrors_mapping {es : List (Value × Value)} {ms : Members}
    (hkeys : es.map (fun e => keyOf? e.1) = ms.keys.map some) :
    (mapping es).Mirrors (.object (Members.ofList ms)) ↔
      ms.keys.Nodup ∧ List.Forall₂ Mirrors (es.map (·.2)) (ms.map (·.2)) := by
  constructor
  · intro h
    cases h with | mapping hofList hvalues _
    have heq : (Members.ofList ms).keys = ms.keys :=
      List.map_injective_iff.2 (Option.some_injective _) (hofList.symm.trans hkeys)
    have hnodup : ms.keys.Nodup := heq ▸ Members.nodup_keys_ofList ms
    rw [Members.ofList_of_nodup ms hnodup] at hvalues
    exact ⟨hnodup, hvalues⟩
  · rintro ⟨hnodup, hvalues⟩
    rw [Members.ofList_of_nodup ms hnodup]
    exact .mapping hkeys hvalues (Members.get?_eq_some_of_mem ms hnodup)

theorem mirrors_iff {v : Value} {j : Json} (hdiffer : v.Everywhere KeysDiffer) (h : v.toJson = .ok j) :
    v.Mirrors j ↔ v.Everywhere KeysClear := by
  induction hdiffer generalizing j with
  | null =>
    cases h
    exact iff_of_true .null .null
  | bool b =>
    cases h
    exact iff_of_true (.bool b) (.bool b)
  | int n fits =>
    cases h
    exact iff_of_true (.int n fits) (.int n fits)
  | float f =>
    rw [toJson, Number.ofFloat?] at h
    split_ifs at h with hfinite
    · cases h
      exact iff_of_true (.float f hfinite) (.float f)
  | string s =>
    cases h
    exact iff_of_true (.string s) (.string s)
  | sequence _ ih =>
    obtain ⟨js, hjs, rfl⟩ := Except.map_eq_ok_iff.1 h
    rw [mirrors_sequence, everywhere_sequence]
    exact forall₂_iff_forall_mem (itemsToJson_eq_ok hjs) fun v hv j => ih v hv
  | mapping hdiffer _ ih =>
    obtain ⟨ms, hms, rfl⟩ := Except.map_eq_ok_iff.1 h
    obtain ⟨hkeys, hvalues⟩ := entriesToJson_eq_ok hms
    rw [mirrors_mapping hkeys, everywhere_mapping, keysClear_iff hdiffer hkeys,
      forall₂_iff_forall_mem hvalues (List.forall_mem_map.2 fun e he j => ih e he)]
  | tagged tag _ ih =>
    rw [toJson] at h
    have hiff := ih h
    constructor
    · rintro (_ | _)
      exact .tagged tag (hiff.1 ‹_›)
    · rintro (_ | _)
      exact .tagged tag (hiff.2 ‹_›)

/-- Converting loses no entry and changes no order, unless a string spells another key of its mapping. The reader makes
sure only that no key is there twice. -/
theorem mirrors_toJson_iff (v : Value) :
    (∀ text, parse? text = some v → v.Everywhere KeysDiffer) ∧
      ∀ j, v.Everywhere KeysDiffer → v.toJson = .ok j → (v.Mirrors j ↔ v.Everywhere KeysClear) :=
  ⟨fun _ => everywhere_parse?, fun _ => mirrors_iff⟩

theorem mirrors_toJson_nested : ∃ v,
    parse? "1:\n  true: a\n" = some v ∧ v.toJson = .ok (.object [("1", .object [("true", .string "a")])]) ∧
      v.Everywhere KeysClear ∧ v.Mirrors (.object [("1", .object [("true", .string "a")])]) := by
  have hroot : (Token.ofText? "1:\n  true: a\n").bind Node.ofTokens? =
      some (.mapping {} [(.scalar {} "1" true, .mapping {} [(.scalar {} "true" true, .scalar {} "a" true)])]) := by
    cbv
  have hone : ofScalar? none "1" true = some (int 1 (by decide)) := by cbv
  have htrue : ofScalar? none "true" true = some (bool true) := by cbv
  have ha : ofScalar? none "a" true = some (string "a") := by cbv
  have hparse : parse? "1:\n  true: a\n" =
      some (mapping [(int 1 (by decide), mapping [(bool true, string "a")])]) := by
    refine parse?_eq_some hroot (?_ : _ = some (_, 0))
    rw [maxDepth, ofNode?_mapping, ofEntries?]
    simp [ofNode?_mapping, ofNode?_scalar, ofEntries?, hone, htrue, ha, addEntry?]
  have hclear : (mapping [(int 1 (by decide), mapping [(bool true, string "a")])]).Everywhere KeysClear := by
    simp [everywhere_mapping, KeysClear, Everywhere.string]
  obtain ⟨hdiffer, hmirrors⟩ := mirrors_toJson_iff (mapping [(int 1 (by decide), mapping [(bool true, string "a")])])
  exact ⟨_, hparse, rfl, hclear, (hmirrors _ (hdiffer _ hparse) rfl).2 hclear⟩

/-- The number and the string are different keys, and the second takes the place of the first. -/
theorem entry_lost : ∃ v, parse? "1: a\n\"1\": b\n" = some v ∧
    v.Everywhere KeysDiffer ∧ v.toJson = .ok (.object [("1", .string "b")]) ∧
      ¬v.Mirrors (.object [("1", .string "b")]) := by
  have hroot : (Token.ofText? "1: a\n\"1\": b\n").bind Node.ofTokens? = some (.mapping {}
      [(.scalar {} "1" true, .scalar {} "a" true), (.scalar {} "1" false, .scalar {} "b" true)]) := by
    cbv
  have hone : ofScalar? none "1" true = some (int 1 (by decide)) := by cbv
  have hquoted : ofScalar? none "1" false = some (string "1") := by cbv
  have ha : ofScalar? none "a" true = some (string "a") := by cbv
  have hb : ofScalar? none "b" true = some (string "b") := by cbv
  have hparse : parse? "1: a\n\"1\": b\n" =
      some (mapping [(int 1 (by decide), string "a"), (string "1", string "b")]) := by
    refine parse?_eq_some hroot (?_ : _ = some (_, 0))
    rw [maxDepth, ofNode?_mapping, ofEntries?]
    simp [ofNode?_scalar, hone, ha, hquoted, hb, addEntry?, same]
  refine ⟨_, hparse, everywhere_parse? hparse, rfl, fun h => ?_⟩
  cases h with | mapping hkeys _ _
  exact absurd (congrArg List.length hkeys) (by decide)

end JsonSchema.Yaml.Value
