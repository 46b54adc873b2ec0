import JsonSchema.Proofs.Canonical.Equality
import JsonSchema.Proofs.Decimal.Fewest
import JsonSchema.Proofs.Decimal.Layout
import JsonSchema.Yaml.Convert

/-!
# Keys that are no strings

Numbers and truth values are keys by their texts. These texts tell them apart as the values that they are; only a
string can spell another key.
-/

namespace JsonSchema

open Decimal Float.Model Float.Model.UnpackedFloat

/-! ## Texts of doubles -/

namespace Decimal.Style

variable (s : Style)

theorem signed_layout_inj {minus minus' : Bool} {d d' : Digits}
    (h : (if minus then "-" else "") ++ s.layout d = (if minus' then "-" else "") ++ s.layout d') :
    minus = minus' ∧ d.value = d'.value := by
  have hlist := congrArg String.toList h
  rw [String.toList_append, String.toList_append] at hlist
  cases minus <;> cases minus'
  · exact ⟨rfl, s.value_eq_of_layout_eq (String.toList_injective hlist)⟩
  · exact absurd hlist (s.toList_layout_ne_minus d _)
  · exact absurd hlist.symm (s.toList_layout_ne_minus d' _)
  · exact ⟨rfl, s.value_eq_of_layout_eq (String.toList_injective (List.cons.inj hlist).2)⟩

theorem exists_render {f : Float} (h : f.isFinite = true) : ∃ (minus : Bool) (d : Digits),
    s.render f = (if minus then "-" else "") ++ s.layout d ∧
      (Double.value f = 0 ∧ d.value = 0 ∨
        0 < (binary f).mantissa ∧ minus = (binary f).negative ∧ (binary f).Holds d.value ∧ 0 < d.value) := by
  by_cases hzero : (binary f).mantissa = 0
  · refine ⟨(binary f).negative && s.signedZero, ⟨0, 0⟩, if_pos hzero, .inl ⟨?_, ?_⟩⟩
    · rw [← abs_eq_zero, Double.abs_value h, Binary.magnitude, hzero, Nat.cast_zero, zero_mul]
    · rw [Digits.value, Nat.cast_zero, zero_mul]
  · have hpos := Nat.pos_of_ne_zero hzero
    have hdouble := Double.ofDouble_binary h hpos
    have hshortest := Binary.isShortest_shortest hdouble s.tie
    exact ⟨_, _, if_neg hzero, .inr ⟨hpos, rfl, hshortest.holds,
      (Binary.low_pos hdouble).trans_le hshortest.holds.low_le⟩⟩

theorem value_eq_of_render_eq {f g : Float} (hf : f.isFinite = true) (hg : g.isFinite = true)
    (h : s.render f = s.render g) : Double.value f = Double.value g := by
  obtain ⟨minus, d, htext, hd⟩ := s.exists_render hf
  obtain ⟨minus', d', htext', hd'⟩ := s.exists_render hg
  rw [htext, htext'] at h
  obtain ⟨hminus, hvalue⟩ := s.signed_layout_inj h
  rcases hd with ⟨hzero, hnone⟩ | ⟨hpos, hsign, hholds, hmore⟩
  · rcases hd' with ⟨hzero', _⟩ | ⟨_, _, _, hmore'⟩
    · rw [hzero, hzero']
    · linarith
  · rcases hd' with ⟨_, hnone'⟩ | ⟨hpos', hsign', hholds', _⟩
    · linarith
    · rw [hvalue] at hholds
      rw [Double.value_eq_binary hf, Double.value_eq_binary hg, ← Binary.withSign_magnitude,
        ← Binary.withSign_magnitude, Double.magnitude_eq_of_holds hf hg hpos hpos' hholds hholds', Binary.withSign,
        Binary.withSign, ← hsign, ← hsign', hminus]

end Decimal.Style

namespace Yaml.Value

/-- The four kinds of doubles and their texts. -/
inductive FloatText (f : Float) : String → Prop where
  | nan (h : f.isNaN = true) : FloatText f ".nan"
  | finite (h : f.isFinite = true) : FloatText f (keyStyle.render f)
  | negative (h : f.toModel.unpack = .infinity .negative) : FloatText f "-.inf"
  | positive (h : f.toModel.unpack = .infinity .positive) : FloatText f ".inf"

theorem exists_infinity {f : Float} (h : ¬f.isNaN = true) (h' : ¬f.isFinite = true) :
    ∃ s, f.toModel.unpack = .infinity s := by
  have hnan : f.isNaN = f.toModel.unpack.isNaN := rfl
  have hfinite : f.isFinite = f.toModel.unpack.isFinite := rfl
  cases hu : f.toModel.unpack with
  | infinity s => exact ⟨s, rfl⟩
  | notANumber =>
    rw [hnan, hu] at h
    exact absurd rfl h
  | _ =>
    rw [hfinite, hu] at h'
    exact absurd rfl h'

theorem floatText_spec (f : Float) : FloatText f (floatText f) := by
  unfold floatText
  have hneg : f < 0 ↔ f.toModel.unpack.lt (0 : Float).toModel.unpack = true := decide_eq_true_iff
  split_ifs with h h' h''
  · exact .nan h
  · exact .finite h'
  · obtain ⟨s, hs⟩ := exists_infinity h h'
    cases s with
    | negative => exact .negative hs
    | positive =>
      rw [hneg, hs] at h''
      cases h''
  · obtain ⟨s, hs⟩ := exists_infinity h h'
    cases s with
    | negative =>
      rw [hneg, hs] at h''
      exact absurd rfl h''
    | positive => exact .positive hs

theorem mem_render {f : Float} (h : f.isFinite = true) : ∀ c ∈ (keyStyle.render f).toList, Style.IsNumeralChar c := by
  obtain ⟨minus, d, htext, _⟩ := keyStyle.exists_render h
  rw [htext, String.toList_append, List.forall_mem_append]
  refine ⟨fun c hc => .inr ?_, keyStyle.mem_layout d⟩
  split_ifs at hc
  · rw [List.mem_singleton.1 hc]
    decide
  · cases hc

theorem not_isNumeralChar {c : Char} (h : c = 'n' ∨ c = 't' ∨ c = 'f') : ¬Style.IsNumeralChar c := by
  rcases h with rfl | rfl | rfl <;> unfold Style.IsNumeralChar <;> decide

theorem FloatText.exists_mark {f : Float} {text : String} (h : FloatText f text) :
    ∃ c ∈ text.toList, c = '.' ∨ c = 'e' := by
  cases h with
  | nan => exact ⟨'.', by decide, .inl rfl⟩
  | finite h =>
    obtain ⟨minus, d, htext, _⟩ := keyStyle.exists_render h
    obtain ⟨c, hc, hmark⟩ := keyStyle.exists_mem_layout d rfl
    refine ⟨c, ?_, hmark⟩
    rw [htext, String.toList_append]
    exact List.mem_append_right _ hc
  | negative => exact ⟨'.', by decide, .inl rfl⟩
  | positive => exact ⟨'.', by decide, .inl rfl⟩

theorem not_mem_of_render {f : Float} (h : f.isFinite = true) {text : String} (htext : keyStyle.render f = text)
    {c : Char} (hc : c = 'n' ∨ c = 't' ∨ c = 'f') : c ∉ text.toList := fun hmem =>
  not_isNumeralChar hc (mem_render h c (htext ▸ hmem))

/-- Doubles of one text are the same key. -/
theorem FloatText.same {f g : Float} {text : String} (hf : FloatText f text) (hg : FloatText g text) :
    same (float f) (float g) = true := by
  have hbeq : (f == g) = f.toModel.unpack.beq g.toModel.unpack := rfl
  rw [Value.same, Bool.or_eq_true, Bool.and_eq_true]
  generalize htext : text = text' at hg
  cases hf with
  | nan h =>
    cases hg with
    | nan h' => exact .inl ⟨h, h'⟩
    | finite h' => exact absurd (by decide) (not_mem_of_render h' htext.symm (.inl rfl))
    | negative | positive => exact absurd htext (by decide)
  | finite h =>
    cases hg with
    | nan => exact absurd (by decide) (not_mem_of_render h htext (.inl rfl))
    | finite h' => exact .inr ((Double.beq_iff_value h h').2 (keyStyle.value_eq_of_render_eq h h' htext))
    | negative | positive => exact absurd (by decide) (not_mem_of_render h htext (.inl rfl))
  | negative h =>
    cases hg with
    | nan | positive => exact absurd htext (by decide)
    | finite h' => exact absurd (by decide) (not_mem_of_render h' htext.symm (.inl rfl))
    | negative h' =>
      rw [hbeq, h, h']
      exact .inr rfl
  | positive h =>
    cases hg with
    | nan | negative => exact absurd htext (by decide)
    | finite h' => exact absurd (by decide) (not_mem_of_render h' htext.symm (.inl rfl))
    | positive h' =>
      rw [hbeq, h, h']
      exact .inr rfl

/-! ## Keys of one text -/

theorem toList_toString_bool (b : Bool) : ∃ c ∈ (toString b).toList, c = 't' ∨ c = 'f' := by
  cases b with
  | true => exact ⟨'t', by decide, .inl rfl⟩
  | false => exact ⟨'f', by decide, .inr rfl⟩

theorem toString_bool_ne_int (b : Bool) (n : Int) : toString b ≠ toString n := by
  intro h
  obtain ⟨c, hc, hletter⟩ := toList_toString_bool b
  rw [h] at hc
  have hnumeral := numeral_of_mem hc
  rcases hletter with rfl | rfl <;> revert hnumeral <;> decide

theorem FloatText.ne_int {f : Float} {n : Int} : ¬FloatText f (toString n) := by
  intro h
  obtain ⟨c, hc, hmark⟩ := h.exists_mark
  have hnumeral := numeral_of_mem hc
  rcases hmark with rfl | rfl <;> revert hnumeral <;> decide

theorem FloatText.ne_bool {f : Float} {b : Bool} : ¬FloatText f (toString b) := by
  intro h
  generalize htext : toString b = text at h
  cases h with
  | finite h =>
    obtain ⟨c, hc, hletter⟩ := toList_toString_bool b
    exact not_mem_of_render h htext.symm (.inr hletter) hc
  | nan | negative | positive => cases b <;> revert htext <;> decide

/-- Numbers and truth values that are written as the same key are the same key. -/
theorem same_of_keyOf?_eq {k k' : Value} {text : String} (h : keyOf? k = some text) (h' : keyOf? k' = some text)
    (hk : k ≠ string text) (hk' : k' ≠ string text) : same k k' = true := by
  have hfloat : ∀ {f : Float}, keyOf? (float f) = some text → FloatText f text := fun hf =>
    Option.some.inj hf ▸ floatText_spec _
  have hint : ∀ {n : Int} {fits : FitsWord n}, keyOf? (int n fits) = some text → toString n = text := Option.some.inj
  have hbool : ∀ {b : Bool}, keyOf? (bool b) = some text → toString b = text := Option.some.inj
  cases k with
  | null | sequence | mapping | tagged => cases h
  | string s => exact absurd (congrArg string (Option.some.inj h)) hk
  | int n fits =>
    cases k' with
    | null | sequence | mapping | tagged => cases h'
    | string s => exact absurd (congrArg string (Option.some.inj h')) hk'
    | int m _ => exact beq_iff_eq.2 (Json.toString_int_injective ((hint h).trans (hint h').symm))
    | float f => exact absurd (hint h ▸ hfloat h') FloatText.ne_int
    | bool b => exact absurd ((hbool h').trans (hint h).symm) (toString_bool_ne_int b n)
  | float f =>
    cases k' with
    | null | sequence | mapping | tagged => cases h'
    | string s => exact absurd (congrArg string (Option.some.inj h')) hk'
    | int n _ => exact absurd (hint h' ▸ hfloat h) FloatText.ne_int
    | float g => exact (hfloat h).same (hfloat h')
    | bool b => exact absurd (hbool h' ▸ hfloat h) FloatText.ne_bool
  | bool b =>
    cases k' with
    | null | sequence | mapping | tagged => cases h'
    | string s => exact absurd (congrArg string (Option.some.inj h')) hk'
    | int n _ => exact absurd ((hbool h).trans (hint h').symm) (toString_bool_ne_int b n)
    | float f => exact absurd (hbool h ▸ hfloat h') FloatText.ne_bool
    | bool b' =>
      have htext := (hbool h).trans (hbool h').symm
      revert htext
      cases b <;> cases b' <;> decide

end Yaml.Value

end JsonSchema
