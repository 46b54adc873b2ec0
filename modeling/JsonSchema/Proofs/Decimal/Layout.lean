import JsonSchema.Decimal.Style
import JsonSchema.Proofs.Decimal.Digits
import JsonSchema.Proofs.Decimal.Numerals

/-!
# Decimals as they are laid out

In every style the text of a decimal is read as a decimal of the same value, so texts tell values apart.
-/

namespace JsonSchema.Decimal

/-! ## Digits in a row -/

theorem digitsValue_concat (cs cs' : List Char) :
    digitsValue (cs ++ cs') = digitsValue cs * 10 ^ cs'.length + digitsValue cs' := by
  induction cs' using List.reverseRecOn with
  | nil => simp [digitsValue]
  | append_singleton cs' c ih =>
    rw [← List.append_assoc, digitsValue_append, ih, digitsValue_append, List.length_append, List.length_singleton]
    ring

theorem digitsValue_zeros (n : Nat) : digitsValue (List.replicate n '0') = 0 := by
  induction n with
  | zero => rfl
  | succ n ih =>
    rw [List.replicate_succ', digitsValue_append, ih]
    rfl

theorem isDigit_zero : isDigit '0' = true := by decide

theorem isDigit_of_mem_zeros {n : Nat} {c : Char} (h : c ∈ List.replicate n '0') : isDigit c = true := by
  rw [List.eq_of_mem_replicate h, isDigit_zero]

theorem readNat?_of_digits {cs : List Char} (h : ∀ c ∈ cs, isDigit c = true) (hne : cs ≠ []) :
    readNat? cs = some (digitsValue cs) := by
  have hempty : cs.isEmpty = false := List.isEmpty_eq_false_iff.2 hne
  unfold readNat?
  rw [hempty, List.all_eq_true.2 h]
  rfl

/-! ## Numerals read in parts -/

def isMark (c : Char) : Bool := c == 'e' || c == 'E'

theorem isMark_of_isDigit {c : Char} (h : isDigit c = true) : isMark c = false := by
  unfold isMark
  rw [beq_false_of_ne (ne_of_isDigit h (by decide)), beq_false_of_ne (ne_of_isDigit h (by decide))]
  rfl

section Parts

variable {before after : List Char} (hbefore : ∀ c ∈ before, isDigit c = true)
  (hafter : ∀ c ∈ after, isDigit c = true)
include hbefore hafter

theorem readMantissa?_point (hne : before ++ after ≠ []) :
    readMantissa? (before ++ '.' :: after) = some ⟨digitsValue (before ++ after), -(after.length : Int)⟩ := by
  have hpoint : ∀ c ∈ before, decide (c ≠ '.') = true := fun c hc =>
    decide_eq_true (ne_of_isDigit (hbefore c hc) (by decide))
  have hdigits : ∀ c ∈ before ++ after, isDigit c = true := by
    intro c hc
    exact (List.mem_append.1 hc).elim (hbefore c) (hafter c)
  have htake : (before ++ '.' :: after).takeWhile (fun c => decide (c ≠ '.')) = before := by
    rw [List.takeWhile_append_of_pos hpoint, List.takeWhile_cons_of_neg (by decide), List.append_nil]
  have hdrop : (before ++ '.' :: after).dropWhile (fun c => decide (c ≠ '.')) = '.' :: after := by
    rw [List.dropWhile_append_of_pos hpoint, List.dropWhile_cons_of_neg (by decide)]
  unfold readMantissa?
  rw [htake, hdrop]
  dsimp only
  rw [List.drop_one, List.tail_cons, readNat?_of_digits hdigits hne]
  rfl

end Parts

section Marked

variable {mantissa : List Char} (hmantissa : ∀ c ∈ mantissa, isMark c = false)
include hmantissa

theorem readUnsigned?_of_no_mark : readUnsigned? mantissa = readMantissa? mantissa := by
  have hmark : ∀ c ∈ mantissa, (!(c == 'e' || c == 'E')) = true := fun c hc =>
    congrArg Bool.not (hmantissa c hc)
  simp only [readUnsigned?, List.takeWhile_eq_self_iff.2 hmark, List.dropWhile_eq_nil_iff.2 hmark]
  cases readMantissa? mantissa <;> rfl

theorem readUnsigned?_marked {d : Digits} (hd : readMantissa? mantissa = some d) {exponent : List Char} {e : Int}
    (he : readExponent? exponent = some e) :
    readUnsigned? (mantissa ++ 'e' :: exponent) = some ⟨d.digits, d.exponent + e⟩ := by
  have hmark : ∀ c ∈ mantissa, (!(c == 'e' || c == 'E')) = true := fun c hc =>
    congrArg Bool.not (hmantissa c hc)
  have htake : (mantissa ++ 'e' :: exponent).takeWhile (fun c => !(c == 'e' || c == 'E')) = mantissa := by
    rw [List.takeWhile_append_of_pos hmark, List.takeWhile_cons_of_neg (by decide), List.append_nil]
  have hdrop : (mantissa ++ 'e' :: exponent).dropWhile (fun c => !(c == 'e' || c == 'E')) = 'e' :: exponent := by
    rw [List.dropWhile_append_of_pos hmark, List.dropWhile_cons_of_neg (by decide)]
  simp only [readUnsigned?, htake, hdrop, hd, he, Option.map_some]

end Marked

/-! ## Layouts -/

namespace Style

variable (s : Style) (d : Digits)

theorem toList_zeros (n : Nat) : (zeros n).toList = List.replicate n '0' := String.toList_ofList

theorem length_toString (n : Nat) : (toString n).length = digitCount n := by
  rw [← String.length_toList, Segment.toList_toString]
  rfl

section Positional

variable {n : Nat} {e : Int}

theorem toList_positional_of_nonneg (he : 0 ≤ e) :
    (s.positional (toString n) e).toList =
      Nat.toDigits 10 n ++ List.replicate e.toNat '0' ++ if s.pointZero then ['.', '0'] else [] := by
  have hend : (if s.pointZero then ".0" else "").toList = if s.pointZero then ['.', '0'] else [] := by
    cases s.pointZero <;> rfl
  rw [positional, if_pos he, String.toList_append, String.toList_append, Segment.toList_toString, toList_zeros, hend]

theorem toList_positional_of_split (he : e < 0) (hsplit : -e < digitCount n) :
    (s.positional (toString n) e).toList =
      (Nat.toDigits 10 n).take (digitCount n - (-e).toNat) ++ '.' ::
        (Nat.toDigits 10 n).drop (digitCount n - (-e).toNat) := by
  rw [positional, length_toString, if_neg (not_le.2 he), if_pos hsplit, String.toList_append, String.toList_append,
    List.append_assoc, Segment.toList_toString]
  simp only [String.toList_ofList]
  rfl

theorem toList_positional_of_small (he : e < 0) (hsmall : ¬-e < digitCount n) :
    (s.positional (toString n) e).toList =
      ['0'] ++ '.' :: (List.replicate ((-e).toNat - digitCount n) '0' ++ Nat.toDigits 10 n) := by
  rw [positional, length_toString, if_neg (not_le.2 he), if_neg hsmall, String.toList_append, String.toList_append,
    toList_zeros, Segment.toList_toString, List.append_assoc]
  rfl

end Positional

theorem isMark_of_point {before after : List Char} (hbefore : ∀ c ∈ before, isDigit c = true)
    (hafter : ∀ c ∈ after, isDigit c = true) : ∀ c ∈ before ++ '.' :: after, isMark c = false := by
  intro c hc
  rcases List.mem_append.1 hc with hc | hc
  · exact isMark_of_isDigit (hbefore c hc)
  · rcases List.mem_cons.1 hc with rfl | hc
    · decide
    · exact isMark_of_isDigit (hafter c hc)

/-- A text without an exponent that is read as a decimal of the value. -/
structure ReadsPlain (text : List Char) (x : ℚ) : Prop where
  unmarked : ∀ c ∈ text, isMark c = false
  reads : ∃ d, readMantissa? text = some d ∧ d.value = x

theorem readsPlain_of_digits {cs : List Char} (h : ∀ c ∈ cs, isDigit c = true) (hne : cs ≠ []) :
    ReadsPlain cs (digitsValue cs) := by
  refine ⟨fun c hc => isMark_of_isDigit (h c hc), ⟨digitsValue cs, 0⟩, ?_, ?_⟩
  · rw [readMantissa?_of_digits h, readNat?_of_digits h hne]
    rfl
  · rw [Digits.value, zpow_zero, mul_one]

theorem readsPlain_of_point {before after : List Char} (hbefore : ∀ c ∈ before, isDigit c = true)
    (hafter : ∀ c ∈ after, isDigit c = true) (hne : before ++ after ≠ []) :
    ReadsPlain (before ++ '.' :: after) (digitsValue (before ++ after) * 10 ^ (-(after.length : Int))) :=
  ⟨isMark_of_point hbefore hafter, _, readMantissa?_point hbefore hafter hne, rfl⟩

/-- Zeros at the end are digits of a whole number, with a point and a zero more or without. -/
theorem readsPlain_whole (he : 0 ≤ d.exponent) :
    ReadsPlain (s.positional (toString d.digits) d.exponent).toList d.value := by
  have hne : Nat.toDigits 10 d.digits ++ List.replicate d.exponent.toNat '0' ≠ [] := by
    simp [Nat.toDigits_ne_nil]
  have hzeros : ∀ c ∈ Nat.toDigits 10 d.digits ++ List.replicate d.exponent.toNat '0', isDigit c = true := by
    intro c hc
    exact (List.mem_append.1 hc).elim isDigit_of_mem_toDigits isDigit_of_mem_zeros
  have hvalue : (digitsValue (Nat.toDigits 10 d.digits ++ List.replicate d.exponent.toNat '0') : ℚ) = d.value := by
    rw [digitsValue_concat, digitsValue_zeros, digitsValue_toDigits, List.length_replicate, Digits.value]
    obtain ⟨k, hk⟩ := Int.eq_ofNat_of_zero_le he
    rw [hk, zpow_natCast, Int.toNat_natCast]
    push_cast
    ring
  rw [s.toList_positional_of_nonneg he]
  split_ifs
  · have hreads := readsPlain_of_point hzeros (List.forall_mem_singleton.2 isDigit_zero)
      (List.append_ne_nil_of_left_ne_nil hne _)
    rw [digitsValue_concat, Nat.cast_add, Nat.cast_mul, hvalue] at hreads
    convert hreads using 1
    have hzero : digitsValue ['0'] = 0 := rfl
    rw [hzero, Nat.cast_zero, add_zero, List.length_singleton, Nat.cast_one, zpow_neg_one]
    push_cast
    ring
  · rw [List.append_nil, ← hvalue]
    exact readsPlain_of_digits hzeros hne

theorem readsPlain_split (he : d.exponent < 0) (hsplit : -d.exponent < digitCount d.digits) :
    ReadsPlain (s.positional (toString d.digits) d.exponent).toList d.value := by
  have hdigits : ∀ c ∈ Nat.toDigits 10 d.digits, isDigit c = true := fun c => isDigit_of_mem_toDigits
  rw [s.toList_positional_of_split he hsplit]
  have hreads := readsPlain_of_point
    (fun c hc => hdigits c (List.mem_of_mem_take (i := digitCount d.digits - (-d.exponent).toNat) hc))
    (fun c hc => hdigits c (List.mem_of_mem_drop (i := digitCount d.digits - (-d.exponent).toNat) hc))
    (by rw [List.take_append_drop]; exact Nat.toDigits_ne_nil)
  rw [List.take_append_drop, digitsValue_toDigits, List.length_drop] at hreads
  convert hreads using 1
  rw [Digits.value]
  congr 2
  change d.exponent = -((digitCount d.digits - (digitCount d.digits - (-d.exponent).toNat) : Nat) : Int)
  omega

theorem readsPlain_small (he : d.exponent < 0) (hsplit : ¬-d.exponent < digitCount d.digits) :
    ReadsPlain (s.positional (toString d.digits) d.exponent).toList d.value := by
  have hafter : ∀ c ∈ List.replicate ((-d.exponent).toNat - digitCount d.digits) '0' ++
      Nat.toDigits 10 d.digits, isDigit c = true := by
    intro c hc
    exact (List.mem_append.1 hc).elim isDigit_of_mem_zeros isDigit_of_mem_toDigits
  rw [s.toList_positional_of_small he hsplit]
  have hreads := readsPlain_of_point (List.forall_mem_singleton.2 isDigit_zero) hafter (by simp)
  rw [digitsValue_concat, digitsValue_concat, digitsValue_zeros, digitsValue_toDigits, List.length_append,
    List.length_replicate] at hreads
  convert hreads using 1
  rw [Digits.value]
  congr 1
  · simp [digitsValue]
  · congr 1
    change d.exponent = -(((-d.exponent).toNat - digitCount d.digits + digitCount d.digits : Nat) : Int)
    omega

theorem readsPlain_positional : ReadsPlain (s.positional (toString d.digits) d.exponent).toList d.value := by
  rcases le_or_gt 0 d.exponent with he | he
  · exact s.readsPlain_whole d he
  · by_cases hsplit : -d.exponent < digitCount d.digits
    · exact s.readsPlain_split d he hsplit
    · exact s.readsPlain_small d he hsplit

theorem readsPlain_leading {n : Nat} :
    ReadsPlain ((Nat.toDigits 10 n).take 1 ++
        if ((Nat.toDigits 10 n).drop 1).isEmpty then [] else '.' :: (Nat.toDigits 10 n).drop 1)
      (n * 10 ^ (1 - (digitCount n : Int))) := by
  have hdigits : ∀ c ∈ Nat.toDigits 10 n, isDigit c = true := fun c => isDigit_of_mem_toDigits
  have hlength : ((Nat.toDigits 10 n).drop 1).length = digitCount n - 1 := List.length_drop
  have hcount : 0 < (Nat.toDigits 10 n).length := Nat.length_toDigits_pos
  change 0 < digitCount n at hcount
  split_ifs with hempty
  · have hempty := List.isEmpty_iff.1 hempty
    have hall : (Nat.toDigits 10 n).take 1 = Nat.toDigits 10 n := by
      rw [← List.take_append_drop 1 (Nat.toDigits 10 n), hempty, List.append_nil, List.take_take, Nat.min_self]
    have hreads := readsPlain_of_digits hdigits Nat.toDigits_ne_nil
    rw [digitsValue_toDigits] at hreads
    rw [hempty, List.length_nil] at hlength
    have hone : 1 - (digitCount n : Int) = 0 := by omega
    rwa [List.append_nil, hall, hone, zpow_zero, mul_one]
  · have hreads := readsPlain_of_point (fun c hc => hdigits c (List.mem_of_mem_take (i := 1) hc))
      (fun c hc => hdigits c (List.mem_of_mem_drop (i := 1) hc))
      (by rw [List.take_append_drop]; exact Nat.toDigits_ne_nil)
    rw [List.take_append_drop, digitsValue_toDigits, hlength] at hreads
    have hone : 1 - (digitCount n : Int) = -((digitCount n - 1 : Nat) : Int) := by omega
    rwa [hone]

theorem readExponent?_signed (e : Int) :
    readExponent? ((if e < 0 then "-" else if s.plusExponent then "+" else "").toList ++
      Nat.toDigits 10 e.natAbs) = some e := by
  have hdigits : ∀ c ∈ Nat.toDigits 10 e.natAbs, isDigit c = true := fun c => isDigit_of_mem_toDigits
  have hsign : ∀ {cs : List Char} (negative : Bool), readSign cs = (negative, Nat.toDigits 10 e.natAbs) →
      readExponent? cs = some (if negative then -(e.natAbs : Int) else e.natAbs) := by
    intro cs negative hsign
    unfold readExponent?
    rw [hsign]
    dsimp only
    rw [readNat?_toDigits]
    rfl
  split_ifs with hneg hplus
  · refine (hsign true rfl).trans (congrArg some ?_)
    rw [if_pos rfl]
    omega
  · refine (hsign false rfl).trans (congrArg some ?_)
    rw [if_neg Bool.false_ne_true]
    omega
  · refine (hsign false (readSign_of_digits hdigits)).trans (congrArg some ?_)
    rw [if_neg Bool.false_ne_true]
    omega

theorem toList_scientific {n : Nat} {e : Int} :
    (s.scientific (toString n) e).toList =
      ((Nat.toDigits 10 n).take 1 ++
        if ((Nat.toDigits 10 n).drop 1).isEmpty then [] else '.' :: (Nat.toDigits 10 n).drop 1) ++
      'e' :: ((if e < 0 then "-" else if s.plusExponent then "+" else "").toList ++ Nat.toDigits 10 e.natAbs) := by
  have hrest : ∀ cs : List Char, (if cs.isEmpty then "" else "." ++ String.ofList cs).toList =
      if cs.isEmpty then [] else '.' :: cs := by
    intro cs
    split_ifs
    · rfl
    · simp only [String.toList_append, String.toList_ofList]
      rfl
  unfold scientific
  dsimp only
  rw [String.toList_append, String.toList_append, String.toList_append, String.toList_append, hrest,
    Segment.toList_toString, Segment.toList_toString, String.toList_ofList]
  simp only [List.append_assoc]
  rfl

theorem readUnsigned?_layout : ∃ r, readUnsigned? (s.layout d).toList = some r ∧ r.value = d.value := by
  unfold layout
  dsimp only
  rw [length_toString]
  split_ifs
  · obtain ⟨hunmarked, r, hr, hvalue⟩ := s.readsPlain_positional d
    exact ⟨r, (readUnsigned?_of_no_mark hunmarked).trans hr, hvalue⟩
  -- The digits behind the first one are a fraction, and the exponent makes up for it.
  · obtain ⟨hunmarked, r, hr, hvalue⟩ := readsPlain_leading (n := d.digits)
    rw [toList_scientific]
    refine ⟨_, readUnsigned?_marked hunmarked hr (s.readExponent?_signed _), ?_⟩
    rw [Digits.value, zpow_add₀ (by norm_num), ← mul_assoc]
    change r.value * _ = _
    rw [hvalue, Digits.value, mul_assoc, ← zpow_add₀ (by norm_num)]
    congr 2
    omega

/-! ## The characters of a text -/

/-- Digits, and what stands between them. -/
def IsNumeralChar (c : Char) : Prop := isDigit c = true ∨ c ∈ ['.', 'e', '+', '-']

theorem mem_positional {n : Nat} {e : Int} :
    ∀ c ∈ (s.positional (toString n) e).toList, isDigit c = true ∨ c = '.' := by
  have hdigits : ∀ c ∈ Nat.toDigits 10 n, isDigit c = true := fun c => isDigit_of_mem_toDigits
  intro c hc
  rcases le_or_gt 0 e with he | he
  · rw [s.toList_positional_of_nonneg he] at hc
    rcases List.mem_append.1 hc with hc | hc
    · exact .inl ((List.mem_append.1 hc).elim (hdigits c) isDigit_of_mem_zeros)
    · split_ifs at hc
      · rcases List.mem_cons.1 hc with rfl | hc
        · exact .inr rfl
        · rw [List.mem_singleton.1 hc]
          exact .inl isDigit_zero
      · cases hc
  · by_cases hsplit : -e < digitCount n
    · rw [s.toList_positional_of_split he hsplit] at hc
      rcases List.mem_append.1 hc with hc | hc
      · exact .inl (hdigits c (List.mem_of_mem_take hc))
      · exact (List.mem_cons.1 hc).symm.imp_left fun hc => hdigits c (List.mem_of_mem_drop hc)
    · rw [s.toList_positional_of_small he hsplit] at hc
      rcases List.mem_append.1 hc with hc | hc
      · rw [List.mem_singleton.1 hc]
        exact .inl isDigit_zero
      · exact (List.mem_cons.1 hc).symm.imp_left fun hc =>
          (List.mem_append.1 hc).elim isDigit_of_mem_zeros (hdigits c)

theorem mem_scientific {n : Nat} {e : Int} : ∀ c ∈ (s.scientific (toString n) e).toList, IsNumeralChar c := by
  have hdigits : ∀ {n : Nat}, ∀ c ∈ Nat.toDigits 10 n, IsNumeralChar c := fun c hc => .inl (isDigit_of_mem_toDigits hc)
  have hrest : ∀ c ∈ (if ((Nat.toDigits 10 n).drop 1).isEmpty then [] else '.' :: (Nat.toDigits 10 n).drop 1),
      IsNumeralChar c := by
    intro c hc
    split_ifs at hc
    · cases hc
    · rcases List.mem_cons.1 hc with rfl | hc
      · exact .inr (by decide)
      · exact hdigits c (List.mem_of_mem_drop hc)
  have hsign : ∀ c ∈ (if e < 0 then "-" else if s.plusExponent then "+" else "").toList, IsNumeralChar c := by
    intro c hc
    refine .inr ?_
    split_ifs at hc
    · rw [List.mem_singleton.1 hc]
      decide
    · rw [List.mem_singleton.1 hc]
      decide
    · cases hc
  rw [toList_scientific]
  simp only [List.forall_mem_append, List.forall_mem_cons]
  exact ⟨⟨fun c hc => hdigits c (List.mem_of_mem_take hc), hrest⟩, .inr (by decide), hsign, hdigits⟩

theorem mem_layout : ∀ c ∈ (s.layout d).toList, IsNumeralChar c := by
  unfold layout
  dsimp only
  split_ifs
  · intro c hc
    rcases s.mem_positional c hc with hdigit | rfl
    · exact .inl hdigit
    · exact .inr List.mem_cons_self
  · exact s.mem_scientific

theorem exists_mem_layout (hs : s.pointZero = true) : ∃ c ∈ (s.layout d).toList, c = '.' ∨ c = 'e' := by
  unfold layout
  dsimp only
  split_ifs
  · refine ⟨'.', ?_, .inl rfl⟩
    rcases le_or_gt 0 d.exponent with he | he
    · rw [s.toList_positional_of_nonneg he, if_pos hs]
      exact List.mem_append_right _ List.mem_cons_self
    · by_cases hsplit : -d.exponent < digitCount d.digits
      · rw [s.toList_positional_of_split he hsplit]
        exact List.mem_append_right _ List.mem_cons_self
      · rw [s.toList_positional_of_small he hsplit]
        exact List.mem_append_right _ List.mem_cons_self
  · rw [toList_scientific]
    exact ⟨'e', List.mem_append_right _ List.mem_cons_self, .inr rfl⟩

/-! ## What texts tell apart -/

theorem value_eq_of_layout_eq {d d' : Digits} (h : s.layout d = s.layout d') : d.value = d'.value := by
  obtain ⟨r, hr, hvalue⟩ := s.readUnsigned?_layout d
  obtain ⟨r', hr', hvalue'⟩ := s.readUnsigned?_layout d'
  rw [h, hr', Option.some.injEq] at hr
  rw [← hvalue, ← hvalue', hr]

theorem value_eq_of_layout_eq_toString {n : Nat} (h : s.layout d = toString n) : d.value = n := by
  obtain ⟨r, hr, hvalue⟩ := s.readUnsigned?_layout d
  rw [h, Segment.toList_toString, readUnsigned?_of_digits fun c => isDigit_of_mem_toDigits, readNat?_toDigits,
    Option.map_some, Option.some.injEq] at hr
  rw [← hvalue, ← hr, Digits.value, zpow_zero, mul_one]

theorem toList_layout_ne_minus (cs : List Char) : (s.layout d).toList ≠ '-' :: cs := by
  intro h
  obtain ⟨r, hr, _⟩ := s.readUnsigned?_layout d
  have hnone : readUnsigned? ('-' :: cs) = none := by
    have hread : ∀ cs, readMantissa? ('-' :: cs) = none := fun cs => by simp [readMantissa?, readNat?, isDigit]
    unfold readUnsigned?
    dsimp only
    rw [List.takeWhile_cons_of_pos (by decide), hread]
  rw [h, hnone] at hr
  cases hr

end Style

/-- In canonical text natural numbers below 10 ^ 21 have no exponent and no point. -/
theorem layout_canonicalStyle_iff {d : Digits} (hd : d.digits % 10 ≠ 0) {n : Nat} (hn : n < 10 ^ 21) :
    canonicalStyle.layout d = toString n ↔ d.value = n := by
  refine ⟨canonicalStyle.value_eq_of_layout_eq_toString d, fun hvalue => ?_⟩
  have hvalue : d.value = n * 10 ^ (0 : Int) := by rw [hvalue, zpow_zero, mul_one]
  have hle := Digits.le_exponent hd hvalue
  have hmul := Digits.mul_pow_eq hd hvalue
  rw [Int.sub_zero] at hmul
  have hpos : 0 < d.digits := by omega
  have hcount := digitCount_pos d.digits
  have hshort : digitCount d.digits - 1 + d.exponent.toNat < 21 := by
    rw [← Nat.pow_lt_pow_iff_right (a := 10) (by norm_num), Nat.pow_add]
    exact (Nat.mul_le_mul_right _ (pow_le_of_pos hpos)).trans_lt (hmul ▸ hn)
  have hplain : canonicalStyle.isPlain (d.exponent + digitCount d.digits - 1) = true := by
    unfold Style.isPlain canonicalStyle
    simp only [Bool.and_eq_true, decide_eq_true_eq]
    omega
  have hdigits : (Nat.toDigits 10 d.digits ++ List.replicate d.exponent.toNat '0').all isDigit = true := by
    rw [List.all_append, all_isDigit_toDigits, Bool.true_and]
    exact List.all_eq_true.2 fun c => isDigit_of_mem_zeros
  -- Digits with their zeros behind them are the digits of the number itself.
  have htext := (toDigits_digitsValue hdigits (by simp [Nat.toDigits_ne_nil])
    (by rw [List.head?_append_of_ne_nil _ Nat.toDigits_ne_nil]; exact head?_toDigits _ hpos.ne')).2
  rw [digitsValue_concat, digitsValue_zeros, digitsValue_toDigits, List.length_replicate, Nat.add_zero, hmul] at htext
  unfold Style.layout
  dsimp only
  rw [Style.length_toString, if_pos hplain]
  apply String.toList_injective
  rw [Style.toList_positional_of_nonneg _ hle, Segment.toList_toString, ← htext]
  exact List.append_nil _

end JsonSchema.Decimal
