import JsonSchema.Proofs.Decimal.Double
import JsonSchema.Proofs.Places.Pointers
import JsonSchema.Json.Conversion
import Mathlib.Data.Nat.Digits.Defs

/-!
# The decimals of integers read as doubles

The text of an integer, with blanks around it or without, reads as the double of the integer.
-/

namespace JsonSchema

/-! ## Blanks -/

namespace Text

variable {before core after : List Char} (hbefore : ∀ c ∈ before, isBlank c = true)
  (hafter : ∀ c ∈ after, isBlank c = true) (hcore : ∀ c ∈ core, isBlank c = false)

theorem dropWhile_isBlank (hcore : ∀ c ∈ core, isBlank c = false) (rest : List Char) (hne : core ≠ []) :
    (core ++ rest).dropWhile isBlank = core ++ rest := by
  obtain ⟨c, cs, rfl⟩ := List.exists_cons_of_ne_nil hne
  exact List.dropWhile_cons_of_neg (by rw [hcore c List.mem_cons_self]; exact Bool.false_ne_true)

include hbefore hafter hcore

theorem trim_between (hne : core ≠ []) : trim (before ++ core ++ after) = core := by
  have hstart : trimStart (before ++ core ++ after) = core ++ after := by
    unfold trimStart
    rw [List.append_assoc, List.dropWhile_append_of_pos hbefore, dropWhile_isBlank hcore after hne]
  have hend : (core ++ after).reverse.dropWhile isBlank = core.reverse := by
    rw [List.reverse_append, List.dropWhile_append_of_pos fun c hc => hafter c (List.mem_reverse.1 hc)]
    have hreverse : ∀ c ∈ core.reverse, isBlank c = false := fun c hc => hcore c (List.mem_reverse.1 hc)
    have hbare := dropWhile_isBlank hreverse [] (mt List.reverse_eq_nil_iff.1 hne)
    rwa [List.append_nil] at hbare
  rw [trim, hstart, trimEnd, hend, List.reverse_reverse]

end Text

namespace Decimal

/-! ## Digits -/

theorem isBlank_of_isDigit {c : Char} (h : isDigit c = true) : Text.isBlank c = false := by
  obtain ⟨hlow, hhigh⟩ := (isDigit_iff c).1 h
  unfold Text.isBlank
  simp
  omega

theorem ne_of_isDigit {c d : Char} (h : isDigit c = true) (hd : isDigit d = false) : c ≠ d := by
  rintro rfl
  exact Bool.false_ne_true (hd.symm.trans h)

section Digits

variable {cs : List Char} (h : ∀ c ∈ cs, isDigit c = true)
include h

theorem readSign_of_digits : readSign cs = (false, cs) := by
  unfold readSign
  split
  · exact absurd (h _ List.mem_cons_self) (by decide)
  · exact absurd (h _ List.mem_cons_self) (by decide)
  · rfl

theorem takeWhile_of_digits {p : Char → Bool} (hp : ∀ c, isDigit c = true → p c = true) :
    cs.takeWhile p = cs := List.takeWhile_eq_self_iff.2 fun c hc => hp c (h c hc)

theorem dropWhile_of_digits {p : Char → Bool} (hp : ∀ c, isDigit c = true → p c = true) :
    cs.dropWhile p = [] := List.dropWhile_eq_nil_iff.2 fun c hc => hp c (h c hc)

theorem readMantissa?_of_digits : readMantissa? cs = (readNat? cs).map (⟨·, 0⟩) := by
  have hpoint : ∀ c, isDigit c = true → decide (c ≠ '.') = true := fun c hc =>
    decide_eq_true (ne_of_isDigit hc (by decide))
  unfold readMantissa?
  rw [takeWhile_of_digits h hpoint, dropWhile_of_digits h hpoint]
  dsimp only
  rw [List.drop_nil, List.append_nil]
  rfl

theorem readUnsigned?_of_digits : readUnsigned? cs = (readNat? cs).map (⟨·, 0⟩) := by
  have hmark : ∀ c, isDigit c = true → (!(c == 'e' || c == 'E')) = true := by
    intro c hc
    rw [beq_false_of_ne (ne_of_isDigit hc (by decide)), beq_false_of_ne (ne_of_isDigit hc (by decide))]
    rfl
  unfold readUnsigned?
  dsimp only
  rw [takeWhile_of_digits h hmark, dropWhile_of_digits h hmark, readMantissa?_of_digits h]
  cases readNat? cs <;> rfl

theorem lowerAscii_of_digits : lowerAscii cs = String.ofList cs := by
  have hlower : ∀ c ∈ cs, c.toLower = c := by
    intro c hc
    have hrange := (isDigit_iff c).1 (h c hc)
    unfold Char.toLower
    refine dif_neg fun hupper => ?_
    have hlarge : 65 ≤ c.toNat := hupper.1
    omega
  rw [lowerAscii, List.map_congr_left hlower, List.map_id']

theorem readDouble?_of_digits {text : List Char} {negative : Bool} (hsign : readSign text = (negative, cs)) :
    readDouble? text = (readNat? cs).map fun n => toDouble negative ⟨n, 0⟩ := by
  have hname : ∀ (c : Char) (name : List Char), isDigit c = false →
      lowerAscii cs ≠ String.ofList (c :: name) := by
    intro c name hc heq
    rw [lowerAscii_of_digits h, String.ofList_inj] at heq
    exact Bool.false_ne_true (hc.symm.trans (h c (heq ▸ List.mem_cons_self)))
  unfold readDouble?
  rw [hsign]
  dsimp only
  split
  · next heq => exact absurd heq (hname 'i' ['n', 'f'] (by decide))
  · next heq => exact absurd heq (hname 'i' ['n', 'f', 'i', 'n', 'i', 't', 'y'] (by decide))
  · next heq => exact absurd heq (hname 'n' ['a', 'n'] (by decide))
  · rw [readUnsigned?_of_digits h, Option.map_map]
    rfl

end Digits

/-! ## Integers -/

theorem toDouble_nat (n : Nat) (h : n < 18446744073709551616) : toDouble false ⟨n, 0⟩ = Float.ofNat n := by
  have hcount : digitCount n ≤ 20 := Nat.toDigits_length 10 n 20 (by decide) (by omega)
  have hsmall : ¬(400 : Int) < 0 + digitCount n := by omega
  have hlarge : ¬(0 + digitCount n : Int) < -400 := by omega
  unfold toDouble
  dsimp only
  rw [if_neg Bool.false_ne_true, if_neg hsmall]
  by_cases hzero : n = 0
  · rw [if_pos (.inl hzero), hzero]
    rfl
  · rw [if_neg (not_or.2 ⟨hzero, hlarge⟩)]
    rfl

theorem toDouble_neg (d : Digits) : toDouble true d = -toDouble false d := rfl

theorem toList_toString_ofNat (n : Nat) : (toString (Int.ofNat n)).toList = Nat.toDigits 10 n :=
  Segment.toList_toString n

theorem toList_toString_negSucc (n : Nat) :
    (toString (Int.negSucc n)).toList = '-' :: Nat.toDigits 10 (n + 1) := by
  show ("-" ++ toString (n + 1)).toList = _
  rw [String.toList_append, Segment.toList_toString]
  rfl

theorem numeral_of_mem {k : Int} {c : Char} (h : c ∈ (toString k).toList) : c = '-' ∨ isDigit c = true := by
  cases k with
  | ofNat n =>
    rw [toList_toString_ofNat] at h
    exact .inr (isDigit_of_mem_toDigits h)
  | negSucc n =>
    rw [toList_toString_negSucc, List.mem_cons] at h
    exact h.imp_right isDigit_of_mem_toDigits

theorem toList_toString_ne_nil (k : Int) : (toString k).toList ≠ [] := by
  cases k with
  | ofNat n =>
    rw [toList_toString_ofNat]
    exact Nat.toDigits_ne_nil
  | negSucc n =>
    rw [toList_toString_negSucc]
    exact List.cons_ne_nil _ _

theorem isBlank_of_mem_toString {k : Int} {c : Char} (h : c ∈ (toString k).toList) : Text.isBlank c = false := by
  rcases numeral_of_mem h with rfl | hdigit
  · decide
  · exact isBlank_of_isDigit hdigit

theorem readDouble?_toString (n : Int) (fits : FitsWord n) :
    readDouble? (toString n).toList = some (Float.ofInt n) := by
  obtain ⟨hlow, hhigh⟩ := fits
  cases n with
  | ofNat n =>
    have hdigits : ∀ c ∈ Nat.toDigits 10 n, isDigit c = true := fun c => isDigit_of_mem_toDigits
    rw [toList_toString_ofNat, readDouble?_of_digits hdigits (readSign_of_digits hdigits), readNat?_toDigits,
      Option.map_some, toDouble_nat n (Int.ofNat_lt.1 hhigh)]
    rfl
  | negSucc n =>
    have hdigits : ∀ c ∈ Nat.toDigits 10 (n + 1), isDigit c = true := fun c => isDigit_of_mem_toDigits
    rw [toList_toString_negSucc, readDouble?_of_digits hdigits rfl, readNat?_toDigits, Option.map_some, toDouble_neg,
      toDouble_nat (n + 1) (by omega)]
    rfl

end Decimal

theorem Json.numberOfText?_integer {n : Int} (fits : FitsWord n) {text : String} {before after : List Char}
    (htext : text.toList = before ++ (toString n).toList ++ after)
    (hbefore : ∀ c ∈ before, Text.isBlank c = true) (hafter : ∀ c ∈ after, Text.isBlank c = true) :
    numberOfText? text = Number.ofDouble? (Float.ofInt n) := by
  have hfinite : (Float.ofInt n).isFinite = true := Number.isFinite_toFloat (.int n fits)
  unfold numberOfText?
  rw [htext, Text.trim_between hbefore hafter (fun c => Decimal.isBlank_of_mem_toString)
    (Decimal.toList_toString_ne_nil n), Decimal.readDouble?_toString n fits, Option.filter_some, if_pos hfinite,
    Option.bind_some]

end JsonSchema
