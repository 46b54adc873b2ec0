import JsonSchema.Json.Printer
import JsonSchema.Json.Token
import Mathlib.Data.List.Basic

/-!
# Quoted texts are read back

What the printer puts between quotes the reader turns into the same characters. So a quoted text ends
where its closing quote stands, whatever follows it.
-/

namespace JsonSchema

theorem hexValue?_hexDigit : ∀ n < 16, Text.hexValue? (hexDigit n) = some n := by decide

namespace Token

theorem readUnit?_control {n : Nat} (h : n < 0x20) (rest : List Char) :
    readUnit? ('0' :: '0' :: hexDigit (n / 16) :: hexDigit (n % 16) :: rest) = some (n, rest) := by
  have hzero : Text.hexValue? '0' = some 0 := hexValue?_hexDigit 0 (by decide)
  have hvalue : ((0 * 16 + 0) * 16 + n / 16) * 16 + n % 16 = n := by omega
  rw [readUnit?, hzero, hexValue?_hexDigit (n / 16) (by omega), hexValue?_hexDigit (n % 16) (by omega)]
  dsimp only
  rw [hvalue]

theorem readChar?_escapeChar (c : Char) (rest : List Char) :
    readChar? (escapeChar c ++ rest) = some (c, rest) := by
  unfold escapeChar
  split
  case h_8 hquote hbackslash _ _ _ _ _ =>
    split
    · next hcontrol =>
      have hlow : isLowHalf c.toNat = false := by
        rw [isLowHalf, Bool.and_eq_false_iff, decide_eq_false_iff_not]
        omega
      have hhigh : isHighHalf c.toNat = false := by
        rw [isHighHalf, Bool.and_eq_false_iff, decide_eq_false_iff_not]
        omega
      simp only [List.cons_append, List.nil_append]
      rw [readChar?, readUnit?_control hcontrol]
      dsimp only
      rw [hlow, hhigh, Char.ofNat_toNat]
      rfl
    · next hprinted =>
      rw [List.singleton_append, readChar?, if_neg hprinted]
      · rintro rest rfl
        exact absurd rfl hbackslash
      · rintro c rest rfl
        exact absurd rfl hbackslash
  all_goals rfl

theorem head?_escapeChar_append (c : Char) (rest : List Char) :
    (escapeChar c ++ rest).head? ≠ some '"' := by
  unfold escapeChar
  split
  case h_8 hquote _ _ _ _ _ _ =>
    split
    · simp
    · simpa using hquote
  all_goals simp

theorem readText?_quoted (cs rest : List Char) :
    readText? (cs.flatMap escapeChar ++ '"' :: rest) = some (cs, rest) := by
  induction cs with
  | nil =>
    rw [readText?]
    rfl
  | cons c cs ih =>
    rw [List.flatMap_cons, List.append_assoc, readText?, if_neg (head?_escapeChar_append c _)]
    split
    · next hread =>
      rw [readChar?_escapeChar] at hread
      cases hread
      rw [ih]
      rfl
    · next hread =>
      rw [readChar?_escapeChar] at hread
      cases hread

end Token

theorem toList_quote (s : String) : (quote s).toList = '"' :: (s.toList.flatMap escapeChar ++ ['"']) := by
  simp [quote]

theorem quote_append_inj {s t : String} {rest rest' : List Char}
    (h : (quote s).toList ++ rest = (quote t).toList ++ rest') : s = t ∧ rest = rest' := by
  have hread : Token.readText? (s.toList.flatMap escapeChar ++ '"' :: rest)
      = Token.readText? (t.toList.flatMap escapeChar ++ '"' :: rest') := by
    rw [toList_quote, toList_quote] at h
    simpa using congrArg (fun cs => Token.readText? cs.tail) h
  rw [Token.readText?_quoted, Token.readText?_quoted, Option.some.injEq, Prod.mk.injEq] at hread
  exact ⟨String.toList_injective hread.1, hread.2⟩

theorem quote_injective : Function.Injective quote := by
  intro s t h
  exact (@quote_append_inj s t [] [] (by rw [h])).1

end JsonSchema
