import JsonSchema.Json.Basic
import JsonSchema.Decimal.Numeral
import JsonSchema.Text.Hex

/-! # The tokens of JSON text -/

namespace JsonSchema

inductive Token where
  | openArray
  | closeArray
  | openObject
  | closeObject
  | comma
  | colon
  | text (s : String)
  | scalar (v : Json)

namespace Token

open Text (hexValue?)

/-! ## Strings -/

/-- Four hexadecimal digits, and what follows them. -/
def readUnit? : List Char → Option (Nat × List Char)
  | a :: b :: c :: d :: rest =>
    match hexValue? a, hexValue? b, hexValue? c, hexValue? d with
    | some a, some b, some c, some d => some (((a * 16 + b) * 16 + c) * 16 + d, rest)
    | _, _, _, _ => none
  | _ => none

def isHighHalf (u : Nat) : Bool := 0xD800 ≤ u && u < 0xDC00

def isLowHalf (u : Nat) : Bool := 0xDC00 ≤ u && u < 0xE000

/-- The second half of a pair, which completes the character that `high` begins. -/
def readLowHalf? (high : Nat) : List Char → Option (Char × List Char)
  | '\\' :: 'u' :: rest =>
    match readUnit? rest with
    | some (low, rest) =>
      if isLowHalf low then
        some (Char.ofNat (0x10000 + (high - 0xD800) * 0x400 + (low - 0xDC00)), rest)
      else none
    | none => none
  | _ => none

def shortEscape? : Char → Option Char
  | '"' => some '"'
  | '\\' => some '\\'
  | '/' => some '/'
  | 'b' => some '\x08'
  | 'f' => some '\x0c'
  | 'n' => some '\n'
  | 'r' => some '\r'
  | 't' => some '\t'
  | _ => none

/-- One character of a string: itself, or what its escape stands for. A half of a pair alone and a
bare control character are refused. -/
def readChar? : List Char → Option (Char × List Char)
  | '\\' :: 'u' :: rest =>
    match readUnit? rest with
    | some (u, rest) =>
      if isLowHalf u then none
      else if isHighHalf u then readLowHalf? u rest
      else some (Char.ofNat u, rest)
    | none => none
  | '\\' :: c :: rest => (shortEscape? c).map (·, rest)
  | c :: rest => if c.toNat < 0x20 then none else some (c, rest)
  | [] => none

theorem readUnit?_length {cs rest : List Char} {u : Nat} (h : readUnit? cs = some (u, rest)) :
    rest.length < cs.length := by
  unfold readUnit? at h
  split at h
  · split at h
    · simp only [Option.some.injEq, Prod.mk.injEq] at h
      obtain ⟨-, rfl⟩ := h
      simp only [List.length_cons]; omega
    · simp at h
  · simp at h

theorem readLowHalf?_length {high : Nat} {cs rest : List Char} {c : Char}
    (h : readLowHalf? high cs = some (c, rest)) : rest.length < cs.length := by
  unfold readLowHalf? at h
  split at h
  · split at h
    · next hu =>
      have := readUnit?_length hu
      split at h
      · simp only [Option.some.injEq, Prod.mk.injEq] at h
        obtain ⟨-, rfl⟩ := h
        simp only [List.length_cons]; omega
      · simp at h
    · simp at h
  · simp at h

theorem readChar?_length {cs rest : List Char} {c : Char} (h : readChar? cs = some (c, rest)) :
    rest.length < cs.length := by
  unfold readChar? at h
  split at h
  · split at h
    · next hu =>
      have := readUnit?_length hu
      split at h
      · simp at h
      · split at h
        · have := readLowHalf?_length h
          simp only [List.length_cons]; omega
        · simp only [Option.some.injEq, Prod.mk.injEq] at h
          obtain ⟨-, rfl⟩ := h
          simp only [List.length_cons]; omega
    · simp at h
  · simp only [Option.map_eq_some_iff, Prod.mk.injEq] at h
    obtain ⟨_, -, -, rfl⟩ := h
    simp only [List.length_cons]; omega
  · split at h
    · simp at h
    · simp only [Option.some.injEq, Prod.mk.injEq] at h
      obtain ⟨-, rfl⟩ := h
      simp
  · simp at h

/-- The text up to the closing quote, and what follows it. -/
def readText? (cs : List Char) : Option (List Char × List Char) :=
  if cs.head? = some '"' then some ([], cs.tail)
  else
    match _h : readChar? cs with
    | some (c, rest) => (readText? rest).map fun r => (c :: r.1, r.2)
    | none => none
termination_by cs.length
decreasing_by exact readChar?_length _h

/-! ## Numbers and names -/

def isNumberChar (c : Char) : Bool := Decimal.isDigit c || ['+', '-', '.', 'e', 'E'].contains c

/-- Without a point and an exponent, an integer if a word holds it, save `-0`; else the nearest
double, if it is finite. -/
def number? (cs : List Char) : Option Number :=
  let (negative, digits) := match cs with
    | '-' :: rest => (true, rest)
    | _ => (false, cs)
  let before := digits.takeWhile Decimal.isDigit
  let after := digits.dropWhile Decimal.isDigit
  let leads := before == ['0'] || (before.head?.any fun c => '1' ≤ c && c ≤ '9')
  if !leads then none
  else if after.isEmpty then
    let n : Int := if negative then -(Decimal.digitsValue before) else Decimal.digitsValue before
    if negative && n == 0 then Number.ofFloat? (-0.0)
    else (Number.ofInt? n).or
      (Number.ofFloat? (Decimal.toDouble negative ⟨Decimal.digitsValue before, 0⟩))
  else
    let places := after.drop 1 |>.takeWhile Decimal.isDigit
    let pointed := after.head? == some '.' && !places.isEmpty
    let bare := after.head? == some 'e' || after.head? == some 'E'
    if pointed || bare then
      (Decimal.readUnsigned? digits).bind fun d => Number.ofFloat? (Decimal.toDouble negative d)
    else none

def name? (cs : List Char) : Option Json :=
  match String.ofList cs with
  | "null" => some .null
  | "true" => some (.bool true)
  | "false" => some (.bool false)
  | _ => none

/-! ## Text -/

def isBlank (c : Char) : Bool := c == ' ' || c == '\n' || c == '\t' || c == '\r'

def punctuation? : Char → Option Token
  | '[' => some openArray
  | ']' => some closeArray
  | '\x7b' => some openObject
  | '\x7d' => some closeObject
  | ',' => some comma
  | ':' => some colon
  | _ => none

/-- One token, and what follows it. -/
def next? (c : Char) (cs : List Char) : Option (Token × List Char) :=
  match punctuation? c with
  | some t => some (t, cs)
  | none =>
    if c = '"' then (readText? cs).map fun r => (text (String.ofList r.1), r.2)
    else if isNumberChar c && !c.isAlpha then
      (number? (c :: cs.takeWhile isNumberChar)).map fun n =>
        (scalar (.number n), cs.dropWhile isNumberChar)
    else (name? (c :: cs.takeWhile Char.isAlpha)).map fun v =>
      (scalar v, cs.dropWhile Char.isAlpha)

theorem readText?_length {cs body rest : List Char} (h : readText? cs = some (body, rest)) :
    rest.length ≤ cs.length := by
  fun_induction readText? cs generalizing body rest with
  | case1 cs _ =>
    simp only [Option.some.injEq, Prod.mk.injEq] at h
    obtain ⟨-, rfl⟩ := h
    simp
  | case2 cs _ c r hc ih =>
    simp only [Option.map_eq_some_iff, Prod.mk.injEq] at h
    obtain ⟨p, hp, -, rfl⟩ := h
    have := ih hp
    have := readChar?_length hc
    omega
  | case3 => simp at h

theorem next?_length {c : Char} {cs rest : List Char} {t : Token}
    (h : next? c cs = some (t, rest)) : rest.length ≤ cs.length := by
  unfold next? at h
  split at h
  · simp only [Option.some.injEq, Prod.mk.injEq] at h
    obtain ⟨-, rfl⟩ := h
    exact Nat.le_refl _
  · split at h
    · simp only [Option.map_eq_some_iff, Prod.mk.injEq] at h
      obtain ⟨p, hp, -, rfl⟩ := h
      exact readText?_length hp
    · split at h <;>
      · simp only [Option.map_eq_some_iff, Prod.mk.injEq] at h
        obtain ⟨_, -, -, rfl⟩ := h
        exact (List.dropWhile_suffix _).length_le

/-- All tokens of a text, or nothing if some part of it is none. -/
def scan? : List Char → Option (List Token)
  | [] => some []
  | c :: cs =>
    if isBlank c then scan? cs
    else
      match _h : next? c cs with
      | some (t, rest) => (scan? rest).map (t :: ·)
      | none => none
termination_by cs => cs.length
decreasing_by
  · simp
  · have := next?_length _h
    simp only [List.length_cons]; omega

end Token

end JsonSchema
