import JsonSchema.Text.Steps
import JsonSchema.Text.CompositionTable

/-! # Canonical composition of text -/

namespace JsonSchema.Text

/-! ## Tables -/

def combiningTable : Steps Nat := Steps.ofText String.toNat? combiningRuns

/-- Zero for a character that combines with nothing before it. -/
def combiningClass (c : Char) : Nat := (combiningTable.at? c.toNat).getD 0

def decompositionTable : Steps (List Char) :=
  Steps.ofText (fun s => some ((hexList s).map Char.ofNat)) decompositions

/-- Pairs are keyed by one number each. -/
def pairKey (a b : Nat) : Nat := a * 0x110000 + b

def compositionTable : Steps Char :=
  ⟨((tokens compositions).filterMap fun t =>
    match t.splitOn ":" with
    | [pair, value] =>
      match hexList pair with
      | [a, b] => some (pairKey a b, Char.ofNat (hexNat value.toList))
      | _ => none
    | _ => none).toArray⟩

/-! ## Syllables -/

def leadBase : Nat := 0x1100
def vowelBase : Nat := 0x1161
def tailBase : Nat := 0x11A7
def syllableBase : Nat := 0xAC00
def leadCount : Nat := 19
def vowelCount : Nat := 21
def tailCount : Nat := 28

def isSyllable (n : Nat) : Bool :=
  syllableBase ≤ n && n < syllableBase + leadCount * vowelCount * tailCount

def splitSyllable (n : Nat) : List Char :=
  let i := n - syllableBase
  let lead := Char.ofNat (leadBase + i / (vowelCount * tailCount))
  let vowel := Char.ofNat (vowelBase + i % (vowelCount * tailCount) / tailCount)
  if i % tailCount = 0 then [lead, vowel]
  else [lead, vowel, Char.ofNat (tailBase + i % tailCount)]

def joinSyllable? (a b : Nat) : Option Char :=
  if leadBase ≤ a ∧ a < leadBase + leadCount ∧ vowelBase ≤ b ∧ b < vowelBase + vowelCount then
    some (Char.ofNat
      (syllableBase + ((a - leadBase) * vowelCount + (b - vowelBase)) * tailCount))
  else if isSyllable a ∧ (a - syllableBase) % tailCount = 0 ∧ tailBase < b ∧
      b < tailBase + tailCount then
    some (Char.ofNat (a + (b - tailBase)))
  else none

/-! ## Decomposition -/

def decompose (c : Char) : List Char :=
  if isSyllable c.toNat then splitSyllable c.toNat
  else (decompositionTable.given? c.toNat).getD [c]

/-- Moves a mark behind the marks of lower class that follow it. -/
def insertMark (c : Char) : List Char → List Char
  | [] => [c]
  | d :: ds =>
    if combiningClass d ≠ 0 ∧ combiningClass d < combiningClass c then d :: insertMark c ds
    else c :: d :: ds

/-- The marks after each character in the order of their classes. -/
def reorder (cs : List Char) : List Char := cs.foldr insertMark []

def decomposed (cs : List Char) : List Char := reorder (cs.flatMap decompose)

/-! ## Composition -/

def pair? (a b : Char) : Option Char :=
  (joinSyllable? a.toNat b.toNat).or (compositionTable.given? (pairKey a.toNat b.toNat))

/-- Puts characters together with `base`, which `marks` follow in reverse. A character is blocked
by a mark before it that has the same or a higher class. -/
def composeFrom (base : Char) (marks : List Char) : List Char → List Char
  | [] => base :: marks.reverse
  | c :: cs =>
    let blocked := match marks with
      | [] => false
      | m :: _ => combiningClass c ≤ combiningClass m
    match if blocked then none else pair? base c with
    | some joined => composeFrom joined marks cs
    | none =>
      if combiningClass c = 0 then base :: marks.reverse ++ composeFrom c [] cs
      else composeFrom base (c :: marks) cs

/-- Marks before the first base stay as they are. -/
def compose : List Char → List Char
  | [] => []
  | c :: cs => if combiningClass c = 0 then composeFrom c [] cs else c :: compose cs

/-- Below `U+0300` nothing combines. -/
def isPlain (cs : List Char) : Bool := cs.all (·.toNat < 0x300)

/-- The composed form of a text. -/
def composed (cs : List Char) : List Char :=
  if isPlain cs then cs else compose (decomposed cs)

end JsonSchema.Text

namespace JsonSchema

def composedString (s : String) : String := String.ofList (Text.composed s.toList)

/-- The number of characters of the composed form. -/
def composedLength (s : String) : Nat := (Text.composed s.toList).length

end JsonSchema
