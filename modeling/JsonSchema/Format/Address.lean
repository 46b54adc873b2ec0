import JsonSchema.Decimal.Numeral
import JsonSchema.Text.Blank
import JsonSchema.Text.Hex

/-! # Addresses of hosts and mailboxes, and other identifiers -/

namespace JsonSchema.Address

/-! ## Hosts -/

/-- A decimal below 256 without leading zeros, and what follows it. -/
def readOctet? (cs : List Char) : Option (List Char) :=
  let digits := cs.takeWhile Decimal.isDigit
  let leadingZero := digits.head? == some '0' && 1 < digits.length
  if digits.isEmpty || 3 < digits.length || leadingZero || 255 < Decimal.digitsValue digits then
    none
  else some (cs.drop digits.length)

def readDotted? : Nat → List Char → Option (List Char)
  | 0, cs => some cs
  | n + 1, '.' :: cs => (readOctet? cs).bind (readDotted? n)
  | _ + 1, _ => none

def readIpv4? (cs : List Char) : Option (List Char) := (readOctet? cs).bind (readDotted? 3)

/-- One to four hexadecimal digits. -/
def readGroup? (cs : List Char) : Option (List Char) :=
  let digits := cs.takeWhile Text.isHexDigit
  if digits.isEmpty || 4 < digits.length then none else some (cs.drop digits.length)

/-- At most `n` groups with colons between them; the last two may be a dotted address. Answers how
many there are, whether a dotted address ends them, and what follows. -/
def readGroups (first : Bool) : Nat → List Char → Nat × Bool × List Char
  | 0, cs => (0, false, cs)
  | n + 1, cs =>
    match (if first then some cs else if cs.head? = some ':' then some cs.tail else none) with
    | none => (0, false, cs)
    | some body =>
      match if n = 0 then none else readIpv4? body with
      | some rest => (2, true, rest)
      | none =>
        match readGroup? body with
        | some rest =>
          let (count, dotted, rest) := readGroups false n rest
          (count + 1, dotted, rest)
        | none => (0, false, cs)

def isIpv4 (s : String) : Bool := readIpv4? s.toList == some []

/-- Eight groups, or fewer with one double colon for at least one group of zeros. -/
def isIpv6 (s : String) : Bool :=
  let (count, dotted, rest) := readGroups true 8 s.toList
  if count = 8 then rest.isEmpty
  else if dotted then false
  else
    match rest with
    | ':' :: ':' :: rest => (readGroups true (7 - count) rest).2.2.isEmpty
    | _ => false

/-! ## Mailboxes -/

def isClean (part : List Char) : Bool :=
  !part.isEmpty && !part.any fun c => Text.isBlank c || c == '@'

def hasDoubleDot : List Char → Bool
  | '.' :: '.' :: _ => true
  | _ :: cs => hasDoubleDot cs
  | [] => false

/-- The domain follows the last `@` and holds a dot, but neither at an end nor two in a row. -/
def isEmail (s : String) : Bool :=
  let reversed := s.toList.reverse
  let domain := (reversed.takeWhile (· ≠ '@')).reverse
  match reversed.dropWhile (· ≠ '@') with
  | [] => false
  | _ :: localPart =>
    isClean localPart && isClean domain && domain.contains '.' && domain.head? != some '.' &&
      domain.getLast? != some '.' && !hasDoubleDot domain

/-! ## Identifiers -/

/-- A scheme, a colon, and no white space after it. -/
def isUri (s : String) : Bool :=
  match s.toList.takeWhile (· ≠ ':'), s.toList.dropWhile (· ≠ ':') with
  | c :: scheme, _ :: rest =>
    c.isAlpha && (scheme.all fun c => c.isAlphanum || c == '+' || c == '-' || c == '.') &&
      !rest.any Text.isBlank
  | _, _ => false

/-- Thirty-two hexadecimal digits in groups of 8, 4, 4, 4 and 12. -/
def isUuid (s : String) : Bool :=
  s.toList.length == 36 && (s.toList.zipIdx.all fun (c, i) =>
    if [8, 13, 18, 23].contains i then c == '-' else Text.isHexDigit c)

end JsonSchema.Address
