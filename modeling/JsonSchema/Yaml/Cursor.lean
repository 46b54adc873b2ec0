/-! # Reading YAML text with its positions -/

namespace JsonSchema.Yaml

/-! ## Characters -/

/-- Controls other than the line breaks and the tab are not admitted. -/
def isAdmitted (c : Char) : Bool :=
  let n := c.toNat
  n == 0x09 || n == 0x0A || n == 0x0D || (0x20 ≤ n && n ≤ 0x7E) || n == 0x85 ||
    (0xA0 ≤ n && n ≤ 0xD7FF) || (0xE000 ≤ n && n ≤ 0xFFFD) || 0x10000 ≤ n

def isBlank (c : Char) : Bool := c == ' ' || c == '\t'

def isBreak (c : Char) : Bool := [0x0A, 0x0D, 0x85, 0x2028, 0x2029].contains c.toNat

def isWordChar (c : Char) : Bool := c.isAlphanum || c == '_' || c == '-'

/-- The mark that may stand before a line. -/
def byteOrderMark : Char := '\uFEFF'

/-- A break is read as a line feed, except for the two separators. -/
def breakText (c : Char) : List Char :=
  if c.toNat = 0x2028 ∨ c.toNat = 0x2029 then [c] else ['\n']

/-! ## Cursors -/

/-- The text that is yet to be read, and where it starts. -/
structure Cursor where
  rest : List Char
  /-- The number of bytes before it. -/
  index : Nat
  line : Nat
  column : Nat

namespace Cursor

def ofText (cs : List Char) : Cursor := ⟨cs, 0, 0, 0⟩

def peek? (c : Cursor) : Option Char := c.rest.head?

def peekAt? (c : Cursor) (n : Nat) : Option Char := c.rest[n]?

def isAt (c : Cursor) (char : Char) : Bool := c.peek? == some char

/-- The text is at its end there, or at a blank or a break. -/
def isBlankAt (c : Cursor) (n : Nat) : Bool :=
  (c.peekAt? n).all fun char => isBlank char || isBreak char

/-- The text is at its end or at a break. -/
def isLineEnd (c : Cursor) : Bool := c.peek?.all isBreak

/-- Past characters of one line. -/
def advance (c : Cursor) (n : Nat) : Cursor :=
  let bytes := (c.rest.take n).foldl (fun b char => b + char.utf8Size) 0
  { c with rest := c.rest.drop n, index := c.index + bytes, column := c.column + n }

/-- The characters up to the first that the predicate does not hold of. -/
def takeWhile (c : Cursor) (p : Char → Bool) : List Char × Cursor :=
  let taken := c.rest.takeWhile p
  (taken, c.advance taken.length)

def skipWhile (c : Cursor) (p : Char → Bool) : Cursor := (c.takeWhile p).2

/-- The text of a break, and the start of the next line. -/
def takeBreak (c : Cursor) : List Char × Cursor :=
  match c.rest with
  | '\r' :: '\n' :: rest => (['\n'], ⟨rest, c.index + 2, c.line + 1, 0⟩)
  | char :: rest =>
    if isBreak char then (breakText char, ⟨rest, c.index + char.utf8Size, c.line + 1, 0⟩)
    else ([], c)
  | [] => ([], c)

def skipBreak (c : Cursor) : Cursor := c.takeBreak.2

/-- Past blanks and a comment to the end of the line. -/
def skipComment? (c : Cursor) : Option Cursor :=
  let c := c.skipWhile isBlank
  let c := if c.isAt '#' then c.skipWhile (!isBreak ·) else c
  if c.isLineEnd then some c.skipBreak else none

/-- Three dashes or dots at the start of a line and nothing else. -/
def isAtMarker (c : Cursor) (char : Char) : Bool :=
  c.column == 0 && c.rest.take 3 == [char, char, char] && c.isBlankAt 3

def isAtDocumentMarker (c : Cursor) : Bool := c.isAtMarker '-' || c.isAtMarker '.'

/-- What one step of a loop comes to. -/
inductive Progress (σ β : Type) where
  | done (result : β)
  | more (state : σ) (cursor : Cursor)

/-- Repeats a step until it is done. A step that goes on has to read something. -/
def run (step : σ → Cursor → Option (Progress σ β)) (state : σ) (c : Cursor) : Option β :=
  match step state c with
  | none => none
  | some (.done result) => some result
  | some (.more next after) =>
    if _ : after.rest.length < c.rest.length then run step next after else none
termination_by c.rest.length

end Cursor

end JsonSchema.Yaml
