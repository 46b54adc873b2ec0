import JsonSchema.Yaml.Cursor
import JsonSchema.Text.Hex

/-! # Tags, anchors and directives -/

namespace JsonSchema.Yaml

/-! ## Names of tags -/

/-- A tag as it is written: a handle and what follows it, in bytes. -/
structure Tag where
  handle : List Char
  rest : List UInt8
deriving DecidableEq, Repr

namespace Tag

def isUriChar (verbatim : Bool) (c : Char) : Bool :=
  isWordChar c ||
    [';', '/', '?', ':', '@', '&', '=', '+', '$', '.', '%', '!', '~', '*', '\'', '(',
      ')'].contains c ||
    (verbatim && [',', '[', ']'].contains c)

/-- The bytes of characters of ASCII. -/
def bytes (cs : List Char) : List UInt8 := cs.map Char.toUInt8

/-- A name ends before a byte that is zero. -/
def upToZero (bs : List UInt8) : List UInt8 := bs.takeWhile (· ≠ 0)

/-- An octet after a percent sign. -/
def octet? : List Char → Option UInt8
  | '%' :: a :: b :: _ =>
    if Text.isHexDigit a && Text.isHexDigit b then some (UInt8.ofNat (Text.hexNat [a, b])) else none
  | _ => none

/-- The number of octets of the character that starts with the octet. -/
def width? (octet : UInt8) : Option Nat :=
  if octet &&& 0x80 == 0 then some 1
  else if octet &&& 0xE0 == 0xC0 then some 2
  else if octet &&& 0xF0 == 0xE0 then some 3
  else if octet &&& 0xF8 == 0xF0 then some 4
  else none

def isTrailing (octet : UInt8) : Bool := octet &&& 0xC0 == 0x80

/-- The octets of one character; whether there is such a character does not matter. -/
def escaped? (c : Cursor) : Option (List UInt8 × Cursor) := do
  let width ← width? (← octet? c.rest)
  let octets ← (List.range width).mapM fun i => octet? (c.rest.drop (3 * i))
  if (octets.drop 1).all isTrailing then return (octets, c.advance (3 * width)) else none

def uriStep (verbatim : Bool) (text : List UInt8) (c : Cursor) :
    Option (Cursor.Progress (List UInt8) (List UInt8 × Cursor)) :=
  match c.peek? with
  | some '%' => (escaped? c).map fun e => .more (text ++ e.1) e.2
  | some char =>
    if isUriChar verbatim char then some (.more (text ++ bytes [char]) (c.advance 1))
    else some (.done (text, c))
  | none => some (.done (text, c))

/-- The bytes of an address, with escapes read. -/
def uri? (verbatim : Bool) (c : Cursor) : Option (List UInt8 × Cursor) :=
  c.run (uriStep verbatim) []

/-- The marks and word characters that may be a handle: a mark, word characters, maybe a mark. -/
def handle? (c : Cursor) : Option (List Char × Cursor) :=
  if c.isAt '!' then
    let (word, after) := (c.advance 1).takeWhile isWordChar
    if after.isAt '!' then some ('!' :: word ++ ['!'], after.advance 1)
    else some ('!' :: word, after)
  else none

def isHandle (text : List Char) : Bool := 1 < text.length && text.getLast? == some '!'

def verbatim? (c : Cursor) : Option (Tag × Cursor) := do
  let (text, c) ← uri? true (c.advance 2)
  if text.isEmpty || !c.isAt '>' then none
  return (⟨[], text⟩, c.advance 1)

/-- The mark alone is a tag of its own. -/
def shorthand? (c : Cursor) : Option (Tag × Cursor) := do
  let (start, c) ← handle? c
  let (text, c) ← uri? false c
  if isHandle start then
    if text.isEmpty then none else return (⟨start, text⟩, c)
  else
    let rest := bytes (start.drop 1) ++ text
    return (if (upToZero rest).isEmpty then ⟨[], bytes ['!']⟩ else ⟨['!'], rest⟩, c)

/-- The tag at its mark. A blank or a break follows it, or a comma in a flow collection. -/
def scan? (flow : Bool) (c : Cursor) : Option (Tag × Cursor) := do
  let (tag, c) ← if c.peekAt? 1 == some '<' then verbatim? c else shorthand? c
  if c.isBlankAt 0 || (flow && c.isAt ',') then return (tag, c) else none

end Tag

/-! ## Anchors -/

/-- The name after a mark. Only a blank or one of some indicators may follow it. -/
def anchorName? (c : Cursor) : Option (List Char × Cursor) :=
  let (name, after) := (c.advance 1).takeWhile isWordChar
  let closed := after.isBlankAt 0 ||
    after.peek?.any ['?', ':', ',', ']', '\x7d', '%', '@', '\x60'].contains
  if name.isEmpty || !closed then none else some (name, after)

/-! ## Directives -/

inductive Directive where
  | version (major minor : Nat)
  | tag (handle : List Char) (lead : List UInt8)
deriving DecidableEq, Repr

namespace Directive

/-- At most nine digits. -/
def number? (c : Cursor) : Option (Nat × Cursor) :=
  let (digits, after) := c.takeWhile Char.isDigit
  if digits.isEmpty || 9 < digits.length then none
  else some (digits.foldl (fun n d => 10 * n + (d.toNat - 48)) 0, after)

def version? (c : Cursor) : Option (Directive × Cursor) := do
  let (major, c) ← number? (c.skipWhile isBlank)
  if !c.isAt '.' then none
  let (minor, c) ← number? (c.advance 1)
  return (.version major minor, c)

def tag? (c : Cursor) : Option (Directive × Cursor) := do
  let (handle, c) ← Tag.handle? (c.skipWhile isBlank)
  if handle != ['!'] && !Tag.isHandle handle then none
  if !c.peek?.any isBlank then none
  let (lead, c) ← Tag.uri? true (c.skipWhile isBlank)
  if lead.isEmpty || !c.isBlankAt 0 then none
  return (.tag handle lead, c)

/-- The directive at its percent sign, to the end of its line. -/
def scan? (c : Cursor) : Option (Directive × Cursor) := do
  let (name, c) := (c.advance 1).takeWhile isWordChar
  if !c.isBlankAt 0 then none
  let (directive, c) ←
    match String.ofList name with
    | "YAML" => version? c
    | "TAG" => tag? c
    | _ => none
  return (directive, ← c.skipComment?)

end Directive

end JsonSchema.Yaml
