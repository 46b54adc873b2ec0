import JsonSchema.Yaml.Folded
import JsonSchema.Yaml.Tag

/-! # The tokens of YAML text -/

namespace JsonSchema.Yaml

inductive Token where
  | directive (directive : Directive)
  | documentStart
  | documentEnd
  | streamEnd
  | blockSequenceStart
  | blockMappingStart
  | blockEnd
  | flowSequenceStart
  | flowSequenceEnd
  | flowMappingStart
  | flowMappingEnd
  | blockEntry
  | flowEntry
  | key
  | value
  | aliasOf (name : List Char)
  | anchor (name : List Char)
  | tag (tag : Tag)
  | scalar (text : List Char) (plain : Bool)
deriving DecidableEq, Repr

/-- A place where a key may have started that only a later colon makes one. -/
structure SimpleKey where
  /-- The block ends there if no colon follows. -/
  required : Bool
  /-- The number of tokens before it. -/
  position : Nat
  start : Cursor

/-- What was read so far. -/
structure Lexer where
  tokens : Array Token
  keyAllowed : Bool
  /-- One place for the block and for each open flow collection, innermost first. -/
  keys : List (Option SimpleKey)
  /-- The columns of the open blocks, innermost first. -/
  indents : List Nat

namespace Lexer

def initial : Lexer := ⟨#[], true, [none], []⟩

def flow (x : Lexer) : Bool := 1 < x.keys.length

/-- The column of the innermost block, `-1` outside of all. -/
def indent (x : Lexer) : Int := (x.indents.head?.map Int.ofNat).getD (-1)

def push (x : Lexer) (t : Token) : Lexer := { x with tokens := x.tokens.push t }

def insert (x : Lexer) (position : Nat) (t : Token) : Lexer :=
  { x with tokens := x.tokens.insertIdxIfInBounds position t }

def allowKey (x : Lexer) (allowed : Bool) : Lexer := { x with keyAllowed := allowed }

/-! ## Indentation -/

/-- A block further in starts before the token at the position. -/
def roll (x : Lexer) (column position : Nat) (t : Token) : Lexer :=
  if !x.flow && x.indent < column then
    { x.insert position t with indents := column :: x.indents }
  else x

/-- The blocks further in than the column end. -/
def unrollBlocks (column : Int) : List Nat → Array Token → List Nat × Array Token
  | [], tokens => ([], tokens)
  | indent :: indents, tokens =>
    if column < indent then unrollBlocks column indents (tokens.push .blockEnd)
    else (indent :: indents, tokens)

def unroll (x : Lexer) (column : Int) : Lexer :=
  if x.flow then x
  else
    let (indents, tokens) := unrollBlocks column x.indents x.tokens
    { x with indents := indents, tokens := tokens }

/-! ## Simple keys -/

/-- A key stays possible on its line, for 1024 bytes. -/
def isStale (key : SimpleKey) (c : Cursor) : Bool :=
  key.start.line < c.line || key.start.index + 1024 < c.index

def dropStale? (x : Lexer) (c : Cursor) : Option Lexer := do
  let keys ← x.keys.mapM fun
    | some key =>
      if !isStale key c then some (some key) else if key.required then none else some none
    | none => some none
  return { x with keys := keys }

def setKey (x : Lexer) (key : Option SimpleKey) : Lexer :=
  { x with keys := key :: x.keys.drop 1 }

def key? (x : Lexer) : Option SimpleKey := x.keys.head?.bind id

/-- The innermost key is given up. -/
def removeKey? (x : Lexer) : Option Lexer :=
  if x.key?.any (·.required) then none else some (x.setKey none)

/-- A key may start here. -/
def saveKey? (x : Lexer) (c : Cursor) : Option Lexer :=
  if x.keyAllowed then
    let required := !x.flow && x.indent == (c.column : Int)
    x.removeKey?.map (·.setKey (some ⟨required, x.tokens.size, c⟩))
  else some x

/-! ## Tokens -/

/-- To the next token, past blanks, comments and breaks. A tab must not stand where a key may. A
byte order mark at the start of a line takes a column. -/
def skipStep (x : Lexer) (c : Cursor) : Option (Cursor.Progress Lexer (Lexer × Cursor)) :=
  let c := if c.column == 0 && c.isAt byteOrderMark then c.advance 1 else c
  let c := c.skipWhile fun char => char == ' ' || (char == '\t' && (x.flow || !x.keyAllowed))
  let c := if c.isAt '#' then c.skipWhile (!isBreak ·) else c
  if c.peek?.any isBreak then some (.more (x.allowKey (x.keyAllowed || !x.flow)) c.skipBreak)
  else some (.done (x, c))

/-- All blocks end before a directive or a marker of a document. -/
def leaveBlocks? (x : Lexer) : Option Lexer :=
  ((x.unroll (-1)).removeKey?).map (·.allowKey false)

def directive? (x : Lexer) (c : Cursor) : Option (Lexer × Cursor) := do
  let x ← x.leaveBlocks?
  let (directive, c) ← Directive.scan? c
  return (x.push (.directive directive), c)

def marker? (x : Lexer) (c : Cursor) (t : Token) : Option (Lexer × Cursor) := do
  return ((← x.leaveBlocks?).push t, c.advance 3)

def flowStart? (x : Lexer) (c : Cursor) (t : Token) : Option (Lexer × Cursor) := do
  let x ← x.saveKey? c
  return (({ x with keys := none :: x.keys }.allowKey true).push t, c.advance 1)

def flowEnd? (x : Lexer) (c : Cursor) (t : Token) : Option (Lexer × Cursor) := do
  let x ← x.removeKey?
  let x := if x.flow then { x with keys := x.keys.drop 1 } else x
  return ((x.allowKey false).push t, c.advance 1)

def flowEntry? (x : Lexer) (c : Cursor) : Option (Lexer × Cursor) := do
  return (((← x.removeKey?).allowKey true).push .flowEntry, c.advance 1)

/-- The start of the block that an indicator at the cursor belongs to. -/
def rollHere? (x : Lexer) (c : Cursor) (t : Token) : Option Lexer :=
  if x.flow then some x
  else if x.keyAllowed then some (x.roll c.column x.tokens.size t)
  else none

def blockEntry? (x : Lexer) (c : Cursor) : Option (Lexer × Cursor) := do
  let x ← (← x.rollHere? c .blockSequenceStart).removeKey?
  return ((x.allowKey true).push .blockEntry, c.advance 1)

def keyMark? (x : Lexer) (c : Cursor) : Option (Lexer × Cursor) := do
  let x ← (← x.rollHere? c .blockMappingStart).removeKey?
  return ((x.allowKey !x.flow).push .key, c.advance 1)

/-- The key before the colon gets its token now, if it had none. -/
def valueMark? (x : Lexer) (c : Cursor) : Option (Lexer × Cursor) := do
  match x.key? with
  | some key =>
    let x := (x.insert key.position .key).roll key.start.column key.position .blockMappingStart
    return (((x.setKey none).allowKey false).push .value, c.advance 1)
  | none =>
    let x ← x.rollHere? c .blockMappingStart
    return ((x.allowKey !x.flow).push .value, c.advance 1)

/-- A token that may start a key. -/
def word? (x : Lexer) (c : Cursor) (scan : Cursor → Option (Token × Cursor)) :
    Option (Lexer × Cursor) := do
  let x ← x.saveKey? c
  let (t, after) ← scan c
  return ((x.allowKey false).push t, after)

def quoted? (single : Bool) (c : Cursor) : Option (Token × Cursor) :=
  (Quoted.scan? single c).map fun e => (.scalar e.1 false, e.2)

def blockScalar? (x : Lexer) (c : Cursor) (literal : Bool) : Option (Lexer × Cursor) := do
  let x ← x.removeKey?
  let (text, after) ← Block.scan? literal x.indent c
  return ((x.allowKey true).push (.scalar text false), after)

def plain? (x : Lexer) (c : Cursor) : Option (Lexer × Cursor) := do
  let x ← x.saveKey? c
  let (text, broken, after) ← Plain.scan? x.flow (x.indent + 1).toNat c
  return ((x.allowKey broken).push (.scalar text true), after)

def streamEnd? (x : Lexer) : Option (Array Token) := do
  let x ← (x.unroll (-1)).removeKey?
  return (x.push .streamEnd).tokens

/-- A plain scalar starts with no indicator, or with one that a blank would have to follow. -/
def startsPlain (x : Lexer) (c : Cursor) (char : Char) : Bool :=
  let indicators := ['-', '?', ':', ',', '[', ']', '\x7b', '\x7d', '#', '&', '*', '!', '|', '>',
    '\'', '"', '%', '@', '\x60']
  !(c.isBlankAt 0 || indicators.contains char) ||
    (char == '-' && !(c.peekAt? 1).any isBlank) ||
    (!x.flow && (char == '?' || char == ':') && !c.isBlankAt 1)

/-- The token at the cursor. -/
def token? (x : Lexer) (c : Cursor) (char : Char) : Option (Lexer × Cursor) :=
  let marks := x.flow || c.isBlankAt 1
  if c.column == 0 && char == '%' then x.directive? c
  else if c.isAtMarker '-' then x.marker? c .documentStart
  else if c.isAtMarker '.' then x.marker? c .documentEnd
  else if char == '[' then x.flowStart? c .flowSequenceStart
  else if char == '\x7b' then x.flowStart? c .flowMappingStart
  else if char == ']' then x.flowEnd? c .flowSequenceEnd
  else if char == '\x7d' then x.flowEnd? c .flowMappingEnd
  else if char == ',' then x.flowEntry? c
  else if char == '-' && c.isBlankAt 1 then x.blockEntry? c
  else if char == '?' && marks then x.keyMark? c
  else if char == ':' && marks then x.valueMark? c
  else if char == '*' then
    x.word? c fun c => (anchorName? c).map fun e => (.aliasOf e.1, e.2)
  else if char == '&' then
    x.word? c fun c => (anchorName? c).map fun e => (.anchor e.1, e.2)
  else if char == '!' then x.word? c fun c => (Tag.scan? x.flow c).map fun e => (.tag e.1, e.2)
  else if char == '|' && !x.flow then x.blockScalar? c true
  else if char == '>' && !x.flow then x.blockScalar? c false
  else if char == '\'' then x.word? c (quoted? true)
  else if char == '"' then x.word? c (quoted? false)
  else if x.startsPlain c char then x.plain? c
  else none

/-- One token more, with the block tokens around it. -/
def step (x : Lexer) (c : Cursor) : Option (Cursor.Progress Lexer (Array Token)) := do
  let (x, c) ← c.run skipStep x
  let x ← x.dropStale? c
  let x := x.unroll c.column
  match c.peek? with
  | some char =>
    let (x, c) ← x.token? c char
    return .more x c
  | none => return .done (← x.streamEnd?)

end Lexer

def Token.ofText? (text : String) : Option (List Token) :=
  let cs := text.toList
  if cs.all isAdmitted then ((Cursor.ofText cs).run Lexer.step .initial).map Array.toList else none

end JsonSchema.Yaml
