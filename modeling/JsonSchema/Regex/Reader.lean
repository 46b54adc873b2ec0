import JsonSchema.Decimal.Numeral
import JsonSchema.Regex.Bracket
import JsonSchema.Regex.Program
import JsonSchema.Regex.Search

/-! # Regular expressions from text -/

namespace JsonSchema

namespace Regex

/-- An expression and how deeply its text nests. -/
structure Part where
  regex : Regex
  depth : Nat

/-- What stands in a row: a change of flags cannot be repeated. -/
inductive Item where
  | part (p : Part)
  | flags

def Item.part? : Item → Option Part
  | part p => some p
  | flags => none

/-! ## Groups -/

/-- A group that is still open. -/
structure Group where
  /-- None for a group that only holds together. -/
  number : Option Nat
  flags : Flags
  /-- The alternatives before this one, the last first. -/
  before : List Part
  /-- The items of this alternative, the last first. -/
  items : List Item

def deepest (ps : List Part) : Nat := ps.foldl (fun n p => max n p.depth) 0

namespace Group

/-- Two or more items in a row lie one level deeper. -/
def row (g : Group) : Part :=
  let ps := (g.items.filterMap Item.part?).reverse
  ⟨seqOf (ps.map (·.regex)), deepest ps + if g.items.length < 2 then 0 else 1⟩

def alternatives (g : Group) : Part :=
  if g.before.isEmpty then g.row
  else
    let ps := (g.row :: g.before).reverse
    ⟨altOf (ps.map (·.regex)), deepest ps + 1⟩

def close (g : Group) : Part :=
  let p := g.alternatives
  let r := match g.number with
    | some n => group n p.regex
    | none => p.regex
  ⟨r, p.depth + 1⟩

def push (g : Group) (p : Part) : Group := { g with items := .part p :: g.items }

end Group

/-- What has been read: the innermost group, the groups around it, how many groups have a number,
and the names in use. -/
structure State where
  group : Group
  outer : List Group
  groups : Nat
  names : List String

namespace State

def initial : State := ⟨⟨none, .initial, [], []⟩, [], 0, []⟩

def push (s : State) (p : Part) : State := { s with group := s.group.push p }

def openGroup (s : State) (f : Flags) : State :=
  { s with group := ⟨none, f, [], []⟩, outer := s.group :: s.outer }

def openNumbered (s : State) : State :=
  { s with
    group := ⟨some s.groups, s.group.flags, [], []⟩
    outer := s.group :: s.outer
    groups := s.groups + 1 }

def closeGroup? (s : State) : Option State :=
  match s.outer with
  | [] => none
  | g :: outer => some { s with group := g.push s.group.close, outer := outer }

def bar (s : State) : State :=
  { s with group := { s.group with before := s.group.row :: s.group.before, items := [] } }

/-- Repeats the last item. -/
def repeatLast? (s : State) (least : Nat) (most : Option Nat) (greedy : Bool) : Option State :=
  match s.group.items with
  | .part p :: items =>
    if most.any (· < least) then none
    else
      let r := ⟨repeatOf p.regex least most greedy, p.depth + 1⟩
      some { s with group := { s.group with items := .part r :: items } }
  | _ => none

end State

/-! ## Characters, sets and anchors -/

def charRegex (f : Flags) (c : Char) : Regex :=
  let others :=
    if !f.ignoreCase then [] else if f.unicode then Text.variants c else Text.asciiVariants c
  if others.isEmpty then text [c] else chars (.ofList (c :: others))

/-- Without Unicode a byte beyond ASCII is no character. -/
def Atom.regex? (f : Flags) : Atom → Option Regex
  | .literal c byte => if byte && !f.unicode && 128 ≤ c.toNat then none else some (charRegex f c)
  | .set s => some (charsOf s)
  | .anchor a => some (.anchor a)

def dot? (f : Flags) : Option Regex :=
  if !f.unicode then none
  else if f.dotAll then some (chars .all)
  else if f.anyLineEnd then some (chars (CharSet.ofList ['\n', '\r']).compl)
  else some (chars (CharSet.single '\n').compl)

def startAnchor (f : Flags) : Anchor :=
  if !f.multiLine then .textStart else if f.anyLineEnd then .anyLineStart else .lineStart

def endAnchor (f : Flags) : Anchor :=
  if !f.multiLine then .textEnd else if f.anyLineEnd then .anyLineEnd else .lineEnd

/-! ## Counts -/

/-- Digits in a row, and what follows them. -/
def readDigitRun (f : Flags) : List Char → List Char × List Char
  | [] => ([], [])
  | c :: cs =>
    if Decimal.isDigit c then
      let r := readDigitRun f (skip f cs)
      (c :: r.1, r.2)
    else ([], c :: cs)
termination_by cs => cs.length
decreasing_by
  have := length_skip_le f cs
  simp
  omega

/-- A number with blanks before and after it. -/
def readCount? (f : Flags) (cs : List Char) : Option (Nat × List Char) :=
  let (digits, rest) := readDigitRun f (cs.dropWhile Text.isBlank)
  (Decimal.readNat? digits).bind fun n =>
    if n < UInt32.size then some (n, rest.dropWhile Text.isBlank) else none

/-- The counts between the braces of a repetition, and what follows them. -/
def readCounts? (f : Flags) (cs : List Char) : Option ((Nat × Option Nat) × List Char) :=
  (readCount? f (skip f cs)).bind fun (least, rest) =>
    match rest with
    | '\x7d' :: rest => some ((least, some least), rest)
    | ',' :: rest =>
      match skip f rest with
      | '\x7d' :: rest => some ((least, none), rest)
      | rest =>
        (readCount? f rest).bind fun (most, rest) =>
          match rest with
          | '\x7d' :: rest => some ((least, some most), rest)
          | _ => none
    | _ => none

/-- A question mark after a repetition turns its greed round. -/
def readGreed (f : Flags) : List Char → Bool × List Char
  | '?' :: cs => (f.lazy, cs)
  | cs => (!f.lazy, cs)

/-! ## Groups -/

def isNameChar (first : Bool) (c : Char) : Bool :=
  c == '_' || Text.isAlphabetic c ||
    (!first && (Text.isNumeric c || c == '.' || c == '[' || c == ']'))

/-- The name of a group, up to its angle bracket. -/
def readName? (cs : List Char) : Option (String × List Char) :=
  let name := cs.takeWhile (· ≠ '>')
  match name, cs.dropWhile (· ≠ '>') with
  | c :: more, _ :: rest =>
    if isNameChar true c && more.all (isNameChar false) then some (String.ofList name, rest)
    else none
  | _, _ => none

namespace State

def openNamed? (s : State) (cs : List Char) : Option (State × List Char) :=
  (readName? cs).bind fun (name, rest) =>
    if s.names.contains name then none
    else some ({ s with names := name :: s.names }.openNumbered, rest)

/-- What follows an opening parenthesis. Conditions on what is ahead or behind are refused. -/
def openParen? (s : State) (cs : List Char) : Option (State × List Char) :=
  match skip s.group.flags cs with
  | '?' :: '=' :: _ => none
  | '?' :: '!' :: _ => none
  | '?' :: '<' :: '=' :: _ => none
  | '?' :: '<' :: '!' :: _ => none
  | '?' :: 'P' :: '<' :: rest => s.openNamed? rest
  | '?' :: '<' :: rest => s.openNamed? rest
  | '?' :: rest =>
    match readFlags? s.group.flags [] rest with
    | some (_, f, ':' :: rest) => some (s.openGroup f, rest)
    | some (true, f, _ :: rest) =>
      some ({ s with group := { s.group with flags := f, items := .flags :: s.group.items } }, rest)
    | _ => none
  | rest => some (s.openNumbered, rest)

/-! ## The whole expression -/

def repeated? (s : State) (least : Nat) (most : Option Nat) (cs : List Char) :
    Option (State × List Char) :=
  let (greedy, rest) := readGreed s.group.flags cs
  (s.repeatLast? least most greedy).map (·, rest)

def step? (s : State) (c : Char) (cs : List Char) : Option (State × List Char) :=
  let f := s.group.flags
  match c with
  | '(' => s.openParen? cs
  | ')' => s.closeGroup?.map (·, cs)
  | '|' => some (s.bar, cs)
  | '[' => (readSet? f cs).map fun r => (s.push ⟨charsOf r.1.set, r.1.depth⟩, r.2)
  | '?' => s.repeated? 0 (some 1) cs
  | '*' => s.repeated? 0 none cs
  | '+' => s.repeated? 1 none cs
  | '\x7b' =>
    (readCounts? f cs).bind fun ((least, most), rest) => s.repeated? least most (skip f rest)
  | '.' => (dot? f).map fun r => (s.push ⟨r, 0⟩, cs)
  | '^' => some (s.push ⟨.anchor (startAnchor f), 0⟩, cs)
  | '$' => some (s.push ⟨.anchor (endAnchor f), 0⟩, cs)
  | '\\' =>
    (readEscape? f cs).bind fun (a, rest) => (a.regex? f).map fun r => (s.push ⟨r, 0⟩, rest)
  | c => some (s.push ⟨charRegex f c, 0⟩, cs)

def run? (s : State) (cs : List Char) : Option State :=
  match skip s.group.flags cs with
  | [] => some s
  | c :: after =>
    match s.step? c after with
    | some (s, rest) => if rest.length < cs.length then s.run? rest else none
    | none => none
termination_by cs.length

end State

/-- The expression that a text denotes, unless it is malformed, nests too deeply or is too large. -/
def read? (text : String) : Option Regex :=
  match State.initial.run? text.toList with
  | some ⟨g, [], _, _⟩ =>
    let p := g.alternatives
    if p.depth ≤ maxDepth && p.regex.fits then some p.regex else none
  | _ => none

end Regex

/-- A regular expression with the text it was written as. -/
structure Pattern where
  source : String
  regex : Regex

def Pattern.compile? (source : String) : Option Pattern :=
  (Regex.read? source).map (⟨source, ·⟩)

/-- Some part of the text matches. -/
def Pattern.occursIn (p : Pattern) (text : String) : Bool := p.regex.occursIn text

end JsonSchema
