import JsonSchema.Yaml.Cursor
import JsonSchema.Text.Hex

/-! # Scalars that span lines -/

namespace JsonSchema.Yaml

/-! ## Blanks and breaks between words -/

/-- What stands between two words of a scalar. -/
structure Gap where
  /-- A line ended. -/
  broken : Bool
  spaces : List Char
  firstBreak : List Char
  moreBreaks : List Char

namespace Gap

def none (broken : Bool) : Gap := ⟨broken, [], [], []⟩

/-- A single break becomes a space, and of several all but the first are kept. -/
def text (g : Gap) : List Char :=
  if !g.broken then g.spaces
  else if g.firstBreak == ['\n'] then if g.moreBreaks.isEmpty then [' '] else g.moreBreaks
  else g.firstBreak ++ g.moreBreaks

def addBreak (g : Gap) (text : List Char) : Gap :=
  if g.broken then { g with moreBreaks := g.moreBreaks ++ text }
  else ⟨true, [], text, g.moreBreaks⟩

/-- One blank or break more; a tab must not stand where the indentation of a line is due. -/
def step (least : Nat) (g : Gap) (c : Cursor) : Option (Cursor.Progress Gap (Gap × Cursor)) :=
  match c.peek? with
  | some char =>
    if isBlank char then
      if g.broken && c.column < least && char == '\t' then Option.none
      else
        let spaces := if g.broken then g.spaces else g.spaces ++ [char]
        some (.more { g with spaces := spaces } (c.advance 1))
    else if isBreak char then
      let (text, after) := c.takeBreak
      some (.more (g.addBreak text) after)
    else some (.done (g, c))
  | Option.none => some (.done (g, c))

/-- The blanks and breaks at the cursor. -/
def take? (least : Nat) (broken : Bool) (c : Cursor) : Option (Gap × Cursor) :=
  c.run (step least) (Gap.none broken)

end Gap

/-! ## Plain scalars -/

namespace Plain

/-- The scalar so far. -/
structure Draft where
  text : List Char
  /-- Counts only if another word follows. -/
  gap : Gap

/-- Nothing of a scalar is read here. -/
def endsAt (flow : Bool) (c : Cursor) : Bool :=
  match c.peek? with
  | none => true
  | some char =>
    isBlank char || isBreak char || (char == ':' && c.isBlankAt 1) ||
      (flow && [',', '[', ']', '\x7b', '\x7d'].contains char)

/-- In a flow collection a colon in a word must not stand before an indicator. -/
def isMisplaced (flow : Bool) (c : Cursor) : Bool :=
  flow && c.isAt ':' &&
    (c.peekAt? 1).any [',', '?', '[', ']', '\x7b', '\x7d'].contains

def wordStep (flow : Bool) (word : List Char) (c : Cursor) :
    Option (Cursor.Progress (List Char) (List Char × Cursor)) :=
  if isMisplaced flow c then none
  else if endsAt flow c then some (.done (word.reverse, c))
  else
    match c.peek? with
    | some char => some (.more (char :: word) (c.advance 1))
    | none => none

/-- The characters up to the next blank or indicator. -/
def word? (flow : Bool) (c : Cursor) : Option (List Char × Cursor) := c.run (wordStep flow) []

/-- One word more with the gap after it. -/
def step (flow : Bool) (least : Nat) (d : Draft) (c : Cursor) :
    Option (Cursor.Progress Draft (List Char × Bool × Cursor)) := do
  if c.isAtDocumentMarker || c.isAt '#' then return .done (d.text, d.gap.broken, c)
  let (word, c) ← word? flow c
  let d := if word.isEmpty then d else ⟨d.text ++ d.gap.text ++ word, .none false⟩
  if c.rest.isEmpty || !c.isBlankAt 0 then return .done (d.text, d.gap.broken, c)
  let (gap, c) ← Gap.take? least d.gap.broken c
  let d : Draft := ⟨d.text, gap⟩
  if !flow && c.column < least then return .done (d.text, gap.broken, c)
  return .more d c

/-- The text of the scalar, and whether a line ended after it. Its lines are indented by at least
so many columns. -/
def scan? (flow : Bool) (least : Nat) (c : Cursor) : Option (List Char × Bool × Cursor) :=
  c.run (step flow least) ⟨[], .none false⟩

end Plain

/-! ## Quoted scalars -/

namespace Quoted

def escape? : Char → Option Char
  | '0' => some '\x00'
  | 'a' => some '\x07'
  | 'b' => some '\x08'
  | 't' => some '\t'
  | '\t' => some '\t'
  | 'n' => some '\n'
  | 'v' => some '\x0b'
  | 'f' => some '\x0c'
  | 'r' => some '\x0d'
  | 'e' => some '\x1b'
  | ' ' => some ' '
  | '"' => some '"'
  | '/' => some '/'
  | '\\' => some '\\'
  | 'N' => some '\u0085'
  | '_' => some '\u00a0'
  | 'L' => some '\u2028'
  | 'P' => some '\u2029'
  | _ => none

/-- The number of digits of a code after its letter. -/
def codeLength? : Char → Option Nat
  | 'x' => some 2
  | 'u' => some 4
  | 'U' => some 8
  | _ => none

def code? (digits : List Char) (length : Nat) : Option Char :=
  if digits.length == length && digits.all Text.isHexDigit then
    let n := Text.hexNat digits
    if n.isValidChar then some (Char.ofNat n) else none
  else none

/-- The character that an escape after a backslash stands for. -/
def escaped? (c : Cursor) : Option (Char × Cursor) := do
  let letter ← c.peekAt? 1
  match codeLength? letter with
  | some length =>
    let char ← code? ((c.rest.drop 2).take length) length
    return (char, c.advance (2 + length))
  | none => return (← escape? letter, c.advance 2)

def quote (single : Bool) : Char := if single then '\'' else '"'

/-- One character more of a word, which ends at a blank, a quote or a break that is escaped. -/
def wordStep (single : Bool) (word : List Char) (c : Cursor) :
    Option (Cursor.Progress (List Char) (List Char × Bool × Cursor)) :=
  match c.peek? with
  | none => some (.done (word.reverse, false, c))
  | some char =>
    if isBlank char || isBreak char then some (.done (word.reverse, false, c))
    else if single && char == '\'' && c.peekAt? 1 == some '\'' then
      some (.more ('\'' :: word) (c.advance 2))
    else if char == quote single then some (.done (word.reverse, false, c))
    else if !single && char == '\\' then
      if (c.peekAt? 1).any isBreak then
        some (.done (word.reverse, true, (c.advance 1).skipBreak))
      else (escaped? c).map fun e => .more (e.1 :: word) e.2
    else some (.more (char :: word) (c.advance 1))

/-- One word more with the gap after it. -/
def step (single : Bool) (text : List Char) (c : Cursor) :
    Option (Cursor.Progress (List Char) (List Char × Cursor)) := do
  if c.isAtDocumentMarker || c.rest.isEmpty then none
  let (word, broken, c) ← c.run (wordStep single) []
  let text := text ++ word
  if c.isAt (quote single) then return .done (text, c.advance 1)
  let (gap, c) ← Gap.take? 0 broken c
  return .more (text ++ gap.text) c

/-- The text of the scalar that starts at its quote. -/
def scan? (single : Bool) (c : Cursor) : Option (List Char × Cursor) :=
  (c.advance 1).run (step single) []

end Quoted

/-! ## Block scalars -/

namespace Block

inductive Chomp where
  | strip
  | clip
  | keep
deriving DecidableEq, Repr

structure Header where
  chomp : Chomp
  /-- How far the lines are indented, if it is said. -/
  indent? : Option Nat

def chomp? : Option Char → Option Chomp
  | some '+' => some .keep
  | some '-' => some .strip
  | _ => none

/-- A digit; zero is refused. -/
def increment? (c : Cursor) : Option (Option Nat × Cursor) :=
  match c.peek? with
  | some char =>
    if char == '0' then none
    else if char.isDigit then some (some (char.toNat - 48), c.advance 1)
    else some (none, c)
  | none => some (none, c)

/-- The signs after the indicator, in either order. -/
def header? (c : Cursor) : Option (Header × Cursor) := do
  match chomp? c.peek? with
  | some chomp =>
    let (indent?, c) ← increment? (c.advance 1)
    return (⟨chomp, indent?⟩, c)
  | none =>
    let (indent?, c) ← increment? c
    match if indent?.isSome then chomp? c.peek? else none with
    | some chomp => return (⟨chomp, indent?⟩, c.advance 1)
    | none => return (⟨.clip, indent?⟩, c)

/-- Empty lines: their breaks, and how far the spaces went so far. -/
structure Margin where
  breaks : List Char
  widest : Nat

def marginStep (indent? : Option Nat) (m : Margin) (c : Cursor) :
    Option (Cursor.Progress Margin (Margin × Cursor)) := do
  let spaces := (c.rest.takeWhile (· == ' ')).length
  let c := c.advance (match indent? with
    | some indent => min spaces (indent - c.column)
    | none => spaces)
  let m := { m with widest := max m.widest c.column }
  if indent?.all (c.column < ·) && c.isAt '\t' then none
  if !c.peek?.any isBreak then return .done (m, c)
  let (text, c) := c.takeBreak
  return .more { m with breaks := m.breaks ++ text } c

/-- The breaks of empty lines, up to the indentation of the next line that is not. -/
def margin? (indent? : Option Nat) (c : Cursor) : Option (Margin × Cursor) :=
  c.run (marginStep indent?) ⟨[], 0⟩

structure Draft where
  text : List Char
  /-- The break of the last line, and those of the empty lines after it. -/
  lastBreak : List Char
  moreBreaks : List Char
  /-- The last line started with a blank. -/
  blankLine : Bool

/-- Between two lines that start without a blank a folded break becomes a space, or nothing before
further breaks. -/
def Draft.joined (d : Draft) (literal blankNext : Bool) : List Char :=
  let first :=
    if !literal && d.lastBreak == ['\n'] && !d.blankLine && !blankNext then
      if d.moreBreaks.isEmpty then [' '] else []
    else d.lastBreak
  d.text ++ first ++ d.moreBreaks

def Draft.finish (d : Draft) (chomp : Chomp) : List Char :=
  match chomp with
  | .strip => d.text
  | .clip => d.text ++ d.lastBreak
  | .keep => d.text ++ d.lastBreak ++ d.moreBreaks

/-- One line more with the empty lines after it. -/
def step (literal : Bool) (chomp : Chomp) (indent : Nat) (d : Draft) (c : Cursor) :
    Option (Cursor.Progress Draft (List Char × Cursor)) := do
  if c.column != indent || c.rest.isEmpty then return .done (d.finish chomp, c)
  let blank := c.peek?.any isBlank
  let (line, c) := c.takeWhile (!isBreak ·)
  let (lastBreak, c) := c.takeBreak
  let (m, c) ← margin? (some indent) c
  return .more ⟨d.joined literal blank ++ line, lastBreak, m.breaks, blank⟩ c

/-- The text of the scalar that starts at its indicator, inside a block of the indentation. -/
def scan? (literal : Bool) (parent : Int) (c : Cursor) : Option (List Char × Cursor) := do
  let (h, c) ← header? (c.advance 1)
  let c ← c.skipComment?
  let said? := h.indent?.map fun n => (max parent 0).toNat + n
  let (m, c) ← margin? said? c
  let indent := said?.getD (max m.widest (max (parent + 1) 1).toNat)
  c.run (step literal h.chomp indent) ⟨[], [], m.breaks, false⟩

end Block

end JsonSchema.Yaml
