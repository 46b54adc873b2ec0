import JsonSchema.Text.Segment
import JsonSchema.Regex.Flags

/-! # Escapes in regular expressions -/

namespace JsonSchema.Regex

/-- What a single item of an expression stands for. -/
inductive Atom where
  /-- A character; `byte` if it was given as two hexadecimal digits. -/
  | literal (c : Char) (byte : Bool)
  | set (s : CharSet)
  | anchor (a : Anchor)

/-! ## Classes with a letter -/

def blankSet (f : Flags) : CharSet :=
  if f.unicode then Text.Property.whiteSpace else .ofRanges [('\t', '\r'), (' ', ' ')]

def wordSet (f : Flags) : CharSet :=
  if f.unicode then Text.Property.word
  else .ofRanges [('0', '9'), ('A', 'Z'), ('_', '_'), ('a', 'z')]

def digitSet (f : Flags) : CharSet :=
  if f.unicode then Text.Category.set [.nd] else .range '0' '9'

/-- A capital letter means the complement. -/
def letterSet? (f : Flags) (c : Char) : Option CharSet :=
  match c with
  | 'd' => some (digitSet f)
  | 'D' => checkSet? f (digitSet f).compl
  | 's' => some (blankSet f)
  | 'S' => checkSet? f (blankSet f).compl
  | 'w' => some (wordSet f)
  | 'W' => checkSet? f (wordSet f).compl
  | _ => none

/-! ## Characters by number -/

def charOfNat? (n : Nat) : Option Char := if n.isValidChar then some (Char.ofNat n) else none

def readDigits? (f : Flags) : Nat → List Char → Option (List Char × List Char)
  | 0, cs => some ([], cs)
  | n + 1, cs =>
    match skip f cs with
    | c :: rest =>
      if Text.isHexDigit c then (readDigits? f n rest).map fun r => (c :: r.1, r.2) else none
    | [] => none

/-- A fixed count of digits, or any count in braces. -/
def readHex? (f : Flags) (count : Nat) (cs : List Char) : Option (Atom × List Char) :=
  match skip f cs with
  | '\x7b' :: rest =>
    (readBraced? f rest).bind fun (digits, rest) =>
      if digits.isEmpty || !digits.all Text.isHexDigit then none
      else (charOfNat? (Text.hexNat digits)).map fun c => (.literal c false, rest)
  | rest =>
    (readDigits? f count rest).bind fun r =>
      (charOfNat? (Text.hexNat r.1)).map fun c => (.literal c (count == 2), r.2)

/-! ## Properties -/

/-- The set of a query `name`, `name=value`, `name:value` or `name!=value`, and whether it is turned
round. -/
def querySet? (query : String) : Option (CharSet × Bool) :=
  match query.splitOn "!=" with
  | name :: value :: rest =>
    (Text.Property.valued? name ("!=".intercalate (value :: rest))).map (·, true)
  | _ =>
    let mark := if query.toList.contains ':' then ":" else "="
    match query.splitOn mark with
    | name :: value :: rest =>
      (Text.Property.valued? name (mark.intercalate (value :: rest))).map (·, false)
    | _ => (Text.Property.named? query).map (·, false)

def propertySet? (f : Flags) (negated : Bool) (query : String) : Option CharSet :=
  if !f.unicode then none
  else (querySet? query).map fun r => negate (negated != r.2) (foldSet f r.1)

/-- A property by one letter or by a query in braces. -/
def readProperty? (f : Flags) (negated : Bool) (cs : List Char) : Option (Atom × List Char) :=
  match skip f cs with
  | '\x7b' :: rest =>
    (readBraced? f rest).bind fun (query, rest) =>
      (propertySet? f negated (String.ofList query)).map fun s => (.set s, rest)
  | '\\' :: _ => none
  | c :: rest => (propertySet? f negated (String.ofList [c])).map fun s => (.set s, rest)
  | [] => none

/-! ## Boundaries -/

def namedBoundary? (f : Flags) (name : String) : Option Anchor :=
  match name with
  | "start" => some (.wordStart (!f.unicode))
  | "end" => some (.wordEnd (!f.unicode))
  | "start-half" => some (.wordStartHalf (!f.unicode))
  | "end-half" => some (.wordEndHalf (!f.unicode))
  | _ => none

/-- A word boundary, or one of its named kinds; braces that begin with no letter belong to a
repetition. -/
def readBoundary? (f : Flags) (cs : List Char) : Option (Anchor × List Char) :=
  match cs with
  | '\x7b' :: rest =>
    match skip f rest with
    | [] => none
    | c :: _ =>
      if c.isAlpha || c == '-' then
        (readBraced? f rest).bind fun (name, rest) =>
          (namedBoundary? f (String.ofList name)).map (·, rest)
      else some (.boundary (!f.unicode), cs)
  | _ => some (.boundary (!f.unicode), cs)

/-! ## All escapes -/

/-- Letters and digits have no escape but the ones that mean something. -/
def isEscapable (c : Char) : Bool := c.toNat < 128 && !c.isAlphanum && c != '<' && c != '>'

def plainEscape? : Char → Option Char
  | 'a' => some '\x07'
  | 'f' => some '\x0c'
  | 't' => some '\t'
  | 'n' => some '\n'
  | 'r' => some '\r'
  | 'v' => some '\x0b'
  | _ => none

/-- What follows a backslash. -/
def readEscape? (f : Flags) : List Char → Option (Atom × List Char)
  | [] => none
  | c :: cs =>
    match c with
    | 'x' => readHex? f 2 cs
    | 'u' => readHex? f 4 cs
    | 'U' => readHex? f 8 cs
    | 'p' => readProperty? f false cs
    | 'P' => readProperty? f true cs
    | 'A' => some (.anchor .textStart, cs)
    | 'z' => some (.anchor .textEnd, cs)
    | 'b' => (readBoundary? f cs).map fun r => (.anchor r.1, r.2)
    | 'B' => some (.anchor (.noBoundary (!f.unicode)), cs)
    | '<' => some (.anchor (.wordStart (!f.unicode)), cs)
    | '>' => some (.anchor (.wordEnd (!f.unicode)), cs)
    | _ =>
      if isEscapable c then some (.literal c false, cs)
      else
        match plainEscape? c with
        | some d => some (.literal d false, cs)
        | none => (letterSet? f c).map fun s => (.set s, cs)

end JsonSchema.Regex
