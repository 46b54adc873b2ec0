import JsonSchema.Regex.Escape

/-! # Sets in brackets -/

namespace JsonSchema.Regex

/-- A set and how deeply it nests. -/
structure DeepSet where
  set : CharSet
  depth : Nat

/-! ## Named classes -/

def namedRanges? (name : String) : Option (List (Char × Char)) :=
  match name with
  | "alnum" => some [('0', '9'), ('A', 'Z'), ('a', 'z')]
  | "alpha" => some [('A', 'Z'), ('a', 'z')]
  | "ascii" => some [('\x00', '\x7f')]
  | "blank" => some [('\t', '\t'), (' ', ' ')]
  | "cntrl" => some [('\x00', '\x1f'), ('\x7f', '\x7f')]
  | "digit" => some [('0', '9')]
  | "graph" => some [('!', '~')]
  | "lower" => some [('a', 'z')]
  | "print" => some [(' ', '~')]
  | "punct" => some [('!', '/'), (':', '@'), ('[', '\x60'), ('\x7b', '~')]
  | "space" => some [('\t', '\r'), (' ', ' ')]
  | "upper" => some [('A', 'Z')]
  | "word" => some [('0', '9'), ('A', 'Z'), ('_', '_'), ('a', 'z')]
  | "xdigit" => some [('0', '9'), ('A', 'F'), ('a', 'f')]
  | _ => none

/-- The ranges of a class such as `[:alpha:]` after its bracket, and whether it is turned round. -/
def readNamed? : List Char → Option ((List (Char × Char) × Bool) × List Char)
  | ':' :: cs =>
    let (negated, body) := match cs with
      | '^' :: rest => (true, rest)
      | _ => (false, cs)
    match body.dropWhile (· ≠ ':') with
    | ':' :: ']' :: rest =>
      (namedRanges? (String.ofList (body.takeWhile (· ≠ ':')))).map fun rs => ((rs, negated), rest)
    | _ => none
  | _ => none

/-! ## Open brackets -/

inductive SetOp where
  | inter
  | diff
  | symmDiff

def SetOp.apply (f : Flags) (op : SetOp) (a b : CharSet) : CharSet :=
  match op with
  | inter => (foldSet f a).inter (foldSet f b)
  | diff => (foldSet f a).diff (foldSet f b)
  | symmDiff => (foldSet f a).symmDiff (foldSet f b)

/-- A set whose bracket is still open. -/
structure OpenSet where
  negated : Bool
  /-- The items since the last operator, the last first. -/
  items : List DeepSet
  /-- What stands before an operator that waits for its right side. -/
  left : Option (DeepSet × SetOp)

namespace OpenSet

def add (o : OpenSet) (s : CharSet) (depth : Nat) : OpenSet :=
  { o with items := ⟨s, depth⟩ :: o.items }

/-- Two or more items lie one level deeper. -/
def together (o : OpenSet) : DeepSet :=
  let deepest := o.items.foldl (fun n s => max n s.depth) 0
  ⟨.unions (o.items.reverse.map (·.set)), if o.items.length < 2 then deepest else deepest + 1⟩

/-- The items, combined with what stands before the last operator. -/
def combined (f : Flags) (o : OpenSet) : DeepSet :=
  match o.left with
  | some (a, op) =>
    let b := o.together
    ⟨op.apply f a.set b.set, max a.depth b.depth + 1⟩
  | none => o.together

def operator (f : Flags) (op : SetOp) (o : OpenSet) : OpenSet :=
  { o with items := [], left := some (o.combined f, op) }

def close? (f : Flags) (o : OpenSet) : Option DeepSet :=
  let s := o.combined f
  (checkSet? f (negate o.negated (foldSet f s.set))).map (⟨·, s.depth + 1⟩)

end OpenSet

/-- Hyphens in front stand for themselves, and so does a bracket that would close an empty set. -/
def openItems (f : Flags) (o : OpenSet) (cs : List Char) : OpenSet × List Char :=
  match _h : skip f cs with
  | [] => (o, [])
  | c :: rest =>
    if c = '-' then openItems f (o.add (.single '-') 0) rest
    else if c = ']' ∧ o.items.isEmpty then (o.add (.single ']') 0, rest)
    else (o, c :: rest)
termination_by cs.length
decreasing_by
  have := length_skip_le f cs
  grind

/-- What follows an opening bracket. -/
def openSet (f : Flags) (cs : List Char) : OpenSet × List Char :=
  match skip f cs with
  | '^' :: rest => openItems f ⟨true, [], none⟩ rest
  | rest => openItems f ⟨false, [], none⟩ rest

/-! ## Items -/

def readSetAtom? (f : Flags) : List Char → Option (Atom × List Char)
  | '\\' :: cs => readEscape? f cs
  | c :: cs => some (.literal c false, cs)
  | [] => none

/-- Without Unicode a set may name characters of ASCII only. -/
def Atom.member? (f : Flags) : Atom → Option Char
  | .literal c _ => if f.unicode || c.toNat < 128 then some c else none
  | _ => none

def Atom.set? (f : Flags) : Atom → Option CharSet
  | .set s => some s
  | .anchor _ => none
  | a => (a.member? f).map .single

/-- The character by which a hyphen before `cs` is judged. Where blanks mean nothing it lies behind
them and behind one `#`, but a comment is not passed over. -/
def judge? (f : Flags) (cs : List Char) : Option Char :=
  if !f.ignoreBlank then cs.head?
  else
    let rest := match cs.dropWhile Text.isBlank with
      | '#' :: rest => rest.dropWhile Text.isBlank
      | rest => rest
    rest.head?.or cs.head?

/-- One item, or two with a hyphen between them; a hyphen before a bracket or another hyphen is
none of these. -/
def readRange? (f : Flags) (cs : List Char) : Option (CharSet × List Char) :=
  (readSetAtom? f cs).bind fun (first, rest) =>
    let alone := (first.set? f).map (·, rest)
    match skip f rest with
    | [] => none
    | '-' :: after =>
      if judge? f after = some ']' ∨ judge? f after = some '-' then alone
      else
        (readSetAtom? f (skip f after)).bind fun (last, rest) =>
          match first.member? f, last.member? f with
          | some a, some b => if a ≤ b then some (.range a b, rest) else none
          | _, _ => none
    | _ => alone

/-! ## The whole set -/

/-- What a step leaves: the innermost open set and those around it, or the whole set. -/
inductive SetState where
  | within (o : OpenSet) (outer : List OpenSet)
  | closed (s : DeepSet)

def openOrNamed? (f : Flags) (o : OpenSet) (outer : List OpenSet) (cs : List Char) :
    Option (SetState × List Char) :=
  match readNamed? cs with
  | some ((rs, negated), rest) =>
    (checkSet? f (negate negated (foldSet f (.ofRanges rs)))).map fun s =>
      (.within (o.add s 0) outer, rest)
  | none =>
    let (inner, rest) := openSet f cs
    some (.within inner (o :: outer), rest)

def setStep? (f : Flags) (o : OpenSet) (outer : List OpenSet) (c : Char) (cs : List Char) :
    Option (SetState × List Char) :=
  match c, cs with
  | '[', _ => openOrNamed? f o outer cs
  | ']', _ =>
    (o.close? f).map fun s =>
      match outer with
      | [] => (.closed s, cs)
      | p :: ps => (.within (p.add s.set s.depth) ps, cs)
  | '&', '&' :: rest => some (.within (o.operator f .inter) outer, rest)
  | '-', '-' :: rest => some (.within (o.operator f .diff) outer, rest)
  | '~', '~' :: rest => some (.within (o.operator f .symmDiff) outer, rest)
  | _, _ => (readRange? f (c :: cs)).map fun r => (.within (o.add r.1 0) outer, r.2)

/-- Reads up to the bracket that closes the outermost set. -/
def readSetFrom? (f : Flags) (o : OpenSet) (outer : List OpenSet) (cs : List Char) :
    Option (DeepSet × List Char) :=
  match skip f cs with
  | [] => none
  | c :: after =>
    match setStep? f o outer c after with
    | some (.closed s, rest) => some (s, rest)
    | some (.within o outer, rest) =>
      if rest.length < cs.length then readSetFrom? f o outer rest else none
    | none => none
termination_by cs.length

def readSet? (f : Flags) (cs : List Char) : Option (DeepSet × List Char) :=
  let (o, rest) := openSet f cs
  readSetFrom? f o [] rest

end JsonSchema.Regex
