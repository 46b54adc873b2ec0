import JsonSchema.Text.CaseVariant
import JsonSchema.Text.Property

/-!
# Regular expressions

The type and the functions that build it. `seqOf`, `altOf` and `repeatOf` keep expressions in a
simple form: rows and choices do not nest, and characters in a row are one text.
-/

namespace JsonSchema

/-- A condition on the place between two characters. -/
inductive Anchor where
  | textStart
  | textEnd
  | lineStart
  | lineEnd
  /-- Lines may also end in a carriage return, alone or before the line feed. -/
  | anyLineStart
  | anyLineEnd
  | boundary (ascii : Bool)
  | noBoundary (ascii : Bool)
  | wordStart (ascii : Bool)
  | wordEnd (ascii : Bool)
  | wordStartHalf (ascii : Bool)
  | wordEndHalf (ascii : Bool)
deriving DecidableEq

inductive Regex where
  | empty
  | text (cs : List Char)
  | chars (s : CharSet)
  | anchor (a : Anchor)
  /-- At least `least` times, and at most `most` times if that is given. Greed makes no difference
  to whether a match exists. -/
  | repeated (r : Regex) (least : Nat) (most : Option Nat) (greedy : Bool)
  | group (number : Nat) (r : Regex)
  | seq (rs : List Regex)
  | alt (rs : List Regex)
deriving BEq

namespace Regex

/-! ## Lengths of matches, in bytes of UTF-8 -/

def textSize (cs : List Char) : Nat := cs.foldl (fun n c => n + c.utf8Size) 0

mutual

/-- No match is shorter; none if there is no match at all. -/
def minSize? : Regex → Option Nat
  | empty => some 0
  | text cs => some (textSize cs)
  | chars s => s.first?.map (·.utf8Size)
  | anchor _ => some 0
  | repeated r least _ _ => r.minSize?.map (· * least)
  | group _ r => r.minSize?
  | seq rs => minSizeAll? rs
  | alt rs => minSizeAny? rs

def minSizeAll? : List Regex → Option Nat
  | [] => some 0
  | r :: rs => r.minSize?.bind fun n => (minSizeAll? rs).map (n + ·)

def minSizeAny? : List Regex → Option Nat
  | [] => none
  | [r] => r.minSize?
  | r :: rs => r.minSize?.bind fun n => (minSizeAny? rs).map (min n)

end

mutual

/-- No match is longer; none if there is no bound, or no match. -/
def maxSize? : Regex → Option Nat
  | empty => some 0
  | text cs => some (textSize cs)
  | chars s => s.last?.map (·.utf8Size)
  | anchor _ => some 0
  | repeated r _ most _ => most.bind fun most => r.maxSize?.map (· * most)
  | group _ r => r.maxSize?
  | seq rs => maxSizeAll? rs
  | alt rs => maxSizeAny? rs

def maxSizeAll? : List Regex → Option Nat
  | [] => some 0
  | r :: rs => r.maxSize?.bind fun n => (maxSizeAll? rs).map (n + ·)

def maxSizeAny? : List Regex → Option Nat
  | [] => none
  | [r] => r.maxSize?
  | r :: rs => r.maxSize?.bind fun n => (maxSizeAny? rs).map (max n)

end

/-! ## Building -/

def parts : Regex → List Regex
  | seq rs => rs
  | r => [r]

def branches : Regex → List Regex
  | alt rs => rs
  | r => [r]

/-- Joins texts that stand next to each other and drops what is empty. -/
def joinTexts : List Regex → List Regex
  | [] => []
  | r :: rs =>
    match r, joinTexts rs with
    | empty, rest => rest
    | text cs, text ds :: rest => text (cs ++ ds) :: rest
    | r, rest => r :: rest

def seqOf (rs : List Regex) : Regex :=
  match joinTexts (rs.flatMap parts) with
  | [] => empty
  | [r] => r
  | rs => seq rs

/-- One character is a text. -/
def charsOf (s : CharSet) : Regex :=
  match s.single? with
  | some c => text [c]
  | none => chars s

def single? : Regex → Option Char
  | text [c] => some c
  | _ => none

def chars? : Regex → Option CharSet
  | chars s => some s
  | _ => none

def row? : Regex → Option (List Regex)
  | seq rs => some rs
  | _ => none

def commonStart : List Regex → List Regex → List Regex
  | r :: rs, t :: ts => if r == t then r :: commonStart rs ts else []
  | _, _ => []

/-- What all expressions begin with, if each is a row. -/
def sharedStart (rs : List Regex) : List Regex :=
  match rs.mapM row? with
  | some (row :: rows) => rows.foldl commonStart row
  | _ => []

/-- A choice. Single characters make one set, and so do sets; rows that begin alike are parted only
where they differ, which may be done `lifts` times, as choices can come together that way. -/
def altFrom (lifts : Nat) (rs : List Regex) : Regex :=
  match rs.flatMap branches with
  | [r] => r
  | rs =>
    match rs.mapM single?, rs.mapM chars?, sharedStart rs, lifts with
    | some cs, _, _, _ => charsOf (.ofList cs)
    | none, some ss, _, _ => charsOf (.unions ss)
    | none, none, r :: shared, lifts + 1 =>
      let ends := rs.map fun r' => seqOf (r'.parts.drop (shared.length + 1))
      seqOf (r :: shared ++ [altFrom lifts ends])
    | none, none, _, _ => alt rs

/-- Expressions do not nest more deeply. -/
def maxDepth : Nat := 250

def altOf (rs : List Regex) : Regex := altFrom maxDepth rs

/-- To repeat what reads nothing more than once makes no difference. -/
def repeatOf (r : Regex) (least : Nat) (most : Option Nat) (greedy : Bool) : Regex :=
  let (least, most) :=
    if r.maxSize? = some 0 then (min least 1, some (min (most.getD 1) 1)) else (least, most)
  if most = some 0 ∧ least = 0 then empty
  else if most = some 1 ∧ least = 1 then r
  else repeated r least most greedy

end Regex

end JsonSchema
