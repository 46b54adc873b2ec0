import JsonSchema.Text.Steps

/-! # Sets of characters -/

namespace JsonSchema

/-- A set of characters, as the rising list of code points at which it begins and ends in turn. -/
structure CharSet where
  edges : Array Nat
deriving DecidableEq, Repr

namespace CharSet

/-- The number after the last code point. -/
def limit : Nat := 0x110000

/-! ## Membership -/

/-- How many of the edges in `[lo, hi)` and before it lie at or below `n`. -/
def countUpTo (edges : Array Nat) (n lo hi : Nat) : Nat :=
  if lo < hi then
    let mid := (lo + hi) / 2
    match edges[mid]? with
    | some e => if e ≤ n then countUpTo edges n (mid + 1) hi else countUpTo edges n lo mid
    | none => lo
  else lo
termination_by hi - lo

/-- Within the set as many edges have been passed as make an odd number. -/
def contains (s : CharSet) (c : Char) : Bool := countUpTo s.edges c.toNat 0 s.edges.size % 2 == 1

def pairs : List Nat → List (Nat × Nat)
  | first :: last :: rest => (first, last) :: pairs rest
  | _ => []

/-- The runs of the set, each by its first and its last code point. -/
def runs (s : CharSet) : List (Nat × Nat) := (pairs s.edges.toList).map fun r => (r.1, r.2 - 1)

/-- The one character of a set with one. -/
def single? (s : CharSet) : Option Char :=
  match s.runs with
  | [(first, last)] => if first = last then some (Char.ofNat first) else none
  | _ => none

def first? (s : CharSet) : Option Char := s.edges[0]?.map Char.ofNat

def last? (s : CharSet) : Option Char := s.edges.back?.map fun e => Char.ofNat (e - 1)

def isAscii (s : CharSet) : Bool := (s.edges.back?.getD 0) ≤ 128

/-! ## Building -/

def none : CharSet := ⟨#[]⟩

def all : CharSet := ⟨#[0, limit]⟩

def range (first last : Char) : CharSet :=
  if first ≤ last then ⟨#[first.toNat, last.toNat + 1]⟩ else none

def single (c : Char) : CharSet := range c c

/-- Surrogates are no characters: a run neither begins nor ends among them. -/
def trim : List Nat → List Nat
  | first :: last :: rest =>
    let first := if first = 0xD800 then 0xE000 else first
    let last := if last = 0xE000 then 0xD800 else last
    if first < last then first :: last :: trim rest else trim rest
  | _ => []

/-- Passes along the edges of two sets and keeps the points that `op` asks for. -/
def mergeEdges (op : Bool → Bool → Bool) (inA inB inside : Bool) (as bs : List Nat) : List Nat :=
  match as, bs with
  | [], [] => []
  | a :: as, [] =>
    let now := op (!inA) inB
    let rest := mergeEdges op (!inA) inB now as []
    if now = inside then rest else a :: rest
  | [], b :: bs =>
    let now := op inA (!inB)
    let rest := mergeEdges op inA (!inB) now [] bs
    if now = inside then rest else b :: rest
  | a :: as, b :: bs =>
    if a < b then
      let now := op (!inA) inB
      let rest := mergeEdges op (!inA) inB now as (b :: bs)
      if now = inside then rest else a :: rest
    else if b < a then
      let now := op inA (!inB)
      let rest := mergeEdges op inA (!inB) now (a :: as) bs
      if now = inside then rest else b :: rest
    else
      let now := op (!inA) (!inB)
      let rest := mergeEdges op (!inA) (!inB) now as bs
      if now = inside then rest else a :: rest
termination_by as.length + bs.length

def merge (op : Bool → Bool → Bool) (s t : CharSet) : CharSet :=
  ⟨(trim (mergeEdges op false false false s.edges.toList t.edges.toList)).toArray⟩

def union (s t : CharSet) : CharSet := merge (· || ·) s t
def inter (s t : CharSet) : CharSet := merge (· && ·) s t
def diff (s t : CharSet) : CharSet := merge (fun a b => a && !b) s t
def symmDiff (s t : CharSet) : CharSet := merge (fun a b => a != b) s t

/-- One run ends right before the surrogates and the next begins right after them. -/
def partsAtSurrogates (s : CharSet) : Bool := s.edges.contains 0xD800 && s.edges.contains 0xE000

/-- The complement runs from after each run to before the next, in rising order; so where two runs
have only the surrogates between them, it holds the characters on either side of these. -/
def compl (s : CharSet) : CharSet :=
  let gaps := all.diff s
  if s.partsAtSurrogates then gaps.union (range '\ud7ff' '\ue000') else gaps

/-- Joins runs that rise by their starts, after one that is still open. -/
def joinRuns (first last : Nat) : List (Nat × Nat) → List Nat
  | [] => [first, last]
  | (a, b) :: rest =>
    if a ≤ last then joinRuns first (max last b) rest else first :: last :: joinRuns a b rest

/-- Runs in any order, each by its start and the point after its end. -/
def ofRuns (rs : List (Nat × Nat)) : CharSet :=
  match rs.mergeSort fun r t => r.1 ≤ t.1 with
  | [] => none
  | (a, b) :: rest => ⟨(trim (joinRuns a b rest)).toArray⟩

def unions (ss : List CharSet) : CharSet := ofRuns (ss.flatMap fun s => pairs s.edges.toList)

def ofRanges (rs : List (Char × Char)) : CharSet := unions (rs.map fun r => range r.1 r.2)

def ofList (cs : List Char) : CharSet := ofRuns (cs.map fun c => (c.toNat, c.toNat + 1))

/-- The points at which a table holds a value that `keep` accepts. -/
def ofSteps {α : Type} (t : Text.Steps α) (keep : α → Bool) : CharSet :=
  let edges := t.entries.foldl
    (fun (edges : Array Nat) e =>
      if keep e.2 == (edges.size % 2 == 1) then edges else edges.push e.1) #[]
  ⟨(trim (if edges.size % 2 = 1 then edges.push limit else edges).toList).toArray⟩

/-- Reads entries such as `41-5A` or `5F`. -/
def ofText (table : String) : CharSet :=
  ofRuns <| (Text.tokens table).map fun t =>
    match t.splitOn "-" with
    | [first, last] => (Text.hexNat first.toList, Text.hexNat last.toList + 1)
    | _ => (Text.hexNat t.toList, Text.hexNat t.toList + 1)

end CharSet

end JsonSchema
