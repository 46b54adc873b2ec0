import Std.Data.HashMap
import JsonSchema.Regex.Basic

/-!
# The size of the program that an expression stands for

An expression is accepted if the automaton that reads it, and the one that reads backwards, fit into
a fixed space. Automata read bytes: a character that is not of ASCII takes several states, which
sets share where they can.
-/

namespace JsonSchema.Regex

/-! ## Bytes of characters -/

/-- A run of bytes. -/
abbrev ByteRun := Nat × Nat

def utf8Bytes (n : Nat) : List Nat :=
  if n < 0x80 then [n]
  else if n < 0x800 then [0xC0 + n / 64, 0x80 + n % 64]
  else if n < 0x10000 then [0xE0 + n / 4096, 0x80 + n / 64 % 64, 0x80 + n % 64]
  else [0xF0 + n / 262144, 0x80 + n / 4096 % 64, 0x80 + n / 64 % 64, 0x80 + n % 64]

/-- Where the run of code points from `a` to `b` has to be cut first, so that its characters have
as many bytes as each other and every byte runs freely between two bounds. -/
def cut? (a b : Nat) : Option Nat :=
  match [0x80, 0x800, 0xD800, 0xE000, 0x10000].find? fun n => a < n && n ≤ b with
  | some n => some n
  | none =>
    if b < 0x80 then none
    else
      [64, 4096, 262144].findSome? fun m =>
        if a / m = b / m then none
        else if a % m ≠ 0 then some ((a / m + 1) * m)
        else if b % m ≠ m - 1 then some (b / m * m)
        else none

/-- The pieces of a run, each by the bytes that its characters may have in turn. -/
def byteRuns (a b : Nat) : List (List ByteRun) :=
  match cut? a b with
  | some n => if _h : a < n ∧ n ≤ b then byteRuns a (n - 1) ++ byteRuns n b else []
  | none => if 0xD800 ≤ a ∧ a < 0xE000 then [] else [(utf8Bytes a).zip (utf8Bytes b)]
termination_by b - a

def setRuns (s : CharSet) : List (List ByteRun) := s.runs.flatMap fun r => byteRuns r.1 r.2

/-! ## Space -/

/-- How many states a program has so far, and the bytes that they take. -/
structure Usage where
  states : Nat
  bytes : Nat

/-- The space that a program may take. -/
def maxBytes : Nat := 10485760

namespace Usage

def tooLarge (u : Usage) : Bool := maxBytes < u.bytes

/-- States take thirty-two bytes each. -/
def addStates (u : Usage) (n : Nat) : Usage := ⟨u.states + n, u.bytes + 32 * n⟩

/-- A state that lists `n` runs of bytes. -/
def addTable (u : Usage) (n : Nat) : Usage := ⟨u.states + 1, u.bytes + 32 + 8 * n⟩

def addLinks (u : Usage) (n : Nat) : Usage := { u with bytes := u.bytes + 4 * n }

/-- A state that leads to `n` others. -/
def addBranch (u : Usage) (n : Nat) : Usage := (u.addStates 1).addLinks n

end Usage

/-- A part of a program. Where it ends in a branch, what follows takes one more link. -/
structure Piece where
  usage : Usage
  endsInBranch : Bool

namespace Piece

def plain (u : Usage) : Piece := ⟨u, false⟩

/-- The space once something follows. -/
def followed (p : Piece) : Usage := if p.endsInBranch then p.usage.addLinks 1 else p.usage

end Piece

/-! ## Sets -/

/-- A way on from a state: a run of bytes and the state that it leads to. -/
structure Transition where
  first : Nat
  last : Nat
  next : Nat
deriving DecidableEq

/-- The mixing of a number into a hash. -/
def mix (h : UInt64) (n : Nat) : UInt64 := (h ^^^ n.toUInt64) * 1099511628211

def mixStart : UInt64 := 14695981039346656037

def tableSlot (ts : List Transition) : Nat :=
  (ts.foldl (fun h t => mix (mix (mix h t.first) t.last) t.next) mixStart % 10000).toNat

def suffixSlot (next : Nat) (r : ByteRun) : Nat :=
  (mix (mix (mix mixStart next) r.1) r.2 % 1000).toNat

/-- States made so far for a set, by slots that remember the last one only. -/
structure Shared (α : Type) where
  usage : Usage
  slots : Std.HashMap Nat (α × Nat)

namespace Shared

variable {α : Type}

def initial (u : Usage) : Shared α := ⟨u, ∅⟩

/-- A new state, which is the next one. -/
def make (w : Shared α) (slot : Nat) (key : α) (after : Usage) : Nat × Shared α :=
  (w.usage.states, ⟨after, w.slots.insert slot (key, w.usage.states)⟩)

/-- The state of the key, an old one if it is remembered. -/
def obtain [DecidableEq α] (w : Shared α) (slot : Nat) (key : α) (after : Usage) :
    Nat × Shared α :=
  match w.slots[slot]? with
  | some (old, id) => if old = key then (id, w) else w.make slot key after
  | none => w.make slot key after

end Shared

/-- The state that reads one of the sequences, which rise. A character has at most four bytes. -/
def tableOf : Nat → Nat → List (List ByteRun) → Shared (List Transition) →
    Nat × Shared (List Transition)
  | 0, target, _, w => (target, w)
  | depth + 1, target, seqs, w =>
    let groups := seqs.splitBy fun a b => a.head? == b.head?
    let (ts, w) := groups.foldl (fun (ts, w) group =>
      match group with
      | ((first, last) :: rest) :: _ =>
        let (next, w) :=
          if rest.isEmpty then (target, w)
          else tableOf depth target (group.map fun s => s.drop 1) w
        (⟨first, last, next⟩ :: ts, w)
      | _ => (ts, w)) (([], w) : List Transition × Shared (List Transition))
    let ts := ts.reverse
    w.obtain (tableSlot ts) ts (w.usage.addTable ts.length)

/-- The state that reads a run of bytes before `next`. -/
def suffixOf (w : Shared (Nat × ByteRun)) (next : Nat) (r : ByteRun) :
    Nat × Shared (Nat × ByteRun) :=
  w.obtain (suffixSlot next r) (next, r) (w.usage.addStates 1)

/-- Backwards the last byte is read first, and sequences that begin alike share their ends. -/
def suffixesOf (target : Nat) (seqs : List (List ByteRun)) (w : Shared (Nat × ByteRun)) :
    Shared (Nat × ByteRun) :=
  seqs.foldl (fun w seq =>
    let w := (seq.foldl (fun (next, w) r => suffixOf w next r) (target, w)).2
    { w with usage := w.usage.addLinks 1 }) w

/-- How a part is added to what is there already. -/
structure Build where
  after : Usage → Piece

/-- The sequences of a set are found once for all its copies. -/
def Build.set (back : Bool) (s : CharSet) : Build :=
  if s.isAscii then ⟨fun u => .plain ((u.addStates 1).addTable s.runs.length)⟩
  else
    let seqs := setRuns s
    if back then
      ⟨fun u =>
        let u := u.addStates 2
        .plain (suffixesOf (u.states - 1) seqs (.initial u)).usage⟩
    else
      ⟨fun u =>
        let u := u.addStates 1
        .plain (tableOf 4 (u.states - 1) seqs (.initial u)).2.usage⟩

/-! ## Choices between texts -/

def textBytes (cs : List Char) : List Nat := cs.flatMap fun c => utf8Bytes c.toNat

/-- Parts a list at its empty members. -/
def chunks {α : Type} : List (List α) → List (List (List α))
  | [] => [[]]
  | [] :: rest => [] :: chunks rest
  | s :: rest =>
    match chunks rest with
    | chunk :: more => (s :: chunk) :: more
    | [] => [[s]]

/-- The texts that are left after each first byte. -/
def byFirst (ss : List (List Nat)) : List (List (List Nat)) :=
  (ss.filterMap List.head?).eraseDups.map fun b =>
    ss.filterMap fun s => if s.head? = some b then some (s.drop 1) else none

/-- The tree of the texts, which share what they begin with; a text that ends inside the tree parts
those before it from those after it. -/
def treeUsage : Nat → List (List Nat) → Usage → Usage
  | 0, _, u => u
  | depth + 1, ss, u =>
    if ss.all (·.isEmpty) then u
    else
      let early := ss.takeWhile (·.isEmpty)
      let groups := (chunks (early.take 1 ++ ss.drop early.length)).map byFirst
      let nodes := groups.filter (!·.isEmpty)
      let u := nodes.foldl
        (fun u g => if g.length = 1 then u.addStates 1 else u.addTable g.length) u
      let u := u.addBranch (nodes.length + (groups.length - 1))
      groups.flatten.foldl (fun u rest => treeUsage depth rest u) u

def text? : Regex → Option (List Char)
  | text cs => some cs
  | _ => none

def textsUsage (back : Bool) (texts : List (List Char)) (u : Usage) : Usage :=
  let ss := texts.map fun cs => if back then (textBytes cs).reverse else textBytes cs
  treeUsage (ss.foldl (fun n s => max n s.length) 0) ss (u.addStates 1)

/-! ## Expressions -/

def rowPiece : List Build → Usage → Piece
  | [], u => .plain (u.addStates 1)
  | [b], u => b.after u
  | b :: bs, u => rowPiece bs (b.after u).followed

/-- Backwards the last part comes first. -/
def Build.row (back : Bool) (bs : List Build) : Build :=
  let bs := if back then bs.reverse else bs
  ⟨rowPiece bs⟩

def waysUsage : List Build → Usage → Usage
  | [], u => u
  | b :: bs, u => waysUsage bs ((b.after u).followed.addLinks 1)

/-- A branch with a link to each way, and a common end, which stand after the first two. -/
def choiceUsage : List Build → Usage → Usage
  | b :: b' :: bs, u =>
    let u := (b'.after (b.after u).followed).followed
    waysUsage bs ((u.addStates 2).addLinks 2)
  | bs, u => waysUsage bs u

/-- `n` copies in a row; nothing at all is a state, too. -/
def copiesUsage (one : Usage → Piece) : Nat → Usage → Piece
  | 0, u => .plain (u.addStates 1)
  | 1, u => one u
  | n + 2, u => if u.tooLarge then .plain u else copiesUsage one (n + 1) (one u).followed

/-- `n` copies, after each of which it may end. -/
def optionalsUsage (one : Usage → Piece) : Nat → Piece → Usage
  | 0, p => p.followed
  | n + 1, p =>
    if p.usage.tooLarge then p.usage else optionalsUsage one n (one (p.followed.addBranch 2))

/-- Any number of copies from `least` on. -/
def unboundedUsage (one : Usage → Piece) (mayBeEmpty : Bool) (least : Nat) (u : Usage) : Piece :=
  match least with
  | 0 =>
    if mayBeEmpty then .plain ((((one u).followed.addBranch 2).addBranch 2).addStates 1)
    else ⟨(one (u.addBranch 1)).followed, true⟩
  | 1 => ⟨(one u).followed.addBranch 1, true⟩
  | n + 2 => ⟨(one (copiesUsage one (n + 1) u).followed).followed.addBranch 1, true⟩

def repeatedUsage (one : Usage → Piece) (mayBeEmpty : Bool) (least : Nat) (most : Option Nat)
    (u : Usage) : Piece :=
  match most with
  | none => unboundedUsage one mayBeEmpty least u
  | some most =>
    if least = 0 ∧ most = 1 then .plain ((one (u.addBranch 2)).followed.addStates 1)
    else
      let p := copiesUsage one least u
      if most = least then p
      else .plain (optionalsUsage one (most - least) ⟨p.usage.addStates 1, p.endsInBranch⟩)

mutual

/-- The program for an expression. Groups are noted only forwards. -/
def build (back : Bool) : Regex → Build
  | empty => ⟨fun u => .plain (u.addStates 1)⟩
  | text cs => ⟨fun u => .plain (u.addStates (textSize cs))⟩
  | chars s => .set back s
  | anchor _ => ⟨fun u => .plain (u.addStates 1)⟩
  | repeated r least most _ =>
    let one := r.build back
    let mayBeEmpty := r.minSize?.all (· = 0)
    ⟨repeatedUsage one.after mayBeEmpty least most⟩
  | group _ r =>
    let inner := r.build back
    if back then inner
    else ⟨fun u => .plain ((inner.after (u.addStates 1)).followed.addStates 1)⟩
  | seq rs => .row back (builds back rs)
  | alt rs =>
    match rs.mapM text? with
    | some texts => ⟨fun u => .plain (textsUsage back texts u)⟩
    | none =>
      let ways := builds back rs
      ⟨fun u => .plain (choiceUsage ways u)⟩

def builds (back : Bool) : List Regex → List Build
  | [] => []
  | r :: rs => r.build back :: builds back rs

end

/-! ## Whole programs -/

mutual

/-- Every match begins at the beginning of the text. -/
def fixesStart : Regex → Bool
  | anchor a => a = .textStart
  | repeated r least _ _ => 0 < least && r.fixesStart
  | group _ r => r.fixesStart
  | seq rs => rowFixesStart rs
  | alt rs => allFixStart rs
  | _ => false

/-- Only parts that read nothing may stand before. -/
def rowFixesStart : List Regex → Bool
  | [] => false
  | r :: rs => r.fixesStart || (r.maxSize? = some 0 && rowFixesStart rs)

def allFixStart : List Regex → Bool
  | [] => true
  | r :: rs => r.fixesStart && allFixStart rs

end

mutual

/-- Every match ends at the end of the text. -/
def fixesEnd : Regex → Bool
  | anchor a => a = .textEnd
  | repeated r least _ _ => 0 < least && r.fixesEnd
  | group _ r => r.fixesEnd
  | seq rs => (rowFixesEnd rs).1
  | alt rs => allFixEnd rs
  | _ => false

/-- Whether a row ends so, and whether what follows it alone would decide. -/
def rowFixesEnd : List Regex → Bool × Bool
  | [] => (false, true)
  | r :: rs =>
    let (fixed, silent) := rowFixesEnd rs
    (fixed || (silent && r.fixesEnd), silent && r.maxSize? = some 0)

def allFixEnd : List Regex → Bool
  | [] => true
  | r :: rs => r.fixesEnd && allFixEnd rs

end

/-- A match that may begin anywhere is preceded by a loop over all bytes. -/
def startUsage (fixed : Bool) : Usage :=
  let u : Usage := ⟨0, 0⟩
  if fixed then u.addStates 1 else ((u.addBranch 2).addStates 1).addTable 1

def forwardUsage (r : Regex) : Usage :=
  ((r.build false).after ((startUsage r.fixesStart).addStates 1)).followed.addStates 2

def backwardUsage (r : Regex) : Usage :=
  ((r.build true).after (startUsage r.fixesEnd)).followed.addStates 1

def fits (r : Regex) : Bool := !r.forwardUsage.tooLarge && !r.backwardUsage.tooLarge

end JsonSchema.Regex
