import JsonSchema.Text.Blank
import JsonSchema.Regex.Basic

/-! # Flags of regular expressions -/

namespace JsonSchema.Regex

structure Flags where
  ignoreCase : Bool
  multiLine : Bool
  dotAll : Bool
  anyLineEnd : Bool
  unicode : Bool
  /-- Repetitions are as short as can be unless they are marked. -/
  lazy : Bool
  /-- Blanks and comments in the expression mean nothing. -/
  ignoreBlank : Bool

namespace Flags

def initial : Flags := ⟨false, false, false, false, true, false, false⟩

def set? (f : Flags) (letter : Char) (on : Bool) : Option Flags :=
  match letter with
  | 'i' => some { f with ignoreCase := on }
  | 'm' => some { f with multiLine := on }
  | 's' => some { f with dotAll := on }
  | 'R' => some { f with anyLineEnd := on }
  | 'u' => some { f with unicode := on }
  | 'U' => some { f with lazy := on }
  | 'x' => some { f with ignoreBlank := on }
  | _ => none

end Flags

/-- Reads letters up to `:` or `)`, each at most once, those after one `-` turned off. Answers
whether there were any, the new flags and the end, which is still there. -/
def readFlags? (f : Flags) (seen : List Char) : List Char → Option (Bool × Flags × List Char)
  | [] => none
  | c :: cs =>
    if c = ':' ∨ c = ')' then
      if seen.head? = some '-' then none else some (!seen.isEmpty, f, c :: cs)
    else if seen.contains c then none
    else if c = '-' then readFlags? f (c :: seen) cs
    else (f.set? c (!seen.contains '-')).bind fun f => readFlags? f (c :: seen) cs

/-! ## Blanks and comments -/

/-- Passes over blanks, and over comments from `#` to the end of the line. -/
def skipFrom : Bool → List Char → List Char
  | _, [] => []
  | true, c :: cs => skipFrom (c != '\n') cs
  | false, c :: cs =>
    if Text.isBlank c then skipFrom false cs
    else if c = '#' then skipFrom true cs
    else c :: cs

theorem length_skipFrom_le (comment : Bool) (cs : List Char) :
    (skipFrom comment cs).length ≤ cs.length := by
  induction cs generalizing comment with
  | nil => cases comment <;> simp [skipFrom]
  | cons c cs ih => cases comment <;> grind [skipFrom]

def skip (f : Flags) (cs : List Char) : List Char := if f.ignoreBlank then skipFrom false cs else cs

theorem length_skip_le (f : Flags) (cs : List Char) : (skip f cs).length ≤ cs.length := by
  grind [skip, length_skipFrom_le]

/-- What stands before a closing brace, less what is skipped, and what follows the brace. -/
def readBraced? (f : Flags) (cs : List Char) : Option (List Char × List Char) :=
  match _h : skip f cs with
  | [] => none
  | c :: rest =>
    if c = '\x7d' then some ([], rest)
    else (readBraced? f rest).map fun r => (c :: r.1, r.2)
termination_by cs.length
decreasing_by
  have := length_skip_le f cs
  grind

/-! ## Sets under flags -/

def foldSet (f : Flags) (s : CharSet) : CharSet :=
  if !f.ignoreCase then s else if f.unicode then s.anyCase else s.asciiCase

/-- Without Unicode a set may hold characters of ASCII only. -/
def checkSet? (f : Flags) (s : CharSet) : Option CharSet :=
  if f.unicode || s.isAscii then some s else none

def negate (negated : Bool) (s : CharSet) : CharSet := if negated then s.compl else s

end JsonSchema.Regex
